import Malink.InsertionMaps
import Malink.JsStrings
import Malink.SplicedTexts

/-!
# Local links of a markdown message

Links and images of local files are replaced by artifact references, or by a note that the file is unavailable.
-/

namespace Malink

open List

/-- `StrWhiteSpaceChar`. -/
def JsString.isWhiteSpace (c : ℕ) : Bool :=
  (9 ≤ c && c ≤ 13) || (0x2000 ≤ c && c ≤ 0x200A) ||
    [0x20,0xA0,0x1680,0x2028,0x2029,0x202F,0x205F,0x3000,0xFEFF].contains c

namespace Artifacts

open JsString Edit

def MALINK_ARTIFACT_SCHEME : JsString := "malink-artifact:"

inductive MarkdownNode where
  | node (type : JsString) (start stop : Option ℕ) (children : List MarkdownNode)

structure MarkdownLocalLink where
  index : ℕ
  length : ℕ
  label : JsString
  destination : JsString
  imageSyntax : Bool
  deriving DecidableEq

structure MarkdownReplacement where
  length : ℕ
  text : JsString

/-- `\s*\)$`. -/
def closes (text : List UInt16) : Bool := text.dropWhile (fun c => isWhiteSpace c.toNat) = [41]

/-- What follows a title in quotes or parentheses. -/
def afterTitle : List UInt16 → Option (List UInt16)
  | c :: text =>
    if c = 34 ∨ c = 39 ∨ c = 40 then
      match text.dropWhile (· ≠ if c = 40 then 41 else c) with
      | _ :: rest => some rest
      | [] => none
    else none
  | [] => none

/-- An optional title after white space, and the end. -/
def ends (text : List UInt16) : Bool :=
  closes text || (text.head?.any (fun c => isWhiteSpace c.toNat) &&
    (afterTitle (text.dropWhile fun c => isWhiteSpace c.toNat)).any closes)

/-- A part of a destination that has at least one character and is followed by the end. -/
def readDestination (accepts : UInt16 → Bool) (rest : List UInt16 → Option (List UInt16)) (text : List UInt16) :
    Option (List UInt16) :=
  let destination := text.takeWhile accepts
  if destination ≠ [] ∧ (rest (text.drop destination.length)).any ends then some destination else none

def bracketed : List UInt16 → Option (List UInt16)
  | 60 :: text => readDestination (fun c => c ≠ 62 && c ≠ 10) (fun | 62 :: rest => some rest | _ => none) text
  | _ => none

/-- The groups of `MARKDOWN_LOCAL_LINK_SOURCE`. No character class contains the character after it, so each group
takes all that it can. -/
def matchLocalLinkSource (source : List UInt16) : Option (Bool × List UInt16 × List UInt16) :=
  let image := source.head? = some 33
  match if image then source.tail else source with
  | 91 :: rest =>
    let label := rest.takeWhile fun c => c ≠ 93 && c ≠ 10
    match rest.drop label.length with
    | 93 :: 40 :: rest =>
      let rest := rest.dropWhile fun c => isWhiteSpace c.toNat
      (bracketed rest <|> readDestination (fun c => !isWhiteSpace c.toNat && c ≠ 41) some rest).map fun destination =>
        (image,label,destination)
    | _ => none
  | _ => none

mutual

/-- The places of the links and images, in the order in which they are visited. -/
def MarkdownNode.spans : MarkdownNode → List (ℕ × ℕ)
  | .node type start stop children =>
    (if type = "link" ∨ type = "image" then (start.bind fun start => stop.map fun stop => (start,stop)).toList
      else []) ++ spansAll children

def MarkdownNode.spansAll : List MarkdownNode → List (ℕ × ℕ)
  | [] => []
  | child :: children => child.spans ++ spansAll children

end

def localLink (markdown : JsString) (place : ℕ × ℕ) : Option MarkdownLocalLink :=
  (matchLocalLinkSource (slice markdown.units place.1 place.2)).map fun (image,label,destination) =>
    { index := place.1, length := place.2 - place.1, label := ⟨label⟩, destination := ⟨destination⟩,
      imageSyntax := image }

variable (fromMarkdown : JsString → MarkdownNode)

def markdownLocalLinks (markdown : JsString) : List MarkdownLocalLink :=
  ((fromMarkdown markdown).spans.filterMap (localLink markdown)).mergeSort fun left right =>
    decide (left.index ≤ right.index)

/-- The loop over the links, with the text so far and the cursor. -/
def rewriteFrom (markdown : JsString) (replacements : InsertionMap ℕ MarkdownReplacement) :
    JsString → ℕ → List MarkdownLocalLink → JsString
  | rewritten, cursor, [] => rewritten ++ ⟨markdown.units.drop cursor⟩
  | rewritten, cursor, link :: links =>
    match replacements.get link.index with
    | none => rewriteFrom markdown replacements rewritten cursor links
    | some replacement => rewriteFrom markdown replacements
        (rewritten ++ ⟨slice markdown.units cursor link.index⟩ ++ replacement.text)
        (link.index + replacement.length) links

def rewriteMarkdown (markdown : JsString) (links : List MarkdownLocalLink)
    (replacements : InsertionMap ℕ MarkdownReplacement) : JsString :=
  rewriteFrom markdown replacements ⟨[]⟩ 0 links

def unavailableLocalLinkReplacement (link : MarkdownLocalLink) : MarkdownReplacement where
  length := link.length
  text := (if link.label.truthy then link.label else "Local file") ++
    (" *(local file reference unavailable)*" : JsString)

def artifactReplacement (link : MarkdownLocalLink) (name id : JsString) : MarkdownReplacement where
  length := link.length
  text := (if link.imageSyntax then "!" else "") ++ ("[" : JsString) ++
    (if link.label.truthy then link.label else name) ++ ("](" : JsString) ++ MALINK_ARTIFACT_SCHEME ++ id ++
    (")" : JsString)

/-- What becomes of a link. The file system and the references that a message may still have decide it. -/
inductive Outcome where
  | kept
  | unavailable
  | artifact (name id : JsString)

def Outcome.replacement (link : MarkdownLocalLink) : Outcome → Option MarkdownReplacement
  | kept => none
  | unavailable => some (unavailableLocalLinkReplacement link)
  | artifact name id => some (artifactReplacement link name id)

variable (outcome : MarkdownLocalLink → Outcome) {link : MarkdownLocalLink}

def record (replacements : InsertionMap ℕ MarkdownReplacement) (link : MarkdownLocalLink) :
    InsertionMap ℕ MarkdownReplacement :=
  match (outcome link).replacement link with
  | none => replacements
  | some replacement => replacements.set link.index replacement

def prepare (text : JsString) : JsString :=
  let links := markdownLocalLinks fromMarkdown text
  rewriteMarkdown text links (links.foldl (record outcome) .empty)

variable {fromMarkdown outcome} {links : List MarkdownLocalLink} {m : InsertionMap ℕ MarkdownReplacement}

def edit (link : MarkdownLocalLink) (replacement : MarkdownReplacement) : Edit UInt16 :=
  ⟨link.index,link.index + replacement.length,replacement.text.units⟩

def place (link : MarkdownLocalLink) : Edit UInt16 := ⟨link.index,link.index + link.length,[]⟩

end Artifacts

end Malink
