import Malink.CheckedResults
import Malink.JsStrings

/-!
# Updates of the Android app

A mutex is held from the announcement of a release to the end of its download, and while an APK is submitted.
-/

namespace Malink.NativeUpdate

open Option (some)

inductive NativeUpdatePhase
  | current
  | checking
  | available
  | downloading
  | ready
  | installing
  | permissionRequired
  | failed
  deriving DecidableEq

structure NativeUpdateStatus where
  phase : NativeUpdatePhase
  latestVersionCode : Option ℕ := none
  downloadedBytes : Option ℕ := none
  detailCode : Option JsString := none

structure NativeClientRelease where
  channel : JsString
  architecture : JsString
  packageName : JsString
  versionCode : ℕ
  minimumAndroid : ℕ
  nativeBridgeMinimum : ℕ
  nativeBridgeMaximum : ℕ
  /-- The artifact, the name of the version and the notes. -/
  contents : JsString
  encoded : JsString
  deriving DecidableEq

/-- The installed app and the device that it runs on. -/
structure Device where
  versionCode : ℕ
  packageName : JsString
  bridgeVersion : ℕ
  androidApi : ℕ
  supportedAbis : List JsString
  committedService : JsString
  /-- The parser of a static service. -/
  parse : JsString → JsString → Except JsString NativeClientRelease

/-- `readyRelease` and `readyApk` are written together. -/
structure NativeUpdateManager where
  status : NativeUpdateStatus
  ready : Option NativeClientRelease
  highestVersionCode : ℕ
  acceptedRelease : Option JsString

structure Announcement where
  value : JsString
  metadataAuthenticated : Bool
  staticService : JsString

inductive NativeUpdateDecision
  | current
  | download

def canReusePublishedReleaseStatus (releaseVersionCode currentVersionCode : ℕ) (status : NativeUpdateStatus) : Bool :=
  match status.phase with
  | .current => releaseVersionCode ≤ currentVersionCode
  | .ready | .installing | .permissionRequired => status.latestVersionCode = some releaseVersionCode
  | _ => false

def nativeUpdateInstallAlreadySubmitted (status : NativeUpdateStatus) : Bool := status.phase = .installing

def comparable (release : NativeClientRelease) : NativeClientRelease := { release with encoded := "" }

def statusFor (release : NativeClientRelease) (phase : NativeUpdatePhase) (detailCode : Option JsString := none) :
    NativeUpdateStatus where
  phase
  latestVersionCode := some release.versionCode
  detailCode

section

variable (device : Device) (manager : NativeUpdateManager)

def NativeUpdatePolicy.decide (release : NativeClientRelease) : Except JsString NativeUpdateDecision := do
  refuseIf (release.versionCode < manager.highestVersionCode) "release_version_replayed"
  refuseIf (release.packageName ≠ device.packageName) "release_package_mismatch"
  refuseIf (device.androidApi < release.minimumAndroid) "release_android_unsupported"
  refuseIf (release.architecture ∉ device.supportedAbis) "release_architecture_unsupported"
  refuseIf (device.bridgeVersion < release.nativeBridgeMinimum ∨ release.nativeBridgeMaximum < device.bridgeVersion)
    "release_bridge_unsupported"
  return if device.versionCode < release.versionCode then .download else .current

def accepted (staticService : JsString) : Option NativeClientRelease :=
  manager.acceptedRelease.bind fun encoded => (device.parse staticService encoded).toOption

def retainPublishedRelease (release : NativeClientRelease) : Except JsString NativeUpdateManager := do
  refuseIf (release.versionCode = manager.highestVersionCode ∧
    (accepted device manager device.committedService).any (comparable · ≠ comparable release))
    "release_version_immutable"
  return if release.versionCode < manager.highestVersionCode then manager
    else { manager with highestVersionCode := release.versionCode, acceptedRelease := some release.encoded }

def publishReadyFailure (detail : JsString) : NativeUpdateManager :=
  { manager with status := match manager.ready with
      | none => { phase := .failed, detailCode := some detail }
      | some release => statusFor release .failed (some detail) }

/-- What the announcement and the check do with an exception. -/
def publishFailure (isFile : Bool) (detail : JsString) : NativeUpdateManager :=
  { manager with status := match manager.ready.filter fun _ => isFile with
      | none => { phase := .failed, detailCode := some detail }
      | some release => statusFor release .ready (some detail) }

/-- What an operation finds of the APK that is ready, and of the permission to install. -/
structure Apk where
  isFile : Bool
  verified : Except JsString Unit
  canRequestPackageInstalls : Bool

/-- `acceptPublishedReleaseFrom` up to the download, with the release to download. -/
def checkPublishedRelease (announcement : Announcement) (apk : Apk) (downloadedBytes : ℕ) :
    Except JsString (NativeUpdateManager × Option NativeClientRelease) := do
  let release ← device.parse announcement.staticService announcement.value
  refuseIf (release.channel ≠ "alpha") "release_channel_unsupported"
  let previouslyAccepted := accepted device manager announcement.staticService
  if previouslyAccepted.any (comparable · = comparable release) ∧
      canReusePublishedReleaseStatus release.versionCode device.versionCode manager.status then
    return (manager,none)
  let decision ← NativeUpdatePolicy.decide device manager release
  let retained ← if announcement.metadataAuthenticated then retainPublishedRelease device manager release
    else pure manager
  match decision with
  | .current => return ({ retained with ready := none, status := { phase := .current } },none)
  | .download =>
    if retained.ready.any (·.versionCode = release.versionCode) ∧ apk.isFile ∧ apk.verified.isOk then
      let retained ← retainPublishedRelease device retained release
      return ({ retained with status := statusFor release .ready },none)
    let ready := if apk.isFile then retained.ready.filter (release.versionCode < ·.versionCode) else
      retained.ready.filter (release.versionCode ≤ ·.versionCode)
    return ({ retained with
        ready
        status := { statusFor release .downloading with downloadedBytes := some downloadedBytes } },some release)

def finishDownload (release : NativeClientRelease) (downloaded : Except JsString Unit) :
    Except JsString NativeUpdateManager := do
  downloaded
  let retained ← retainPublishedRelease device manager release
  return { retained with ready := some release, status := statusFor release .ready }

end

/-- Where the holder of the mutex stands. -/
inductive Holder
  | nobody
  | checking (announcement : Announcement)
  | downloading (release : NativeClientRelease)
  /-- Its guard has been passed. -/
  | installing
  | submitted (release : NativeClientRelease)

inductive InstallResult
  | pendingUserAction (shown : Except JsString Unit)
  | success
  | other (status : JsString)

/-- The release of a session is in `unsettled` from `commit` to its result, or until its confirmation cannot be
shown. -/
structure State where
  manager : NativeUpdateManager
  holder : Holder
  unsettled : List NativeClientRelease

inductive Event
  | requestReleaseCheck
  /-- A check fails before it announces a release. -/
  | checkFailed (isFile : Bool) (detail : JsString)
  | acceptPublishedRelease (announcement : Announcement)
  | check (apk : Apk) (downloadedBytes : ℕ)
  | progress (downloadedBytes : ℕ)
  | downloaded (isFile : Bool) (result : Except JsString Unit)
  | installReady
  | install (apk : Apk) (commit : Except JsString Unit)
  | installSubmitted
  | onInstallResult (release : NativeClientRelease) (result : InstallResult)

def State.publish (state : State) (status : NativeUpdateStatus) : State :=
  { state with manager := { state.manager with status } }

/-- `installReady` past its guard. -/
def install (state : State) (apk : Apk) (commit : Except JsString Unit) : State :=
  let free := { state with holder := .nobody }
  match state.manager.ready.filter fun _ => apk.isFile with
  | none => free.publish { phase := .failed, detailCode := some "update_not_ready" }
  | some release =>
    if ¬ apk.canRequestPackageInstalls then
      free.publish (statusFor release .permissionRequired (some "install_permission_required"))
    else
      match apk.verified, commit with
      | .error detail, _ | .ok (), .error detail => free.publish (statusFor release .failed (some detail))
      | .ok (), .ok () => { state with holder := .submitted release, unsettled := release :: state.unsettled }

def onInstallResult (state : State) (release : NativeClientRelease) : InstallResult → State
  | .pendingUserAction (.ok ()) => state
  | .pendingUserAction (.error detail) =>
    { state with
      manager := publishReadyFailure state.manager detail
      unsettled := state.unsettled.erase release }
  | .success =>
    { state with manager := { state.manager with ready := none }, unsettled := state.unsettled.erase release }
  | .other status =>
    { state with
      manager := publishReadyFailure state.manager (JsString.ofString "install_status_" ++ status)
      unsettled := state.unsettled.erase release }

/-- A step that the holder of the mutex forbids is `none`. -/
def next (device : Device) (state : State) (event : Event) : Option State :=
  match event, state.holder with
  | .requestReleaseCheck, _ =>
    some (state.publish { state.manager.status with phase := .checking, downloadedBytes := none, detailCode := none })
  | .checkFailed isFile detail, _ => some { state with manager := publishFailure state.manager isFile detail }
  | .acceptPublishedRelease announcement, .nobody =>
    some { state.publish { phase := .checking } with holder := .checking announcement }
  | .check apk downloadedBytes, .checking announcement =>
    match checkPublishedRelease device state.manager announcement apk downloadedBytes with
    | .error detail =>
      some { state with manager := publishFailure state.manager apk.isFile detail, holder := .nobody }
    | .ok (manager,none) => some { state with manager, holder := .nobody }
    | .ok (manager,some release) => some { state with manager, holder := .downloading release }
  | .progress downloadedBytes, .downloading release =>
    some (state.publish { statusFor release .downloading with downloadedBytes := some downloadedBytes })
  | .downloaded isFile result, .downloading release =>
    match finishDownload device state.manager release result with
    | .error detail => some { state with manager := publishFailure state.manager isFile detail, holder := .nobody }
    | .ok manager => some { state with manager, holder := .nobody }
  | .installReady, .nobody =>
    some (if nativeUpdateInstallAlreadySubmitted state.manager.status then state
      else { state with holder := .installing })
  | .install apk commit, .installing => some (install state apk commit)
  | .installSubmitted, .submitted release =>
    some { state.publish (statusFor release .installing) with holder := .nobody }
  | .onInstallResult release result, .nobody =>
    if release ∈ state.unsettled then some (onInstallResult state release result) else none
  | _, _ => none

def run (device : Device) : State → List Event → Option State
  | state, [] => some state
  | state, event :: events => (next device state event).bind fun state => run device state events

/-- Nobody announces or checks a release while a session is unsettled. -/
def Calm (state : State) : Event → Prop
  | .requestReleaseCheck | .checkFailed _ _ | .acceptPublishedRelease _ => state.unsettled = []
  | _ => True

/-- The states of a process, whose steps are calm. -/
inductive Reachable (device : Device) : State → Prop
  | start (manager : NativeUpdateManager) : Reachable device ⟨manager,.nobody,[]⟩
  | next {state state' : State} (event : Event) (h : Reachable device state) (hcalm : Calm state event)
    (hnext : next device state event = some state') : Reachable device state'

variable {device : Device} {state state' : State} {event : Event}

theorem unsettled_install (apk : Apk) (commit : Except JsString Unit) :
    (install state apk commit).unsettled = state.unsettled ∨ ∃ release,
      (install state apk commit).unsettled = release :: state.unsettled ∧
        (install state apk commit).holder = .submitted release := by
  unfold install
  split
  · exact .inl rfl
  next release _ =>
  split
  · exact .inl rfl
  · split
    · exact .inl rfl
    · exact .inl rfl
    · exact .inr ⟨release,rfl,rfl⟩

theorem unsettled_onInstallResult (release : NativeClientRelease) (result : InstallResult) :
    onInstallResult state release result = state ∨
      (onInstallResult state release result).unsettled = state.unsettled.erase release := by
  cases result with
  | pendingUserAction shown =>
    cases shown with
    | ok value => exact .inl rfl
    | error detail => exact .inr rfl
  | success => exact .inr rfl
  | other status => exact .inr rfl

theorem unsettled_next (hnext : next device state event = some state') (hsettled : state.unsettled = []) :
    state'.unsettled = [] ∨ ∃ release, state'.unsettled = [release] ∧ state'.holder = .submitted release := by
  have hkept {kept : State} (h : some kept = some state') (hkept : kept.unsettled = state.unsettled) :
      state'.unsettled = [] := by
    rw [← some.inj h,hkept,hsettled]
  unfold next at hnext
  split at hnext
  case h_4 | h_6 =>
    split at hnext <;> exact .inl (hkept hnext rfl)
  case h_7 =>
    split at hnext <;> exact .inl (hkept hnext rfl)
  case h_8 apk commit _ =>
    obtain rfl := some.inj hnext
    rw [← hsettled]
    exact unsettled_install apk commit
  case h_10 release result _ =>
    rw [hsettled] at hnext
    cases hnext
  case h_11 => cases hnext
  all_goals exact .inl (hkept hnext rfl)

/-- While a session is unsettled, the phase or the holder of the mutex keeps others from being committed. -/
def Guarded (state : State) : Prop :=
  state.unsettled = [] ∨ ∃ release, state.unsettled = [release] ∧
    (state.holder = .submitted release ∨ state.holder = .nobody ∧ state.manager.status.phase = .installing)

theorem Guarded.next (h : Guarded state) (hcalm : Calm state event) (hnext : next device state event = some state') :
    Guarded state' := by
  rcases h with hsettled | ⟨release,hunsettled,hholder⟩
  · rcases unsettled_next hnext hsettled with hsettled' | ⟨release,hunsettled,hholder⟩
    · exact .inl hsettled'
    · exact .inr ⟨release,hunsettled,.inl hholder⟩
  have hloud (hsettled : state.unsettled = []) : Guarded state' := by
    rw [hsettled] at hunsettled
    cases hunsettled
  rcases hholder with hholder | ⟨hholder,hphase⟩
  · cases event with
    | requestReleaseCheck | checkFailed => exact hloud hcalm
    | installSubmitted =>
      simp only [NativeUpdate.next,hholder] at hnext
      obtain rfl := some.inj hnext
      exact .inr ⟨release,hunsettled,.inr ⟨rfl,rfl⟩⟩
    | acceptPublishedRelease | check | progress | downloaded | installReady | install | onInstallResult =>
      simp only [NativeUpdate.next,hholder] at hnext
      cases hnext
  · cases event with
    | requestReleaseCheck | checkFailed | acceptPublishedRelease => exact hloud hcalm
    | installReady =>
      have hguard : nativeUpdateInstallAlreadySubmitted state.manager.status := decide_eq_true hphase
      simp only [NativeUpdate.next,hholder,hguard,if_true] at hnext
      obtain rfl := some.inj hnext
      exact .inr ⟨release,hunsettled,.inr ⟨hholder,hphase⟩⟩
    | onInstallResult answered result =>
      simp only [NativeUpdate.next,hholder,hunsettled,List.mem_singleton] at hnext
      split at hnext
      · next hanswered =>
        obtain rfl := some.inj hnext
        subst hanswered
        rcases unsettled_onInstallResult answered result with hsame | herased
        · rw [hsame]
          exact .inr ⟨answered,hunsettled,.inr ⟨hholder,hphase⟩⟩
        · rw [hunsettled,List.erase_cons_head] at herased
          exact .inl herased
      · cases hnext
    | check | progress | downloaded | install | installSubmitted =>
      simp only [NativeUpdate.next,hholder] at hnext
      cases hnext

theorem Reachable.guarded (h : Reachable device state) : Guarded state := by
  induction h with
  | start manager => exact .inl rfl
  | next _ _ hcalm hnext ih => exact ih.next hcalm hnext

/-- No two sessions of a version are unsettled at once. -/
theorem unsettled_nodup (h : Reachable device state) : (state.unsettled.map (·.versionCode)).Nodup := by
  rcases h.guarded with hsettled | ⟨release,hunsettled,_⟩
  · rw [hsettled]
    exact List.nodup_nil
  · rw [hunsettled]
    exact List.pairwise_singleton _ release.versionCode

def sampleRelease : NativeClientRelease where
  channel := "alpha"
  architecture := "arm64"
  packageName := "malink"
  versionCode := 2
  minimumAndroid := 30
  nativeBridgeMinimum := 1
  nativeBridgeMaximum := 1
  contents := "update"
  encoded := "release"

def sampleDevice : Device where
  versionCode := 1
  packageName := "malink"
  bridgeVersion := 1
  androidApi := 35
  supportedAbis := ["arm64"]
  committedService := "service"
  parse _ _ := .ok sampleRelease

def sampleApk : Apk := ⟨true,.ok (),true⟩

def sampleStart : State := ⟨⟨statusFor sampleRelease .ready,some sampleRelease,2,some "release"⟩,.nobody,[]⟩

def submission : List Event := [.installReady,.install sampleApk (.ok ()),.installSubmitted]

/-- The update is asked for again while its session is unsettled, and once more after that has failed. -/
theorem unsettled_nodup_submission : ∃ state, run sampleDevice sampleStart (submission ++
      .installReady :: .onInstallResult sampleRelease (.other "4") :: submission ++ [.installReady]) = some state ∧
    state.unsettled = [sampleRelease] ∧ (state.unsettled.map (·.versionCode)).Nodup := by
  have hguarded : Reachable sampleDevice sampleStart := .start _
  have hinstalling := hguarded.next .installReady trivial rfl
  have hsubmitted := hinstalling.next (.install sampleApk (.ok ())) trivial rfl
  have hunsettled := hsubmitted.next .installSubmitted trivial rfl
  have hrefused := hunsettled.next .installReady trivial rfl
  have hfailed := hrefused.next (.onInstallResult sampleRelease (.other "4")) trivial rfl
  have hagain := (hfailed.next .installReady trivial rfl).next (.install sampleApk (.ok ())) trivial rfl
  have hrefused' := (hagain.next .installSubmitted trivial rfl).next .installReady trivial rfl
  exact ⟨_,rfl,rfl,unsettled_nodup hrefused'⟩

/-- The announcement writes over the phase before it looks whether the status can be kept. -/
theorem submitted_twice : ∃ state, run sampleDevice sampleStart (submission ++
      .acceptPublishedRelease ⟨"release",true,"service"⟩ :: .check sampleApk 0 :: submission) = some state ∧
    ¬ (state.unsettled.map (·.versionCode)).Nodup := by
  refine ⟨_,rfl,?_⟩
  decide

end Malink.NativeUpdate
