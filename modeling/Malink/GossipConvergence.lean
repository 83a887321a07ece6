import Mathlib.Data.Finset.Lattice.Fold
import Mathlib.Data.Fintype.Powerset
import Mathlib.Order.OrderIsoNat

/-!
# Gossip over a join semilattice

Nodes hold a content and a revision. At every moment one node sends its content to another, which joins it to its own
when the revision of the sender is not the lower one. Under a fair schedule all nodes come to hold one content.
-/

namespace Malink

universe u v

/-- A fair run of exchanges. `agree` leaves out finitely many moments, at which a revision may grow although
both contents are the same. -/
structure Gossip {ι : Type u} {γ : Type v} [SemilatticeSup γ] (content : ℕ → ι → γ) (revision : ℕ → ι → ℕ)
    (sender receiver : ℕ → ι) : Prop where
  fair : ∀ i j, i ≠ j → ∀ N, ∃ n ≥ N, sender n = i ∧ receiver n = j
  others : ∀ n k, k ≠ receiver n → content (n + 1) k = content n k ∧ revision (n + 1) k = revision n k
  refuse : ∀ n, revision n (sender n) < revision n (receiver n) →
    content (n + 1) (receiver n) = content n (receiver n) ∧
      revision (n + 1) (receiver n) = revision n (receiver n)
  join : ∀ n, revision n (receiver n) ≤ revision n (sender n) →
    content (n + 1) (receiver n) = content n (receiver n) ⊔ content n (sender n)
  differ : ∀ n, revision n (receiver n) ≤ revision n (sender n) →
    content n (sender n) ≠ content n (receiver n) → revision n (receiver n) < revision (n + 1) (receiver n)
  agree : ∃ N, ∀ n ≥ N, revision n (receiver n) ≤ revision n (sender n) →
    content n (sender n) = content n (receiver n) → revision (n + 1) (receiver n) = revision n (sender n)

/-- A growing sequence with finitely many values becomes constant. -/
theorem eventually_constant {α : Type u} [PartialOrder α] {f : ℕ → α} {T : Set α} (hT : T.Finite) {N : ℕ}
    (hmem : ∀ n ≥ N,f n ∈ T) (hmono : ∀ n ≥ N,f n ≤ f (n + 1)) : ∃ M ≥ N, ∀ n ≥ M, f n = f M := by
  have hfinite : Finite T := hT
  let g : ℕ →o T := ⟨fun n => ⟨f (N + n),hmem _ (Nat.le_add_right N n)⟩,
    monotone_nat_of_le_succ fun n => hmono (N + n) (Nat.le_add_right N n)⟩
  obtain ⟨m,hm⟩ := WellFoundedGT.monotone_chain_condition g
  refine ⟨N + m,Nat.le_add_right N m,fun n hn => ?_⟩
  have heq := congrArg Subtype.val (hm (n - N) (by omega))
  change f (N + m) = f (N + (n - N)) at heq
  rw [heq,Nat.add_sub_cancel' (by omega)]

/-- The same for finitely many sequences at once. -/
theorem eventually_all_constant {ι : Type v} [Finite ι] {α : Type u} {f : ℕ → ι → α}
    (h : ∀ i,∃ M,∀ n ≥ M,f n i = f M i) : ∃ M, ∀ n ≥ M, ∀ i, f n i = f M i := by
  choose M hM using h
  obtain ⟨B,hB⟩ := (Set.finite_range M).bddAbove
  have hle : ∀ i,M i ≤ B := fun i => hB ⟨i,rfl⟩
  refine ⟨B,fun n hn i => ?_⟩
  rw [hM i n ((hle i).trans hn),hM i B (hle i)]

namespace Gossip

variable {ι : Type u} {γ : Type v} [SemilatticeSup γ] {content : ℕ → ι → γ} {revision : ℕ → ι → ℕ}
  {sender receiver : ℕ → ι}

section

variable (h : Gossip content revision sender receiver)
include h

theorem content_le (n : ℕ) (i : ι) : content n i ≤ content (n + 1) i := by
  by_cases hi : i = receiver n
  · subst hi
    rcases lt_or_ge (revision n (sender n)) (revision n (receiver n)) with hlt | hge
    · exact (h.refuse n hlt).1.ge
    · exact (h.join n hge) ▸ le_sup_left
  · exact (h.others n i hi).1.ge

theorem content_eq_sup (n : ℕ) (i : ι) : ∃ (s : Finset ι) (hs : s.Nonempty), content n i = s.sup' hs (content 0) := by
  classical
  induction n generalizing i with
  | zero => exact ⟨{i},Finset.singleton_nonempty i,(Finset.sup'_singleton _).symm⟩
  | succ n ih =>
    by_cases hi : i = receiver n
    · subst hi
      rcases lt_or_ge (revision n (sender n)) (revision n (receiver n)) with hlt | hge
      · rw [(h.refuse n hlt).1]
        exact ih _
      · obtain ⟨s,hs,hcontent⟩ := ih (receiver n)
        obtain ⟨t,ht,hsent⟩ := ih (sender n)
        refine ⟨s ∪ t,hs.inl,?_⟩
        rw [h.join n hge,hcontent,hsent,Finset.sup'_union hs ht]
    · rw [(h.others n i hi).1]
      exact ih i

theorem content_constant [Finite ι] : ∃ N, ∀ n ≥ N, ∀ i, content n i = content N i := by
  have hfintype := Fintype.ofFinite ι
  have hfinite : (Set.range fun s : {s : Finset ι // s.Nonempty} => s.1.sup' s.2 (content 0)).Finite :=
    Set.finite_range _
  apply eventually_all_constant
  intro i
  obtain ⟨M,-,hM⟩ := @eventually_constant γ _ (fun n => content n i) _ hfinite 0
    (fun n _ => by
      obtain ⟨s,hs,heq⟩ := h.content_eq_sup n i
      exact ⟨⟨s,hs⟩,heq.symm⟩)
    (fun n _ => h.content_le n i)
  exact ⟨M,hM⟩

end

/-- From the moment on at which contents stay and equal contents exchange revisions only. -/
structure Settled (content : ℕ → ι → γ) (revision : ℕ → ι → ℕ) (sender receiver : ℕ → ι) (N : ℕ) : Prop where
  stays : ∀ n ≥ N, ∀ i, content n i = content N i
  agree : ∀ n ≥ N, revision n (receiver n) ≤ revision n (sender n) →
    content n (sender n) = content n (receiver n) → revision (n + 1) (receiver n) = revision n (sender n)

omit [SemilatticeSup γ] in
theorem Settled.later {N M : ℕ} (hs : Settled content revision sender receiver N) (hM : N ≤ M) :
    Settled content revision sender receiver M where
  stays n hn i := by rw [hs.stays n (hM.trans hn) i,hs.stays M hM i]
  agree n hn := hs.agree n (hM.trans hn)

variable {N : ℕ}

section

variable (h : Gossip content revision sender receiver) (hs : Settled content revision sender receiver N)
include h hs

theorem revision_le (i : ι) : ∀ n ≥ N, revision n i ≤ revision (n + 1) i := by
  intro n hn
  by_cases hi : i = receiver n
  · subst hi
    rcases lt_or_ge (revision n (sender n)) (revision n (receiver n)) with hlt | hge
    · exact (h.refuse n hlt).2.ge
    · by_cases heq : content n (sender n) = content n (receiver n)
      · exact (hs.agree n hn hge heq).symm ▸ hge
      · exact (h.differ n hge heq).le
  · exact (h.others n i hi).2.ge

theorem revision_mono (i : ι) {n m : ℕ} (hn : N ≤ n) (hm : n ≤ m) : revision n i ≤ revision m i := by
  induction m, hm using Nat.le_induction with
  | base => exact le_rfl
  | succ m hm ih => exact ih.trans (h.revision_le hs i m (hn.trans hm))

/-- A settled receiver holds at least what the sender holds. -/
theorem sender_le {n : ℕ} (hn : N ≤ n)
    (hge : revision n (receiver n) ≤ revision n (sender n)) : content N (sender n) ≤ content N (receiver n) := by
  have hjoin := h.join n hge
  rw [hs.stays (n + 1) (Nat.le_succ_of_le hn),hs.stays n hn,hs.stays n hn] at hjoin
  exact hjoin ▸ le_sup_right

theorem revision_constant [Finite ι] {K : ℕ} (hK : ∀ n ≥ N,∀ i,revision n i ≤ K) :
    ∃ M ≥ N, ∀ n ≥ M, ∀ i, revision n i = revision M i := by
  have hconstant : ∀ i,∃ M,∀ n ≥ M,revision n i = revision M i := by
    intro i
    obtain ⟨M,-,hM⟩ := eventually_constant (Set.finite_Iic K) (fun n hn => hK n hn i) (h.revision_le hs i)
    exact ⟨M,hM⟩
  obtain ⟨M,hM⟩ := eventually_all_constant hconstant
  refine ⟨max N M,le_max_left N M,fun n hn i => ?_⟩
  rw [hM n ((le_max_right N M).trans hn) i,hM (max N M) (le_max_right N M) i]

/-- Revisions of a minimal content grow by adoption from within only, so they stay below their maximum. -/
theorem revision_le_of_minimal {a : ι} (hmin : ∀ i,content N i ≤ content N a → content N i = content N a) {K : ℕ}
    (hK : ∀ i,content N i = content N a → revision N i ≤ K) {n : ℕ} (hn : N ≤ n) :
    ∀ i, content N i = content N a → revision n i ≤ K := by
  induction n, hn using Nat.le_induction with
  | base => exact hK
  | succ n hn ih =>
    intro i hi
    by_cases hr : i = receiver n
    · subst hr
      rcases lt_or_ge (revision n (sender n)) (revision n (receiver n)) with hlt | hge
      · rw [(h.refuse n hlt).2]
        exact ih _ hi
      · have hsender : content N (sender n) = content N a := hmin _ ((h.sender_le hs hn hge).trans hi.le)
        rw [hs.agree n hn hge (by rw [hs.stays n hn,hs.stays n hn,hsender,hi])]
        exact ih _ hsender
    · rw [(h.others n i hr).2]
      exact ih i hi

/-- Settled nodes hold one content: otherwise the revisions of all nodes stay below those of the nodes with a
minimal content, and the first message of one of these to another node would raise a revision again. -/
theorem settled_eq [Finite ι] (i j : ι) : content N i = content N j := by
  obtain ⟨a,-,hmin⟩ := Set.Finite.exists_minimalFor (content N) Set.univ Set.finite_univ ⟨i,trivial⟩
  have hminimal : ∀ k,content N k ≤ content N a → content N k = content N a :=
    fun k hk => le_antisymm hk (hmin trivial hk)
  by_contra hne
  obtain ⟨b,hb⟩ : ∃ b,content N b ≠ content N a := by
    by_contra hall
    push Not at hall
    exact hne ((hall i).trans (hall j).symm)
  obtain ⟨K,hK⟩ := (Set.finite_range (revision N)).bddAbove
  have hbase : ∀ k,content N k = content N a → revision N k ≤ K := fun k _ => hK ⟨k,rfl⟩
  -- whoever holds another content is behind whenever it sends to `a`
  have hbehind : ∀ k,content N k ≠ content N a → ∀ n ≥ N,∃ m ≥ n,sender m = k ∧ receiver m = a ∧
      revision m k < revision m a := by
    intro k hk n hn
    obtain ⟨m,hm,hsender,hreceiver⟩ := h.fair k a (fun heq => hk (heq ▸ rfl)) n
    refine ⟨m,hm,hsender,hreceiver,?_⟩
    by_contra hge
    rw [not_lt] at hge
    have hle := h.sender_le hs (hn.trans hm) (by rw [hsender,hreceiver]; exact hge)
    rw [hsender,hreceiver] at hle
    exact hk (hminimal k hle)
  have hbound : ∀ n ≥ N,∀ k,revision n k ≤ K := by
    intro n hn k
    by_cases hk : content N k = content N a
    · exact h.revision_le_of_minimal hs hminimal hbase hn k hk
    · obtain ⟨m,hm,-,-,hlt⟩ := hbehind k hk n hn
      have ha := h.revision_le_of_minimal hs hminimal hbase (hn.trans hm) a rfl
      have hmono := h.revision_mono hs k hn hm
      omega
  obtain ⟨M,hM,hconstant⟩ := h.revision_constant hs hbound
  obtain ⟨m,hm,-,-,hlt⟩ := hbehind b hb M hM
  obtain ⟨n,hn,hsender,hreceiver⟩ := h.fair a b (fun heq => hb (heq ▸ rfl)) M
  have hge : revision n (receiver n) ≤ revision n (sender n) := by
    rw [hsender,hreceiver,hconstant n hn,hconstant n hn,← hconstant m hm,← hconstant m hm]
    exact hlt.le
  have hdiffer := h.differ n hge (by
    rw [hsender,hreceiver,hs.stays n (hM.trans hn),hs.stays n (hM.trans hn)]
    exact hb.symm)
  rw [hconstant n hn,hconstant (n + 1) (Nat.le_succ_of_le hn)] at hdiffer
  exact lt_irrefl _ hdiffer

end

theorem exists_settled [Finite ι] (h : Gossip content revision sender receiver) :
    ∃ N, Settled content revision sender receiver N := by
  obtain ⟨N,hN⟩ := h.content_constant
  obtain ⟨M,hM⟩ := h.agree
  refine ⟨max N M,fun n hn i => ?_,fun n hn => hM n ((le_max_right N M).trans hn)⟩
  rw [hN n ((le_max_left N M).trans hn) i,hN (max N M) (le_max_left N M) i]

theorem converges [Finite ι] (h : Gossip content revision sender receiver) :
    ∃ N, ∀ n ≥ N, (∀ i j,content n i = content n j) ∧
      ∀ i, content n i = content N i ∧ revision n i = revision N i := by
  obtain ⟨N,hs⟩ := h.exists_settled
  obtain ⟨K,hK⟩ := (Set.finite_range (revision N)).bddAbove
  have hbound : ∀ n ≥ N,∀ i,revision n i ≤ K := by
    intro n hn i
    exact h.revision_le_of_minimal hs (fun k _ => h.settled_eq hs k i) (fun k _ => hK ⟨k,rfl⟩) hn i rfl
  obtain ⟨M,hM,hconstant⟩ := h.revision_constant hs hbound
  have hsM := hs.later hM
  refine ⟨M,fun n hn => ⟨fun i j => ?_,fun i => ⟨hsM.stays n hn i,hconstant n hn i⟩⟩⟩
  rw [hsM.stays n hn i,hsM.stays n hn j]
  exact h.settled_eq hsM i j

end Gossip

end Malink
