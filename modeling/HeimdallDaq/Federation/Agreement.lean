/-
  Federation/Agreement.lean --- one content for one pair.

  Coordinators compare versions by their pair alone, so two contents under one pair are
  never reconciled.
-/
import HeimdallDaq.Federation.Versions

namespace HeimdallDaq.Federation

open Election HeimdallDaq.Foundation

variable {Ep : Type} [DecidableEq Ep] {C : Cluster Ep} {Doc : Type}

namespace Fed

/-- `M` is the history of committed contents, and whoever committed `(t, v)` won term
`t` and has not gone back. -/
structure Minted (w : Fed C Doc) (B : Ballots C) (M : Pair → Option (Content Doc)) : Prop where
  votes : VoteInv w.election B
  docs : ∀ d, w.Travels d → M d.pair = some d.content
  minter : ∀ t v c, M (toLex (t, v + 1)) = some c →
    ∃ a, B.Won a t ∧ toLex (t, v + 1) ≤ (w.held a).pair

variable {static : C.Node → List Member} {w w' : Fed C Doc} {m : Move C Doc} {B : Ballots C}
  {M : Pair → Option (Content Doc)}

lemma Minted.start (store : C.Node → ℤ × Option Ep) (clock : C.Node → ℚ) :
    Minted (Fed.start store clock : Fed C Doc)
      (Ballots.record (World.start C store clock) fun _ _ => none)
      (fun p => if p = toLex (0, 0) then some {} else none) where
  votes := VoteInv.start store clock
  docs := by
    rintro d (⟨k, rfl⟩ | ⟨r, hr, -⟩ | ⟨x, hx⟩)
    · rfl
    · cases hr
    · cases hx
  minter := by
    intro t v c h
    have hne : (toLex (t, v + 1) : Pair) ≠ toLex (0, 0) := by
      intro heq
      exact absurd (congrArg (fun p => (ofLex p).2) heq) (Nat.succ_ne_zero v)
    simp [hne] at h

variable {x : C.Node} {term : ℤ} {content : Content Doc}

lemma Minted.fresh (h : Minted w B M)
    (hcommit : w.Commits static m x term content) (ht : w.Timely static m) :
    M (w.nextVersion x content).pair = none := by
  obtain ⟨hrole, hterm⟩ := hcommit.timely ht
  cases hM : M (w.nextVersion x content).pair with
  | none => rfl
  | some c =>
    obtain ⟨a, hwon, hle⟩ := h.minter _ _ c hM
    obtain rfl : a = x := hwon.unique (h.votes.leaders x hrole)
    exact absurd hle (not_le.mpr (pair_lt_nextVersion hterm))

lemma Minted.of_no_commit (h : Minted w B M) (he : Effect static w m w')
    (ht : w.Timely static m) {B' : Ballots C} (hB : VoteInv w'.election B') (hext : B.Extends B')
    (hnone : ¬∃ x term content, w.Commits static m x term content) : Minted w' B' M where
  votes := hB
  docs := by
    intro d hd
    rcases he.travels hd with hold | ⟨x, term, content, hcommit, -⟩
    · exact h.docs d hold
    · exact absurd ⟨x, term, content, hcommit⟩ hnone
  minter := by
    intro t v c hc
    obtain ⟨a, hwon, hle⟩ := h.minter t v c hc
    exact ⟨a, hwon.mono hext, hle.trans ((he.held a).pair_le ht)⟩

lemma Minted.of_commit (h : Minted w B M) (he : Effect static w m w')
    (ht : w.Timely static m) {B' : Ballots C} (hB : VoteInv w'.election B') (hext : B.Extends B')
    (hcommit : w.Commits static m x term content)
    (hheld : w'.held x = w.nextVersion x content) :
    Minted w' B' (Function.update M (w.nextVersion x content).pair (some content)) where
  votes := hB
  docs := by
    intro d hd
    rcases he.travels hd with hold | ⟨y, term', content', hcommit', rfl⟩
    · have hM := h.docs d hold
      rw [Function.update_of_ne, hM]
      rintro heq
      rw [heq, h.fresh hcommit ht] at hM
      cases hM
    · obtain ⟨rfl, rfl⟩ := hcommit.unique hcommit'
      exact Function.update_self _ _ _
  minter := by
    intro t v c hc
    by_cases heq : (toLex (t, v + 1) : Pair) = (w.nextVersion x content).pair
    · have hpair : (t, v + 1) = ((w.election.cand x).term, (w.held x).version + 1) :=
        toLex.injective heq
      obtain ⟨rfl, -⟩ := Prod.mk.inj hpair
      exact ⟨x, (h.votes.leaders x (hcommit.timely ht).1).mono hext, by rw [heq, hheld]⟩
    · rw [Function.update_of_ne heq] at hc
      obtain ⟨a, hwon, hle⟩ := h.minter t v c hc
      exact ⟨a, hwon.mono hext, hle.trans ((he.held a).pair_le ht)⟩

lemma Commits.held (h : w.Commits static m x term content) :
    (w.step static m).held x = w.nextVersion x content := by
  obtain ⟨i, registered, r, rfl, hr, -, hnext⟩ := h
  simp [step, lock, hr, hnext, setStage, setRequests, commitVersion, setHeld]

lemma Minted.step (hquorum : ∀ x ∈ C.candidates, (C.settings x).requireQuorum)
    (h : ∃ B M, Minted w B M) (ht : w.Timely static m) : ∃ B M, Minted (w.step static m) B M := by
  obtain ⟨B, M, h⟩ := h
  have he := effect_step static w m
  obtain ⟨B', hB, hext⟩ := he.votes hquorum h.votes
  by_cases hcommit : ∃ x term content, w.Commits static m x term content
  · obtain ⟨x, term, content, hcommit⟩ := hcommit
    exact ⟨B', _, h.of_commit he ht hB hext hcommit hcommit.held⟩
  · exact ⟨B', M, h.of_no_commit he ht hB hext hcommit⟩

/-- In every run whose commits are timely, coordinators that hold the same pair hold the
same master schedule and the same runtime member sets. -/
theorem content_eq_of_pair_eq (C : Cluster Ep)
    (hquorum : ∀ x ∈ C.candidates, (C.settings x).requireQuorum)
    (static : C.Node → List Member) (store : C.Node → ℤ × Option Ep) (clock : C.Node → ℚ)
    (moves : List (Move C Doc))
    (htimely : Along (Fed.step static) (Timely static) (Fed.start store clock) moves) (x y : C.Node)
    (hpair : ((run (Fed.step static) (Fed.start store clock) moves).held x).pair =
      ((run (Fed.step static) (Fed.start store clock) moves).held y).pair) :
    ((run (Fed.step static) (Fed.start store clock) moves).held x).content =
      ((run (Fed.step static) (Fed.start store clock) moves).held y).content := by
  have hstep : ∀ (w : Fed C Doc) m, (∃ B M, Minted w B M) → w.Timely static m →
      ∃ B M, Minted (w.step static m) B M := fun _ _ => Minted.step hquorum
  obtain ⟨B, M, h⟩ := run_invariant (Fed.step static) hstep moves _
    ⟨_, _, Minted.start store clock⟩ htimely
  have hx := h.docs _ (Or.inl ⟨x, rfl⟩)
  have hy := h.docs _ (Or.inl ⟨y, rfl⟩)
  rw [hpair, hy] at hx
  exact (Option.some.inj hx).symm

/-- In every run whose commits are timely, the version a coordinator holds only grows. -/
theorem held_only_grows (moves : List (Move C Doc))
    (htimely : Along (Fed.step static) (Timely static) w moves) :
    (w.held x).pair ≤ ((run (Fed.step static) w moves).held x).pair := by
  induction moves generalizing w with
  | nil => exact le_rfl
  | cons m rest ih =>
    exact (((effect_step static w m).held x).pair_le htimely.1).trans (ih htimely.2)

end Fed

namespace Trio

open Election.trio (node)

/-- Candidate 0 leads term 1 and serves SET; candidate 2 is elected in term 2 and serves
another SET; candidate 0 hears of term 2.  The first SET has waited two seconds for the
lock by then. -/
def deposedWhileWaiting : List (Fed.Move trio ℕ) :=
  elections (trio.firstElection ++ [.advance fun _ => 5]) ++ [set 0 7] ++
    elections ((.advance fun _ => 2) :: secondElection) ++ [set 2 8, lock 2] ++
    elections [.observe (node 0) 2 true fun _ => true]

/-- The theorem at the same run when candidate 2 pushes its version to candidate 1. -/
theorem content_eq_of_pair_eq_pushed :
    ((run step start (deposedWhileWaiting ++ replicate 2 1)).held (node 1)).pair = toLex (2, 1) ∧
      ((run step start (deposedWhileWaiting ++ replicate 2 1)).held (node 1)).content =
        ((run step start (deposedWhileWaiting ++ replicate 2 1)).held (node 2)).content :=
  ⟨by decide +kernel,
    Fed.content_eq_of_pair_eq trio (fun _ _ => rfl) (fun _ => []) (fun _ => (0, none)) (fun _ => 0)
      (deposedWhileWaiting ++ replicate 2 1) (by decide +kernel) (node 1) (node 2)
      (by decide +kernel)⟩

theorem held_only_grows_pushed : (start.held (node 1)).pair ≤
    ((run step start (deposedWhileWaiting ++ replicate 2 1)).held (node 1)).pair :=
  Fed.held_only_grows (deposedWhileWaiting ++ replicate 2 1) (by decide +kernel)

/-- When the first SET gets the lock after all, candidates 0 and 2 hold the pair `(2, 1)`
with different schedules. -/
theorem pair_eq_content_ne :
    ((run step start (deposedWhileWaiting ++ [lock 0])).held (node 0)).pair =
        ((run step start (deposedWhileWaiting ++ [lock 0])).held (node 2)).pair ∧
      ((run step start (deposedWhileWaiting ++ [lock 0])).held (node 0)).content ≠
        ((run step start (deposedWhileWaiting ++ [lock 0])).held (node 2)).content := by
  decide +kernel

end Trio

end HeimdallDaq.Federation
