/-
  Election/Votes.lean --- one leader per term.

  A candidate votes at most once in a term, because the pair `(term, voted_for)` is
  saved before it is used and only moves forward.
-/
import HeimdallDaq.Election.Moves

namespace HeimdallDaq.Election

open Foundation

variable {Ep : Type} [DecidableEq Ep] {C : Cluster Ep}

abbrev Ballots (C : Cluster Ep) : Type := C.Node → ℤ → Option Ep

namespace Ballots

def record (w : World C) (B : Ballots C) : Ballots C := fun x t =>
  if (w.cand x).term = t ∧ (w.cand x).votedFor.isSome then (w.cand x).votedFor else B x t

def Extends (B B' : Ballots C) : Prop := ∀ x t ep, B x t = some ep → B' x t = some ep

omit [DecidableEq Ep] in
lemma Extends.refl (B : Ballots C) : B.Extends B := fun _ _ _ h => h

omit [DecidableEq Ep] in
lemma Extends.trans {B B' B'' : Ballots C} (h : B.Extends B') (h' : B'.Extends B'') :
    B.Extends B'' := fun x t ep hx => h' x t ep (h x t ep hx)

@[local grind]
def Won (B : Ballots C) (a : C.Node) (t : ℤ) : Prop :=
  ∃ Q : Finset Ep, Q ⊆ C.candidates.toFinset ∧ C.candidates.length < 2 * Q.card ∧
    ∀ x : C.Node, x.1 ∈ Q → B x t = some a.1

variable {B B' : Ballots C} {a : C.Node} {t : ℤ}

lemma Won.mono (h : B.Won a t) (hB : B.Extends B') : B'.Won a t := by grind [Extends]

lemma Won.unique {B : Ballots C} {a b : C.Node} (ha : B.Won a t) (hb : B.Won b t) : a = b := by
  obtain ⟨Q, hQ, hQcard, hQvotes⟩ := ha
  obtain ⟨R, hR, hRcard, hRvotes⟩ := hb
  obtain ⟨x, hxQ, hxR⟩ := C.quorums_meet hQ hR hQcard hRcard
  grind

def RoundOk (B : Ballots C) (a : C.Node) : Phase Ep → Prop
  | .claimed t => B a t = some a.1
  | .claiming t _ replies =>
    B a t = some a.1 ∧ ∀ x : C.Node, Candidate.grantedBy replies x.1 → B x t = some a.1
  | _ => True

omit [DecidableEq Ep] in
lemma RoundOk.mono {p : Phase Ep} (h : B.RoundOk a p)
    (hB : B.Extends B') : B'.RoundOk a p := by cases p <;> grind [RoundOk, Extends]

lemma won_of_carries {B : Ballots C} {sendTime : ℚ}
    {replies : Replies Ep (VoteReply Ep)} (hquorum : (C.settings a.1).requireQuorum)
    (hround : B.RoundOk a (.claiming t sendTime replies))
    (hcarried : Candidate.carries (C.config a) replies) : B.Won a t := by
  obtain ⟨hself, hgranted⟩ := hround
  rw [Candidate.carries, if_pos (by simpa using hquorum)] at hcarried
  obtain ⟨Q, hsub, hcard, hQ⟩ := C.exists_quorum a _ (of_decide_eq_true hcarried)
  grind

end Ballots

/-! ## One action -/

namespace World

def VoteStep (c c' : Candidate Ep) : Prop :=
  c.term < c'.term ∨ (c'.term = c.term ∧ (c.votedFor = none ∨ c'.votedFor = c.votedFor))

variable {w : World C} {act : Action C} {x : C.Node} {c' : Candidate Ep}

lemma Change.effect
    (h : w.Change act x c') :
    (w.cand x).Effect (C.config x) (w.clock x) c' ∨
      c' = .boot (w.cand x).store (w.clock x) := by cases h <;> grind [Candidate.Effect]

lemma Change.voteStep
    (h : w.Change act x c') (hsynced : (w.cand x).Synced) : VoteStep (w.cand x) c' := by
  rcases h.effect with h | rfl
  · exact h.votes
  · grind [VoteStep, Candidate.Synced, Candidate.boot]

lemma Change.synced (h : w.Change act x c') (hsynced : (w.cand x).Synced) : c'.Synced := by
  rcases h.effect with h | rfl
  · exact h.synced hsynced
  · exact Candidate.boot_synced _ _

lemma Change.leader
    (h : w.Change act x c') (hrole : c'.role = .leader) :
    ((w.cand x).role = .leader ∧ c'.term = (w.cand x).term) ∨
      ∃ t sendTime replies, w.phase x = .claiming t sendTime replies ∧ c'.term = t ∧
        Candidate.carries (C.config x) replies := by cases h <;> grind [Candidate.boot]

end World

/-- The history `B` accounts for every vote, open claim and leader of `w`. -/
@[local grind]
structure VoteInv (w : World C) (B : Ballots C) : Prop where
  synced : ∀ x, (w.cand x).Synced
  current : ∀ x, B x (w.cand x).term = (w.cand x).votedFor
  later : ∀ x t, (w.cand x).term < t → B x t = none
  rounds : ∀ a, B.RoundOk a (w.phase a)
  leaders : ∀ a, (w.cand a).role = .leader → B.Won a (w.cand a).term

namespace VoteInv

lemma start (store : C.Node → ℤ × Option Ep) (clock : C.Node → ℚ) :
    VoteInv (World.start C store clock)
      (Ballots.record (World.start C store clock) (fun _ _ => none)) where
  synced := fun x => Candidate.boot_synced _ _
  current := by
    intro x
    cases h : ((World.start C store clock).cand x).votedFor <;> simp [Ballots.record, h]
  later := by
    intro x t hlt
    simp [Ballots.record, hlt.ne]
  rounds := fun a => trivial
  leaders := by
    intro a hrole
    exact absurd hrole (by simp [World.start, Candidate.boot])

variable {w : World C} {B : Ballots C}

section

variable (h : VoteInv w B) (act : Action C)
include h

lemma extends_step : B.Extends (Ballots.record (w.step act) B) := by
  intro x t ep hvote
  have hstep := (w.step_cand act x).voteStep (h.synced x)
  have hcurrent := h.current x
  have hlater := h.later x t
  grind [Ballots.record, World.VoteStep]

lemma current_step (x : C.Node) : Ballots.record (w.step act) B x ((w.step act).cand x).term =
      ((w.step act).cand x).votedFor := by
  cases hv : ((w.step act).cand x).votedFor with
  | some ep => simp [Ballots.record, hv]
  | none =>
    have hold : Ballots.record (w.step act) B x ((w.step act).cand x).term =
        B x ((w.step act).cand x).term := by simp [Ballots.record, hv]
    rw [hold]
    rcases (w.step_cand act x).voteStep (h.synced x) with hlt | ⟨heq, hvoted⟩
    all_goals grind

lemma later_step (x : C.Node) (t : ℤ)
    (hlt : ((w.step act).cand x).term < t) : Ballots.record (w.step act) B x t = none := by
  have hstep := (w.step_cand act x).voteStep (h.synced x)
  have hlater := h.later x t
  grind [Ballots.record, World.VoteStep]

lemma rounds_step (a : C.Node) :
    (Ballots.record (w.step act) B).RoundOk a ((w.step act).phase a) := by
  have hround := (h.rounds a).mono (h.extends_step act)
  have hcurrent := h.current_step act
  generalize hp : (w.step act).phase a = p
  have hmoves := w.step_phase act a
  rw [hp] at hmoves
  cases hmoves with
  | claims base hcommit hclaim =>
    have hcur := h.current_step act a
    rw [hclaim.term, hclaim.votedFor] at hcur
    exact hcur
  | sendsClaim t hphase =>
    rw [hphase] at hround
    exact ⟨hround, fun x hx => absurd hx (by simp [Candidate.grantedBy, noReplies])⟩
  | answered t sendTime replies x reply hne hphase hans =>
    rw [hphase] at hround
    refine ⟨hround.1, fun y hy => ?_⟩
    have hcases := World.granted_update hans hy
    grind [Ballots.RoundOk]
  | same => exact hround
  | _ => exact trivial

end

lemma step (hquorum : ∀ x ∈ C.candidates, (C.settings x).requireQuorum)
    (h : VoteInv w B) (act : Action C) :
    VoteInv (w.step act) (Ballots.record (w.step act) B) where
  synced := fun x => (w.step_cand act x).synced (h.synced x)
  current := h.current_step act
  later := h.later_step act
  rounds := h.rounds_step act
  leaders := by
    intro a hrole
    have hext := h.extends_step act
    rcases (w.step_cand act a).leader hrole with
      ⟨hlead, hterm⟩ | ⟨t, sendTime, replies, hphase, hterm, hcarried⟩
    · rw [hterm]
      exact (h.leaders a hlead).mono hext
    · have hround := h.rounds a
      rw [hphase] at hround
      rw [hterm]
      exact (Ballots.won_of_carries (hquorum a.1 a.2) hround hcarried).mono hext

lemma run (hquorum : ∀ x ∈ C.candidates, (C.settings x).requireQuorum)
    (h : VoteInv w B) (actions : List (Action C)) :
    ∃ B', VoteInv (Foundation.run World.step w actions) B' ∧ B.Extends B' := by
  let Inv : World C → Prop := fun w' => ∃ B', VoteInv w' B' ∧ B.Extends B'
  have hstep : ∀ w' act, Inv w' → True → Inv (.step w' act) := by
    intro w' act hw' _
    obtain ⟨B', hinv, hext⟩ := hw'
    exact ⟨_, hinv.step hquorum act, hext.trans (hinv.extends_step act)⟩
  exact run_invariant World.step hstep actions w ⟨B, h, .refl B⟩
    (along_of_forall World.step (fun _ _ => trivial) actions w)

end VoteInv

/-- In every run, at most one candidate is ever leader of a term: a leader of `t`
and a leader of `t` at any later point of the run are the same candidate. -/
theorem leader_unique_per_term (C : Cluster Ep)
    (hquorum : ∀ x ∈ C.candidates, (C.settings x).requireQuorum)
    (store : C.Node → ℤ × Option Ep) (clock : C.Node → ℚ) (first later : List (Action C))
    (a b : C.Node) (t : ℤ)
    (ha : ((run World.step (World.start C store clock) first).cand a).role = .leader ∧
      ((run World.step (World.start C store clock) first).cand a).term = t)
    (hb : ((run World.step (World.start C store clock) (first ++ later)).cand b).role = .leader ∧
      ((run World.step (World.start C store clock) (first ++ later)).cand b).term = t) : a = b := by
  rw [run_append] at hb
  obtain ⟨B, hinv, -⟩ := (VoteInv.start store clock).run hquorum first
  obtain ⟨B', hinv', hext⟩ := hinv.run hquorum later
  have hwonA : B'.Won a t := (ha.2 ▸ hinv.leaders a ha.1).mono hext
  grind [Ballots.Won.unique]

/-- The theorem at a run that elects candidate 0 and lets a second pass. -/
theorem leader_unique_per_term_trio :
    ((run World.step trio.start trio.firstElection).cand (trio.node 0)).role = .leader ∧
      ((run World.step trio.start trio.firstElection).cand (trio.node 0)).term = 1 ∧
      trio.node 0 = trio.node 0 :=
  ⟨by decide +kernel, by decide +kernel,
    leader_unique_per_term trio (fun _ _ => rfl) (fun _ => (0, none)) (fun _ => 0)
      trio.firstElection [.advance fun _ => 1] (trio.node 0) (trio.node 0) 1
      (by decide +kernel) (by decide +kernel)⟩

end HeimdallDaq.Election
