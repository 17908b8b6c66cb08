/-
  Federation/ReconcileAttempts.lean --- when the reconciler gives a member up.

  `_resend` counts its attempts in the record of the member and sets the state to
  `failed` when an unsuccessful one is number `reconcile_max_attempts` or later.
-/
import HeimdallDaq.Federation.Reconcile

namespace HeimdallDaq.Federation.Reconcile

open Foundation List Option

variable {K : Type}

/-! ## Planning -/

def stateAfterLoad (r : Result) : State :=
  if r.good && (decide (r.verified = some true) || decide (r.applied = .yes)) then .applied
  else .pending

/-- What REBALANCE and SCHEDULE CLEAR plan for a member, and the result of their own
frames. -/
structure Plan where
  gen : Option ℤ
  desired : Desired
  document : Document
  lastFrameCount : Option ℤ
  result : Option Result

def Plan.record (p : Plan) : Record where
  gen := p.gen
  desired := p.desired
  document := p.document
  state := (p.result.map stateAfterLoad).getD .pending
  lastResult := p.result
  lastFrameCount := p.lastFrameCount

/-! ## Runs of rounds -/

@[local grind]
def Verdict.isResend : Verdict → Bool
  | .resent _ | .resendFailed _ => true
  | .skip | .ok | .overridden => false

/-- The result that a re-send gets from the answers of the member. -/
def Visit.answer (v : Visit) (rec : Record) : Option Result :=
  v.opened.bind fun info => (v.wire.attempt info rec).map Prod.snd

structure Rounds (K : Type) where
  table : Assignments K
  resends : K → List Bool := fun _ => []

def Round.keeps (round : Round K) (k : K) : Bool := round.committed && !round.lost k

namespace Rounds

@[local grind]
def start (plan : K → Option Plan) : Rounds K where
  table k := (plan k).map Plan.record

variable (cfg : Settings) (s : Rounds K) (round : Round K)

/-- If the round re-sends to a member: whether the member's answers make that a success. -/
def resent (k : K) : Option Bool :=
  (s.table k).bind fun rec => (round.outcome cfg k rec).bind fun out =>
    if out.action.isResend then ((round.visit k).answer rec).map Result.good else none

def step : Rounds K where
  table k := (s.table k).map fun rec =>
    match round.outcome cfg k rec with
    | some out => if round.keeps k then rec.patched out.update else rec
    | none => rec
  resends k := s.resends k ++ (s.resent cfg round k).toList

def GivesUp (k : K) : Prop :=
  ∃ rec rec', s.table k = some rec ∧ (s.step cfg round).table k = some rec' ∧
    rec.state ≠ .failed ∧ rec'.state = .failed

def Justified : Prop :=
  ∀ k, s.GivesUp cfg round k →
    List.replicate cfg.reconcileMaxAttempts false <:+ (s.step cfg round).resends k

def Spent : Prop :=
  ∀ k, s.GivesUp cfg round k → cfg.reconcileMaxAttempts ≤ ((s.step cfg round).resends k).length ∧
      [false] <:+ (s.step cfg round).resends k

/-- No re-send that the member's answers make a success leaves a count behind: it is neither
counted itself nor comes after a counted one, unless the first failure counts. -/
def Unbroken : Prop :=
  ∀ k rec, s.table k = some rec → s.resent cfg round k = some true →
    cfg.reconcileMaxAttempts = 1 ∨ round.keeps k = false ∧ rec.attempts = 0

end Rounds

/-! ## What a visit does to the count -/

/-- The state after a counted re-send. -/
def stateAfterResend (cfg : Settings) (rec : Record) (good : Bool) : State :=
  if good then .applied
  else if cfg.reconcileMaxAttempts ≤ rec.attempts + 1 then .failed
  else .pending

/-- A visit re-sends and counts, or does neither. -/
@[local grind]
inductive Outcome.Counts (cfg : Settings) (rec : Record) (v : Visit) (out : Outcome) : Prop
  | none (hresend : out.action.isResend = false) (hattempts : out.update.attempts = none)
      (hstate : out.update.state ≠ some .failed)
  | resent (good : Bool) (hresend : out.action.isResend)
      (hanswer : (v.answer rec).map Result.good = some good)
      (hattempts : out.update.attempts = some (rec.attempts + 1))
      (hstate : out.update.state = some (stateAfterResend cfg rec good))

section

variable {cfg : Settings} {rec : Record} {out : Outcome} {v : Visit} {update : Patch} {info : Info}

section

variable (hopened : v.opened = some info)
include hopened

lemma counts_resend {why : Why} (h : resend cfg rec v update why info = some out) :
    out.Counts cfg rec v := by
  obtain ⟨⟨frames, r⟩, hattempt, rfl⟩ := map_eq_some_iff.mp h
  have hanswer : (v.answer rec).map Result.good = some r.good := by
    simp [Visit.answer, hopened, hattempt]
  cases hgood : r.good <;> rw [hgood] at hanswer
  · refine .resent false ?_ hanswer ?_ ?_
    all_goals
      simp only [concluded, hgood, stateAfterResend]
      split_ifs <;> rfl
  · refine .resent true ?_ hanswer ?_ ?_
    all_goals
      simp only [concluded, hgood, stateAfterResend]
      rfl

lemma counts_restartResend (h : restartResend cfg rec v update info = some out) :
    out.Counts cfg rec v := by
  obtain ⟨mid, hmid, rfl⟩ := map_eq_some_iff.mp h
  have hcounts := counts_resend hopened hmid
  grind

variable {issued : List ℤ} {view : SchgView}

lemma counts_overrides (h : overrides cfg issued rec v update view info = some out) :
    update.attempts = none → out.Counts cfg rec v := by grind [overrides, counts_resend]

lemma counts_judge (hattempts : update.attempts = none) (hstate : update.state = none)
    (h : judge cfg issued rec v update view info = some out) : out.Counts cfg rec v := by
  have hconfirmed : (confirmed rec update).Counts cfg rec v := by grind [confirmed]
  grind [judge, counts_restartResend, counts_resend, counts_overrides]

end

lemma counts_skip (hattempts : update.attempts = none) (hstate : update.state = none) :
    Outcome.Counts cfg rec v { action := .skip, update := update } :=
  .none rfl hattempts (by simp [hstate])

lemma counts_reconcileMember {issued : List ℤ}
    (h : reconcileMember cfg issued rec v = some out) : out.Counts cfg rec v := by
  let unlessRestarted : Patch :=
    if rec.restarted v.frameCount then {} else { lastFrameCount := v.frameCount }
  have hskip : Outcome.Counts cfg rec v { action := .skip, update := unlessRestarted } := by
    refine counts_skip ?_ ?_ <;> dsimp only [unlessRestarted] <;> split <;> rfl
  simp only [reconcileMember] at h
  split at h
  · grind [counts_restartResend]
  · split at h
    · cases h; exact hskip
    next info hopened =>
      split at h
      · split at h
        · cases h; exact hskip
        · exact counts_judge hopened rfl rfl h
      · split at h
        · exact counts_restartResend hopened h
        · cases h; exact counts_skip rfl rfl

end

namespace Rounds

variable (cfg : Settings) {s : Rounds K}

/-- What a round does to the count and the re-sends of one member: nothing, or one more
re-send, counted if the round keeps it. -/
lemma step_cases (round : Round K) {k : K} {rec : Record} (hrec : s.table k = some rec) :
    ∃ rec', (s.step cfg round).table k = some rec' ∧
      ((rec'.attempts = rec.attempts ∧ s.resent cfg round k = none ∧
          (rec'.state = .failed → rec.state = .failed)) ∨
        ∃ good, s.resent cfg round k = some good ∧ round.due cfg k rec ∧
          rec'.attempts = (if round.keeps k then rec.attempts + 1 else rec.attempts) ∧
          rec'.state = if round.keeps k then stateAfterResend cfg rec good else rec.state) := by
  cases hout : round.outcome cfg k rec with
  | none => exact ⟨rec, by simp [step, hrec, hout], .inl ⟨rfl, by simp [resent, hrec, hout], id⟩⟩
  | some out =>
    have hdue : round.due cfg k rec ∧
        reconcileMember cfg round.issued rec (round.visit k) = some out := by
      simpa [Round.outcome] using hout
    refine ⟨if round.keeps k then rec.patched out.update else rec, by simp [step, hrec, hout], ?_⟩
    rcases counts_reconcileMember hdue.2 with ⟨hs, hat, hst⟩ | ⟨good, hs, hanswer, hat, hst⟩
    · refine .inl ⟨?_, by simp [resent, hrec, hout, hs], ?_⟩ <;>
        cases hupdate : out.update.state <;> grind [Record.patched]
    · refine .inr ⟨good, by simp [resent, hrec, hout, hs, hanswer], hdue.1, ?_, ?_⟩
      all_goals grind [Record.patched]

variable {cfg} {round : Round K} {k : K} {rec : Record}

/-- A member is given up exactly when its answers make a kept re-send fail that is number
`reconcile_max_attempts` of the count or later. -/
lemma givesUp_iff (hrec : s.table k = some rec) :
    s.GivesUp cfg round k ↔ s.resent cfg round k = some false ∧ round.keeps k ∧
      cfg.reconcileMaxAttempts ≤ rec.attempts + 1 := by
  obtain ⟨rec', htable, hcase⟩ := step_cases cfg round hrec
  have hgives : s.GivesUp cfg round k ↔ rec.state ≠ .failed ∧ rec'.state = .failed := by
    simp [GivesUp, hrec, htable]
  rw [hgives]
  rcases hcase with ⟨-, hresent, hstate⟩ | ⟨good, hresent, hdue, -, hstate⟩
  · grind
  · simp only [Round.due, Bool.and_eq_true, decide_eq_true_eq] at hdue
    cases good <;> grind [stateAfterResend]

@[local grind]
def Counted (s : Rounds K) : Prop :=
  ∀ k rec, s.table k = some rec → rec.attempts ≤ (s.resends k).length

@[local grind]
def Streak (cfg : Settings) (s : Rounds K) : Prop :=
  ∀ k rec, s.table k = some rec → cfg.reconcileMaxAttempts = 1 ∨
    List.replicate rec.attempts false <:+ s.resends k

lemma exists_of_step_table {rec' : Record}
    (h : (s.step cfg round).table k = some rec') : ∃ rec, s.table k = some rec := by
  obtain ⟨rec, hrec, -⟩ := map_eq_some_iff.mp h
  exact ⟨rec, hrec⟩

lemma step_resends {good : Bool} (h : s.resent cfg round k = some good) :
    (s.step cfg round).resends k = s.resends k ++ [good] := by
  simp [step, h]

lemma Counted.step (h : s.Counted) (round : Round K) : (s.step cfg round).Counted := by
  intro k rec' hrec'
  obtain ⟨rec, hrec⟩ := exists_of_step_table hrec'
  have hle := h k rec hrec
  obtain ⟨rec'', htable, hcase⟩ := step_cases cfg round hrec
  grind [Rounds.step]

lemma replicate_snoc_suffix {n : ℕ} {l : List Bool} :
    List.replicate (n + 1) false <:+ l ++ [false] ↔ List.replicate n false <:+ l := by
  rw [replicate_succ']
  exact exists_congr fun t => by rw [← append_assoc, append_left_inj]

lemma replicate_suffix_of_le {m n : ℕ} {l : List Bool} (hle : m ≤ n)
    (h : List.replicate n false <:+ l) : List.replicate m false <:+ l :=
  (suffix_replicate_iff.mpr ⟨by simpa using hle, by simp⟩).trans h

lemma Streak.step (h : s.Streak cfg) (hun : s.Unbroken cfg round) :
    (s.step cfg round).Streak cfg := by
  intro k rec' hrec'
  obtain ⟨rec, hrec⟩ := exists_of_step_table hrec'
  obtain ⟨rec'', htable, hcase⟩ := step_cases cfg round hrec
  obtain rfl : rec'' = rec' := some.inj (htable.symm.trans hrec')
  refine (h k rec hrec).elim .inl fun hstreak => ?_
  rcases hcase with ⟨hattempts, hresent, -⟩ | ⟨good, hresent, -, hattempts, -⟩
  · simpa [Rounds.step, hresent, hattempts] using Or.inr hstreak
  · rw [hattempts, step_resends hresent]
    cases good with
    | true =>
      refine (hun k rec hrec hresent).imp_right ?_
      rintro ⟨hlost, hzero⟩
      simp [hlost, hzero]
    | false =>
      right
      have hlonger := replicate_snoc_suffix.mpr hstreak
      split
      · exact hlonger
      · exact replicate_suffix_of_le (Nat.le_succ _) hlonger

lemma Counted.spent (h : s.Counted) (round : Round K) : s.Spent cfg round := by
  intro k hgives
  obtain ⟨rec, -, hrec, -⟩ := id hgives
  obtain ⟨hresent, -, hmax⟩ := (givesUp_iff hrec).mp hgives
  have hle := h k rec hrec
  rw [step_resends hresent, length_append]
  exact ⟨by simp; omega, suffix_append _ _⟩

lemma Streak.justified (h : s.Streak cfg) (round : Round K) : s.Justified cfg round := by
  intro k hgives
  obtain ⟨rec, -, hrec, -⟩ := id hgives
  obtain ⟨hresent, -, hmax⟩ := (givesUp_iff hrec).mp hgives
  rw [step_resends hresent]
  rcases h k rec hrec with hone | hstreak
  · rw [hone]
    exact suffix_append _ _
  · exact replicate_suffix_of_le hmax (replicate_snoc_suffix.mpr hstreak)

/-! ## After a success that leaves a count -/

/-- The member runs another issued generation, and every answer to a re-send is a failure. -/
def failing (rec : Record) : Round K where
  now := rec.nextTryMono
  issued := [rec.gen.getD 0 + 1]
  visit _ :=
    { opened := some { extended := true, schg := true, schb := true }
      schg := some ⟨some (rec.gen.getD 0 + 1), true⟩
      wire := { reply := {} } }

lemma answer_failing (rec : Record) (k : K) :
    (((failing rec : Round K).visit k).answer rec).map Result.good = some false := by
  have hsettled : ∀ (r : Result) (phase : Phase), r.ok = false → (r.settled phase).good = false :=
    fun r phase h => by simp [Result.good, Result.settled, h]
  unfold Visit.answer Wire.attempt
  split_ifs
  · simp [failing, Wire.command, hsettled]
  · simp only [failing, Wire.loadDocument, Wire.command, Wire.sendChunked, bind_some]
    split
    · simp [hsettled]
    · split <;> simp [hsettled]
    · simp [hsettled]
    · simp [hsettled]

lemma resent_failing (hrec : s.table k = some rec) (hstate : rec.state ≠ .failed)
    (hover : rec.state ≠ .overridden ∨ cfg.reconcileOverride) :
    s.resent cfg (failing rec) k = some false := by
  have hanswer := answer_failing rec k
  have hdue : (failing rec).due cfg k rec := by
    simpa [Round.due, failing, hstate] using hover
  have hgen : some (rec.gen.getD 0 + 1) ≠ rec.gen := by
    cases rec.gen <;> simp
  obtain ⟨r, hr, -⟩ := map_eq_some_iff.mp hanswer
  obtain ⟨pair, hattempt, -⟩ := map_eq_some_iff.mp hr
  have hout : ∃ out, (failing rec).outcome cfg k rec = some out ∧ out.action.isResend := by
    rw [Round.outcome, if_pos hdue]
    simp only [reconcileMember, failing, judge, overrides, SchgView.isIssued, resend]
      at hattempt ⊢
    simp only [Bool.false_eq_true, if_false, Bool.and_self, if_true, hgen, and_false,
      reduceCtorEq, false_and, mem_singleton, decide_true, Bool.true_or, hattempt,
      map_some, ite_self]
    refine ⟨_, rfl, ?_⟩
    simp only [concluded]
    split_ifs <;> rfl
  obtain ⟨out, hout, hresend⟩ := hout
  simp [resent, hrec, hout, hresend, hanswer]

/-- From a count that fewer than `reconcile_max_attempts` failures can complete, they give the
member up. -/
lemma exists_unjustified (n : ℕ) (hn : n < cfg.reconcileMaxAttempts) :
    ∀ (s : Rounds K) (rec : Record), s.table k = some rec → rec.state ≠ .failed →
      (rec.state ≠ .overridden ∨ cfg.reconcileOverride) →
      cfg.reconcileMaxAttempts ≤ rec.attempts + (n + 1) →
      ¬ List.replicate (cfg.reconcileMaxAttempts - (n + 1)) false <:+ s.resends k →
        ∃ more, ¬ Along (step cfg) (Justified cfg) s more := by
  induction n with
  | zero =>
    intro s rec hrec hstate hover hmax hshort
    have hresent := resent_failing hrec hstate hover
    refine ⟨[failing rec], fun h => hshort ?_⟩
    have hall := h.1 k ((givesUp_iff hrec).mpr ⟨hresent, rfl, hmax⟩)
    rw [step_resends hresent, show cfg.reconcileMaxAttempts =
      cfg.reconcileMaxAttempts - (0 + 1) + 1 by omega] at hall
    exact replicate_snoc_suffix.mp hall
  | succ n ih =>
    intro s rec hrec hstate hover hmax hshort
    have hresent := resent_failing hrec hstate hover
    have hlonger : ¬ replicate (cfg.reconcileMaxAttempts - (n + 1)) false <:+
        (s.step cfg (failing rec)).resends k := by
      rw [step_resends hresent, show cfg.reconcileMaxAttempts - (n + 1) =
        cfg.reconcileMaxAttempts - (n + 1 + 1) + 1 by omega, replicate_snoc_suffix]
      exact hshort
    by_cases hlast : cfg.reconcileMaxAttempts ≤ rec.attempts + 1
    · refine ⟨[failing rec], fun h => hlonger ?_⟩
      exact replicate_suffix_of_le (Nat.sub_le _ _)
        (h.1 k ((givesUp_iff hrec).mpr ⟨hresent, rfl, hlast⟩))
    · obtain ⟨rec', hrec', hcase⟩ := step_cases cfg (failing rec) hrec
      rcases hcase with ⟨-, hnone, -⟩ | ⟨good, hgood, -, hattempts, hafter⟩
      · cases hresent.symm.trans hnone
      · cases hresent.symm.trans hgood
        have hkeeps : (failing rec).keeps k = true := rfl
        simp only [hkeeps, if_true, stateAfterResend, Bool.false_eq_true, if_false, hlast]
          at hattempts hafter
        obtain ⟨more, hmore⟩ := ih (by omega) _ rec' hrec' (by rw [hafter]; nofun)
          (.inl (by rw [hafter]; nofun)) (by omega) hlonger
        exact ⟨failing rec :: more, fun h => hmore h.2⟩

variable (cfg)

/-- In every run of rounds after a plan a member is given up only after
`reconcile_max_attempts` re-sends, by one that failed; and only when the last
`reconcile_max_attempts` have all failed, if no successful re-send leaves a count
behind.  After one that does, rounds can follow that give the member up without that. -/
theorem given_up_after_failures (plan : K → Option Plan) (rounds : List (Round K)) :
    Along (step cfg) (Spent cfg) (start plan) rounds ∧
      (Along (step cfg) (Unbroken cfg) (start plan) rounds →
        Along (step cfg) (Justified cfg) (start plan) rounds) ∧
      ∀ round, ¬ (run (step cfg) (start plan) rounds).Unbroken cfg round →
        ∃ more, ¬ Along (step cfg) (Justified cfg) (start plan) (rounds ++ round :: more) := by
  -- a plan starts with no attempt and no re-send
  have hzero : ∀ k rec, (start plan).table k = some rec → rec.attempts = 0 := by
    intro k rec hrec
    obtain ⟨p, -, rfl⟩ := map_eq_some_iff.mp hrec
    rfl
  have hcounted : (start plan).Counted := by grind
  have hstreak : (start plan).Streak cfg := by grind
  refine ⟨along_invariant _ (fun s round (h : s.Counted) (_ : True) => h.step round)
      (fun s round h _ => h.spent round) _ _ hcounted (along_of_forall _ (fun _ _ => trivial) _ _),
    along_invariant _ (fun s round (h : s.Streak cfg) hun => h.step hun)
      (fun s round h _ => h.justified round) _ _ hstreak, fun round hbroken => ?_⟩
  simp only [Unbroken, not_forall, not_or, not_and] at hbroken
  obtain ⟨k, rec, hrec, hgood, hone, hcount⟩ := hbroken
  obtain ⟨rec', hrec', hcase⟩ := step_cases cfg round hrec
  rcases hcase with ⟨-, hnone, -⟩ | ⟨good, hresent, hdue, hattempts, hafter⟩
  · cases hgood.symm.trans hnone
  cases hgood.symm.trans hresent
  simp only [Round.due, Bool.and_eq_true, Bool.or_eq_true, decide_eq_true_eq] at hdue
  have hpositive := cfg.positive
  have hleft : 1 ≤ rec'.attempts := by
    rw [hattempts]
    split
    · exact Nat.le_add_left 1 _
    next hlost => exact Nat.one_le_iff_ne_zero.mpr (hcount (by simpa using hlost))
  obtain ⟨more, hmore⟩ := exists_unjustified (cfg.reconcileMaxAttempts - 2)
    (show _ < cfg.reconcileMaxAttempts by omega) _ rec' hrec'
    (by grind [stateAfterResend]) (by grind [stateAfterResend]) (by omega) (by
      rw [step_resends hgood, show cfg.reconcileMaxAttempts -
        (cfg.reconcileMaxAttempts - 2 + 1) = 1 by omega]
      rintro ⟨t, ht⟩
      simpa using congrArg getLast? ht)
  exact ⟨more, fun h => hmore ((along_append _).mp h).2.2⟩

def planned : Plan where
  gen := some 7
  desired := .schedule
  document := ⟨fun _ => 100, false, 4⟩
  lastFrameCount := some 100
  result := some { ok := true, applied := .yes, verified := some true }

def afterRestart (count : ℤ) (reply : Result) : Round Unit where
  issued := [7]
  visit _ :=
    { frameCount := some count
      opened := some { extended := true, schg := true, schb := true }
      schg := some ⟨none, false⟩
      wire := { reply := reply } }

def restarts : List (Round Unit) :=
  [90, 80, 70, 60].map (afterRestart · { ok := true, applied := .yes }) ++
    [afterRestart 50 { applied := .null, error := some .timeout }]

/-- One failure gives the member up, with the default of five attempts. -/
theorem given_up_by_one_failure :
    let s := run (step {}) (start fun _ => some planned) restarts
    (s.table ()).map Record.state = some .failed ∧
      s.resends () = [true, true, true, true, false] := by decide +kernel

end Rounds

end HeimdallDaq.Federation.Reconcile
