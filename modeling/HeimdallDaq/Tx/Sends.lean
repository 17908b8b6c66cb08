/-
  Tx/Sends.lean --- every commit and every send is bound to its permit.

  Operations of other threads run between two parts of a `tx_burst`, so what its
  later parts need of its commit is a property of the log that every operation
  keeps.
-/
import HeimdallDaq.Tx.Binding
import Mathlib

namespace HeimdallDaq.Tx.Permits

open Foundation
open Prog (does reads answer forEach)
open View (aside)

section

variable (cfg : Setup) (me : Thread) {K : Log → Prop}

/-! ## The parts of `tx_burst` -/

def Needed (cfg : Setup) : Stage → Log → Prop
  | .committed _ pid data, log => Carried pid (fun q => q.samples = data) log
  | .prepared _ pid _ (.ok samples), log =>
    Carried pid (fun q => samples = cfg.hostTxSamples q.chains q.samples) log
  | _, _ => True

lemma kept_needed (st : Stage) : Kept (Needed cfg st) := by
  rcases st with _ | _ | _ | _ | ⟨_, _, _, _ | _⟩ | _ <;> first | exact kept_carried _ _ | exact kept_true

lemma idle_backendChecks : Only Cmd.Idle backendChecks := by
  unfold backendChecks
  grind

lemma idle_txEnter (h : Handle) : Only Cmd.Idle (txEnter cfg h) := by
  have hchecks := idle_backendChecks
  cases h <;> grind [txEnter, txShape]

lemma idle_txInterruption (gen0 : ℕ) : Only Cmd.Idle (txInterruption gen0) := by
  grind [txInterruption]

lemma idle_txLeads (mono : ℚ) (startMono : Option ℚ) (expiry dur minLead : ℚ) :
    ∀ devices : List ℕ, Only Cmd.Idle (txLeads mono startMono expiry dur minLead devices) := by
  intro devices
  induction devices with
  | nil => exact trivial
  | cons d devices ih =>
    intro a
    simp only
    split <;> grind

lemma idle_txStartProblem (pid : PermitId) : Only Cmd.Idle (txStartProblem cfg pid) := by
  grind [txStartProblem, idle_txLeads]

lemma idle_txStopped (gen0 : ℕ) : Only Cmd.Idle (txStopped gen0) := by
  grind [txStopped, idle_txInterruption]

lemma idle_txRfProblem : Only Cmd.Idle txRfProblem := by
  intro a
  simp only
  split <;> trivial

lemma idle_txGains : Only Cmd.Idle txGains := by
  grind [txGains, backendCall]

def Prepares (cfg : Setup) (pid : PermitId) (data : Samples) (r : Except Attempt Samples)
    (p : Desk) : Prop :=
  ∀ samples, r = .ok samples → samples = cfg.hostTxSamples (p.entries pid).permit.chains data

variable {pid : PermitId}

lemma orAbort_spec {data : Samples} {check : Proc (Option Abort)}
    {next : Proc (Except Attempt Samples)} (hcheck : Only Cmd.Idle check)
    (hnext : Triple ctx (On (Base cfg K)) next
      (fun r => On fun p => Base cfg K p ∧ Prepares cfg pid data r p) (Fails cfg K)) :
    Triple ctx (On (Base cfg K)) (orAbort check next)
      (fun r => On fun p => Base cfg K p ∧ Prepares cfg pid data r p) (Fails cfg K) := by
  have hkeeps : Keeps ctx (On (Base cfg K)) check := by
    have hkept : Keeps ctx (On fun p => Base cfg K p ∧ True) check := keeps_only steady_true hcheck
    simpa only [and_true] using hkept
  refine .bind hkeeps fun problem => ?_
  cases problem with
  | none => exact hnext
  | some ab => exact .ret fun x hx => ⟨hx, by simp [Prepares]⟩

lemma txPrepare_spec (gen0 : ℕ) (pid : PermitId) (data : Samples) :
    Triple ctx (On (Base cfg K)) (txPrepare cfg gen0 pid data)
      (fun r => On fun p => Base cfg K p ∧ Prepares cfg pid data r p) (Fails cfg K) := by
  refine .catching (E := Fails cfg K) ?_ fun exc => .ret fun x hx =>
    ⟨hx, by simp [Prepares]⟩
  refine orAbort_spec cfg (idle_txStopped gen0) (orAbort_spec cfg idle_txRfProblem ?_)
  refine orAbort_spec cfg (idle_txStartProblem cfg pid) (orAbort_spec cfg idle_txGains ?_)
  refine .bind (look_spec (lasting_base cfg K)
    (Q := fun chains p => Base cfg K p ∧ (p.entries pid).permit.chains = chains)
    fun x hx => ⟨hx, rfl⟩) fun chains => ?_
  have hX : Steady fun p => (p.entries pid).permit.chains = chains := by
    intro p q hp hpq
    rw [hpq.entries]
    exact hp
  refine .bind (aside (keeps_only hX (idle_txStopped gen0))) fun problem => ?_
  cases problem with
  | some ab => exact .ret fun x hx => ⟨hx.1, by simp [Prepares]⟩
  | none =>
    refine .ret fun x hx => ⟨hx.1, fun samples heq => ?_⟩
    rw [← Except.ok.inj heq, ← hx.2]

lemma Base.send {p : Desk} {samples : Samples}
    (h : Base cfg (Carried pid fun q => samples = cfg.hostTxSamples q.chains q.samples) p) :
    Base cfg (fun _ => True) { p with log := .sent pid samples :: p.log } := by
  have hstanding (q : PermitId) (hq : q ∈ p.registry) := (h.2.standing q hq).cons
    (by simp : Event.sent pid samples ≠ .down)
  have hsound : Event.Sound cfg (.sent pid samples) p.log := h.1.kept
  obtain ⟨⟨_, _, _, _, hbinding, _⟩, _, _, _⟩ := h
  refine ⟨⟨?_, ?_, ?_, ?_, ⟨hsound, hbinding⟩, trivial⟩, ?_, ?_, hstanding⟩ <;> grind

lemma txFinish_keeps (hK : Kept K) (gen0 : ℕ) (handle : Handle) (attempt : Attempt) :
    Keeps ctx (On (Base cfg K)) (txFinish cfg me gen0 handle attempt) := by
  have h := robust_plain cfg me hK
  have hcomplete := burstComplete_keeps cfg me hK handle
  have hstop := idle_txInterruption gen0
  rcases attempt with ⟨⟨⟩, _⟩ | _ | _ <;> grind [txFinish]

lemma Base.prepare {gen0 : ℕ} {p : Desk} {data : Samples}
    {r : Except Attempt Samples} (h : Base cfg (Carried pid fun q => q.samples = data) p)
    (hr : Prepares cfg pid data r p) : Base cfg (Needed cfg (.prepared gen0 pid data r)) p := by
  refine h.with ?_
  cases r with
  | error attempt => exact trivial
  | ok samples =>
    obtain ⟨hsent, session, q, hcommitted, hissued, hpid, hdata⟩ := h.1.kept
    have hentry := h.1.issued session q hissued
    exact ⟨hsent, session, q, hcommitted, hissued, hpid, by grind [Prepares]⟩

/-! ## Runs -/

def announced : Op → ℚ → Log
  | .consume h, t => [.presented h t]
  | .trip _, _ => [.down]
  | .safeShutdown, _ => [.down]
  | .disarm, _ => [.down]
  | _, _ => []

def announcedPart : Stage → ℚ → Log
  | .entered h _, t => [.presented h t]
  | _, _ => []

def stageAfter : Outcome Stop Stage → Stage
  | .returned st => st
  | _ => .idle

/-- Runs of a controller and a backend: operations in any order, also between the
parts of a `tx_burst`, while time passes. -/
inductive Runs (s₀ : Sys) : Sys × Log → Stage → Prop
  | start : Runs s₀ (s₀, []) .idle
  | pass {x y : Sys × Log} {st : Stage} (hx : Runs s₀ x st) (hxy : Passes watch x y) : Runs s₀ y st
  | op {x y : Sys × Log} {st : Stage} (o : Op) {out : Outcome Stop Unit} (hx : Runs s₀ x st)
      (hrun : Executes watch (Passes watch) (o.prog cfg me) (x.1, announced o x.1.clock ++ x.2) out y)
      (hend : out ≠ .hung) : Runs s₀ y st
  | call {x : Sys × Log} (h : Handle) (hx : Runs s₀ x .idle) : Runs s₀ x (.called h)
  | part {x y : Sys × Log} {st : Stage} {out : Outcome Stop Stage} (hx : Runs s₀ x st)
      (hrun : Executes watch (Passes watch) (st.next cfg me) (x.1, announcedPart st x.1.clock ++ x.2)
        out y) (hend : out ≠ .hung) : Runs s₀ y (stageAfter out)

lemma op_spec (hK : Kept K) (o : Op) (x : Sys × Log) (hx : On (Base cfg K) x) :
    Spec ctx (o.prog cfg me) (fun _ => On (Base cfg K)) (Fails cfg K)
      (x.1, announced o x.1.clock ++ x.2) := by
  have h := robust_plain cfg me hK
  have hdown : On (Filed cfg K) (x.1, .down :: x.2) := hx.1.cons hK (.inl rfl)
  have hempty {p : Proc Unit} (hp : Triple ctx (On (Filed cfg K)) p (fun _ => On (Empty cfg K))
      (Fails cfg K)) : Spec ctx p (fun _ => On (Base cfg K)) (Fails cfg K) (x.1, .down :: x.2) :=
    Spec.mono (fun _ _ hy => hy.base) (fun _ _ hy => hy) _ _ (hp _ hdown)
  have hrest (hp : Keeps ctx (On (Base cfg K)) (o.prog cfg me)) :
      Spec ctx (o.prog cfg me) (fun _ => On (Base cfg K)) (Fails cfg K) x := hp x hx
  cases o with
  | arm req => exact (arm_keeps cfg me hK req).bind (fun _ => .ret ()) x hx
  | refresh => exact (refresh_keeps cfg me hK).bind (fun _ => .ret ()) x hx
  | disarm =>
    refine disarm_spec cfg me hK _ ⟨hdown, fun hlive => ?_⟩
    by_contra hne
    exact absurd (hlive.symm.trans (hx.2.live hne)) (by simp)
  | authorizeBurst req => exact (authorizeBurst_keeps cfg me hK req).bind (fun _ => .ret ()) x hx
  | consume handle =>
    exact .mono (fun _ _ hy => hy.1) (fun _ _ hy => hy) _ _
      (consume_spec cfg me hK handle x.1.clock x.2 _ ⟨hx.present hK handle _, rfl, le_rfl⟩)
  | burstComplete handle result => exact burstComplete_keeps cfg me hK handle result x hx
  | resetFault req => exact resetFault_keeps cfg me hK req x hx
  | trip code => exact hempty (trip_spec cfg me hK code)
  | safeShutdown => exact hempty (safeShutdown_spec cfg me hK false)
  | _ => exact hrest (by grind [Op.prog, Only.idle cfg])

lemma part_spec (st : Stage) (x : Sys × Log) (hx : On (Base cfg (Needed cfg st)) x) :
    Spec ctx (st.next cfg me) (fun st' => On (Base cfg (Needed cfg st')))
      (fun _ => On (Base cfg fun _ => True)) (x.1, announcedPart st x.1.clock ++ x.2) := by
  have hweaken : ∀ {K : Log → Prop} (e : Stop) y, Fails cfg K e y →
      On (Base cfg fun _ => True) y := fun _ _ hy => hy.with trivial
  cases st with
  | idle => exact hx
  | called handle =>
    have hkeeps : Keeps ctx (On (Base cfg fun _ => True)) (txEnter cfg handle) :=
      (robust_plain cfg me kept_true).only (idle_txEnter cfg handle)
    exact .call (hkeeps x hx) (fun _ _ hy => hy) fun _ _ hy => hy
  | entered handle gen0 =>
    have hbase : On (Base cfg fun _ => True) (x.1, .presented handle x.1.clock :: x.2) :=
      hx.present kept_true handle _
    refine .call (consume_spec cfg me kept_true handle x.1.clock x.2 _ ⟨hbase, rfl, le_rfl⟩)
      (fun _ y hy => ?_) fun _ _ hy => hy
    obtain ⟨hy, pid, data, rfl, hcarried⟩ := hy
    exact Base.with hy hcarried
  | committed gen0 pid data =>
    refine .call (txPrepare_spec cfg gen0 pid data x hx) (fun r y hy => ?_) hweaken
    exact Base.prepare cfg hy.1 hy.2
  | prepared gen0 pid data r =>
    cases r with
    | error attempt => exact hx
    | ok samples =>
      have hsend : Triple ctx
          (On (Base cfg (Carried pid fun q => samples = cfg.hostTxSamples q.chains q.samples)))
          (txSend pid samples) (fun _ => On (Base cfg fun _ => True))
          (fun _ => On (Base cfg fun _ => True)) := by
        refine .bind ((lasting_base cfg _).does (Q := Base cfg fun _ => True)
          fun y hy => Base.send cfg hy) fun _ => .ask fun a => ?_
        split <;> exact .ret fun _ hy => hy
      exact .call (hsend x hx) (fun _ y hy => hy) fun _ _ hy => hy
  | tried gen0 pid data attempt =>
    exact .call (txFinish_keeps cfg me kept_true gen0 _ attempt x hx) (fun _ _ hy => hy)
      fun _ _ hy => hy

lemma base_of_runs {s₀ : Sys} (h₀ : s₀.registry = []) {x : Sys × Log} {st : Stage}
    (h : Runs cfg me s₀ x st) : Base cfg (Needed cfg st) (desk x) := by
  induction h with
  | start => refine Filed.base ⟨?_, ?_, ?_, ?_, trivial, trivial⟩ h₀ <;> simp [desk, h₀]
  | pass _ hxy ih => exact (lasting_base cfg _).stable _ _ ih (rely_of_passes _ _ hxy)
  | @op x y st o out _ hrun hend ih =>
    have hsound := (op_spec cfg me (kept_needed cfg st) o x ih).sound (fun _ _ => trivial)
      (hrun.mono rely_of_passes)
    cases out with
    | returned a => exact hsound.1 a rfl
    | threw e => exact hsound.2 e rfl
    | hung => exact absurd rfl hend
  | call handle _ ih => exact ih.with trivial
  | @part x y st out _ hrun hend ih =>
    have hsound := (part_spec cfg me st x ih).sound (fun _ _ => trivial)
      (hrun.mono rely_of_passes)
    cases out with
    | returned st' => exact hsound.1 st' rfl
    | threw e => exact hsound.2 e rfl
    | hung => exact absurd rfl hend

/-- Every commit of a run is the only one of its permit, in the session that issued
it, with no trip, shutdown or disarm in between, by a `consume` called no later
than the deadline; and every send is the only one of a committed permit and hands
over its samples. -/
theorem permits_bound {s₀ : Sys} (h₀ : s₀.registry = []) {x : Sys × Log} {st : Stage}
    (h : Runs cfg me s₀ x st) : Binding cfg x.2 :=
  (base_of_runs cfg me h₀ h).1.binding

/-! ## Concrete runs -/

inductive Move
  | pass (d : ℚ≥0)
  | op (o : Op) (answers : List Answer)
  | call (h : Handle)
  | part (answers : List Answer)

def Move.run : Move → (Sys × Log) × Stage → (Sys × Log) × Stage
  | .pass d, (x, st) => (watch.step (.advance d) x, st)
  | .op o answers, (x, st) =>
    match (o.prog cfg me).exec watch [] answers (x.1, announced o x.1.clock ++ x.2) with
    | (.hung, _) => (x, st)
    | (_, y) => (y, st)
  | .call h, (x, .idle) => (x, .called h)
  | .call _, (x, st) => (x, st)
  | .part answers, (x, st) =>
    match (st.next cfg me).exec watch [] answers (x.1, announcedPart st x.1.clock ++ x.2) with
    | (.hung, _) => (x, st)
    | (out, y) => (y, stageAfter out)

def playMoves (moves : List Move) (s₀ : Sys) : (Sys × Log) × Stage :=
  moves.foldl (fun y move => move.run cfg me y) ((s₀, []), .idle)

lemma runs_step {s₀ : Sys} (move : Move) {y : (Sys × Log) × Stage} (hy : Runs cfg me s₀ y.1 y.2) :
    Runs cfg me s₀ (move.run cfg me y).1 (move.run cfg me y).2 := by
  obtain ⟨x, st⟩ := y
  have hrefl : ∀ z, Passes watch z z := fun z => ⟨0, by simp [watch, Watch.step, Cmd.apply, see]⟩
  cases move with
  | pass d => exact .pass hy ⟨d, rfl⟩
  | op o answers =>
    have hexec := Prog.exec_executes watch hrefl (o.prog cfg me) [] answers
      (x.1, announced o x.1.clock ++ x.2) (by simp)
    simp only [Move.run]
    generalize (o.prog cfg me).exec watch [] answers _ = result at hexec ⊢
    obtain ⟨out, y⟩ := result
    cases out with
    | returned a => exact .op o hy hexec (by simp)
    | threw e => exact .op o hy hexec (by simp)
    | hung => exact hy
  | call h => cases st <;> first | exact .call h hy | exact hy
  | part answers =>
    have hexec := Prog.exec_executes watch hrefl (st.next cfg me) [] answers
      (x.1, announcedPart st x.1.clock ++ x.2) (by simp)
    simp only [Move.run]
    generalize (st.next cfg me).exec watch [] answers _ = result at hexec ⊢
    obtain ⟨out, y⟩ := result
    cases out with
    | returned st' => exact .part hy hexec (by simp)
    | threw e => exact .part hy hexec (by simp)
    | hung => exact hy

lemma runs_playMoves (moves : List Move) (s₀ : Sys) :
    Runs cfg me s₀ (playMoves cfg me moves s₀).1 (playMoves cfg me moves s₀).2 := by
  have hfold : ∀ (moves : List Move) (y : (Sys × Log) × Stage), Runs cfg me s₀ y.1 y.2 →
      Runs cfg me s₀ (moves.foldl (fun z move => move.run cfg me z) y).1
        (moves.foldl (fun z move => move.run cfg me z) y).2 := by
    intro moves
    induction moves with
    | nil => intro y hy; exact hy
    | cons move moves ih => intro y hy; exact ih _ (runs_step cfg me move hy)
  exact hfold moves _ .start

end

def burst : BurstRequest where
  samples := [[(1, 1)]]
  chains := [0]
  fsHz := 20
  timed := true

def authorizedMoves : List Move :=
  [.op (.arm {}) [], .op (.authorizeBurst burst) (List.replicate 20 { lead := some (1 / 10) }),
    .op (.sequenceToTx (.permit (.issued 1 burst.samples))) []]

def mirrored : Setup := { bench with iqConjugate := fun _ => true }

def oneSend : (Sys × Log) × Stage :=
  playMoves mirrored 0
    (authorizedMoves ++ .call (.issued 1 burst.samples) ::
      List.replicate 5 (.part (List.replicate 20 { lead := some (1 / 10) }))) bench.idle

theorem permits_bound_oneSend : oneSend.1.2.take 2 = [.sent 1 [[(1, -1)]], .committed 1 (some 0)] ∧
      Binding mirrored oneSend.1.2 :=
  ⟨by decide +kernel, permits_bound mirrored 0 rfl (runs_playMoves mirrored 0 _ bench.idle)⟩

def lastMoment : (Sys × Log) × Stage :=
  playMoves bench 0
    (authorizedMoves ++ [.pass (6 / 5), .op (.consume (.issued 1 burst.samples)) []]) bench.idle

/-- A permit may be committed at its deadline, not only strictly before it. -/
theorem exists_commit_at_deadline : Runs bench 0 bench.idle lastMoment.1 lastMoment.2 ∧
      ∃ p t, lastMoment.1.2 = [.committed 1 (some 0), .presented (.issued 1 p.samples) t,
          .issued (some 0) p] ∧ p.permitId = 1 ∧ ¬t < p.deadlineMono :=
  ⟨runs_playMoves bench 0 _ bench.idle, (lastMoment.1.1.entries 1).permit, 6 / 5,
    by decide +kernel, by decide +kernel, by decide +kernel⟩

end HeimdallDaq.Tx.Permits
