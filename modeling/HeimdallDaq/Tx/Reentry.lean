/-
  Tx/Reentry.lean --- a trip inside the event log waits for itself.

  A signal handler runs on the thread it interrupts.
-/
import HeimdallDaq.Foundation.Total
import HeimdallDaq.Tx.Footprint

namespace HeimdallDaq.Tx.Reentry

open Foundation
open Prog (does reads forEach)

/-! ## The interrupted thread -/

@[local grind]
def see : Cmd → Sys → Bool → Bool
  | .note .paOffBegin, _, _ => true
  | _, _, began => began

def ctx (me : Thread) : Context Sys Cmd Bool where
  apply := Cmd.apply
  obs := see
  admits _ _ := True
  rely x y := y.1.eventHeld me = x.1.eventHeld me ∧ y.1.busHeld me = x.1.busHeld me ∧ y.2 = x.2
  guar _ _ := True

@[local grind]
def Free (cfg : Setup) (me : Thread) (s : Sys) : Prop :=
  s.eventHeld me = false ∧ (cfg.busEnabled → s.busHeld me = false)

@[local grind]
def Inv (cfg : Setup) (me : Thread) (began : Bool) (x : Sys × Bool) : Prop :=
  Free cfg me x.1 ∧ (began → x.2)

section

variable {cfg : Setup} {me : Thread} {began : Bool}

lemma stable_inv : (ctx me).Stable (Inv cfg me began) := by
  rintro x y ⟨⟨hevent, hbus⟩, hbegan⟩ ⟨hevent', hbus', hbegan'⟩
  grind

def Lockless (c : Cmd) : Prop :=
  ∀ s, (c.apply s).eventHeld = s.eventHeld ∧ (c.apply s).busHeld = s.busHeld

variable {x : Sys × Bool}

lemma Inv.step {c : Cmd} (hc : Lockless c) (h : Inv cfg me began x) :
    Inv cfg me began ((ctx me).step c x) := by
  obtain ⟨hevent, hbus⟩ := hc x.1
  refine ⟨⟨?_, fun hcfg => ?_⟩, fun hbegan => ?_⟩
  · show (c.apply x.1).eventHeld me = false
    rw [hevent]
    exact h.1.1
  · show (c.apply x.1).busHeld me = false
    rw [hbus]
    exact h.1.2 hcfg
  · show see c x.1 x.2 = true
    grind

/-! ## Every step of a trip ends -/

abbrev Passes (cfg : Setup) (me : Thread) (began : Bool) {α : Type} (p : Proc α) : Prop :=
  Ends (ctx me) (Inv cfg me began) p

lemma passes_does {c : Cmd} (hc : Lockless c) : Passes cfg me began (does c) :=
  Total.does stable_inv fun _ hy _ => ⟨trivial, hy.step hc⟩

lemma passes_reads {α : Type} (site : Site) (f : Sys → α) :
    Passes cfg me began (reads (.look site) f) :=
  Total.reads stable_inv fun _ hy _ => ⟨trivial, hy.step fun _ => ⟨rfl, rfl⟩⟩

lemma passes_look {α : Type} (f : Sys → α) : Passes cfg me began (look f) := passes_reads .plain f

lemma passes_whenever {b : Bool} {p : Proc Unit} (h : Passes cfg me began p) :
    Passes cfg me began (whenever b p) := .ite (fun _ => h) fun _ => .ret ()

lemma lockless_front (c : FrontCmd) : Lockless (.front c) := fun _ => ⟨rfl, rfl⟩

lemma passes_front (c : FrontCmd) : Passes cfg me began (front c) :=
  passes_does (lockless_front c)

lemma passes_emitBus : Passes cfg me began (emitBus cfg me) := by
  refine Ends.ite (fun hcfg => Total.act stable_inv fun y hy _ => ⟨trivial, ?_⟩) fun _ => .ret ()
  rw [if_neg (by simp [hy.1.2 hcfg])]
  -- the mutex is held for one step
  have hrelease : Total (ctx me) (fun x => x.1.eventHeld me = false ∧ (began → x.2))
      (does (.releaseBus me) : Proc Unit) (fun _ => Inv cfg me began) fun _ => Inv cfg me began := by
    refine .does ?_ fun z hz _ => ⟨trivial, ⟨hz.1, fun _ => ?_⟩, hz.2⟩
    rotate_left
    · show Function.update z.1.busHeld me false me = false
      exact Function.update_self ..
    rintro x z ⟨hevent, hbegan⟩ ⟨hevent', _, hbegan'⟩
    exact ⟨hevent'.trans hevent, fun h => hbegan'.trans (hbegan h)⟩
  exact hrelease _ ⟨hy.1.1, hy.2⟩

lemma passes_emit : Passes cfg me began (emit cfg me) := by
  refine Total.act stable_inv fun y hy _ => ⟨trivial, ?_⟩
  rw [if_neg (by simp [hy.1.1])]
  -- the lock is held for one step
  have hrelease : Total (ctx me)
      (fun x => (cfg.busEnabled → x.1.busHeld me = false) ∧ (began → x.2))
      (.act (.releaseEvent me) fun _ => emitBus cfg me) (fun _ => Inv cfg me began)
      fun _ => Inv cfg me began := by
    refine .act ?_ fun z hz _ => ⟨trivial, passes_emitBus _ ?_⟩
    · rintro x z ⟨hbus, hbegan⟩ ⟨_, hbus', hbegan'⟩
      exact ⟨fun h => hbus'.trans (hbus h), fun h => hbegan'.trans (hbegan h)⟩
    · refine ⟨⟨?_, hz.1⟩, hz.2⟩
      show Function.update z.1.eventHeld me false me = false
      exact Function.update_self ..
  exact hrelease _ ⟨hy.1.2, hy.2⟩

lemma passes_write (use : LineUse) (ln : Line) (value : Bool) :
    Passes cfg me began (write use ln value) := by
  cases ln with
  | none => exact .ret ()
  | some n =>
    refine .ask fun a => .act stable_inv
      (fun _ hy _ => ⟨trivial, hy.step (lockless_front _)⟩) fun _ => ?_
    cases a.write with
    | done => exact .ret ()
    | raised => exact .throw _
    | raisedLate => exact .throw _

lemma passes_setPas (cs : List ℕ) (on : Bool) :
    Passes cfg me began (forEach cs fun c => front (.setPa c on)) :=
  Ends.forEach (fun c => passes_front (.setPa c on)) cs

variable (target : List ℕ)

lemma passes_paOffLine (ln : Line) : Passes cfg me began (paOffLine cfg target ln) := by
  refine .ite (fun _ => .ret false) fun _ => (passes_look _).bind fun othersOn => ?_
  refine .ite (fun _ => (passes_setPas _ false).bind fun _ => .ret false) fun _ => ?_
  have hoff : Passes cfg me began (write .paOff ln false >>= fun _ =>
      forEach ((cfg.chainsOn ln).filter fun c => decide (c ∈ target)) fun c =>
        front (.setPa c false)) :=
    (passes_write _ _ _).bind fun _ => passes_setPas _ false
  refine hoff.succeeds.bind fun ok => .ite (fun _ => .ret false) fun _ => ?_
  exact (passes_setPas _ true).bind fun _ => .ret true

lemma passes_paOffLines :
    ∀ lines : List Line, Passes cfg me began (paOffLines cfg target lines) := by
  intro lines
  induction lines with
  | nil => exact .ret false
  | cons ln rest ih =>
    exact (passes_paOffLine target ln).bind fun _ => .bind ih fun _ => .ret _

lemma passes_paOff : Passes cfg me began (paOff cfg me target) := by
  refine (passes_paOffLines target _).bind fun errors => (passes_look _).bind fun atr => ?_
  refine (passes_whenever (passes_front _)).bind fun _ => passes_emit.bind fun _ => ?_
  exact .ite (fun _ => .throw _) fun _ => .ret ()

lemma passes_trSwitch (mode : TrMode) : Passes cfg me began (trSwitch cfg mode) := by
  refine (passes_look _).bind fun on => .ite (fun _ => .throw _) fun _ => ?_
  exact (passes_write _ _ _).bind fun _ => passes_front _

lemma passes_restoreLna : Passes cfg me began (restoreLna cfg) := by
  have hwrite : ∀ on, Passes cfg me began (lnaWrite cfg on) :=
    fun on => (passes_write _ _ _).bind fun _ => passes_front _
  refine (passes_look _).bind fun on => .bind (.ite (fun _ => ?_) fun _ => hwrite false)
    fun _ => passes_front _
  exact (passes_look _).bind fun _ => .ite (fun _ => .throw _) fun _ => hwrite true

lemma passes_restoreRxGain : Passes cfg me began (restoreRxGain cfg) := by
  refine (passes_look _).bind fun saved => .ite (fun _ => ?_) fun _ => .ret ()
  refine .bind (.ask fun a => ?_) fun _ => passes_front _
  exact .ite (fun _ => .ret ()) fun _ => .throw _

variable (fault : Bool)

lemma passes_markState : Passes cfg me began (markState fault) := by
  refine .bind (.ite (fun _ => .ret true) fun _ => passes_reads _ _) fun latched => ?_
  refine (passes_reads _ _).bind fun disabled => .ite (fun _ => .ret ()) fun _ => ?_
  exact passes_does fun _ => ⟨rfl, rfl⟩

lemma passes_mark : Passes cfg me began (mark fault) := by
  refine (passes_markState fault).bind fun _ => (passes_look _).bind fun pids => ?_
  refine (Ends.forEach (fun pid => passes_does fun _ => ⟨rfl, rfl⟩) pids).bind fun _ => ?_
  refine (passes_does fun _ => ⟨rfl, rfl⟩).bind fun _ => ?_
  refine (passes_does fun _ => ⟨rfl, rfl⟩).bind fun _ => ?_
  refine (passes_does fun _ => ⟨rfl, rfl⟩).bind fun _ => (passes_look _).bind fun _ => ?_
  refine (passes_whenever (passes_does fun _ => ⟨rfl, rfl⟩)).bind fun _ => ?_
  exact (passes_look _).bind fun _ => passes_whenever (passes_does fun _ => ⟨rfl, rfl⟩)

lemma passes_clearOwnRecord (session : Option SessionId) :
    Passes cfg me began (clearOwnRecord session) := by
  have hclear : Passes cfg me began (does .clearRecord) := passes_does fun _ => ⟨rfl, rfl⟩
  refine (passes_look _).bind fun _ => .ite (fun _ => ?_) fun _ => hclear
  exact (passes_look _).bind fun _ => passes_whenever hclear

lemma shutdownLines_total :
    Total (ctx me) (Inv cfg me began) (shutdownLines cfg me) (fun _ => Inv cfg me true)
      fun _ => Inv cfg me true := by
  have hbegin : Total (ctx me) (Inv cfg me began) (does (.note .paOffBegin) : Proc Unit)
      (fun _ => Inv cfg me true) fun _ => Inv cfg me true :=
    Total.does stable_inv fun _ hy _ => ⟨trivial, hy.1, fun _ => rfl⟩
  have hrest : Passes cfg me true ((paOff cfg me cfg.chains).attempt >>= fun _ =>
      (trSwitch cfg .rx).attempt >>= fun _ => (restoreLna cfg).attempt >>= fun _ =>
        (restoreRxGain cfg).attempt) :=
    (passes_paOff _).attempt.bind fun _ => (passes_trSwitch .rx).attempt.bind fun _ =>
      passes_restoreLna.attempt.bind fun _ => passes_restoreRxGain.attempt
  exact hbegin.bind fun _ => hrest

lemma Inv.weaken (h : Inv cfg me began x) : Inv cfg me false x :=
  ⟨h.1, fun h => Bool.noConfusion h⟩

/-- A program that ends with no lock held and, if the front end exists, has begun the
`pa_off` step. -/
abbrev Darkens (cfg : Setup) (me : Thread) (p : Proc Unit) : Prop :=
  Total (ctx me) (Inv cfg me false) p (fun _ => Inv cfg me cfg.hasRf) fun _ => Inv cfg me false

lemma darkens_safeShutdown : Darkens cfg me (safeShutdown cfg me fault) := by
  have hbump : Passes cfg me false (does (.bump .shutdown)) := passes_does fun _ => ⟨rfl, rfl⟩
  refine .bind hbump fun _ => .bind (passes_look _) fun session => ?_
  refine .bind (passes_mark fault) fun _ => ?_
  have hlines : Total (ctx me) (Inv cfg me false) (whenever cfg.hasRf (shutdownLines cfg me))
      (fun _ => Inv cfg me cfg.hasRf) fun _ => Inv cfg me cfg.hasRf := by
    refine .ite (fun hrf => ?_) fun hrf => .ret fun x hx => ?_
    · rw [hrf]
      exact shutdownLines_total
    · rw [Bool.not_eq_true] at hrf
      rwa [hrf]
  have hrest : Passes cfg me cfg.hasRf (clearOwnRecord session >>= fun _ => emit cfg me >>= fun _ =>
      does (.note .shutdownReturned)) :=
    (passes_clearOwnRecord session).bind fun _ => passes_emit.bind fun _ =>
      passes_does fun _ => ⟨rfl, rfl⟩
  exact (hlines.bind fun _ => hrest).mono (fun _ _ h => h) fun _ _ h => h.weaken

variable (code : Code)

lemma darkens_trip : Darkens cfg me (trip cfg me code) := by
  have hbump : Passes cfg me false (does (.bump .trip)) := passes_does fun _ => ⟨rfl, rfl⟩
  refine .bind hbump fun _ => .bind (passes_look _) fun disabled => ?_
  have hreturn : Passes cfg me cfg.hasRf (does (.note .tripReturned)) :=
    passes_does fun _ => ⟨rfl, rfl⟩
  refine .bind (Q := fun _ => Inv cfg me cfg.hasRf) (.ite (fun _ => ?_) fun _ => ?_)
    fun _ => hreturn.mono (fun _ _ h => h) fun _ _ h => h.weaken
  · exact .bind passes_emit fun _ => darkens_safeShutdown false
  · refine .bind (passes_look _) fun first => ?_
    refine .bind (passes_whenever (passes_does fun _ => ⟨rfl, rfl⟩)) fun _ => ?_
    refine .bind (passes_does fun _ => ⟨rfl, rfl⟩) fun _ => ?_
    exact .bind passes_emit fun _ => darkens_safeShutdown true

/-! ## A trip that waits for itself -/

lemma rely_refl (x : Sys × Bool) : (ctx me).rely x x := ⟨rfl, rfl, rfl⟩

lemma emitBus_hangs (hcfg : cfg.busEnabled) (h : x.1.busHeld me) :
    Hangs (ctx me) (emitBus cfg me) x := by
  unfold emitBus
  rw [if_pos hcfg]
  refine .act (rely_refl x) ?_
  rw [if_pos h]
  exact .hang _

lemma emit_hangs (h : ¬Free cfg me x.1) : Hangs (ctx me) (emit cfg me) x := by
  refine .act (rely_refl x) ?_
  by_cases hevent : x.1.eventHeld me = true
  · rw [if_pos hevent]
    exact .hang _
  · -- the lock is free, so the mutex is not
    have hbus : cfg.busEnabled ∧ x.1.busHeld me := by
      simpa [Free, hevent] using h
    rw [if_neg hevent]
    exact .act (rely_refl _) (emitBus_hangs hbus.1 hbus.2)

lemma tripLatch_hangs (h : ¬Free cfg me x.1) : Hangs (ctx me) (tripLatch cfg me code) x := by
  have hlatch : ∀ y : Sys × Bool, ¬Free cfg me y.1 → Hangs (ctx me) (does (.setState .fault .latch) >>=
      fun _ => emit cfg me >>= fun _ => safeShutdown cfg me true) y := by
    intro y hy
    refine .act (rely_refl y) (.bind (emit_hangs ?_) _)
    exact hy
  refine .act (rely_refl x) ?_
  show Hangs (ctx me) (whenever (decide (x.1.state ≠ .fault)) (does (.setFaultCode (some code))) >>=
    fun _ => _) _
  cases decide (x.1.state ≠ .fault) with
  | false => exact hlatch _ h
  | true => exact .act (rely_refl _) (hlatch _ h)

lemma trip_hangs (h : ¬Free cfg me x.1) : Hangs (ctx me) (trip cfg me code) x := by
  refine .act (rely_refl x) (.act (rely_refl _) ?_)
  refine .bind (p := if decide (x.1.state = .disabled) then _ else _) ?_ _
  by_cases hdisabled : x.1.state = .disabled
  · rw [if_pos (by simp [hdisabled])]
    refine .bind (emit_hangs ?_) _
    exact h
  · rw [if_neg (by simp [hdisabled])]
    exact tripLatch_hangs code h

end

/-! ## Trips as signal handlers -/

/-- A trip that a signal handler runs on thread `me`, at whatever point it interrupts the
thread, returns and has begun the `pa_off` step, just if the interrupted frame holds
neither the lock of the event log nor, with the bus enabled, the mutex of its queue. -/
theorem trip_returns_iff (cfg : Setup) (me : Thread) (code : Code) (s : Sys) :
    (∀ o z, Executes (ctx me).toWatch (ctx me).rely (trip cfg me code) (s, false) o z →
      o = .returned () ∧ (cfg.hasRf → z.2)) ↔
    s.eventHeld me = false ∧ (cfg.busEnabled → s.busHeld me = false) := by
  constructor
  · intro hreturns
    by_contra hheld
    obtain ⟨z, hz⟩ := trip_hangs (x := (s, false)) code hheld
    cases (hreturns _ _ hz).1
  · intro hfree o z hexec
    obtain ⟨_, ho, hz⟩ := (darkens_trip code).returns (calm_trip cfg me code)
      (fun _ _ => trivial) (x := (s, false)) ⟨hfree, fun h => Bool.noConfusion h⟩ hexec
    exact ⟨ho, hz.2⟩

def bench.transmitting : Sys :=
  { bench.idle with
    state := .armed
    front :=
      { pa := fun c => c = 0
        tr := .tx
        lna := false
        drive := fun n => .manual (n = 0 ∨ n = 1) } }

/-- `reset_fault` in ARMED is refused and logs that; a watchdog trip that comes while it
does so hangs, and the PA-off step has not begun. -/
theorem trip_hangs_in_resetFault : ∃ y z, Takes (ctx 0).toWatch (ctx 0).rely
        (Op.prog bench 0 (.resetFault { operatorGiven := true, typed := none }))
        (bench.transmitting, false) (.releaseEvent 0) y ∧
      Executes (ctx 0).toWatch (ctx 0).rely (trip bench 0 .watchdog) (y.1, false) .hung z ∧
      z.2 = false ∧ z.1.front.drive 0 = .manual true := by
  have hpoint : Takes (ctx 0).toWatch (ctx 0).rely
      (Op.prog bench 0 (.resetFault { operatorGiven := true, typed := none }))
      (bench.transmitting, false) (.releaseEvent 0)
      ({ bench.transmitting with eventHeld := Function.update (fun _ => false) 0 true }, false) :=
    .later (rely_refl _) (.later (rely_refl _) (.later (rely_refl _) (.now (rely_refl _))))
  refine ⟨_, _, hpoint, Prog.exec_executes (ctx 0).toWatch rely_refl _ [] [] _ (by simp), ?_, ?_⟩
  · decide
  · decide

end HeimdallDaq.Tx.Reentry
