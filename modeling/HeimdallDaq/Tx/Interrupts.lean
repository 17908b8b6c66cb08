/-
  Tx/Interrupts.lean --- what a signal handler does to the operation it interrupts.

  Whatever handlers ran and however they were nested, they leave alone what the sessions
  depend on, or amount to one completed shutdown (`ShutDown`).
-/
import HeimdallDaq.Tx.Handlers

namespace HeimdallDaq.Tx.Interrupts

open Foundation
open Prog (does)

/-! ## The monitor -/

structure Mon where
  /-- a trip or shutdown has begun since the last `arm` began -/
  shut : Bool := false
  written : List SessionId := []
  deriving DecidableEq, Inhabited

/-- The monitor: `arm` begins with its first read, a trip or shutdown with its
bump of the trip generation. -/
def Mon.see : Cmd → Sys → Mon → Mon
  | .look .armBegin, _, m => { m with shut := false }
  | .bump _, _, m => { m with shut := true }
  | .writeRecord r true, _, m => { m with written := r.sessionId :: m.written }
  | _, _, m => m

def watch : Watch Sys Cmd Mon where
  apply := Cmd.apply
  obs := Mon.see

structure Core where
  state : TxState
  tripGen : ℕ
  armRecord : Option ArmRecord
  adopted : Bool
  registry : List PermitId
  inflight : Option PermitId
  disk : Option ArmRecord
  shut : Bool
  written : List SessionId

@[local grind]
def core (x : Sys × Mon) : Core where
  state := x.1.state
  tripGen := x.1.tripGen
  armRecord := x.1.armRecord
  adopted := x.1.adopted
  registry := x.1.registry
  inflight := x.1.inflight
  disk := x.1.disk
  shut := x.2.shut
  written := x.2.written

/-- Nothing of a session is left: not armed, no permit, no burst in flight, and no
record on disk that this controller wrote. -/
structure Quiet (c : Core) : Prop where
  state : c.state ≠ .armed ∧ c.state ≠ .transmitting
  registry : c.registry = []
  inflight : c.inflight = none
  disk : ∀ r, c.disk = some r → r.sessionId ∉ c.written

/-! ## What a disturbance amounts to -/

variable (c d : Core)

def Cleared : Prop :=
  d.disk = none ∨ (c.adopted ∧ d.disk = c.disk ∧
    ∀ r a, c.disk = some r → c.armRecord = some a → a.sessionId ≠ r.sessionId)

structure ShutDown (c d : Core) : Prop where
  gen : c.tripGen < d.tripGen
  shut : d.shut = true
  written : d.written = c.written
  adopted : d.adopted = c.adopted
  state : d.state.isLive = false
  registry : d.registry = []
  inflight : d.inflight = none
  cleared : Cleared c d

attribute [grind] Cleared ShutDown Quiet

lemma ShutDown.trans {c d e : Core} (h : ShutDown c d) (h' : ShutDown d e) : ShutDown c e := by
  grind [Nat.lt_trans]

def view : View Sys Cmd Mon Core where
  watch := watch
  get := core
  later := ShutDown

@[grind =] lemma view_get (x : Sys × Mon) : view.get x = core x := rfl

@[grind =] lemma view_step (c : Cmd) (x : Sys × Mon) :
    view.watch.step c x = (c.apply x.1, Mon.see c x.1 x.2) := rfl

instance : Looks view := ⟨fun _ => rfl⟩

abbrev ctx : Context Sys Cmd Mon := view.ctx

abbrev On : (Core → Prop) → Sys × Mon → Prop := view.On

abbrev Lasting : (Core → Prop) → Prop := view.Lasting

abbrev Faint : Cmd → Prop := view.Faint

lemma lasting_of {P : Core → Prop} (h : ∀ c d, P c → ShutDown c d → P d) : Lasting P := h

lemma shutDown_of_rely {x y : Sys × Mon} {d : Core} (hxy : ctx.rely x y)
    (h : ShutDown (core y) d) : ShutDown (core x) d := by
  rcases hxy with hxy | hxy
  · grind
  · exact .trans hxy h

lemma faint_of_lines {cfg : Setup} {c : Cmd} (h : c.Lines cfg) : Faint c := by
  cases h <;> exact fun _ => rfl

/-! ## The handlers -/

@[grind]
def Began : Prop :=
  c.tripGen < d.tripGen ∧ d.shut ∧ d.written = c.written ∧ d.adopted = c.adopted ∧
    (d.disk = none ∨ d.disk = c.disk)

/-- The shutdown of `c` has begun and can still see the session to clear, unless
another shutdown has cleared it already. -/
@[grind]
def Opened : Prop := Began c d ∧ (d.armRecord = c.armRecord ∨ Cleared c d)

lemma Opened.shutDown {c d e : Core} (h : Opened c d) (hde : ShutDown d e) : ShutDown c e := by
  grind

lemma ShutDown.opened {c d : Core} (h : ShutDown c d) : Opened c d := by grind

variable (c : Core)

lemma lasting_opened : Lasting (Opened c) := fun _ _ h hde => (h.shutDown hde).opened

variable (session : Option SessionId)

/-- The shutdown of `c` knows the session to clear; another shutdown may have
cleared it already. -/
@[grind]
def Named (d : Core) : Prop := Began c d ∧ (session = c.armRecord.map (·.sessionId) ∨ Cleared c d)

lemma lasting_named : Lasting (Named c session) := lasting_of (by grind)

@[grind]
def Stopped (d : Core) : Prop := Named c session d ∧ d.state.isLive = false

@[grind]
def Emptied (d : Core) : Prop := Stopped c session d ∧ d.registry = []

@[grind]
def Marked (d : Core) : Prop := Emptied c session d ∧ d.inflight = none

section

variable (c : Core) (session : Option SessionId)

lemma lasting_stopped : Lasting (Stopped c session) := lasting_of (by grind)

lemma lasting_emptied : Lasting (Emptied c session) := lasting_of (by grind)

lemma lasting_marked : Lasting (Marked c session) := lasting_of (by grind)

lemma lasting_shutDown : Lasting (ShutDown c) := fun _ _ h h' => h.trans h'

lemma markState_spec (fault : Bool) :
    Triple ctx (On (Named c session)) (markState fault) (fun _ => On (Stopped c session))
      fun _ _ => True := by
  have hlast := lasting_named c session
  refine .bind (Q := fun _ => On (Named c session)) ?_ fun latched => ?_
  · exact .ite (fun _ => .ret fun _ h => h) fun _ => hlast.reads fun _ h => h
  refine .bind (Q := fun disabled => On fun d =>
    Named c session d ∧ (disabled = true → d.state.isLive = false)) ?_ fun disabled => ?_
  · refine hlast.reads fun x h => ⟨h, fun hdis => ?_⟩
    show x.1.state.isLive = false
    rw [of_decide_eq_true hdis]
    rfl
  · refine .ite (fun hdis => .ret fun x h => ⟨h.1, h.2 hdis⟩) fun _ => ?_
    refine (hlast.and fun d e _ hde _ => hde.state).does fun x h => ⟨h.1, ?_⟩
    cases latched <;> rfl

lemma mark_spec (fault : Bool) :
    Triple ctx (On (Named c session)) (mark fault) (fun _ => On (Marked c session))
      fun _ _ => True := by
  have hstop := lasting_stopped c session
  have hempty := lasting_emptied c session
  have hmark := lasting_marked c session
  refine (markState_spec c session fault).bind fun _ => (peek_spec hstop _).bind fun pids => ?_
  refine (hstop.faint (.forEach pids fun _ _ => .does fun _ => rfl)
    fun _ _ _ => trivial).bind fun _ => ?_
  refine (hstop.does (c := .clearRegistry) (Q := Emptied c session) fun x h => ⟨h, rfl⟩).bind fun _ => ?_
  refine (hempty.faint (.does fun _ => rfl) fun _ _ _ => trivial).bind fun _ => ?_
  refine (hempty.does (c := .setInflight none) (Q := Marked c session) fun x h => ⟨h, rfl⟩).bind fun _ => ?_
  refine (peek_spec hmark _).bind fun latched => .bind (Q := fun _ => On (Marked c session)) ?_
    fun _ => (peek_spec hmark _).bind fun latched' => ?_
  · exact .ite (fun _ => hmark.does fun x h => h) fun _ => .ret fun _ h => h
  · exact hmark.faint (only_whenever (.does fun _ => rfl)) fun _ _ _ => trivial

variable {c session}

lemma Marked.shutDown {d : Core} {disk : Option ArmRecord} (h : Marked c session d)
    (hcleared : Cleared c { d with disk := disk }) : ShutDown c { d with disk := disk } := by grind

variable (c session)

lemma clearOwnRecord_spec :
    Triple ctx (On (Marked c session)) (clearOwnRecord session) (fun _ => On (ShutDown c))
      fun _ _ => True := by
  have hmark := lasting_marked c session
  have hclear : Triple (ι := Answer) ctx (On (Marked c session)) (does .clearRecord)
      (fun _ => On (ShutDown c)) (fun (_ : Stop) _ => True) :=
    hmark.does fun x h => Marked.shutDown h (.inl rfl)
  refine .bind (look_spec hmark (Q := fun adopted d => Marked c session d ∧
    (adopted = true → d.adopted = true)) fun x h => ⟨h, fun ha => ha⟩) fun adopted => ?_
  refine .ite (fun hadopted => ?_) fun _ => hclear.pre fun _ h => h.1
  have hlast : Lasting fun d => Marked c session d ∧ (adopted = true → d.adopted = true) :=
    hmark.and fun d e h hde hadopted => hde.adopted.trans (h hadopted)
  refine .bind (look_spec hlast (Q := fun own d => Marked c session d ∧
    (own = false → ShutDown c d)) fun x h => ⟨h.1, fun hown => ?_⟩) fun own => ?_
  · grind
  · refine .ite (fun _ => hclear.pre fun _ h => h.1) ?_
    exact fun hown => .ret fun x h => h.2 (Bool.eq_false_iff.mpr hown)

end

section

variable (cfg : Setup) (me : Thread)

lemma faint_emit : Only Faint (emit cfg me) := (only_emit cfg me).mono fun _ => faint_of_lines

lemma faint_shutdownLines : Only Faint (shutdownLines cfg me) :=
  only_shutdownLines cfg me (fun _ => faint_of_lines) fun _ => rfl

lemma opened_bump (caller : Bumper) (x : Sys × Mon) :
    Opened (core x) (core (watch.step (.bump caller) x)) :=
  ⟨⟨Nat.lt_succ_self _, rfl, rfl, rfl, .inr rfl⟩, .inl rfl⟩

variable {E : Stop → Sys × Mon → Prop}

lemma safeShutdown_spec (fault : Bool) (x : Sys × Mon) :
    Spec ctx (safeShutdown cfg me fault) (fun _ y => ShutDown (core x) (core y)) E x := by
  refine .of_calm (E := fun _ _ => True) (calm_safeShutdown cfg me fault) x ?_
  intro y hxy _
  refine ⟨trivial, .mono (Q := fun _ => On (ShutDown (core y))) (fun _ z hz => shutDown_of_rely hxy hz)
    (fun _ _ h => h) _ _ ?_⟩
  have hshut := lasting_shutDown (core y)
  refine Triple.bind (look_spec (lasting_opened (core y)) (Q := Named (core y))
    fun z hz => ⟨hz.1, ?_⟩) (fun session => ?_) _ (opened_bump .shutdown y)
  · grind
  refine (mark_spec _ session fault).bind fun _ => .bind ((lasting_marked _ session).faint
    (only_whenever (faint_shutdownLines cfg me)) fun _ _ _ => trivial) fun _ => ?_
  refine (clearOwnRecord_spec _ session).bind fun _ => ?_
  refine (hshut.faint (faint_emit cfg me) fun _ _ _ => trivial).bind fun _ => ?_
  exact hshut.faint (.does fun _ => rfl) fun _ _ _ => trivial

lemma safeShutdown_opened (fault : Bool) (c : Core) :
    Triple ctx (On (Opened c)) (safeShutdown cfg me fault) (fun _ => On (ShutDown c))
      fun _ _ => True :=
  fun x hx => .mono (fun _ _ hz => hx.shutDown hz) (fun _ _ h => h) _ _
    (safeShutdown_spec cfg me fault x)

lemma trip_spec (code : Code) (x : Sys × Mon) :
    Spec ctx (trip cfg me code) (fun _ y => ShutDown (core x) (core y)) E x := by
  refine .of_calm (E := fun _ _ => True) (calm_trip cfg me code) x ?_
  intro y hxy _
  refine ⟨trivial, .mono (Q := fun _ => On (ShutDown (core y))) (fun _ z hz => shutDown_of_rely hxy hz)
    (fun _ _ h => h) _ _ ?_⟩
  have hopen := lasting_opened (core y)
  have hemit := hopen.faint (E := fun _ _ => True) (faint_emit cfg me) fun _ _ _ => trivial
  refine Triple.bind (peek_spec hopen _) (fun disabled => ?_) _ (opened_bump .trip y)
  refine Triple.bind (Q := fun _ => On (ShutDown (core y))) (Triple.ite (fun _ => ?_) fun _ => ?_)
    fun _ => (lasting_shutDown _).faint (.does fun _ => rfl) fun _ _ _ => trivial
  · exact hemit.bind fun _ => safeShutdown_opened cfg me false _
  · refine (peek_spec hopen _).bind fun first => .bind (hopen.faint
      (only_whenever (.does fun _ => rfl)) fun _ _ _ => trivial) fun _ => ?_
    refine (hopen.does (c := .setState .fault .latch) (Q := Opened (core y)) fun _ h => h).bind
      fun _ => hemit.bind fun _ => safeShutdown_opened cfg me true _

lemma handler_spec (h : Handler) (x : Sys × Mon) :
    Spec ctx (h.prog cfg me) (fun _ y => ShutDown (core x) (core y)) (fun _ _ => True) x := by
  cases h with
  | trip code => exact trip_spec cfg me code x
  | safeShutdown => exact safeShutdown_spec cfg me false x

lemma rely_of_interference (depth : ℕ) :
    ∀ x y, interference watch cfg me depth x y → ctx.rely x y := by
  refine interference_le (R := ctx.rely) (fun _ => .inl rfl)
    (fun _ _ _ => View.rely_trans fun _ _ _ => ShutDown.trans) ?_ ?_ depth
  · rintro x _ ⟨d, rfl⟩
    exact .inl rfl
  · intro handler x y hexec
    exact .inr (((handler_spec cfg me handler x).sound (fun _ _ => trivial) hexec).1 () rfl)

end

end HeimdallDaq.Tx.Interrupts
