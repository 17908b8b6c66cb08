/-
  Tx/Commits.lean --- no commit survives a trip.

  `Settled` is what holds between two operations of a controller.
-/
import HeimdallDaq.Tx.Interrupts

namespace HeimdallDaq.Tx.Interrupts

open Foundation Triple
open Prog (does reads)
open View (aside)

/-! ## Between two operations -/

@[grind]
def DiskQuiet (c : Core) : Prop := ∀ r, c.disk = some r → r.sessionId ∉ c.written

@[grind]
def Owned (c : Core) : Prop :=
  c.adopted → ∀ r, c.disk = some r → r.sessionId ∈ c.written →
    ∃ a, c.armRecord = some a ∧ a.sessionId = r.sessionId

@[grind]
def Settled (c : Core) : Prop := (c.shut → Quiet c) ∧ Owned c

@[grind →]
lemma ne_live_of_isLive {st : TxState} (h : st.isLive = false) :
    st ≠ .armed ∧ st ≠ .transmitting := by grind [TxState.isLive]

variable {c : Core}

@[grind →]
lemma Quiet.isLive (h : Quiet c) : c.state.isLive = false := by
  obtain ⟨harmed, htx⟩ := h.state
  cases hst : c.state <;> simp_all [TxState.isLive]

@[grind]
def Still (c : Core) : Prop := c.state.isLive = false ∧ c.registry = [] ∧ c.inflight = none

lemma Quiet.still (h : Quiet c) : Still c := by grind

lemma lasting_settled : Lasting Settled := lasting_of (by grind)

@[grind]
def Since (gen0 : ℕ) (c : Core) : Prop := c.tripGen = gen0 ∨ (gen0 < c.tripGen ∧ c.shut)

@[grind]
def Fresh (gen0 : ℕ) (c : Core) : Prop :=
  (c.tripGen = gen0 ∧ c.shut = false) ∨ (gen0 < c.tripGen ∧ c.shut)

lemma settled_of_shut_eq_false (h : Owned c) (hshut : c.shut = false) : Settled c := by
  grind

/-! ## Away from the commits -/

abbrev Fails : Stop → Sys × Mon → Prop := view.Fails Settled

lemma writes {P : Core → Prop} (Q : Core → Prop) {c : Cmd}
    (hP : ∀ c d, P c → ShutDown c d → P d)
    (h : ∀ x, P (view.get x) → Q (view.get (view.watch.step c x))) :
    Triple (ι := Answer) ctx (On P) (does c) (fun _ => On Q) Fails :=
  View.Lasting.does (lasting_of hP) h

lemma returns {P : Core → Prop} {α : Type} {Q : α → Core → Prop} {a : α}
    (h : ∀ c, P c → Q a c) :
    Triple (ι := Answer) ctx (On P) (.ret a) (fun a => On (Q a)) Fails :=
  ret fun _ hx => h _ hx

section

variable {P : Core → Prop}

lemma core_step_idle {c : Cmd} (hc : c.Idle) (x : Sys × Mon) : core (watch.step c x) = core x ∨
      (∃ pid, core (watch.step c x) =
        { core x with registry := (core x).registry.filter fun q => decide (q ≠ pid) }) ∨
      core (watch.step c x) = { core x with disk := none } := by
  cases hc with
  | look site h => cases site <;> first | exact .inl rfl | exact absurd rfl h
  | popRegistry pid => exact .inr (.inl ⟨pid, rfl⟩)
  | clearRecord => exact .inr (.inr rfl)
  | _ => exact .inl rfl

lemma robust_of_lasting (cfg : Setup) (me : Thread) (hP : Lasting P)
    (hpop : ∀ c pid, P c → P { c with registry := c.registry.filter fun q => decide (q ≠ pid) })
    (hclear : ∀ c, P c → P { c with disk := none }) : Robust cfg me ctx (On P) := by
  have hidle : ∀ c : Cmd, c.Idle → ∀ y, On P y → ctx.admits c y →
      ctx.guar c y ∧ On P (ctx.step c y) := by
    refine fun c hc y hy _ => ⟨trivial, (?_ : P (core (watch.step c y)))⟩
    rcases core_step_idle hc y with h | ⟨pid, h⟩ | h
    · exact h ▸ hy
    · exact h ▸ hpop _ pid hy
    · exact h ▸ hclear _ hy
  exact {
    stable := hP.stable
    idle := hidle
    drop := Robust.drop_of_release hP.stable hidle fun _ _ hy _ => ⟨trivial, hy⟩
    shutdown := fun fault x hx => .mono (fun _ y hy => hP _ _ hx hy) (fun _ _ h => h) _ _
      (safeShutdown_spec cfg me fault x)
    trip := fun code x hx => .mono (fun _ y hy => hP _ _ hx hy) (fun _ _ h => h) _ _
      (trip_spec cfg me code x) }

variable (cfg : Setup) (me : Thread)

lemma robust_settled : Robust cfg me ctx (On Settled) := by grind [robust_of_lasting, lasting_of]

lemma robust_since (gen0 : ℕ) : Robust cfg me ctx (On fun c => Settled c ∧ Since gen0 c) := by
  exact robust_of_lasting cfg me (lasting_of (by grind)) (by grind) (by grind)

lemma robust_fresh (gen0 : ℕ) : Robust cfg me ctx (On fun c => Settled c ∧ Fresh gen0 c) := by
  exact robust_of_lasting cfg me (lasting_of (by grind)) (by grind) (by grind)

lemma refuse_spec {α : Type} {Q : α → Sys × Mon → Prop} (code : Code) :
    Triple ctx (On Settled) (refuse cfg me code) Q Fails :=
  bind (robust_settled cfg me).emit fun _ => .throw fun _ h => h

lemma raiseInterrupted_spec {α : Type} {Q : α → Sys × Mon → Prop} :
    Triple ctx (On Settled) (raiseInterrupted cfg me) Q Fails := by
  refine .bind (peek_spec lasting_settled _) fun latched =>
    ite (fun _ => ?_) fun _ => refuse_spec cfg me _
  exact .bind (peek_spec lasting_settled _) fun _ => .throw fun _ h => h

end

variable {gen0 : ℕ}

lemma secondLook {P U : Core → Prop} (hP : Lasting P)
    (hmoved : ∀ c, P c → c.tripGen ≠ gen0 → U c) (hsame : ∀ c, P c → c.tripGen = gen0 → Settled c)
    {undo : Proc Unit} {next : Unit → Proc Unit}
    (hundo : Triple ctx (On U) undo (fun _ => On Settled) Fails)
    (hnext : Triple ctx (On Settled) (next ()) (fun _ => On Settled) Fails) : Triple ctx (On P)
      (tripGen .plain >>= fun gen => (if gen ≠ gen0 then undo else .ret ()) >>= next)
      (fun _ => On Settled) Fails := by
  refine .bind (hP.reads (Q := fun gen c => (gen ≠ gen0 → U c) ∧ (gen = gen0 → Settled c))
    fun x h => ⟨hmoved _ h, hsame _ h⟩) fun gen => ?_
  refine .bind (Q := fun _ => On Settled) (.ite (fun hgen => ?_) fun hgen => ?_)
    fun _ => hnext
  · exact hundo.pre fun _ h => h.1 hgen
  · exact .ret fun _ h => h.2 (not_not.mp hgen)

attribute [local grind] core Cmd.apply Mon.see restoredState TxState.isLive

/-! ## The undo path -/

variable (session : Option SessionId) (entry : Option PermitId)

/-- What an interrupted commit may leave: its own state, its own burst in flight and
its own record. -/
@[grind]
def Exposed (c : Core) : Prop :=
  c.shut ∧ c.registry = [] ∧ (c.inflight = none ∨ c.inflight = entry) ∧
    ∀ r, c.disk = some r → r.sessionId ∈ c.written → c.adopted = false ∧ session = some r.sessionId

@[local grind]
def Undone (c : Core) : Prop := Exposed session entry c ∧ c.state.isLive = false

lemma lasting_exposed : Lasting (Exposed session entry) := lasting_of (by grind)

lemma undoState_spec : Triple ctx (On (Exposed session entry)) undoState
      (fun _ => On (Undone session entry)) Fails := by
  refine bind (View.Lasting.reads (Q := fun live c => Exposed session entry c ∧
    (live = false → c.state.isLive = false)) (lasting_exposed session entry) fun _ h => ⟨h, id⟩)
    fun live => ite (fun _ => ?_) fun _ => returns (by grind)
  refine bind (peek_spec (lasting_of (by grind)) _) fun code => ?_
  exact writes _ (by grind) (by grind)

lemma undoInflight_spec : Triple ctx (On (Undone session entry)) (undoInflight entry)
      (fun _ => On (Undone session none)) Fails := by
  refine .bind (look_spec (Q := fun mine c => Undone session entry c ∧
    (mine = false → c.inflight = none)) (lasting_of (by grind))
    (by cases entry <;> grind)) fun mine => .ite (fun _ => ?_) fun _ => returns (by grind)
  exact writes _ (by grind) (by grind)

lemma undoRecord_spec : Triple ctx (On (Undone session none)) (undoRecord session)
      (fun _ => On Settled) Fails := by
  refine (peek_spec (lasting_of (by grind)) _).bind fun latched =>
    bind (Q := fun _ => On (Undone session none)) ?_ fun _ => ?_
  · refine .ite (fun _ => ?_) fun _ => .ret fun _ h => h
    refine .bind (writes (Undone session none) (by grind) (by grind)) fun _ => ?_
    exact writes _ (by grind) (by grind)
  -- a record that is not of `session` was not written by this controller
  refine .bind (look_spec (Q := fun own c => Undone session none c ∧
    (own = false → DiskQuiet c)) (lasting_of (by grind)) (by grind))
    fun own => .ite (fun _ => ?_) fun _ => returns (by grind)
  refine .bind (look_spec (Q := fun adopted c => Undone session none c ∧
    (adopted = true → c.adopted = true)) (lasting_of (by grind)) (by grind))
    fun adopted => .ite (fun _ => ?_) fun _ => returns (by grind)
  exact writes _ (by grind) (by grind)

lemma undoInterrupted_spec (cfg : Setup) (me : Thread) {α : Type} :
    Triple ctx (On (Exposed session entry)) (undoInterrupted (α := α) cfg me session entry)
      (fun _ => On Settled) Fails :=
  (undoState_spec session entry).bind fun _ => (undoInflight_spec session entry).bind fun _ =>
    (undoRecord_spec session).bind fun _ =>
      raiseInterrupted_spec cfg me

/-! ## `arm` -/

@[grind]
def OnDisk (r : ArmRecord) (c : Core) : Prop := c.disk = none ∨ c.disk = some r

@[grind]
def ArmWritten (gen0 : ℕ) (r : ArmRecord) (c : Core) : Prop :=
  (Fresh gen0 c ∧ OnDisk r c) ∧ (c.shut → Still c)

@[grind]
def ArmOwned (gen0 : ℕ) (r : ArmRecord) (c : Core) : Prop := ArmWritten gen0 r c ∧ c.adopted = false

@[grind]
def ArmStored (gen0 : ℕ) (r : ArmRecord) (c : Core) : Prop :=
  (Fresh gen0 c ∧ OnDisk r c) ∧ c.adopted = false ∧ (c.shut → c.registry = [] ∧ c.inflight = none)

section

variable (gen0 : ℕ) (r : ArmRecord)

lemma lasting_armStored : Lasting (ArmStored gen0 r) := lasting_of (by grind)

lemma armCommit_spec (now dur : ℚ) :
    Triple ctx (On (ArmWritten gen0 r)) (armCommit r now dur) (fun _ => On (ArmStored gen0 r))
      Fails := by
  unfold armCommit
  iterate 6 refine .bind (writes (ArmWritten gen0 r) (by grind) (by grind)) fun _ => ?_
  refine .bind (writes (ArmOwned gen0 r) (by grind) (by grind)) fun _ => ?_
  exact writes _ (by grind) (by grind)

variable (cfg : Setup) (me : Thread)

lemma armWrite_spec : Triple ctx (On fun c => Settled c ∧ Fresh gen0 c) (armWrite cfg me r)
      (fun _ => On (ArmWritten gen0 r)) Fails := by
  refine .ask fun a => .act (robust_fresh cfg me gen0).stable fun y hy _ =>
    ⟨trivial, ?_⟩
  cases a.ok with
  | true => exact ⟨⟨hy.2, .inr rfl⟩, fun hshut => (hy.1.1 hshut).still⟩
  | false =>
    exact refuse_spec cfg me .configInvalid _ hy.1

lemma armFinish_spec (now dur : ℚ) :
    Triple ctx (On fun c => Settled c ∧ Fresh gen0 c) (armFinish cfg me gen0 r now dur)
      (fun _ => On Settled) Fails := by
  unfold armFinish
  have hsettled := robust_settled cfg me
  have hfresh := robust_fresh cfg me gen0
  repeat with_reducible refine .bind (aside (by grind)) fun _ => ?_
  refine (armWrite_spec gen0 r cfg me).bind fun _ => (armCommit_spec gen0 r now dur).bind fun _ => ?_
  refine secondLook (lasting_armStored gen0 r) (by grind) (by grind)
    (undoInterrupted_spec _ none cfg me) (?_ : Keeps ctx (On Settled) _)
  grind

end

lemma arm_keeps (cfg : Setup) (me : Thread) (req : ArmRequest) :
    Keeps ctx (On Settled) (arm cfg me req) := by
  refine bind (Q := fun gen0 => On fun c => Settled c ∧ Fresh gen0 c) ?_ fun gen0 => ?_
  · refine reads lasting_settled.stable fun y hy _ => ⟨trivial, ?_⟩
    exact ⟨settled_of_shut_eq_false hy.2 rfl, .inl ⟨rfl, rfl⟩⟩
  have h := robust_fresh cfg me gen0
  repeat with_reducible refine .bind (aside (by grind)) fun _ => ?_
  exact (armFinish_spec gen0 _ cfg me _ _).bind fun _ => .ret fun _ h => h

/-! ## `refresh` -/

@[grind]
def Holds (a : ArmRecord) (c : Core) : Prop := c.state.isLive → c.armRecord = some a

@[grind]
def RefreshWritten (a r : ArmRecord) (c : Core) : Prop :=
  (Holds a c ∧ OnDisk r c) ∧ (c.shut → Still c)

section

variable (a r : ArmRecord)

lemma clearOwnRecord_refresh :
    Triple ctx (On (RefreshWritten a r)) (clearOwnRecord (some r.sessionId))
      (fun _ => On Settled) Fails := by
  have hclear : Triple (ι := Answer) ctx (On (RefreshWritten a r)) (does .clearRecord)
      (fun _ => On Settled) Fails := writes _ (by grind) (by grind)
  refine (peek_spec (lasting_of (by grind)) _).bind fun adopted => .ite (fun _ => ?_) fun _ => hclear
  refine .bind (look_spec (Q := fun own c => RefreshWritten a r c ∧
    (own = false → c.disk = none)) (lasting_of (by grind)) (by grind)) fun own => ?_
  refine .ite (fun _ => hclear.pre fun _ h => h.1) fun _ => returns (by grind)

lemma refreshWrite_spec (cfg : Setup) (me : Thread) (hsid : r.sessionId = a.sessionId) (now : ℚ) :
    Triple ctx (On fun c => Settled c ∧ Holds a c) (refreshWrite cfg me r now)
      (fun _ => On Settled) Fails := by
  have hbefore : Lasting fun c => Settled c ∧ Holds a c := lasting_of (by grind)
  refine .bind (peek_spec hbefore _) fun gen0 => ?_
  refine .bind (Q := fun _ => On (RefreshWritten a r)) ?_ fun _ => ?_
  · refine .ask fun w => .act hbefore.stable fun y hy _ => ⟨trivial, ?_⟩
    cases w.ok with
    | true => exact ⟨⟨hy.2, .inr rfl⟩, fun hshut => (hy.1.1 hshut).still⟩
    | false => exact hy.1
  refine .bind (peek_spec (lasting_of (by grind)) _) fun gen => ?_
  refine .bind (Q := fun live => On fun c => RefreshWritten a r c ∧
    (live = true → Settled c)) (.ite (fun _ => ?_) fun _ => ?_) fun live => ?_
  · exact returns (by grind)
  · exact look_spec (lasting_of (by grind)) (by grind)
  refine .ite (fun hlive => ?_) fun _ => ?_
  · refine bind (pre (View.Lasting.does (P := fun c => Settled c ∧ OnDisk r c)
      (Q := Settled) (lasting_of (by grind)) (by grind)) (by grind [View.On])) fun _ => ?_
    exact ((robust_settled cfg me).only (.does (.setLastHb now))).bind fun _ => .ret _
  · exact ((clearOwnRecord_refresh a r).pre fun _ h => h.1).bind fun _ => raiseInterrupted_spec cfg me

end

lemma refresh_keeps (cfg : Setup) (me : Thread) : Keeps ctx (On Settled) (refresh cfg me) := by
  have h := robust_settled cfg me
  have hexpiry (t : ℚ) : Keeps ctx (On Settled) (does (.setExpiry t) : Proc Unit) :=
    lasting_settled.does fun _ hx => hx
  unfold refresh
  iterate 11 with_reducible refine .bind (by grind) fun _ => ?_
  refine bind (look_spec lasting_settled (Q := fun own c => Settled c ∧
    ∀ a, own = some a → Holds a c) (by grind)) fun own => ?_
  cases own with
  | none => exact pre (P := On Settled) (by grind : Keeps _ _ _) fun (x : Sys × Mon) hx => hx.1
  | some a =>
    have hlast : Lasting fun c => Settled c ∧ Holds a c := lasting_of (by grind)
    refine pre (P := On fun c => Settled c ∧ Holds a c) ?_ (by grind [View.On])
    refine .bind (aside Keeps.answer) fun wall => (peek_spec hlast _).bind fun until' => ?_
    refine .bind (hlast.faint (.reads fun _ => rfl) fun _ _ h => h.1) fun id => ?_
    exact refreshWrite_spec a { a with objId := id, expiresUnix := wall + (until' - _) } cfg me rfl _

/-! ## `authorize_burst` -/

@[grind]
def Issued (gen0 : ℕ) (pid : PermitId) (c : Core) : Prop :=
  (Fresh gen0 c ∧ Owned c) ∧ (c.shut → c.state.isLive = false ∧
    (∀ q ∈ c.registry, q = pid) ∧ c.inflight = none ∧ DiskQuiet c)

lemma lasting_issued (gen0 : ℕ) (pid : PermitId) : Lasting (Issued gen0 pid) := lasting_of (by grind)

section

variable (cfg : Setup) (me : Thread)

lemma dropPermit_issued (gen0 : ℕ) (pid : PermitId) (why : Revoked) :
    Triple ctx (On (Issued gen0 pid)) (dropPermit pid why) (fun _ => On Settled) Fails := by
  refine .bind ((lasting_issued gen0 pid).does (Q := Settled) fun x h => ?_) fun _ => ?_
  · grind [List.filter_eq_nil_iff.mpr]
  · exact lasting_settled.faint ((Only.does fun _ => rfl).bind fun _ => Only.does fun _ => rfl)
      fun _ _ h => h

variable (req : BurstRequest)

lemma register_spec (gen0 : ℕ) (pid : PermitId) (sid : SessionId)
    (now ahead : ℚ) :
    Triple (ι := Answer) ctx (On fun c => Settled c ∧ Fresh gen0 c)
      (does (.register (issuedEntry cfg req pid sid now ahead)))
      (fun _ => On (Issued gen0 pid)) Fails := View.Lasting.does (lasting_of (by grind)) (by grind [issuedEntry])

lemma issue_spec (gen0 : ℕ) (now ahead : ℚ) :
    Triple ctx (On fun c => Settled c ∧ Since gen0 c) (issue cfg me req gen0 now ahead)
      (fun _ => On Settled) Fails := by
  have hfresh := robust_fresh cfg me gen0
  refine .bind (peek_spec (lasting_of (by grind)) _) fun gen => ?_
  refine .bind (Q := fun live => On fun c => Settled c ∧ (live = true → Fresh gen0 c))
    (.ite (fun _ => ?_) fun _ => ?_) fun live => ?_
  · exact returns (by grind)
  · exact look_spec (lasting_of (by grind)) (by grind)
  refine .bind (Q := fun _ => On fun c => Settled c ∧ Fresh gen0 c)
    (.ite (fun hlive => ?_) fun _ => ?_) fun _ => ?_
  · exact returns (by grind)
  · exact (raiseInterrupted_spec cfg me).pre fun _ h => h.1
  refine .bind (aside (by grind)) fun pid => .bind (aside (by grind)) fun own => ?_
  cases own with
  | none => exact .throw fun _ h => h.1
  | some sid =>
    refine (register_spec cfg req gen0 pid sid now ahead).bind fun _ => ?_
    refine .bind (writes (Issued gen0 pid) (by grind) (by grind)) fun _ => ?_
    refine bind (View.Lasting.reads (Q := fun gen c => Issued gen0 pid c ∧
      (gen = gen0 → Settled c)) (lasting_of (by grind)) (by grind)) fun gen' => ?_
    refine ite (fun _ => ?_) fun hgen => returns (by grind)
    exact ((dropPermit_issued gen0 pid _).pre fun _ h => h.1).bind fun _ => raiseInterrupted_spec cfg me

lemma fromGeneration {p : ℕ → Proc α} (h : ∀ gen0, Triple ctx
    (On fun c => Settled c ∧ Since gen0 c) (p gen0) (fun _ => On Settled) Fails) :
    Keeps ctx (On Settled) (tripGen .plain >>= p) :=
  bind (lasting_settled.reads fun _ h => ⟨h, .inl rfl⟩) h

lemma authorizeBurst_keeps : Keeps ctx (On Settled) (authorizeBurst cfg me req) := by
  refine fromGeneration fun gen0 => ?_
  have h := robust_since cfg me gen0
  repeat with_reducible refine .bind (aside (by grind)) fun _ => ?_
  exact issue_spec cfg me req gen0 _ _

end

/-! ## `consume` -/

@[grind]
def Taken (gen0 : ℕ) (pid : PermitId) (c : Core) : Prop :=
  (Fresh gen0 c ∧ Owned c) ∧ (c.shut → c.registry = [] ∧
    (c.inflight = none ∨ c.inflight = some pid) ∧ DiskQuiet c)

lemma lasting_taken (gen0 : ℕ) (pid : PermitId) : Lasting (Taken gen0 pid) := lasting_of (by grind)

lemma Taken.exposed {pid : PermitId} (h : Taken gen0 pid c)
    (hgen : c.tripGen ≠ gen0) (session : Option SessionId) : Exposed session (some pid) c := by
  grind

lemma Taken.settled {pid : PermitId} (h : Taken gen0 pid c)
    (hgen : c.tripGen = gen0) : Settled c := by grind

section

variable (cfg : Setup) (me : Thread)

lemma consumeTest_spec (gen0 : ℕ) (pid : PermitId) :
    Triple ctx (On fun c => Settled c ∧ Since gen0 c) (consumeTest gen0 pid)
      (fun ok => On fun c => Settled c ∧ (ok = true → Fresh gen0 c)) Fails := by
  refine .bind (peek_spec (lasting_of (by grind)) _) fun gen => ?_
  refine .bind (Q := fun armed => On fun c => Settled c ∧ (armed = true → Fresh gen0 c))
    (.ite (fun _ => ?_) fun _ => ?_) fun armed => .ite (fun harmed => ?_) fun _ => ?_
  · exact returns (by grind)
  · exact View.Lasting.reads (lasting_of (by grind)) (by grind)
  · exact View.Lasting.reads (lasting_of (by grind)) (by grind)
  · exact returns (by grind)

lemma dropPermit_exposed (session : Option SessionId) (entry : Option PermitId)
    (pid : PermitId) (why : Revoked) : Triple ctx (On (Exposed session entry)) (dropPermit pid why)
      (fun _ => On (Exposed session entry)) Fails := by
  iterate 2 refine .bind (writes (Exposed session entry) (by grind) (by grind)) fun _ => ?_
  exact writes _ (by grind) (by grind)

lemma consumeCommit_spec (gen0 : ℕ) (pid : PermitId) (e : Entry) (sess : Option SessionId)
    (start : ℚ) :
    Triple ctx (On fun c => Settled c ∧ Since gen0 c) (consumeCommit cfg me gen0 pid e sess start)
      (fun _ => On Settled) Fails := by
  have h := robust_settled cfg me
  refine (consumeTest_spec gen0 pid).bind fun ok => .ite (fun hok => ?_) fun _ => ?_
  · refine .pre (P := On fun c => Settled c ∧ Fresh gen0 c) ?_ (by grind)
    iterate 2 refine .bind (writes (fun c => Settled c ∧ Fresh gen0 c) (by grind) (by grind)) fun _ => ?_
    iterate 2 refine .bind (writes (Taken gen0 pid) (by grind) (by grind)) fun _ => ?_
    refine secondLook (lasting_taken gen0 pid) (fun _ hx hgen => hx.exposed hgen sess)
      (fun _ hx hgen => hx.settled hgen) ?_ ?_
    · exact (dropPermit_exposed sess (some pid) pid _).bind fun _ =>
        undoInterrupted_spec sess (some pid) cfg me
    · exact .bind (lasting_settled.does (Q := Settled) fun _ h => h) fun _ => h.emit
  · refine .pre (P := On Settled) ?_ fun _ hx => hx.1
    exact (h.drop pid _).bind fun _ => raiseInterrupted_spec cfg me

lemma consume_keeps (handle : Handle) : Keeps ctx (On Settled) (consume cfg me handle) := by
  refine fromGeneration fun gen0 => ?_
  have h := robust_since cfg me gen0
  repeat with_reducible refine .bind (aside (by grind)) fun _ => ?_
  exact consumeCommit_spec cfg me gen0 _ _ _ _

end

/-! ## `burst_complete` and `reset_fault` -/

@[grind]
def Returned (gen0 : ℕ) (c : Core) : Prop :=
  ((Fresh gen0 c ∧ Owned c) ∧ c.state ≠ .transmitting) ∧
    (c.shut → c.registry = [] ∧ c.inflight = none ∧ DiskQuiet c)

section

variable (cfg : Setup) (me : Thread) (gen0 : ℕ)

lemma repair_spec : Triple ctx (On (Returned gen0))
      (tripGen .plain >>= fun gen =>
        (if gen ≠ gen0 then reads (.look .repairTest) fun s => decide (s.state = .armed)
          else .ret false) >>= fun armed =>
        if armed then look (·.faultCode) >>= fun code =>
          does (.setState (restoredState code) .repair)
        else .ret ()) (fun _ => On Settled) Fails := by
  refine bind (View.Lasting.reads (Q := fun gen c => Returned gen0 c ∧
    (gen = gen0 → Settled c)) (lasting_of (by grind)) (by grind)) fun gen => ?_
  refine .bind (Q := fun armed => On fun c => Returned gen0 c ∧ (armed = false → Settled c))
    (.ite (fun _ => ?_) fun hgen => ?_) fun armed => ?_
  · exact View.Lasting.reads (lasting_of (by grind)) (by grind)
  · exact returns (by grind)
  refine .ite (fun _ => ?_) fun harmed => returns (by grind)
  refine .bind (peek_spec (lasting_of (by grind)) _) fun code => ?_
  exact writes _ (by grind) (by grind)

lemma completeCommit_spec : Triple ctx (On fun c => Settled c ∧ Since gen0 c) (completeCommit gen0)
      (fun _ => On Settled) Fails := by
  refine bind (View.Lasting.reads (Q := fun tx c => Settled c ∧ (tx = true → Fresh gen0 c))
    (lasting_of (by grind)) (by grind)) fun tx => ?_
  refine .bind (Q := fun same => On fun c => Settled c ∧ (same = true → Fresh gen0 c))
    (.ite (fun htx => ?_) fun _ => ?_) fun same => ?_
  · exact View.Lasting.reads (lasting_of (by grind)) (by grind)
  · exact returns (by grind)
  refine .ite (fun hsame => ?_) fun _ => .ret fun _ h => h.1
  exact .bind (writes (Returned gen0) (by grind) (by grind)) fun _ => repair_spec gen0

lemma retire_keeps {P' : Core → Prop} (h : Robust cfg me ctx (On fun c => Settled c ∧ P' c))
    (pid : PermitId) : Keeps ctx (On fun c => Settled c ∧ P' c) (retire pid) := by
  unfold retire
  repeat' with_reducible refine .bind ?_ fun _ => ?_
  · grind
  all_goals exact .does h.stable fun _ hy _ => ⟨trivial, hy⟩

lemma completeInflight_spec (now : ℚ) (pid : PermitId) (result : TxResult) :
    Triple ctx (On fun c => Settled c ∧ Since gen0 c) (completeInflight cfg me gen0 now pid result)
      (fun _ => On Settled) Fails := by
  have h := robust_since cfg me gen0
  unfold completeInflight
  refine .bind (aside (retire_keeps cfg me h pid)) fun _ => ?_
  refine .bind (writes (fun c => Settled c ∧ Since gen0 c) (by grind) (by grind)) fun _ => ?_
  repeat with_reducible refine .bind (aside (by grind)) fun _ => ?_
  exact (completeCommit_spec gen0).bind fun _ => (robust_settled cfg me).completeRest now

lemma burstComplete_keeps (handle : Handle) (result : TxResult) :
    Keeps ctx (On Settled) (burstComplete cfg me handle result) := by
  refine fromGeneration fun gen0 => ?_
  have h := robust_since cfg me gen0
  have hdone : ∀ {p : Proc Unit}, Keeps ctx (On fun c => Settled c ∧ Since gen0 c) p →
      Triple ctx (On fun c => Settled c ∧ Since gen0 c) p (fun _ => On Settled) Fails :=
    fun hp => hp.mono (fun _ h => h) (fun _ _ h => h.1) fun _ _ h => h.1
  refine .bind (aside (h.look _)) fun now => ?_
  cases handle with
  | foreign pid => exact hdone (.ret ())
  | issued pid samples =>
    refine .bind (aside (h.look _)) fun registered =>
      ite (fun _ => ?_) fun _ => hdone (.ret ())
    refine .bind (aside (h.look _)) fun e => .bind (aside (h.look _)) fun mine => ?_
    refine .ite (fun _ => .ite (fun _ => ?_) fun _ => ?_) fun _ => ?_
    · exact completeInflight_spec cfg me gen0 now pid result
    · exact hdone (retire_keeps cfg me h pid)
    · exact hdone ((h.drop pid _).bind fun _ =>
        h.only (idle_paIdleCheck cfg me now))

lemma resetFault_keeps (req : ResetRequest) : Keeps ctx (On Settled) (resetFault cfg me req) := by
  have h := robust_settled cfg me
  refine .bind (by grind) fun _ => ?_
  refine bind (Q := fun _ => On fun c => Settled c ∧ c.shut = true) ?_ fun _ => ?_
  · exact fun x hx => Spec.mono (fun _ y hy => ⟨lasting_settled _ _ hx hy, hy.shut⟩)
      (fun _ _ h => h) _ _ (safeShutdown_spec cfg me false x)
  -- once shut down, the session's fields may be dropped
  refine .bind (writes (fun c => Settled c ∧ c.shut = true) (by grind) (by grind)) fun _ => ?_
  iterate 3 refine .bind (writes Settled (by grind) (by grind)) fun _ => ?_
  exact h.emit.bind fun _ => h.only (.does .resetEnded)

/-! ## Runs -/

lemma op_keeps : ∀ o : Op, Keeps ctx (On Settled) (o.prog cfg me) :=
  (robust_settled cfg me).op (arm_keeps cfg me) (refresh_keeps cfg me) (authorizeBurst_keeps cfg me)
    (consume_keeps cfg me) (burstComplete_keeps cfg me) (resetFault_keeps cfg me)

lemma settled_of_reached {depth : ℕ} {s₀ : Sys} {x : Sys × Mon}
    (h : Reached watch cfg me depth (s₀, {}) x) : Settled (core x) := by
  refine Reached.invariant ctx (fun _ _ => trivial)
    (rely_of_interference cfg me depth) lasting_settled.stable (op_keeps cfg me) ?_ h
  exact ⟨fun hshut => absurd hshut Bool.false_ne_true, fun _ r _ hmem => absurd hmem List.not_mem_nil⟩

/-- No commit survives a trip: between operations, from a trip or shutdown on and
until the next `arm` begins, nothing of a session is left, whatever operation
the trip interrupted and wherever. -/
theorem quiet_after_trip {depth : ℕ} {s₀ : Sys} {x : Sys × Mon}
    (h : Reached watch cfg me depth (s₀, {}) x) (hshut : x.2.shut) : Quiet (core x) :=
  (settled_of_reached cfg me h).1 hshut

end

/-- An `arm` on the bench, with a trip between the write of its record and its
commit. -/
def interruptedArm : Outcome Stop Unit × (Sys × Mon) :=
  (Op.prog bench 0 (.arm {})).exec watch
    (List.replicate 8 id ++ [interrupt watch bench 0 (.trip .signal)]) [] (bench.idle, {})

lemma reached_interruptedArm : Reached watch bench 0 1 (bench.idle, {}) interruptedArm.2 := by
  refine .op (.arm {}) .start (Prog.exec_executes watch (fun _ => .refl) _ _ _ _ ?_) (by decide +kernel)
  intro f hf y
  rcases List.mem_append.mp hf with hf | hf
  · exact List.eq_of_mem_replicate hf ▸ .refl
  · rw [List.mem_singleton.mp hf]
    refine interference_interrupt watch bench 0 (fun x => ?_) (.trip .signal) y
    simp [watch, Watch.step, Cmd.apply, Mon.see]

theorem quiet_after_interruptedArm :
    interruptedArm.2.2.written = [0] ∧ Quiet (core interruptedArm.2) :=
  ⟨by decide +kernel, quiet_after_trip bench 0 reached_interruptedArm (by decide +kernel)⟩

end HeimdallDaq.Tx.Interrupts
