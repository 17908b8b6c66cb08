/-
  Tx/Latch.lean --- how the state leaves FAULT.

  Every store of the state that is not FAULT follows a test that found another state:
  `mark`, `arm`, `consume`, `burst_complete` and `_undo_interrupted` test and then
  store, in two steps.
-/
import HeimdallDaq.Tx.Parties

namespace HeimdallDaq.Tx.Latch

open Foundation Triple
open Prog (does reads)

/-! ## What is remembered of a run -/

structure Mon where
  stored : Party → Bool := fun _ => false
  latched : List Party := []
  /-- a `reset_fault` is running -/
  resetting : Bool := false
  clean : Bool := false
  escaped : Bool := false

@[grind]
def tests : Site → Bool
  | .armTest | .consumeTest | .completeTest | .repairTest | .undoTest | .markTest => true
  | _ => false

/-- A command of `t` does not take the state out of FAULT, unless it is the store of a
`reset_fault` that began after every trip that latched had returned. -/
def Honest (t : Party) (c : Cmd) (x : Sys × Mon) : Prop :=
  x.1.state = .fault → (c.apply x.1).state = .fault ∨
    (t = .operator ∧ c = .setState .safe .reset ∧ x.2.clean)

instance (t : Party) (c : Cmd) (x : Sys × Mon) : Decidable (Honest t c x) :=
  inferInstanceAs (Decidable (_ → _))

def storedAfter (t : Party) : Cmd → (Party → Bool) → Party → Bool
  | .look site, stored => if tests site then Function.update stored t false else stored
  | .setState .fault _, _ => fun _ => true
  | _, stored => stored

def latchedAfter (t : Party) : Cmd → List Party → List Party
  | .setState _ .latch, latched => t :: latched
  | .note .tripReturned, latched => latched.filter fun u => decide (u ≠ t)
  | _, latched => latched

def resettingAfter (t : Party) : Cmd → Bool → Bool
  | .look .resetBegin, resetting => if t = .operator then true else resetting
  | .note .resetEnded, resetting => if t = .operator then false else resetting
  | _, resetting => resetting

def cleanAfter (t : Party) (latched : List Party) : Cmd → Bool → Bool
  | .look .resetBegin, clean => if t = .operator then latched.isEmpty else clean
  | .setState _ .latch, _ => false
  | _, clean => clean

def see (t : Party) (c : Cmd) (s : Sys) (m : Mon) : Mon where
  stored := storedAfter t c m.stored
  latched := latchedAfter t c m.latched
  resetting := resettingAfter t c m.resetting
  clean := cleanAfter t m.latched c m.clean
  escaped := m.escaped || !decide (Honest t c (s, m))

def watch : Watch Sys (Party × Cmd) Mon where
  apply c := c.2.apply
  obs c := see c.1 c.2

/-- The interleavings considered: no trip stores FAULT between a test of the state and the
store that depends on it, `reset_fault` is not called while a trip is between its latch and its
return, and no trip latches during it. -/
def Apart (t : Party) (c : Cmd) (x : Sys × Mon) : Prop :=
  match c with
  | .setState st writer =>
    (st ≠ .fault → writer ≠ .reset → x.2.stored t = false) ∧
      (writer = .latch → x.2.resetting = false)
  | .look site => site = .resetBegin → x.2.latched = []
  | _ => True

instance (t : Party) (c : Cmd) (x : Sys × Mon) : Decidable (Apart t c x) := by
  unfold Apart
  split <;> infer_instance

/-! ## What the parties owe each other -/

@[grind]
def Sure (t : Party) (x : Sys × Mon) : Prop := x.2.stored t = false → x.1.state ≠ .fault

@[grind]
def Held (x : Sys × Mon) : Prop := x.2.resetting ∧ x.2.clean

variable {c : Cmd}

lemma state_apply (h : ∀ st writer, c ≠ .setState st writer) (s : Sys) :
    (c.apply s).state = s.state := by
  cases c <;> grind [Cmd.apply]

lemma Sure.step {t u : Party} (htu : t ≠ u) {x : Sys × Mon} (h : Sure u x) :
    Sure u (watch.step (t, c) x) := by
  intro hstored
  cases c with
  | setState st writer =>
    cases st with
    | fault => exact absurd hstored (by simp [watch, see, storedAfter])
    | _ => exact TxState.noConfusion
  | look site =>
    have hsame : storedAfter t (.look site) x.2.stored u = x.2.stored u := by
      simp only [storedAfter]
      grind
    exact h (hsame ▸ hstored)
  | writeRecord r ok => cases ok <;> exact h hstored
  | _ => exact h hstored

variable {t : Party}

lemma Held.step (ht : t ≠ .operator) {x : Sys × Mon} (h : Held x)
    (hapart : Apart t c x) : Held (watch.step (t, c) x) := by
  cases c with
  | look site => cases site <;> simp_all [Held, watch, see, resettingAfter, cleanAfter]
  | note point => cases point <;> simp_all [Held, watch, see, resettingAfter, cleanAfter]
  | setState st writer => cases writer <;> simp_all [Held, watch, see, resettingAfter, cleanAfter, Apart]
  | _ => exact h

def team : Team Party Sys (Party × Cmd) Mon where
  toWatch := watch
  admits _ c x := Apart c.1 c.2 x
  rely t x y := (Sure t x → Sure t y) ∧ (t = .operator → Held x → Held y)
  guar t c x := c.1 = t ∧ Honest t c.2 x
  rely_refl _ _ := ⟨id, fun _ => id⟩
  rely_trans _ _ _ _ hxy hyz := ⟨hyz.1 ∘ hxy.1, fun ht => hyz.2 ht ∘ hxy.2 ht⟩
  rely_of_guar := by
    rintro t u ⟨_, c⟩ x htu hapart ⟨rfl, -⟩
    exact ⟨fun h => h.step htu, fun hu h => h.step (hu ▸ htu) hapart⟩

instance (t : Party) (c : Party × Cmd) (x : Sys × Mon) : Decidable (team.admits t c x) :=
  inferInstanceAs (Decidable (Apart c.1 c.2 x))

abbrev ctx (t : Party) : Context Sys Cmd Mon := (team.ctx t).comap (Prod.mk t)

/-! ## Tests and stores -/

@[grind]
def Plain : Cmd → Prop
  | .look site => site ≠ .resetBegin
  | .note point => point ≠ .resetEnded
  | .setState _ writer => writer ≠ .latch
  | _ => True

/-- An assertion of `t` that plain commands keep. -/
structure Steady (t : Party) (J : Sys × Mon → Prop) : Prop where
  stable : (ctx t).Stable J
  step : ∀ c, Plain c → ∀ x, J x → J ((ctx t).step c x)

lemma steady_true (t : Party) : Steady t fun _ => True :=
  ⟨fun _ _ _ _ => trivial, fun _ _ _ _ => trivial⟩

lemma steady_held : Steady .operator Held := by
  refine ⟨fun x y h hrely => hrely.2 rfl h, fun c hc x h => ?_⟩
  cases c with
  | look site => cases site <;> first | exact h | exact absurd rfl hc
  | note point => cases point <;> first | exact h | exact absurd rfl hc
  | setState st writer => cases writer <;> first | exact h | exact absurd rfl hc
  | _ => exact h

lemma stable_sure (t : Party) : (ctx t).Stable (Sure t) := fun _ _ h hrely => hrely.1 h

lemma Steady.stable_and {J J' : Sys × Mon → Prop} (h : (ctx t).Stable J)
    (h' : (ctx t).Stable J') : (ctx t).Stable fun x => J x ∧ J' x :=
  fun x y hx hrely => ⟨h x y hx.1 hrely, h' x y hx.2 hrely⟩

lemma honest_of_not_store (h : ∀ st writer, c ≠ .setState st writer)
    (x : Sys × Mon) : (ctx t).guar c x :=
  ⟨rfl, fun hfault => .inl ((state_apply h x.1).trans hfault)⟩

section

variable {J : Sys × Mon → Prop} {E : Stop → Sys × Mon → Prop}

lemma Steady.test (hJ : Steady t J) {site : Site} (hsite : tests site) {f : Sys → Bool}
    {b : Bool} (hf : ∀ s, f s = b → s.state ≠ .fault) :
    Triple (ctx t) J (reads (.look site) f : Proc Bool) (fun a x => J x ∧ (a = b → Sure t x)) E := by
  exact .reads hJ.stable fun y hy _ =>
    ⟨honest_of_not_store (by simp) y, hJ.step _ (by grind) y hy, fun ha _ => hf y.1 ha⟩

lemma Steady.test_is (hJ : Steady t J) {site : Site} (hsite : tests site = true) {st : TxState}
    (hst : st ≠ .fault) :
    Triple (ctx t) J (reads (.look site) fun s => decide (s.state = st) : Proc Bool)
      (fun a x => J x ∧ (a = true → Sure t x)) E :=
  hJ.test hsite fun s hs => by rw [of_decide_eq_true hs]; exact hst

lemma Steady.store (hJ : Steady t J) {st : TxState} {writer : Writer} (hlatch : writer ≠ .latch)
    (hreset : writer ≠ .reset) :
    Triple (ctx t) (fun x => J x ∧ (st = .fault ∨ Sure t x)) (does (.setState st writer) : Proc Unit)
      (fun _ => J) E := by
  have hstable : (ctx t).Stable fun x => J x ∧ (st = .fault ∨ Sure t x) :=
    Steady.stable_and hJ.stable fun x y h hrely => h.imp_right hrely.1
  refine .does hstable fun y hy hadm =>
    ⟨⟨rfl, fun hfault => ?_⟩, hJ.step (.setState st writer) hlatch y hy.1⟩
  -- the party is sure that the state is not FAULT, unless it stores FAULT itself
  by_cases hst : st = .fault
  · exact .inl hst
  · exact absurd hfault (hy.2.resolve_left hst (hadm.1 hst hreset))

lemma Steady.markState (hJ : Steady t J) (fault : Bool) : Keeps (ctx t) J (Tx.markState fault) := by
  have htest : Triple (ctx t) J
      (if fault then .ret true else reads (.look .markTest) fun s => decide (s.state = .fault) : Proc Bool)
      (fun latched x => J x ∧ (latched = false → Sure t x)) fun _ => J := by
    refine .ite (fun _ => .ret fun x hx => ⟨hx, fun h => Bool.noConfusion h⟩) fun _ => ?_
    exact hJ.test rfl fun s hs => of_decide_eq_false hs
  refine htest.bind fun latched => ?_
  have hstable : (ctx t).Stable fun x => J x ∧ (latched = false → Sure t x) :=
    Steady.stable_and hJ.stable fun x y h hrely hl => hrely.1 (h hl)
  refine .bind (Q := fun _ x => J x ∧ (latched = false → Sure t x)) (.reads hstable
    fun y hy _ => ⟨honest_of_not_store (by simp) y, hJ.step _ (by simp [Plain]) y hy.1, hy.2⟩) fun _ => ?_
  refine .ite (fun _ => .ret fun _ h => h.1) fun _ => ?_
  exact (hJ.store (by simp) (by simp)).pre (by grind)

/-! ## Trips and shutdowns -/

lemma Steady.closing (hJ : Steady t J) (cfg : Setup) : ClosingKept cfg (ctx t) J where
  stable := hJ.stable
  markState := hJ.markState
  step := by
    intro c hc y hy _
    have hplain : Plain c ∧ ∀ st writer, c ≠ .setState st writer := by
      cases hc with
      | lines h => cases h <;> simp [Plain]
      | _ => simp [Plain]
    exact ⟨honest_of_not_store hplain.2 y, hJ.step c hplain.1 y hy⟩

variable (t) in
lemma keeps_handler (cfg : Setup) (me : Thread) (h : Handler) :
    Keeps (ctx t) (fun _ => True) (h.prog cfg me) := by
  have hclosing := (steady_true t).closing cfg
  cases h with
  | safeShutdown => exact hclosing.safeShutdown me false
  | trip code =>
    refine hclosing.trip (.does (fun _ _ _ _ => trivial) fun y _ _ => ?_) me code
    exact ⟨⟨rfl, fun _ => .inl rfl⟩, trivial⟩

end

/-! ## Operations -/

@[grind]
def Storeless (c : Cmd) : Prop := ∀ st writer, c ≠ .setState st writer

@[grind]
def Bland (c : Cmd) : Prop := Storeless c ∧ ∀ site, c = .look site → tests site = false

variable {α : Type}

abbrev Free (p : Proc α) : Prop := Keeps (ctx .operator) (fun _ => True) p

lemma free_of_only {p : Proc α} (hp : Only Storeless p) : Free p :=
  Keeps.of_only (fun _ _ _ _ => trivial)
    (fun _ hc y _ _ => ⟨honest_of_not_store hc y, trivial⟩) hp

@[grind ←]
lemma free_does (hc : Storeless c) : Free (does c : Proc Unit) := free_of_only (.does hc)

lemma store_sure {st : TxState} {writer : Writer} (hlatch : writer ≠ .latch)
    (hreset : writer ≠ .reset) :
    Triple (ctx .operator) (Sure .operator) (does (.setState st writer) : Proc Unit)
      (fun _ _ => True) fun _ _ => True :=
  ((steady_true .operator).store hlatch hreset).pre fun _ hx => ⟨trivial, .inr hx⟩

abbrev KeepsSure (p : Proc α) : Prop :=
  Triple (ctx .operator) (Sure .operator) p (fun _ => Sure .operator) fun _ _ => True

@[grind ←]
lemma keepsSure_of_only {p : Proc α} (hp : Only Bland p) : KeepsSure p := by
  have hkeeps : Keeps (ctx .operator) (Sure .operator) p := by
    refine .of_only (stable_sure _) (fun c hc y hy _ => ⟨honest_of_not_store hc.1 y, ?_⟩) hp
    intro hstored
    rw [show ((ctx .operator).step c y).1.state = y.1.state from state_apply hc.1 y.1]
    have hsame : storedAfter .operator c y.2.stored = y.2.stored := by
      cases c <;> grind [storedAfter]
    exact hy (hsame ▸ hstored)
  exact hkeeps.mono (fun _ h => h) (fun _ _ h => h) fun _ _ _ => trivial

section

variable (cfg : Setup) (me : Thread)

lemma bland_lines {p : Proc α} (h : Only (Cmd.Lines cfg) p) : Only Bland p := by
  exact h.mono (by grind)

lemma bland_look (f : Sys → α) : Only Bland (look f) := by
  grind

lemma robust : Robust cfg me (ctx .operator) fun _ => True where
  stable _ _ _ _ := trivial
  idle c hc y _ _ := ⟨honest_of_not_store (by cases hc <;> simp) y, trivial⟩
  drop pid why := free_of_only <|
    (Only.does fun _ _ => Cmd.noConfusion).bind fun _ =>
      (Only.does fun _ _ => Cmd.noConfusion).bind fun _ => Only.does fun _ _ => Cmd.noConfusion
  shutdown fault := ((steady_true .operator).closing cfg).safeShutdown me fault
  trip code := keeps_handler .operator cfg me (.trip code)

/-! ### `_undo_interrupted` -/

@[grind ←]
lemma undoState_free : Free undoState := by
  refine bind ((steady_true .operator).test (b := true) rfl (by grind [TxState.isLive])) fun live => ?_
  refine .ite (fun hlive => ?_) fun _ => .ret fun _ _ => trivial
  have hcode : KeepsSure (look (·.faultCode)) := keepsSure_of_only (bland_look _)
  exact .pre (hcode.bind fun code => store_sure (by simp) (by simp)) fun x hx => hx.2 hlive

@[grind ←]
lemma undoInterrupted_free (session : Option SessionId) (entry : Option PermitId) :
    Free (undoInterrupted (α := α) cfg me session entry) := by
  have h := robust cfg me
  unfold undoInterrupted undoInflight undoRecord
  repeat' first | (with_reducible refine .bind ?_ fun _ => ?_) | split
  all_goals grind

/-! ### `arm` -/

lemma armState_sure :
    Triple (ctx .operator) (fun _ => True) (armState cfg me) (fun _ => Sure .operator)
      fun _ _ => True := by
  have h := robust cfg me
  refine .bind (h.look _) fun disabled => .bind (h.only (idle_refuseIf cfg me _ _)) fun _ => ?_
  refine .bind ((steady_true .operator).test (b := false) rfl fun s hs => of_decide_eq_false hs)
    fun latched => .bind (Q := fun _ => Sure .operator) ?_ fun _ => ?_
  · cases latched with
    | true =>
      refine .ite (fun _ => ?_) fun hnot => absurd rfl hnot
      exact .bind (h.emit.pre fun _ _ => trivial) fun _ => .throw fun _ _ => trivial
    | false => exact (keepsSure_of_only (bland_lines cfg (by grind))).pre fun x hx => hx.2 rfl
  · exact .bind (keepsSure_of_only (by grind)) fun _ => keepsSure_of_only (bland_lines cfg (by grind))

lemma armWrite_sure (r : ArmRecord) : KeepsSure (armWrite cfg me r) := by
  exact keepsSure_of_only (by grind [armWrite, bland_lines cfg])

variable (gen0 : ℕ)

lemma checkNotInterrupted_sure : KeepsSure (checkNotInterrupted cfg me gen0 (.armCheck gen0)) := by
  exact keepsSure_of_only (by grind [checkNotInterrupted, bland_lines cfg])

lemma armCommit_spec (r : ArmRecord) (now dur : ℚ) :
    Triple (ctx .operator) (Sure .operator) (armCommit r now dur) (fun _ _ => True)
      fun _ _ => True := by
  unfold armCommit
  repeat with_reducible refine .bind (keepsSure_of_only (by grind)) fun _ => ?_
  exact store_sure (by simp) (by simp)

lemma armFinish_spec (r : ArmRecord) (now dur : ℚ) :
    Triple (ctx .operator) (Sure .operator) (armFinish cfg me gen0 r now dur) (fun _ _ => True)
      fun _ _ => True := by
  have h := robust cfg me
  refine .bind (checkNotInterrupted_sure cfg me gen0) fun _ => ?_
  refine .bind (armWrite_sure cfg me r) fun _ => ?_
  refine .bind (armCommit_spec r now dur) fun _ => (?_ : Keeps _ _ _)
  repeat' with_reducible refine .bind ?_ fun _ => ?_
  all_goals grind

lemma arm_free (req : ArmRequest) : Free (arm cfg me req) := by
  refine .bind (free_of_only (.reads (by simp [Storeless]))) fun gen0 => ?_
  refine bind (armState_sure cfg me) fun _ => ?_
  repeat with_reducible refine .bind (keepsSure_of_only (by grind [bland_lines cfg])) fun _ => ?_
  exact bind (armFinish_spec cfg me gen0 _ _ _) fun _ => ret fun _ _ => trivial

/-! ### `consume` -/

lemma consumeTest_sure (pid : PermitId) :
    Triple (ctx .operator) (fun _ => True) (consumeTest gen0 pid)
      (fun ok x => ok = true → Sure .operator x) fun _ _ => True := by
  refine .bind (free_of_only (.reads (by simp [Storeless]))) fun gen =>
    bind (Q := fun armed x => armed = true → Sure .operator x)
      (.ite (fun _ => .ret fun _ _ h => Bool.noConfusion h) fun _ => ?_) fun armed => ?_
  · exact ((steady_true .operator).test_is rfl (by simp)).mono (fun _ h => h) (fun _ _ h => h.2)
      fun _ _ h => h
  · refine .ite (fun harmed => ?_) fun _ => .ret fun _ _ h => Bool.noConfusion h
    have hentry : KeepsSure (reads (.look (.consumeEntry pid)) fun s => decide (pid ∈ s.registry)) :=
      keepsSure_of_only (by grind)
    exact hentry.mono (fun x hx => hx harmed) (fun _ _ h _ => h) fun _ _ h => h

@[grind ←]
lemma consumeCommit_free (pid : PermitId) (e : Entry) (sess : Option SessionId)
    (start : ℚ) : Free (consumeCommit cfg me gen0 pid e sess start) := by
  have h := robust cfg me
  refine bind (consumeTest_sure gen0 pid) fun ok => ite (fun hok => ?_) fun _ => ?_
  · refine pre (P := Sure .operator) ?_ fun x hx => hx hok
    repeat with_reducible refine .bind (keepsSure_of_only (by grind)) fun _ => ?_
    refine .bind (store_sure (by simp) (by simp)) fun _ => (?_ : Keeps _ _ _)
    repeat' first | (with_reducible refine .bind ?_ fun _ => ?_) | split
    all_goals grind
  · exact .pre (P := fun _ => True) (by grind : Keeps _ _ _) fun _ _ => trivial

lemma consume_free (handle : Handle) : Free (consume cfg me handle) := by
  have h := robust cfg me
  unfold consume
  repeat' first | (with_reducible refine .bind ?_ fun _ => ?_) | split
  all_goals grind

/-! ### `burst_complete` -/

@[grind ←]
lemma completeCommit_free : Free (completeCommit gen0) := by
  refine bind ((steady_true .operator).test_is rfl (by simp)) fun tx => ?_
  refine .bind (Q := fun same x => same = true → Sure .operator x)
    (.ite (fun htx => ?_) fun _ => .ret fun _ _ h => Bool.noConfusion h) fun same => ?_
  · have hgen : KeepsSure (reads (.look (.completeGen gen0)) fun s => decide (s.tripGen = gen0)) :=
      keepsSure_of_only (by grind)
    exact hgen.mono (fun x hx => hx.2 htx) (fun _ _ h _ => h) fun _ _ h => h
  refine .ite (fun hsame => ?_) fun _ => .ret fun _ _ => trivial
  refine .bind ((store_sure (by simp) (by simp)).pre fun x hx => hx hsame) fun _ =>
    bind (free_of_only (by grind)) fun gen => ?_
  refine .bind (Q := fun armed x => armed = true → Sure .operator x)
    (.ite (fun _ => ?_) fun _ => .ret fun _ _ h => Bool.noConfusion h) fun armed => ?_
  · exact ((steady_true .operator).test_is rfl (by simp)).mono (fun _ h => h) (fun _ _ h => h.2)
      fun _ _ h => h
  refine .ite (fun harmed => ?_) fun _ => .ret fun _ _ => trivial
  refine .pre (P := Sure .operator) ?_ fun x hx => hx harmed
  exact .bind (keepsSure_of_only (bland_look _)) fun code => store_sure (by simp) (by simp)

lemma burstComplete_free (handle : Handle) (result : TxResult) :
    Free (burstComplete cfg me handle result) := by
  have hdo : ∀ {c : Cmd}, Storeless c → Free (does c : Proc Unit) :=
    fun hc => free_of_only (.does hc)
  refine (robust cfg me).burstComplete_of_parts (fun pid => ?_) (hdo (by simp [Storeless]))
    completeCommit_free handle result
  exact (hdo (by simp [Storeless])).bind fun _ => (hdo (by simp [Storeless])).bind fun _ =>
    hdo (by simp [Storeless])

/-! ### `reset_fault` -/

variable (req : ResetRequest)

lemma resetChecks_held :
    Triple (ctx .operator) (fun _ => True) (resetChecks cfg me req) (fun _ => Held)
      fun _ _ => True := by
  have hheld : ∀ {α : Type} {p : Proc α}, Only (Cmd.Lines cfg) p →
      Triple (ctx .operator) Held p (fun _ => Held) fun _ _ => True := fun hp =>
    ((steady_held.closing cfg).only (closing_lines cfg hp)).mono (fun _ h => h) (fun _ _ h => h)
      fun _ _ _ => trivial
  refine .bind (Q := fun _ => Held) ?_ fun disabled => ?_
  · refine .reads (fun _ _ _ _ => trivial) fun y _ hadm => ⟨honest_of_not_store (by simp) y, ?_⟩
    have hnone : y.2.latched = [] := hadm rfl
    exact ⟨rfl, List.isEmpty_iff.mpr hnone⟩
  iterate 6 with_reducible refine .bind (hheld (by grind)) fun _ => ?_
  refine .ask fun a => ?_
  iterate 2 with_reducible refine .bind (hheld (by grind)) fun _ => ?_
  exact hheld (by grind)

lemma resetFault_free : Free (resetFault cfg me req) := by
  have h := robust cfg me
  refine bind (Q := fun _ => Held) ((resetChecks_held cfg me req).catching fun e => ?_)
    fun _ => ?_
  · exact bind (free_of_only (by grind)) fun _ => throw fun _ _ => trivial
  refine .bind (Q := fun _ => Held) (((steady_held.closing cfg).safeShutdown me false).mono
    (fun _ h => h) (fun _ _ h => h) fun _ _ _ => trivial) fun _ => ?_
  refine .bind (Q := fun _ _ => True) (.does steady_held.stable fun y hy _ =>
    ⟨⟨rfl, fun _ => .inr ⟨rfl, rfl, hy.2⟩⟩, trivial⟩) fun _ => (?_ : Keeps _ _ _)
  grind

/-! ### The others -/

lemma refresh_free : Free (refresh cfg me) := by
  have h := robust cfg me
  refine h.refresh_of_write (fun t => free_of_only (by grind)) fun r now => ?_
  unfold refreshWrite
  repeat' first | (with_reducible refine .bind ?_ fun _ => ?_) | split
  all_goals first | grind | exact free_of_only (by grind)

variable (req : BurstRequest)

@[grind ←]
lemma issue_free (gen0 : ℕ) (now ahead : ℚ) : Free (issue cfg me req gen0 now ahead) := by
  have h := robust cfg me
  unfold issue
  repeat' first | (with_reducible refine .bind ?_ fun _ => ?_) | split
  all_goals grind

lemma authorizeBurst_free : Free (authorizeBurst cfg me req) := by
  have h := robust cfg me
  unfold authorizeBurst
  repeat' first | (with_reducible refine .bind ?_ fun _ => ?_) | split
  all_goals grind

lemma op_free : ∀ op : Op, Free (op.prog cfg me) :=
  (robust cfg me).op (arm_free cfg me) (refresh_free cfg me) (authorizeBurst_free cfg me)
    (consume_free cfg me) (burstComplete_free cfg me) (resetFault_free cfg me)

end

/-! ## Runs -/

lemma meets (cfg : Setup) (S : Scene) (s : Sys) : team.Meets (S.pool cfg (s, {})) := by
  refine Scene.meets (J := fun _ _ => True) (fun op _ => op_free cfg S.me op)
    (fun i me h => keeps_handler (.handler i) cfg me h) (fun d => ?_) fun _ => trivial
  exact .does (fun _ _ _ _ => trivial) fun y _ _ => ⟨honest_of_not_store (by simp) y, trivial⟩

/-- In every interleaving of an operator with trips, shutdowns and the clock in which no
FAULT is stored between a test of the state and the store that depends on it and no trip
overlaps a `reset_fault`, the state leaves FAULT only through a `reset_fault` that began after
every trip that latched had returned. -/
theorem never_escaped (cfg : Setup) (S : Scene) (s : Sys) (moves : List (Move Party Answer))
    (h : Along (Pool.step watch) team.Allows (S.pool cfg (s, {})) moves) :
    (run (Pool.step watch) (S.pool cfg (s, {})) moves).shared.2.escaped = false := by
  have hinv : ∀ t (c : Party × Cmd) (x : Sys × Mon), x.2.escaped = false → team.admits t c x →
      team.guar t c x → (watch.step c x).2.escaped = false := by
    rintro t ⟨_, c⟩ x hx _ ⟨rfl, hhonest⟩
    simp [watch, see, hx, hhonest]
  exact (Team.Meets.run hinv (meets cfg S s) rfl h).2

namespace Bench

def armed : Sys := { bench.idle with state := .armed }

def steps (t : Party) (n : ℕ) : List (Move Party Answer) :=
  (List.replicate n [.act t, .ask t default]).flatten

def reset : Scene where
  ops := [.resetFault { operatorGiven := true, typed := some (some .signal) }]
  handlers _ := (0, .trip .signal)

/-- The trip returns before the reset begins. -/
theorem never_escaped_reset :
    (run (Pool.step watch) (reset.pool bench (armed, {})) (steps (.handler 0) 40)).shared.1.state =
      .fault ∧ (run (Pool.step watch) (reset.pool bench (armed, {}))
      (steps (.handler 0) 40 ++ steps .operator 50)).shared.1.state = .safe ∧
    (run (Pool.step watch) (reset.pool bench (armed, {}))
      (steps (.handler 0) 40 ++ steps .operator 50)).shared.2.escaped = false :=
  ⟨by decide +kernel, by decide +kernel, never_escaped bench reset armed _ (by decide +kernel)⟩

def disarm : Scene where
  ops := [.disarm]
  handlers _ := (0, .trip .signal)

def tripped : List (Move Party Answer) := List.replicate 5 (.act .operator) ++ steps (.handler 0) 40

/-- … then a signal handler trips and returns, and `disarm` stores SAFE: no `reset_fault` was
called. -/
theorem escaped_in_disarm :
    (run (Pool.step watch) (disarm.pool bench (armed, {})) tripped).shared.1.state = .fault ∧
    (run (Pool.step watch) (disarm.pool bench (armed, {})) tripped).shared.2.latched = [] ∧
    (run (Pool.step watch) (disarm.pool bench (armed, {}))
      (tripped ++ [.act .operator])).shared.1.state = .safe ∧
    (run (Pool.step watch) (disarm.pool bench (armed, {}))
      (tripped ++ [.act .operator])).shared.2.escaped := by
  refine ⟨?_, ?_, ?_, ?_⟩ <;> decide +kernel

end Bench

end HeimdallDaq.Tx.Latch
