/-
  HwController/SafeState.lean --- the safe state of the drain.

  `start` tests STATE_IQ_CAL once per frame and hands the answer to
  `_drain_control_requests`, whose handlers may leave the state: INIT always, RECL and
  GAIN where the configuration lets them recalibrate.
-/
import HeimdallDaq.HwController.Fencing

namespace HeimdallDaq.HwController

open Foundation World

/-! ## The handlers that leave the state -/

def Command.Leaves (cfg : Config) : Command → Bool
  | .init => true
  | .recl => cfg.enWireRecal
  | .gain _ => cfg.recalOnGainChange
  | _ => false

namespace Hwc

variable {M : ℕ} {cfg : Config}

lemma handleControlReqest_currentState (v : Verdicts) (sender : Sender) {cmd : Command}
    (hstays : cmd.Leaves cfg = false) (h : Hwc M) :
    (h.handleControlReqest cfg v sender cmd).1.currentState = h.currentState := by
  cases cmd <;> simp only [Command.Leaves, Bool.true_eq_false] at hstays <;>
    simp only [handleControlReqest, handleFreq, handleGain, handleAgc, enableAgc, handleSchd,
      handleEgan, handleBias, handleRotator, hstays, Bool.false_eq_true, false_and, if_false]
  all_goals repeat' first | rfl | split

end Hwc

namespace World

variable {M : ℕ} (cfg : Config)

/-! ## The side conditions -/

variable (w : World M)

def mutationsAllowed : Bool := w.hwc.currentState = .iqCal && w.hwc.iqHeader.frameType ≠ .dummy

def called : Action M → Bool
  | .drain allow => allow = w.mutationsAllowed
  | _ => true

def isQuery (id : ℕ) : Bool := (w.reqs id).all fun r => !r.command.Mutating

/-- When a handler that may leave the state is about to run, only queries are behind
it in the batch. -/
def leavesLast : Action M → Bool
  | .main _ _ =>
    match w.main with
    | .running id todo =>
      (w.reqs id).all fun r => !r.command.Leaves cfg || todo.all fun i => w.isQuery i
    | _ => true
  | _ => true

/-! ## The invariant -/

def Queries (ids : List ℕ) : Prop := ∀ i ∈ ids, w.isQuery i

def Spent : Prop :=
  match w.main with
  | .idle => True
  | .fetching _ => w.allow = false
  | .looking todo => w.allow = false ∨ w.Queries todo
  | .starting id todo => w.isQuery id ∧ (w.allow = false ∨ w.Queries todo)
  | .serving _ todo => w.allow = false ∨ w.Queries todo
  | .fencing _ _ => False
  | .running _ _ => False
  | .finishing _ _ todo => w.allow = false ∨ w.Queries todo
  | .waking _ todo => w.allow = false ∨ w.Queries todo

/-- The FSM is in the safe state wherever the drain may still execute a mutation, and
was in it at each execution so far. -/
structure Safe (w : World M) : Prop where
  ready : w.hwc.currentState = .iqCal ∨ w.Spent
  executed : ∀ id command term fsm outcome,
    Event.executed id command term fsm outcome ∈ w.trace → fsm = .iqCal

variable {cfg}

lemma Spent.congr {w w' : World M} (h : w.Spent) (hmain : w'.main = w.main)
    (hallow : w'.allow = w.allow)
    (hkeep : ∀ i ∈ w.main.ids, w.isQuery i → w'.isQuery i) : w'.Spent := by
  unfold Spent Queries at h ⊢
  cases hp : w.main <;> grind [MainPoint.ids]

lemma isQuery_setReq {w : World M} {id : ℕ} {r r' : CtrRequest} (hr : w.reqs id = some r)
    (hcmd : r'.command = r.command) (i : ℕ) : (w.setReq id r').isQuery i = w.isQuery i := by
  by_cases hi : i = id
  · subst hi
    simp [isQuery, setReq, hr, hcmd]
  · simp [isQuery, setReq, hi]

namespace Safe

variable {w : World M}

attribute [local simp] World.setServer World.setReq World.setMain note World.answer Spent Queries isQuery Function.update_apply

lemma congr {w' : World M} (h : Safe w) (hhwc : w'.hwc = w.hwc) (hmain : w'.main = w.main)
    (hallow : w'.allow = w.allow)
    (hkeep : ∀ i ∈ w.main.ids, w.isQuery i → w'.isQuery i)
    (htrace : ∀ id command term fsm outcome, Event.executed id command term fsm outcome ∈ w'.trace →
        Event.executed id command term fsm outcome ∈ w.trace) : Safe w' where
  ready := h.ready.imp (fun hs => hhwc ▸ hs) fun hs => hs.congr hmain hallow hkeep
  executed := fun id command term fsm outcome hmem =>
    h.executed id command term fsm outcome (htrace id command term fsm outcome hmem)

lemma setServer (h : Safe w) (id : ℕ) (p : ServerPoint) : Safe (w.setServer id p) :=
  h.congr rfl rfl rfl (fun _ _ hq => hq) fun _ _ _ _ _ hmem => hmem

lemma answer (h : Safe w) (id : ℕ) (reply : Reply) : Safe (w.answer id reply) :=
  h.congr rfl rfl rfl (fun _ _ hq => hq) (by simp [note])

variable {id : ℕ}

lemma setReq (h : Safe w) {r r' : CtrRequest} (hr : w.reqs id = some r)
    (hcmd : r'.command = r.command) : Safe (w.setReq id r') :=
  h.congr rfl rfl rfl (fun i _ hq => (isQuery_setReq hr hcmd i).trans hq)
    fun _ _ _ _ _ hmem => hmem

lemma submit (h : Safe w) (hsound : Sound w) (conn : ℕ) (command : Command)
    (alwaysJson : Bool) : Safe (w.submit conn command alwaysJson) := by
  have hknown : ∀ i ∈ w.main.ids, i < w.nextId := fun i hi => hsound.known i (by simp [queued, hi])
  unfold World.submit
  split
  · exact h
  · split
    · exact h
    · refine h.congr rfl rfl rfl ?_ fun _ _ _ _ _ hmem => hmem
      simp
      grind

variable {r : CtrRequest}

lemma cancel (h : Safe w) (hr : w.reqs id = some r) : Safe (w.cancel id r) := by
  unfold World.cancel
  grind [setReq, answer, setServer]

lemma serverStep (h : Safe w) (hr : w.reqs id = some r)
    (act : Action M) : Safe (w.serverStep act id r) := by
  have henqueue : Safe ({ w with queue := w.queue ++ [id] }.setServer id .waiting) :=
    h.congr rfl rfl rfl (fun _ _ hq => hq) fun _ _ _ _ _ hmem => hmem
  unfold World.serverStep
  grind [cancel, answer, setServer]

/-! ## The main loop -/

variable {todo : List ℕ}

lemma look (h : Safe w) (hmain : w.main = .looking (id :: todo))
    (hr : w.reqs id = some r) : Safe (w.look cfg id todo r) := by
  obtain ⟨hready, hexec⟩ := h
  unfold World.look
  split_ifs <;> constructor <;> simp [hmain, hr] at * <;> grind

lemma tryStart (h : Safe w) (hmain : w.main = .starting id todo)
    (hr : w.reqs id = some r) : Safe (w.tryStart id todo r) := by
  obtain ⟨hready, hexec⟩ := h
  unfold World.tryStart
  split_ifs <;> constructor <;> simp [hmain, hr] at * <;> grind

lemma checkFence (h : Safe w) (hmain : w.main = .fencing id todo)
    (r : CtrRequest) : Safe (w.checkFence id todo r) := by
  obtain ⟨hready, hexec⟩ := h
  unfold World.checkFence
  split_ifs <;> constructor <;> simp [hmain] at * <;> grind

lemma execute (h : Safe w) (hmain : w.main = .running id todo) (v : Verdicts)
    (hlast : r.command.Leaves cfg → w.Queries todo) : Safe (w.execute cfg id todo r v) := by
  obtain ⟨hready, hexec⟩ := h
  have hstays (hno : r.command.Leaves cfg = false) :=
    Hwc.handleControlReqest_currentState v .wire hno w.hwc
  constructor <;> simp [World.execute, hmain] at * <;> grind

lemma mainStep (h : Safe w) (v : Verdicts) (payload : String)
    (hlast : w.leavesLast cfg (.main v payload)) : Safe (w.mainStep cfg v payload) := by
  have hreq : ∀ {id : ℕ} {f : CtrRequest → World M},
      (∀ r, w.reqs id = some r → Safe (f r)) → Safe (w.withReq id f) := withReq_of h
  unfold World.mainStep
  split <;> rename_i hmain
  · exact h
  · obtain ⟨hready, hexec⟩ := h
    split <;> constructor <;> simp [hmain] at * <;> grind
  · exact ⟨Or.inr trivial, h.executed⟩
  · exact hreq fun r hr => h.look hmain hr
  · exact hreq fun r hr => h.tryStart hmain hr
  · refine hreq fun r hr => ?_
    obtain ⟨hready, hexec⟩ := h
    constructor <;> simp [serve, hmain] at * <;> grind
  · exact hreq fun r _ => h.checkFence hmain r
  · refine hreq fun r hr => h.execute hmain v fun hleaves => ?_
    simpa [leavesLast, hmain, hr, hleaves, Queries] using hlast
  · refine hreq fun r hr => ?_
    obtain ⟨hready, hexec⟩ := h
    constructor <;> simp [finish, hmain] at * <;> grind
  · refine hreq fun r hr => ?_
    obtain ⟨hready, hexec⟩ := h
    constructor <;> simp [hmain] at * <;> grind

lemma step (h : Safe w) (hsound : Sound w) {act : Action M} (hcalled : w.called act)
    (hlast : w.leavesLast cfg act) : Safe (w.step cfg act) := by
  have hserver : ∀ {id : ℕ} {a : Action M}, Safe (w.withReq id fun r => w.serverStep a id r) := by
    intro id a
    exact withReq_of h fun r hr => h.serverStep hr a
  have hsame : ∀ {w' : World M}, w'.hwc = w.hwc → w'.main = w.main → w'.allow = w.allow →
      w'.reqs = w.reqs → w'.trace = w.trace → Safe w' := by
    intro w' hhwc hmain hallow hreqs htrace
    refine h.congr hhwc hmain hallow (fun i _ hq => ?_) (by simp [htrace])
    rwa [isQuery, hreqs]
  cases act with
  | connect conn => grind [step, setConn]
  | xack conn term clusterId => grind [step, handleXack, setConn]
  | persistFence conn => grind [step, persistFence]
  | submit conn command alwaysJson => exact h.submit hsound conn command alwaysJson
  | put id => exact hserver
  | full id => exact hserver
  | timeout id => exact hserver
  | cancel id => exact hserver
  | wake id => exact hserver
  | frame hdr inp =>
    -- outside the drain nothing is executed, whatever state the frame leads to
    have houtside (hmain : w.main = .idle) : Safe { w with hwc := w.hwc.frameStep cfg hdr inp } :=
      ⟨Or.inr (by simp [hmain]), h.executed⟩
    grind [step]
  | drain allow =>
    have hdrain : Safe { w with deferred := [], allow := allow, main := .fetching w.deferred } := by
      obtain ⟨hready, hexec⟩ := h
      constructor <;> simp [called, mutationsAllowed] at * <;> grind
    grind [step, setMain]
  | main v payload => exact h.mainStep v payload hlast
  | restart hwc => exact ⟨Or.inr trivial, h.executed⟩

end Safe

/-- In every run in which a handler that may leave STATE_IQ_CAL is the last mutation
of its batch, every mutating command is executed in STATE_IQ_CAL. -/
theorem executed_in_safe_state (hwc : Hwc M) (fenceFile : Option ℕ) (actions : List (Action M))
    (hruns : Along (step cfg) (fun w a => w.called a ∧ w.leavesLast cfg a)
      (boot hwc fenceFile 0 []) actions) :
    ∀ id command term fsm outcome, Event.executed id command term fsm outcome ∈
      (run (step cfg) (boot hwc fenceFile 0 []) actions).trace → fsm = .iqCal := by
  have hstart : Safe (boot hwc fenceFile 0 []) := ⟨Or.inr trivial, by simp [boot]⟩
  have hkept : ∀ (w : World M) a, Safe w ∧ Sound w → w.called a ∧ w.leavesLast cfg a →
      Safe (w.step cfg a) ∧ Sound (w.step cfg a) := fun w a h hadm =>
    ⟨h.1.step h.2 hadm.1 hadm.2, h.2.step cfg a⟩
  exact (run_invariant (step cfg) hkept actions _ ⟨hstart, Sound.start hwc fenceFile⟩ hruns).1.executed

def oneFrame : Action 1 := .frame ⟨.data, 0, 6, 433000000, fun _ => 0, 0⟩ {}

/-- One channel is brought to STATE_IQ_CAL, two connections submit a command each and
the main loop drains the queue. -/
def batchOf (first second : Command) : List (Action 1) :=
  [oneFrame, .connect 0, .connect 1, .submit 0 first true, .put 0,
    .submit 1 second true, .put 1, .drain true] ++ List.replicate 16 (.main {} "")

/-- INIT behind FREQ. -/
theorem executed_in_safe_state_initLast :
    let w := run (step {}) (boot oneChannel none 0 []) (batchOf (.freq 868000000) .init)
    (∃ outcome, Event.executed 1 .init 0 .iqCal outcome ∈ w.trace) ∧
      ∀ id command term fsm outcome, Event.executed id command term fsm outcome ∈ w.trace →
        fsm = .iqCal := by
  intro w
  refine ⟨⟨(some true, .ok), ?_⟩, ?_⟩
  · exact List.mem_cons_self ..
  · exact executed_in_safe_state oneChannel none _ (by decide)

/-- FREQ behind INIT in one batch is executed in STATE_INIT. -/
theorem exists_executed_in_init :
    let actions := batchOf .init (.freq 868000000)
    Along (step {}) (fun w a => w.called a) (boot oneChannel none 0 []) actions ∧
      Event.executed 1 (.freq 868000000) 0 .init (some true, .ok) ∈
        (run (step {}) (boot oneChannel none 0 []) actions).trace := by
  intro actions
  exact ⟨by decide, List.mem_cons_self ..⟩

end World

end HeimdallDaq.HwController
