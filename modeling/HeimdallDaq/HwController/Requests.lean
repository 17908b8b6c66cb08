/-
  HwController/Requests.lean --- a control request runs at most once.

  `Sound` ties the state of each request to what was recorded of it: a request that is
  pending or cancelled has not run, the one that is running is the one the main loop
  stands at, and one that is done was executed once or refused once, with the recorded
  result.
-/
import HeimdallDaq.HwController.Control

namespace HeimdallDaq.HwController

open Foundation List World MainPoint

def Event.Runs (id : ℕ) : Event → Bool
  | .served i => i = id
  | .executed i _ _ _ _ => i = id
  | _ => false

def runsOf (trace : List Event) (id : ℕ) : ℕ := trace.countP (Event.Runs id)

@[grind =]
lemma runsOf_cons (e : Event) (trace : List Event) (id : ℕ) :
    runsOf (e :: trace) id = runsOf trace id + if e.Runs id then 1 else 0 := by
  simp [runsOf, countP_cons]

def Settled (trace : List Event) (id : ℕ) : Finish → Prop
  | .ran outcome =>
    runsOf trace id = 1 ∧
      ((∃ command term fsm, Event.executed id command term fsm outcome ∈ trace) ∨
        (Event.served id ∈ trace ∧ outcome = (some true, .ok)))
  | .stale => runsOf trace id = 0 ∧ Event.refused id ∈ trace

variable {trace : List Event}

@[grind ←]
lemma Settled.cons {id : ℕ} {fin : Finish} (h : Settled trace id fin)
    {e : Event} (he : e.Runs id = false) : Settled (e :: trace) id fin := by
  cases fin <;> grind [Settled]

lemma Settled.le_one {id : ℕ} {fin : Finish} (h : Settled trace id fin) : runsOf trace id ≤ 1 := by
  cases fin with
  | ran outcome => exact h.1.le
  | stale => exact h.1.le.trans zero_le_one

def MainPoint.ids : MainPoint → List ℕ
  | .idle => []
  | .fetching work => work
  | .looking todo => todo
  | .starting id todo => id :: todo
  | .serving id todo => id :: todo
  | .fencing id todo => id :: todo
  | .running id todo => id :: todo
  | .finishing id _ todo => id :: todo
  | .waking id todo => id :: todo

def MainPoint.busy : MainPoint → Option ℕ
  | .serving id _ => some id
  | .fencing id _ => some id
  | .running id _ => some id
  | .finishing id _ _ => some id
  | _ => none

def MainPoint.Recorded (trace : List Event) : MainPoint → Prop
  | .serving id _ => runsOf trace id = 0
  | .fencing id _ => runsOf trace id = 0
  | .running id _ => runsOf trace id = 0
  | .finishing id fin _ => Settled trace id fin
  | _ => True

namespace World

variable {M : ℕ} (w : World M)

def queued : List ℕ := w.queue ++ w.deferred ++ w.main.ids

def Accounted (id : ℕ) (r : CtrRequest) : Prop :=
  match r.state with
  | .pending => runsOf w.trace id = 0
  | .cancelled => runsOf w.trace id = 0
  | .running => w.main.busy = some id
  | .done => ∃ fin fsm, r.result = some (fin, fsm) ∧ Settled w.trace id fin

def InState (id : ℕ) (s : RequestState) : Prop := ∀ r, w.reqs id = some r → r.state = s

/-- What an extended ack promises: after `queue_full` the request is in no list,
after `deferred_timeout` it stays cancelled, and another definite ack repeats the
recorded result. -/
def Honest (id : ℕ) (applied : Option Bool) (reason : AckReason) : Prop :=
  (reason = .queueFull → runsOf w.trace id = 0 ∧ id ∉ w.queued) ∧
    (reason = .deferredTimeout → runsOf w.trace id = 0 ∧ w.InState id .cancelled) ∧
    (reason ≠ .queueFull → reason ≠ .deferredTimeout → applied ≠ none →
      (∃ fin : Finish, fin.ack = (applied, reason) ∧ Settled w.trace id fin) ∧ w.InState id .done)

structure Sound (w : World M) : Prop where
  fresh : ∀ id, w.nextId ≤ id →
    w.reqs id = none ∧ runsOf w.trace id = 0 ∧ ∀ reply, Event.answered id reply ∉ w.trace
  once : ∀ id, runsOf w.trace id ≤ 1
  known : ∀ id ∈ w.queued, id < w.nextId
  accounted : ∀ id r, w.reqs id = some r → w.Accounted id r
  honest : ∀ id applied reason fsm, Event.answered id (.ack applied reason fsm) ∈ w.trace →
    w.Honest id applied reason
  busy : ∀ id, w.main.busy = some id → ∃ r, w.reqs id = some r ∧ r.state = .running
  recorded : w.main.Recorded w.trace
  listed : ∀ id ∈ w.queued, w.server id ≠ .putting
  unanswered : ∀ id reply, w.server id = .putting → Event.answered id reply ∉ w.trace
  unstarted : ∀ id, w.server id = .putting → w.InState id .pending
  awake : ∀ id r, w.reqs id = some r → r.done → r.state = .done
  waking : ∀ id todo, w.main = .waking id todo → ∃ r, w.reqs id = some r ∧ r.state = .done

namespace Sound

variable {w : World M}

-- The fields of an updated world, and the parts of the invariant that quantify over it.
attribute [local simp] World.setReq World.setServer World.setMain World.note World.answer queued
  Accounted Honest InState Function.update_apply

attribute [local grind] MainPoint.ids MainPoint.busy MainPoint.Recorded Event.Runs

lemma congr (h : Sound w) {w' : World M} (hreqs : w'.reqs = w.reqs) (hserver : w'.server = w.server)
    (hnext : w'.nextId = w.nextId) (hqueue : w'.queue = w.queue) (hdeferred : w'.deferred = w.deferred)
    (hmain : w'.main = w.main) (htrace : w'.trace = w.trace) : Sound w' := by
  cases w
  cases w'
  dsimp only at hreqs hserver hnext hqueue hdeferred hmain htrace
  subst hreqs hserver hnext hqueue hdeferred hmain htrace
  exact ⟨h.fresh, h.once, h.known, h.accounted, h.honest, h.busy, h.recorded, h.listed, h.unanswered,
    h.unstarted, h.awake, h.waking⟩

variable {id : ℕ} {r : CtrRequest}

lemma lt_of_some (h : Sound w) (hr : w.reqs id = some r) : id < w.nextId := by grind [h.fresh id]

/-! ### Connection threads -/

lemma setServer (h : Sound w) (id : ℕ) {p : ServerPoint} (hp : p ≠ .putting) :
    Sound (w.setServer id p) := by
  obtain ⟨⟩ := h
  constructor <;> simp at * <;> grind

variable {p : MainPoint}

@[local grind ←]
lemma recorded_cons {trace : List Event} {e : Event} (h : p.Recorded trace)
    (he : ∀ id, p.busy = some id → e.Runs id = false) : p.Recorded (e :: trace) := by
  cases p <;> grind

variable {reply : Reply}

lemma answer (h : Sound w) (hid : id < w.nextId)
    (hreply : ∀ applied reason fsm, reply = .ack applied reason fsm → w.Honest id applied reason) :
    Sound (w.answer id reply) := by
  obtain ⟨⟩ := h
  constructor <;> simp at * <;> grind

lemma answer_of_none (h : Sound w) (hid : id < w.nextId)
    (hreply : ∀ applied reason fsm, reply = .ack applied reason fsm →
      applied = none ∧ reason = .handlerTimeout) : Sound (w.answer id reply) := by
  refine h.answer hid fun applied reason fsm hack => ?_
  obtain ⟨rfl, rfl⟩ := hreply applied reason fsm hack
  exact ⟨by simp, by simp, by simp⟩

lemma submit (h : Sound w) (conn : ℕ) (command : Command) (alwaysJson : Bool) :
    Sound (w.submit conn command alwaysJson) := by
  unfold World.submit
  split
  · exact h
  · split
    · exact h
    · obtain ⟨⟩ := h
      constructor <;> simp at * <;> grind

lemma enqueue (h : Sound w) (hid : id < w.nextId) (hput : w.server id = .putting) :
    Sound ({ w with queue := w.queue ++ [id] }.setServer id .waiting) := by
  obtain ⟨⟩ := h
  constructor <;> simp at * <;> grind

/-! ### The main loop -/

lemma update (h : Sound w) {r r' : CtrRequest}
    (hr : w.reqs id = some r) (hserver : w.server id ≠ .putting)
    (hkeep : r.state = .cancelled ∨ r.state = .done → r'.state = r.state)
    (hacc : ((w.setReq id r').setMain p).Accounted id r') (hids : ∀ i ∈ p.ids, i ∈ w.main.ids)
    (hothers : ∀ i, i ≠ id → (p.busy = some i ↔ w.main.busy = some i))
    (hbusy : p.busy = some id → r'.state = .running) (hrec : p.Recorded w.trace)
    (hawake : r'.done → r'.state = .done)
    (hwaking : ∀ i todo, p = .waking i todo → (i = id ∧ r'.state = .done) ∨ w.main = p ∧ i ≠ id) :
    Sound ((w.setReq id r').setMain p) := by
  obtain ⟨⟩ := h
  constructor <;> simp at * <;> grind

/-- The lists are rearranged and the main loop moves on, without starting or
finishing a request. -/
lemma rearrange (h : Sound w) {w' : World M} {queue deferred : List ℕ}
    (hlists : ∀ i ∈ queue ++ deferred ++ p.ids, i ∈ w.queued) (hbusy : p.busy = w.main.busy)
    (hrec : p.Recorded w.trace) (hwaking : ∀ i todo, p ≠ .waking i todo)
    (hreqs : w'.reqs = w.reqs) (hserver : w'.server = w.server) (hnext : w'.nextId = w.nextId)
    (hqueue : w'.queue = queue) (hdeferred : w'.deferred = deferred) (hmain : w'.main = p)
    (htrace : w'.trace = w.trace) : Sound w' := by
  have hmoved : Sound { w with queue := queue, deferred := deferred, main := p } := by
    obtain ⟨⟩ := h
    constructor <;> simp at * <;> grind
  exact hmoved.congr hreqs hserver hnext hqueue hdeferred hmain htrace

lemma move (h : Sound w) (hids : ∀ i ∈ p.ids, i ∈ w.main.ids)
    (hbusy : p.busy = w.main.busy) (hrec : p.Recorded w.trace)
    (hwaking : ∀ i todo, p ≠ .waking i todo) : Sound (w.setMain p) := by
  refine h.rearrange (p := p) ?_ hbusy hrec hwaking rfl rfl rfl rfl rfl rfl rfl
  intro i hi
  rw [mem_append] at hi
  rw [queued, mem_append]
  exact hi.imp_right (hids i)

variable {todo : List ℕ}

lemma record (h : Sound w) {e : Event} {fin : Finish}
    (hbusy : w.main.busy = some id) (hmem : id ∈ w.main.ids)
    (htodo : ∀ i ∈ todo, i ∈ w.main.ids) (hothers : ∀ i, i ≠ id → e.Runs i = false)
    (hans : ∀ i reply, e ≠ .answered i reply) (hset : Settled (e :: w.trace) id fin) :
    Sound ((w.note e).setMain (.finishing id fin todo)) := by
  have hone := hset.le_one
  obtain ⟨r, hr, hrun⟩ := h.busy id hbusy
  obtain ⟨⟩ := h
  constructor <;> simp at * <;> grind

/-! ### Steps -/

variable (cfg : Config)

section

variable (h : Sound w)
include h

section

variable (hr : w.reqs id = some r)
include hr

lemma cancelled
    (hserver : w.server id ≠ .putting) (hpending : r.state = .pending) :
    Sound (w.setReq id { r with state := .cancelled }) := by
  obtain ⟨⟩ := h
  constructor <;> simp at * <;> grind

lemma cancel (hserver : w.server id ≠ .putting) : Sound (w.cancel id r) := by
  have hid := h.lt_of_some hr
  unfold World.cancel
  by_cases hpending : r.state = .pending
  · have hc := h.cancelled hr hserver hpending
    have hacc := h.accounted id r hr
    simp only [Accounted, hpending] at hacc
    simp only [hpending, decide_true, if_true]
    split_ifs
    · exact hc.answer_of_none hid (by simp)
    · exact hc.answer_of_none hid (by simp)
    · refine hc.answer hid ?_
      simp
      grind
  all_goals grind [answer_of_none, setServer]

lemma doneReply_honest
    (hdone : r.done) (hreply : doneReply r = some reply) :
    ∀ applied reason fsm, reply = .ack applied reason fsm → w.Honest id applied reason := by
  have hacc := h.accounted id r hr
  simp only [Accounted, h.awake id r hr hdone] at hacc
  obtain ⟨fin, fsm', hres, hset⟩ := hacc
  cases fin <;> simp [doneReply, hres, Finish.ack] at hreply ⊢ <;> grind [h.awake]

lemma fullReply_honest (hput : w.server id = .putting) :
    ∀ applied reason fsm, fullReply r w.snapFsm = .ack applied reason fsm →
      w.Honest id applied reason := by
  have hacc := h.accounted id r hr
  simp only [Accounted, h.unstarted id hput r hr] at hacc
  have hlisted := h.listed id
  simp [fullReply] at hlisted ⊢
  grind

lemma serverStep (act : Action M) : Sound (w.serverStep act id r) := by
  have hid := h.lt_of_some hr
  have hwake : ∀ reply, r.done → doneReply r = some reply → Sound (w.answer id reply) :=
    fun reply hdone hreply => h.answer hid (h.doneReply_honest hr hdone hreply)
  unfold World.serverStep
  grind [enqueue, answer, fullReply_honest, setServer, answer_of_none, cancel]

end

lemma look (hmain : w.main = .looking (id :: todo))
    (r : CtrRequest) : Sound (w.look cfg id todo r) := by
  have hids : w.main.ids = id :: todo := by rw [hmain]; rfl
  have hbusy : w.main.busy = none := by rw [hmain]; rfl
  unfold World.look
  split
  · exact h.move (by simp +contextual [ids, hmain]) hbusy.symm trivial (by simp)
  · split
    · exact h.move (by simp +contextual [ids, hmain]) hbusy.symm trivial (by simp)
    · refine h.rearrange (p := .looking todo) ?_ hbusy.symm trivial (by simp) rfl rfl rfl rfl rfl
        rfl rfl
      intro i hi
      simp only [setMain, queued, hmain, ids, mem_append, mem_cons, not_mem_nil, or_false] at hi ⊢
      tauto

lemma tryStart (hmain : w.main = .starting id todo)
    (hr : w.reqs id = some r) : Sound (w.tryStart id todo r) := by
  have hserver : w.server id ≠ .putting := h.listed id (by simp [hmain, ids])
  unfold World.tryStart
  split
  · rename_i hpending
    have hacc := h.accounted id r hr
    simp only [Accounted, hpending] at hacc
    have hawake := h.awake id r hr
    apply h.update hr hserver <;> grind [Accounted, setMain]
  · apply h.move <;> grind

lemma not_run
    (hmain : w.main = .serving id todo ∨ w.main = .fencing id todo ∨ w.main = .running id todo) :
    runsOf w.trace id = 0 := by grind [h.recorded]

lemma serve (hmain : w.main = .serving id todo)
    (hr : w.reqs id = some r) (payload : String) : Sound (w.serve id todo r payload) := by
  have hrec := h.not_run (Or.inl hmain)
  have hserver : w.server id ≠ .putting := h.listed id (by simp [hmain, ids])
  obtain ⟨q, hq, hrun⟩ := h.busy id (by rw [hmain]; rfl)
  have hstored : Sound (w.setReq id { r with replyPayload := some payload }) := by
    apply h.update (p := w.main) hr hserver <;>
      grind [Accounted, setMain, h.awake id r hr]
  apply hstored.record <;> grind [Settled, setReq]

lemma checkFence (hmain : w.main = .fencing id todo)
    (r : CtrRequest) : Sound (w.checkFence id todo r) := by
  have hrec := h.not_run (Or.inr (Or.inl hmain))
  unfold World.checkFence
  split
  · exact h
  · split
    · apply h.record <;> grind [Settled]
    · apply h.move <;> grind

lemma execute (hmain : w.main = .running id todo)
    (r : CtrRequest) (v : Verdicts) : Sound (w.execute cfg id todo r v) := by
  have hrec := h.not_run (Or.inr (Or.inr hmain))
  let outcome := outcomeOf (w.hwc.handleControlReqest cfg v .wire r.command).2
  have hnoted : Sound ((w.note (.executed id r.command r.term w.hwc.currentState outcome)).setMain
      (.finishing id (.ran outcome) todo)) := by
    apply h.record <;> grind [Settled]
  exact hnoted.congr rfl rfl rfl rfl rfl rfl rfl

lemma finish {fin : Finish}
    (hmain : w.main = .finishing id fin todo) (hr : w.reqs id = some r) :
    Sound (w.finish id fin todo r) := by
  obtain ⟨⟩ := h
  constructor <;> simp [World.finish] at * <;> grind

lemma wake (hmain : w.main = .waking id todo)
    (hr : w.reqs id = some r) :
    Sound ((w.setReq id { r with done := true }).setMain (.looking todo)) := by
  obtain ⟨⟩ := h
  constructor <;> simp at * <;> grind

lemma mainStep (v : Verdicts) (payload : String) : Sound (w.mainStep cfg v payload) := by
  have hreq : ∀ {id : ℕ} {f : CtrRequest → World M},
      (∀ r, w.reqs id = some r → Sound (f r)) → Sound (w.withReq id f) := withReq_of h
  unfold World.mainStep
  split
  · exact h
  · rename_i work hmain
    have hids : w.main.ids = work := by rw [hmain]; rfl
    have hbusy : w.main.busy = none := by rw [hmain]; rfl
    split
    · exact h.move (by simp +contextual [ids, hmain]) hbusy.symm trivial (by simp)
    · rename_i id rest hqueue
      refine h.rearrange (p := .fetching (work ++ [id])) ?_ hbusy.symm trivial (by simp) rfl rfl rfl
        rfl rfl rfl rfl
      intro i hi
      simp only [queued, hmain, hqueue, ids, mem_append, mem_cons, not_mem_nil, or_false] at hi ⊢
      tauto
  · rename_i hmain
    have hbusy : w.main.busy = none := by rw [hmain]; rfl
    exact (h.move (p := .idle) (by simp [ids]) hbusy.symm trivial (by simp)).congr
      rfl rfl rfl rfl rfl rfl rfl
  · rename_i id todo hmain
    exact hreq fun r _ => h.look cfg hmain r
  · rename_i id todo hmain
    exact hreq fun r hr => h.tryStart hmain hr
  all_goals grind [serve, checkFence, execute, finish, wake]

lemma restart (hwc : Hwc M) : Sound (boot hwc w.fenceFile w.nextId w.trace) := by
  obtain ⟨⟩ := h
  constructor <;> simp [boot] at * <;> grind

end

lemma start (hwc : Hwc M) (fenceFile : Option ℕ) : Sound (boot hwc fenceFile 0 []) := by
  constructor <;> simp [boot, runsOf, MainPoint.ids, MainPoint.busy, MainPoint.Recorded]

lemma step (h : Sound w) (act : Action M) : Sound (w.step cfg act) := by
  have hserver : ∀ {id : ℕ} {a : Action M}, Sound (w.withReq id fun r => w.serverStep a id r) := by
    intro id a
    refine withReq_of h fun r hr => ?_
    exact h.serverStep hr a
  cases act with
  | connect conn =>
    simp only [World.step]
    split
    · exact h.congr rfl rfl rfl rfl rfl rfl rfl
    · exact h
  | xack conn term clusterId =>
    simp only [World.step, handleXack]
    split
    · exact h
    · split_ifs
      all_goals first
        | exact h
        | exact h.congr rfl rfl rfl rfl rfl rfl rfl
  | persistFence conn =>
    simp only [World.step, World.persistFence]
    split
    · exact h.congr rfl rfl rfl rfl rfl rfl rfl
    · exact h
  | submit conn command alwaysJson => exact h.submit conn command alwaysJson
  | put id => exact hserver
  | full id => exact hserver
  | timeout id => exact hserver
  | cancel id => exact hserver
  | wake id => exact hserver
  | frame hdr inp => grind [step, congr]
  | drain allow =>
    simp only [World.step]
    split
    · rename_i hmain
      have hbusy : w.main.busy = none := by rw [hmain]; rfl
      split
      · exact h
      · refine h.rearrange (p := .fetching w.deferred) ?_ hbusy.symm trivial (by simp) rfl rfl rfl
          rfl rfl rfl rfl
        grind [setMain, queued, ids]
    · exact h
  | main v payload => exact h.mainStep cfg v payload
  | restart hwc => exact h.restart hwc

end Sound

/-- Every request is handled at most once; a request answered `queue_full` or
`deferred_timeout` is never handled, and any other ack with a definite `applied` is
the result of the single execution of its request or of its stale-term refusal. -/
theorem handled_at_most_once (cfg : Config) (hwc : Hwc M) (fenceFile : Option ℕ)
    (actions : List (Action M)) (id : ℕ) :
    let trace := (run (step cfg) (boot hwc fenceFile 0 []) actions).trace
    runsOf trace id ≤ 1 ∧
      ∀ applied reason fsm, Event.answered id (.ack applied reason fsm) ∈ trace →
        (reason = .queueFull ∨ reason = .deferredTimeout → runsOf trace id = 0) ∧
        (reason ≠ .queueFull → reason ≠ .deferredTimeout → applied ≠ none →
          ∃ fin : Finish, fin.ack = (applied, reason) ∧ Settled trace id fin) := by
  intro trace
  have hsound : Sound (run (step cfg) (boot hwc fenceFile 0 []) actions) :=
    run_of_step (step cfg) (fun _ act hw => hw.step cfg act) actions _ (Sound.start hwc fenceFile)
  refine ⟨hsound.once id, fun applied reason fsm hmem => ?_⟩
  obtain ⟨hfull, hdef, hres⟩ := hsound.honest id applied reason fsm hmem
  grind

end World

end HeimdallDaq.HwController
