/-
  HwController/Control.lean --- the control plane of hw_controller.

  The threads are the connection threads of `CtrIfaceServer`, each inside an XACK
  handshake or inside `_submit_request`, and the main loop, which handles frames and
  drains the request queue.
-/
import HeimdallDaq.HwController.Fsm

namespace HeimdallDaq.HwController

/-- The states of a `CtrRequest`. -/
inductive RequestState
  | pending
  | running
  | done
  | cancelled
  deriving DecidableEq

/-- What `finish` records: the handler's result or the refusal of a stale term. -/
inductive Finish
  | ran (outcome : Outcome)
  | stale
  deriving DecidableEq

inductive AckReason
  | handler (reason : Reason)
  | staleTerm
  | queueFull
  | deferredTimeout
  | handlerTimeout
  deriving DecidableEq

def Finish.ack : Finish → Option Bool × AckReason
  | .ran outcome => (outcome.1, .handler outcome.2)
  | .stale => (some false, .staleTerm)

/-- `CtrRequest`, with `extended` as `_submit_request` computes it. -/
structure CtrRequest where
  command : Command
  term : ℕ
  extended : Bool
  state : RequestState := .pending
  /-- The event `done` is set. -/
  done : Bool := false
  replyPayload : Option String := none
  /-- `result` with the FSM state after the handler. -/
  result : Option (Finish × FsmState) := none

structure ConnState where
  xack : Bool := false
  term : ℕ := 0
  clusterBad : Bool := false

/-- The reply frame of `_submit_request`. -/
inductive Reply
  /-- `FNSD` with a query's payload, or zeros -/
  | frame (payload : Option String)
  /-- `{"error":"busy"}` -/
  | busy
  | ack (applied : Option Bool) (reason : AckReason) (fsm : FsmState)

/-- Where the connection thread of a request stands in `_submit_request`. -/
inductive ServerPoint
  /-- in `ctr_request_queue.put` -/
  | putting
  /-- in the first `done.wait` -/
  | waiting
  /-- that wait timed out; `try_cancel` is next -/
  | expired
  /-- in the second `done.wait` -/
  | rewaiting
  | answered
  deriving DecidableEq

/-- Where the main loop stands in `_drain_control_requests`. -/
inductive MainPoint
  | idle
  | fetching (work : List ℕ)
  | looking (todo : List ℕ)
  /-- `try_start` is next -/
  | starting (id : ℕ) (todo : List ℕ)
  | serving (id : ℕ) (todo : List ℕ)
  | fencing (id : ℕ) (todo : List ℕ)
  | running (id : ℕ) (todo : List ℕ)
  /-- `finish` is next -/
  | finishing (id : ℕ) (finish : Finish) (todo : List ℕ)
  /-- `done.set` is next -/
  | waking (id : ℕ) (todo : List ℕ)

inductive Event
  | served (id : ℕ)
  | executed (id : ℕ) (command : Command) (term : ℕ) (fsm : FsmState) (outcome : Outcome)
  | refused (id : ℕ)
  | answered (id : ℕ) (reply : Reply)

structure World (M : ℕ) where
  hwc : Hwc M
  maxTermSeen : ℕ
  fenceFile : Option ℕ
  /-- The connection that holds `fence_lock` to raise the fence. -/
  fenceLock : Option ℕ
  conns : ℕ → Option ConnState
  reqs : ℕ → Option CtrRequest
  server : ℕ → ServerPoint
  nextId : ℕ
  queue : List ℕ
  /-- `_pending_ctr_requests`. -/
  deferred : List ℕ
  /-- `allow_mutations` of the current drain. -/
  allow : Bool
  main : MainPoint
  snapFsm : FsmState
  trace : List Event

def World.boot {M : ℕ} (hwc : Hwc M) (fenceFile : Option ℕ) (nextId : ℕ) (trace : List Event) :
    World M where
  hwc := hwc
  maxTermSeen := fenceFile.getD 0
  fenceFile := fenceFile
  fenceLock := none
  conns := fun _ => none
  reqs := fun _ => none
  server := fun _ => .answered
  nextId := nextId
  queue := []
  deferred := []
  allow := false
  main := .idle
  snapFsm := hwc.currentState
  trace := trace

inductive Action (M : ℕ)
  | connect (conn : ℕ)
  | xack (conn : ℕ) (term : ℕ) (clusterId : String)
  /-- the fence file is replaced and `fence_lock` released -/
  | persistFence (conn : ℕ)
  /-- a connection thread enters `_submit_request` -/
  | submit (conn : ℕ) (command : Command) (alwaysJson : Bool)
  | put (id : ℕ)
  /-- `put` raises `Full` -/
  | full (id : ℕ)
  /-- a wait for `done` times out -/
  | timeout (id : ℕ)
  /-- `try_cancel` -/
  | cancel (id : ℕ)
  /-- a wait for `done` returns -/
  | wake (id : ℕ)
  | frame (hdr : IqHeader M) (inp : FrameInputs)
  /-- the main loop enters `_drain_control_requests` -/
  | drain (allow : Bool)
  | main (v : Verdicts) (payload : String)
  | restart (hwc : Hwc M)

namespace World

variable {M : ℕ} (cfg : Config)

def queueSize : ℕ := 8

variable (w : World M) (id : ℕ)

def setReq (r : CtrRequest) : World M := { w with reqs := Function.update w.reqs id (some r) }

variable (conn : ℕ)

def setConn (c : ConnState) : World M := { w with conns := Function.update w.conns conn (some c) }

def setServer (p : ServerPoint) : World M := { w with server := Function.update w.server id p }

def setMain (p : MainPoint) : World M := { w with main := p }

def note (e : Event) : World M := { w with trace := e :: w.trace }

def answer (reply : Reply) : World M := (w.setServer id .answered).note (.answered id reply)

/-! ## Connection threads -/

def handleXack (conn term : ℕ) (clusterId : String) (w : World M) : World M :=
  match w.conns conn with
  | none => w
  | some c =>
    if w.fenceLock ≠ none then w
    else if clusterId ≠ "" ∧ clusterId ≠ cfg.clusterId then
      w.setConn conn { c with xack := false, clusterBad := true }
    else if clusterId ≠ "" ∧ w.maxTermSeen + cfg.fenceMaxTermJump < term then
      w.setConn conn { c with xack := false, clusterBad := true }
    else
      let w' := w.setConn conn { xack := true, term := term, clusterBad := false }
      if clusterId ≠ "" ∧ w.maxTermSeen < term then
        { w' with maxTermSeen := term, fenceLock := some conn }
      else w'

def persistFence (w : World M) : World M :=
  if w.fenceLock = some conn then
    { w with fenceFile := some w.maxTermSeen, fenceLock := none }
  else w

/-- `process_ctr_frame` up to the new `CtrRequest`: a mutating verb on a connection
whose XACK was refused gets zeros and no request. -/
def submit (command : Command) (alwaysJson : Bool) (w : World M) : World M :=
  match w.conns conn with
  | none => w
  | some c =>
    if w.fenceLock = some conn ∨ (c.clusterBad ∧ command.Mutating) then w
    else
      let w' := w.setReq w.nextId
        { command := command, term := c.term, extended := c.xack || alwaysJson }
      { w'.setServer w.nextId .putting with nextId := w.nextId + 1 }

def fullReply (r : CtrRequest) (fsm : FsmState) : Reply :=
  if r.command.Mutating then
    if r.extended then .ack (some false) .queueFull fsm else .frame none
  else .busy

variable (id : ℕ)

def cancel (r : CtrRequest) (w : World M) : World M :=
  let cancelled := decide (r.state = .pending)
  let w' := if cancelled then w.setReq id { r with state := .cancelled } else w
  if r.command.Mutating = false then w'.answer id .busy
  else if r.extended = false then w'.answer id (.frame none)
  else if cancelled then w'.answer id (.ack (some false) .deferredTimeout w.snapFsm)
  else w'.setServer id .rewaiting

def doneReply (r : CtrRequest) : Option Reply :=
  if r.command.Mutating ∧ r.extended then
    r.result.map fun res => .ack res.1.ack.1 res.1.ack.2 res.2
  else some (.frame r.replyPayload)

def serverStep (act : Action M) (id : ℕ) (r : CtrRequest) (w : World M) : World M :=
  match act, w.server id with
  | .put _, .putting =>
    if w.queue.length < queueSize then
      { w with queue := w.queue ++ [id] }.setServer id .waiting
    else w
  | .full _, .putting =>
    if queueSize ≤ w.queue.length then w.answer id (fullReply r w.snapFsm) else w
  | .timeout _, .waiting => w.setServer id .expired
  | .timeout _, .rewaiting => w.answer id (.ack none .handlerTimeout w.snapFsm)
  | .cancel _, .expired => w.cancel id r
  | .wake _, .waiting | .wake _, .rewaiting =>
    if r.done then
      match doneReply r with
      | some reply => w.answer id reply
      | none => w
    else w
  | _, _ => w

/-! ## The main loop -/

def isStale (term : ℕ) : Bool := 0 < term && decide (term < w.maxTermSeen)

variable (todo : List ℕ)

/-- The head of the drain loop: skip a cancelled request, start what may run now,
defer the rest. -/
def look (r : CtrRequest) (w : World M) : World M :=
  if r.state = .cancelled then w.setMain (.looking todo)
  else if r.command.Mutating = false ∨ (w.allow ∧ w.hwc.deferDuringBurst cfg r.command = false) then
    w.setMain (.starting id todo)
  else { w with deferred := w.deferred ++ [id] }.setMain (.looking todo)

def tryStart (r : CtrRequest) (w : World M) : World M :=
  if r.state = .pending then
    (w.setReq id { r with state := .running }).setMain
      (if r.command.Mutating then .fencing id todo else .serving id todo)
  else w.setMain (.looking todo)

def checkFence (r : CtrRequest) (w : World M) : World M :=
  if w.fenceLock ≠ none then w
  else if w.isStale r.term then
    (w.note (.refused id)).setMain (.finishing id .stale todo)
  else w.setMain (.running id todo)

def publishes : Command → Bool
  | .schd _ | .schs | .schn => true
  | _ => false

def outcomeOf : Except String Outcome → Outcome
  | .ok outcome => outcome
  | .error msg => (some false, .error msg)

def execute (r : CtrRequest) (v : Verdicts) (w : World M) : World M :=
  let res := w.hwc.handleControlReqest cfg v .wire r.command
  let outcome := outcomeOf res.2
  { (w.note (.executed id r.command r.term w.hwc.currentState outcome)).setMain
      (.finishing id (.ran outcome) todo) with
    hwc := res.1
    snapFsm := if publishes r.command then res.1.currentState else w.snapFsm }

def serve (r : CtrRequest) (payload : String) (w : World M) : World M :=
  ((w.setReq id { r with replyPayload := some payload }).note (.served id)).setMain
    (.finishing id (.ran (some true, .ok)) todo)

def finish (fin : Finish) (todo : List ℕ) (r : CtrRequest) (w : World M) : World M :=
  (w.setReq id { r with state := .done, result := some (fin, w.hwc.currentState) }).setMain
    (.waking id todo)

def withReq (f : CtrRequest → World M) : World M :=
  match w.reqs id with
  | none => w
  | some r => f r

lemma withReq_of {P : World M → Prop} {w : World M} (h : P w) {id : ℕ} {f : CtrRequest → World M}
    (hf : ∀ r, w.reqs id = some r → P (f r)) : P (w.withReq id f) := by
  unfold withReq
  split
  · exact h
  · rename_i r hr
    exact hf r hr

def mainStep (v : Verdicts) (payload : String) (w : World M) : World M :=
  match w.main with
  | .idle => w
  | .fetching work =>
    match w.queue with
    | [] => w.setMain (.looking work)
    | id :: rest => { w with queue := rest }.setMain (.fetching (work ++ [id]))
  | .looking [] => { w.setMain .idle with snapFsm := w.hwc.currentState }
  | .looking (id :: todo) => w.withReq id fun r => w.look cfg id todo r
  | .starting id todo => w.withReq id fun r => w.tryStart id todo r
  | .serving id todo => w.withReq id fun r => w.serve id todo r payload
  | .fencing id todo => w.withReq id fun r => w.checkFence id todo r
  | .running id todo => w.withReq id fun r => w.execute cfg id todo r v
  | .finishing id fin todo => w.withReq id fun r => w.finish id fin todo r
  | .waking id todo =>
    w.withReq id fun r => (w.setReq id { r with done := true }).setMain (.looking todo)

def step : Action M → World M
  | .connect conn =>
    match w.conns conn with
    | none => w.setConn conn {}
    | some _ => w
  | .xack conn term clusterId => w.handleXack cfg conn term clusterId
  | .persistFence conn => w.persistFence conn
  | .submit conn command alwaysJson => w.submit conn command alwaysJson
  | .put id => w.withReq id fun r => w.serverStep (.put id) id r
  | .full id => w.withReq id fun r => w.serverStep (.full id) id r
  | .timeout id => w.withReq id fun r => w.serverStep (.timeout id) id r
  | .cancel id => w.withReq id fun r => w.serverStep (.cancel id) id r
  | .wake id => w.withReq id fun r => w.serverStep (.wake id) id r
  | .frame hdr inp =>
    match w.main with
    | .idle => if w.hwc.crashed then w else { w with hwc := w.hwc.frameStep cfg hdr inp }
    | _ => w
  | .drain allow =>
    match w.main with
    | .idle =>
      if w.hwc.crashed then w
      else { w with deferred := [], allow := allow }.setMain (.fetching w.deferred)
    | _ => w
  | .main v payload => w.mainStep cfg v payload
  | .restart hwc => .boot hwc w.fenceFile w.nextId w.trace

end World

end HeimdallDaq.HwController
