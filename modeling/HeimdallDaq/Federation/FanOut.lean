/-
  Federation/FanOut.lean --- the parallel fan-out of the coordinator.

  `fan_out` runs one worker per target and, at the deadline, sets the cancel event,
  cancels what has not started and reports the stragglers by the phase it finds in their
  context.
-/
import HeimdallDaq.Foundation.Pool
import HeimdallDaq.HwController.Control

namespace HeimdallDaq.Federation

open Foundation HeimdallDaq.HwController

/-! ## Results -/

inductive Phase
  | connect
  | xack
  | chunks
  | command
  | verify
  deriving DecidableEq

def Phase.sent : Phase → Bool
  | .command | .verify => true
  | .connect | .xack | .chunks => false

/-- The key `applied` of a result. -/
inductive Applied
  | absent
  | null
  | no
  | yes
  deriving DecidableEq

def appliedForPhase (p : Phase) : Applied := if p.sent then .null else .no

/-- The key `error` of a result. -/
inductive ErrorText
  | timeout
  | cancelled
  | leadershipLost
  | noControlPort
  | dns
  | memberBusy
  | reset
  | badReply
  | busy
  | internalError
  | text (msg : String)
  deriving DecidableEq

/-- The key `reason` of a result. -/
inductive ReasonText
  | rtoExceedsDeadline
  | breakerOpen
  | xackRefused (reason : String)
  | staleTerm
  | unsupportedByMember
  | channelCountMismatch
  | chunkRefused (reason : String)
  | tooLarge
  | tempPathTooLong
  | scheduleTooLargeForLegacyServer
  | ack (reason : AckReason)
  /-- the text of `error`, copied by `_s_from` -/
  | error (e : ErrorText)
  | ok
  deriving DecidableEq

/-- A result `R` of a target. -/
structure Result where
  ok : Bool := false
  applied : Applied := .absent
  error : Option ErrorText := none
  reason : Option ReasonText := none
  phase : Option Phase := none
  verified : Option Bool := none
  deriving DecidableEq

/-- The errors and the reason after which a result with `applied: false` says that
nothing was sent. -/
def Result.Stopped (r : Result) : Prop :=
  r.error = some .timeout ∨ r.error = some .cancelled ∨ r.error = some .leadershipLost ∨
    r.reason = some .rtoExceedsDeadline

/-! ## Members -/

inductive Verb
  | freq | gain | agc | init | schd | schs | schn | egan | bias | ornt | park | scan | ostp
  | recl | tlka | schb | schc | sche | sthu
  | rfq | oqry | schq | hwsq | tlck | schg
  deriving DecidableEq

def Verb.extendedOnly : Verb → Bool
  | .recl | .hwsq | .tlck | .tlka | .schg => true
  | _ => false

def Verb.channel : Verb → Bool
  | .gain | .egan | .bias => true
  | _ => false

structure Info where
  extended : Bool := false
  recl : Bool := false
  schg : Bool := false
  schb : Bool := false
  nch : Option ℕ := none

/-- A 128-byte reply as `_reply_json` reads it. -/
inductive Reply
  | short
  | empty
  | raw
  | bad
  | xackOk (info : Info)
  | xackRefused (reason : String)
  | ack (applied : Option Bool) (reason : AckReason)
  /-- `{"ok": true}`, with the expected sequence number -/
  | chunkOk
  | chunkRefused (reason : String)
  | busy
  | data

inductive Exc
  | timeout
  | osError (msg : String)
  | other (msg : String)

structure Answer where
  stillValid : Bool := true
  enough : Bool := true
  breakerOpen : Bool := false
  hasPort : Bool := true
  resolved : Bool := true
  locked : Bool := true
  connected : Except Exc Unit := .ok ()
  deposed : Bool := false
  received : Except Exc Reply := .ok .empty
  tempPathFits : Except Exc Bool := .ok true
  verified : Option Bool := none
  resend : Bool := false
  status : Result := {}

/-! ## The shared state -/

inductive Future
  | pending
  | running
  | cancelled
  | finished (r : Result)
  deriving DecidableEq

def Future.done : Future → Bool
  | .cancelled | .finished _ => true
  | .pending | .running => false

structure Shared (T : Type) where
  phase : T → Phase := fun _ => .connect
  future : T → Future := fun _ => .pending
  cancel : Bool := false

inductive Frame
  | xack
  | chunk
  | query (v : Verb)
  | mutation (v : Verb)

inductive Cmd (T : Type)
  | start (t : T)
  | finish (t : T) (r : Result)
  | setPhase (t : T) (p : Phase)
  | readPhase (t : T)
  /-- `cancel_event.is_set` in `check_before_send` -/
  | testCancel (t : T)
  /-- `cancel_event.is_set` elsewhere -/
  | peekCancel (t : T)
  | send (t : T) (f : Frame)
  | setCancel
  | wait
  | look (t : T)
  | cancelFuture (t : T)
  | snapshot (t : T)
  /-- an entry of `results` -/
  | record (t : T) (r : Result)

structure Log (T : Type) where
  cleared : T → Bool := fun _ => false
  sent : List T := []
  results : List (T × Result) := []

variable {T : Type}

section

variable [DecidableEq T]

def Cmd.apply : Cmd T → Shared T → Shared T
  | .start t, s =>
    if s.future t = .pending then { s with future := Function.update s.future t .running } else s
  | .finish t r, s => { s with future := Function.update s.future t (.finished r) }
  | .setPhase t p, s => { s with phase := Function.update s.phase t p }
  | .setCancel, s => { s with cancel := true }
  | .cancelFuture t, s =>
    if s.future t = .pending then { s with future := Function.update s.future t .cancelled } else s
  | .readPhase _, s | .testCancel _, s | .peekCancel _, s | .send _ _, s | .wait, s | .look _, s
  | .snapshot _, s | .record _ _, s => s

def Cmd.obs : Cmd T → Shared T → Log T → Log T
  | .setPhase t _, _, l => { l with cleared := Function.update l.cleared t false }
  | .testCancel t, s, l => { l with cleared := Function.update l.cleared t (!s.cancel) }
  | .send t (.mutation _), _, l => { l with sent := t :: l.sent }
  | .record t r, _, l => { l with results := (t, r) :: l.results }
  | _, _, l => l

def watch : Watch (Shared T) (Cmd T) (Log T) := ⟨Cmd.apply, Cmd.obs⟩

end

abbrev Worker (T α : Type) : Type := Prog (Shared T) Answer Exc (Cmd T) α

/-! ## `FanOutContext` -/

def sendGuards (t : T) (timed : Bool) (old : Phase) : Worker T (Option Result) := do
  let applied := appliedForPhase old
  if !(← Prog.answer (·.stillValid)) then
    return some { applied := applied, error := some .leadershipLost, phase := some old }
  if ← Prog.reads (.testCancel t) (·.cancel) then
    return some { applied := applied, error := some .cancelled, phase := some old }
  if timed && !(← Prog.answer (·.enough)) then
    return some { applied := applied, reason := some .rtoExceedsDeadline }
  return none

/-- `check_before_send`: `none` when the frame may be sent.  The phase is published
before the guards are tested. -/
def checkBeforeSend (t : T) (timed : Bool) (next : Phase) : Worker T (Option Result) := do
  if next.sent then
    let old ← Prog.reads (.readPhase t) (·.phase t)
    Prog.does (.setPhase t next)
    match ← sendGuards t timed old with
    | none => return none
    | some r =>
      Prog.does (.setPhase t old)
      return some r
  else .throw (.other "next_phase must be one of ['command', 'verify']")

/-! ## `_HwcSession` -/

def receive : Worker T Reply := do
  match ← Prog.answer (·.received) with
  | .ok reply => return reply
  | .error e => .throw e

def onSocketError {α : Type} (p : Worker T α) (timeout reset : Worker T α) : Worker T α :=
  p.catching fun e =>
    match e with
    | .timeout => timeout
    | .osError _ => reset
    | .other msg => .throw (.other msg)

def xackReply (reply : Reply) : Worker T (Except Result Info) := do
  match reply with
  | .short => return .error { applied := .no, error := some .reset, phase := some .xack }
  | .empty => return .ok {}
  | .xackOk info =>
    if ← Prog.answer (·.deposed) then
      return .error { applied := .no, reason := some .staleTerm, phase := some .xack }
    return .ok info
  | .xackRefused reason =>
    return .error { applied := .no, reason := some (.xackRefused reason), phase := some .xack }
  | _ => return .error { applied := .no, error := some .badReply, phase := some .xack }

def xack (t : T) : Worker T (Except Result Info) := do
  Prog.does (.setPhase t .xack)
  let reply ← onSocketError
    (do Prog.does (.send t .xack); return Except.ok (← receive))
    (return .error { applied := .no, error := some .timeout, phase := some .xack })
    (return .error { applied := .no, error := some .reset, phase := some .xack })
  match reply with
  | .error r => return .error r
  | .ok reply => xackReply reply

def connect : Worker T (Option String) := do
  match ← Prog.answer (·.connected) with
  | .ok _ => return none
  | .error .timeout => return some "timed out"
  | .error (.osError msg) => return some msg
  | .error (.other msg) => .throw (.other msg)

/-- `open`: the session's `Info`, or the result of a session that did not come up.
`timed` is false when the caller passes its own `need`. -/
def openSession (t : T) (timed : Bool) : Worker T (Except Result Info) := do
  Prog.does (.setPhase t .connect)
  let refuse (r : Result) : Worker T (Except Result Info) :=
    return .error { r with applied := .no }
  if ← Prog.reads (.peekCancel t) (·.cancel) then
    refuse { error := some .cancelled, phase := some .connect }
  else if !(← Prog.answer (·.stillValid)) then
    refuse { error := some .leadershipLost, phase := some .connect }
  else if ← Prog.answer (·.breakerOpen) then
    refuse { reason := some .breakerOpen }
  else if !(← Prog.answer (·.hasPort)) then
    refuse { error := some .noControlPort, phase := some .connect }
  else if !(← Prog.answer (·.resolved)) then
    refuse { error := some .dns, phase := some .connect }
  else if timed && !(← Prog.answer (·.enough)) then
    refuse { reason := some .rtoExceedsDeadline, phase := some .connect }
  else if !(← Prog.answer (·.locked)) then
    refuse { error := some .memberBusy, phase := some .connect }
  else
    match ← connect with
    | some msg => refuse { error := some (.text msg), phase := some .connect }
    | none => xack t

def appliedOf : Option Bool → Applied
  | none => .null
  | some false => .no
  | some true => .yes

def mapReply (reply : Reply) (mutating : Bool) : Result :=
  match mutating, reply with
  | _, .bad => { applied := .null, error := some .badReply }
  | false, .busy => { error := some .busy }
  | false, _ => { ok := true }
  | true, .ack applied reason =>
    { ok := true, applied := appliedOf applied, reason := some (.ack reason) }
  | true, _ => { ok := true, applied := .null }

def inPhase (t : T) (r : Result) : Worker T Result := do
  let p ← Prog.reads (.readPhase t) (·.phase t)
  return { r with phase := some p }

def exchange (t : T) (v : Verb) (mutating : Bool) : Worker T Result :=
  onSocketError
    (do
      Prog.does (.send t (if mutating then .mutation v else .query v))
      match ← receive with
      | .short => inPhase t { applied := .null, error := some .reset }
      | reply => return mapReply reply mutating)
    (inPhase t { applied := .null, error := some .timeout })
    (inPhase t { applied := .null, error := some .reset })

def command (t : T) (info : Info) (v : Verb) (mutating : Bool) (values : Option ℕ)
    (next : Phase) : Worker T Result := do
  if v.extendedOnly && !info.extended then
    inPhase t { applied := .no, reason := some .unsupportedByMember }
  else if v.channel && info.extended && decide (values ≠ none ∧ info.nch ≠ none ∧ info.nch ≠ values) then
    return { applied := .no, reason := some .channelCountMismatch }
  else
    match ← checkBeforeSend t mutating next with
    | some r => return r
    | none => exchange t v mutating

def fillWindow (t : T) : ℕ → Worker T (Except Result Unit)
  | 0 => return .ok ()
  | k + 1 => do
      if ← Prog.reads (.peekCancel t) (·.cancel) then
        return .error { applied := .no, error := some .cancelled, phase := some .chunks }
      Prog.does (.send t .chunk)
      fillWindow t k

def chunkReply : Worker T (Except Result Unit) := do
  match ← receive with
  | .chunkOk => return .ok ()
  | .chunkRefused reason =>
    return .error { applied := .no, reason := some (.chunkRefused reason), phase := some .chunks }
  | _ =>
    let reason := ReasonText.chunkRefused "bad_reply"
    return .error { applied := .no, reason := some reason, phase := some .chunks }

def chunkLoop (t : T) (total window : ℕ) : (left sent : ℕ) → Worker T (Except Result Unit)
  | 0, _ => return .ok ()
  | left + 1, sent => do
      let top := min total (total - (left + 1) + window)
      match ← fillWindow t (top - sent) with
      | .error r => return .error r
      | .ok _ =>
        match ← chunkReply with
        | .error r => return .error r
        | .ok _ => chunkLoop t total window left (max sent top)

def sendChunked (t : T) (info : Info) (total window : ℕ) : Worker T Result := do
  Prog.does (.setPhase t .chunks)
  let transfer ← onSocketError
    (do
      Prog.does (.send t .chunk)
      match ← chunkReply with
      | .error r => return .error r
      | .ok _ => chunkLoop t total window total 0)
    (return .error { applied := .no, error := some .timeout, phase := some .chunks })
    (return .error { applied := .no, error := some .reset, phase := some .chunks })
  match transfer with
  | .error r => return r
  | .ok _ => command t info .sche true none .command

/-! ## Workers -/

inductive Transfer
  | inline
  | chunked
  | path
  | none

structure Document where
  size : Bool → ℕ
  localHost : Bool
  window : ℕ

def chooseTransfer (size : ℕ) (schb localHost : Bool) : Transfer :=
  if size ≤ 124 then .inline
  else if schb then .chunked
  else if localHost then .path
  else .none

def loadDocument (t : T) (info : Info) (doc : Document) : Worker T Result := do
  let size := doc.size (info.extended && info.schg)
  match chooseTransfer size info.schb doc.localHost with
  | .inline => command t info .schd true none .command
  | .chunked =>
    if 262144 < size then
      return { applied := .no, reason := some .tooLarge, phase := some .chunks }
    sendChunked t info ((size + 115) / 116) (max 1 doc.window)
  | .path =>
    match ← Prog.answer (·.tempPathFits) with
    | .error e => .throw e
    | .ok false => inPhase t { applied := .no, reason := some .tempPathTooLong }
    | .ok true => command t info .schd true none .command
  | .none => inPhase t { applied := .no, reason := some .scheduleTooLargeForLegacyServer }

def verifyLoad (t : T) (info : Info) (byGen : Bool) : Worker T (Option Bool) := do
  let q ← command t info (if byGen then .schg else .schq) false none .verify
  if q.ok then Prog.answer (·.verified) else return none

def loadVerified (t : T) (info : Info) (doc : Document) (byGen : Bool) : Worker T Result := do
  let r ← loadDocument t info doc
  if r.ok && decide (r.applied ≠ .no) then
    return { r with verified := ← verifyLoad t info byGen }
  return r

def Result.settled (r : Result) (p : Phase) : Result where
  ok := r.ok
  applied := if r.applied = .absent then (if r.ok then .null else .no) else r.applied
  error := r.error
  reason := r.reason.orElse fun _ => (r.error.map .error).orElse fun _ =>
    if r.applied = .yes then some .ok else none
  phase := r.phase.orElse fun _ => some p
  verified := r.verified

def sFrom (t : T) (r : Result) : Worker T Result := do
  let p ← Prog.reads (.readPhase t) (·.phase t)
  return r.settled p

def recalOn (t : T) (info : Info) : Worker T Result := do
  if info.extended && info.recl then
    let r ← command t info .recl true none .command
    if r.applied = .no ∧ r.reason = some (.ack (.handler .disabled)) then
      command t info .init true none .command
    else return r
  else command t info .init true none .command

/-- The workers the coordinator hands to `fan_out`. -/
inductive Job
  /-- `_command_worker` -/
  | command (v : Verb) (mutating : Bool) (values : Option ℕ)
  /-- `_command_worker` of RECAL -/
  | recal
  /-- `send_schedule`; `gen` says that the document carries a generation -/
  | sendSchedule (doc : Document) (gen : Bool)
  /-- `_schedule_target` with action `stop` -/
  | stopTarget
  /-- `_schedule_target` with action `load` -/
  | loadTarget (doc : Document)
  /-- `_reconcile_member`; `legacy` and `restarted` are what it knows before -/
  | reconcile (inactive legacy restarted : Bool) (doc : Document)
  /-- `_xack_probe_all` -/
  | probe
  /-- `_line_worker` on port 5002 -/
  | line

def withSession (t : T) (timed : Bool) (body : Info → Worker T Result) : Worker T Result := do
  match ← openSession t timed with
  | .error r => return r
  | .ok info => body info

def resendFrames (t : T) (info : Info) (inactive : Bool) (doc : Document) : Worker T Result :=
  if inactive then command t info .schs true none .command
  else loadVerified t info doc (info.extended && info.schg)

def resend (t : T) (info : Info) (inactive : Bool) (doc : Document) : Worker T Result := do
  let r ← resendFrames t info inactive doc
  let s ← sFrom t r
  return { ok := s.ok }

/-- What `_reconcile_member` does on an open session.  What SCHG answers, the desired
state and `reconcile_override` give its verdict. -/
def reconcileOn (t : T) (info : Info) (inactive restarted : Bool) (doc : Document) :
    Worker T Result := do
  if info.extended && info.schg then
    let q ← command t info .schg false none .verify
    if q.ok then
      if ← Prog.answer (·.resend) then resend t info inactive doc else return { ok := true }
    else return {}
  else if restarted then resend t info inactive doc
  else return {}

def reconcileMember (t : T) (inactive legacy restarted : Bool) (doc : Document) :
    Worker T Result := do
  if legacy && !restarted then return {}
  match ← openSession t true with
  | .error _ => return {}
  | .ok info =>
    if legacy then resend t info inactive doc else reconcileOn t info inactive restarted doc

def Job.work (t : T) : Job → Worker T Result
  | .command v mutating values =>
    withSession t true fun info => Federation.command t info v mutating values .command
  | .recal => withSession t true fun info => recalOn t info
  | .sendSchedule doc gen =>
    withSession t true fun info => loadVerified t info doc (gen && info.extended && info.schg)
  | .stopTarget => do
      match ← openSession t true with
      | .error r => sFrom t r
      | .ok info => sFrom t (← Federation.command t info .schs true none .command)
  | .loadTarget doc => do
      match ← openSession t true with
      | .error r => sFrom t r
      | .ok info => sFrom t (← loadVerified t info doc (info.extended && info.schg))
  | .reconcile inactive legacy restarted doc => reconcileMember t inactive legacy restarted doc
  | .probe => withSession t false fun _ => return { ok := true }
  | .line => Prog.answer (·.status)

/-! ## `fan_out` -/

/-- `_run` on a pool thread: a future that was cancelled is not run, and an exception
becomes a result. -/
def runWorker (t : T) (job : Job) : Worker T Unit := do
  if (← Prog.reads (.start t) (·.future t)) = .pending then
    let r ← (job.work t).catching fun _ => do
      let p ← Prog.reads (.readPhase t) (·.phase t)
      return { applied := appliedForPhase p, error := some .internalError, phase := some p }
    Prog.does (.finish t r)

def collect (t : T) : Worker T Unit := do
  match ← Prog.reads (.look t) (·.future t) with
  | .finished r => Prog.does (.record t r)
  | _ =>
    Prog.does (.cancelFuture t)
    let p ← Prog.reads (.snapshot t) (·.phase t)
    Prog.does (.record t { applied := appliedForPhase p, error := some .timeout, phase := some p })

variable (targets : List T)

def fanOut : Worker T Unit := do
  let allDone ← Prog.reads .wait fun s => targets.all fun t => (s.future t).done
  if !allDone then Prog.does .setCancel
  Prog.forEach targets collect

inductive Thread (T : Type)
  | main
  | worker (t : T)
  /-- the one that calls `cancel_all` -/
  | canceller
  deriving DecidableEq

variable [DecidableEq T] (job : T → Job)

def program : Thread T → Worker T Unit
  | .main => fanOut targets
  | .worker t => if t ∈ targets then runWorker t (job t) else return ()
  | .canceller => Prog.does .setCancel

def submitted : Pool (Shared T) Answer Exc (Cmd T) (Log T) (Thread T) Unit :=
  ⟨({}, {}), program targets job⟩

end HeimdallDaq.Federation
