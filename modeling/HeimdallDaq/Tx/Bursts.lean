/-
  Tx/Bursts.lean --- per-burst authorization, the watchdog and the fault reset.

  `authorize_burst` issues a permit, `consume` turns it into a burst in flight and
  `burst_complete` ends the burst.
-/
import HeimdallDaq.Tx.Controller

namespace HeimdallDaq.Tx

open Foundation
open Prog (does reads answer forEach)

/-- The arguments of `authorize_burst`; the answers of the checks stand for the
others. -/
structure BurstRequest where
  samples : Samples
  chains : List ℕ
  fsHz : ℚ
  timed : Bool
  /-- `purpose == "flowgraph"` -/
  flowgraph : Bool := false
  timeoutS : ℚ := 1
  atOffsetS : ℚ := 0
  deriving DecidableEq, Inhabited

def BurstRequest.nSamp (req : BurstRequest) : ℕ := (req.samples.headD []).length

def BurstRequest.durS (req : BurstRequest) : ℚ := req.nSamp / req.fsHz

section

variable (cfg : Setup) (me : Thread)

/-! ## Watchdog -/

def checkUnderflows (now : ℚ) : Proc Unit := do
  does (.dropUnderflows (now - cfg.underflowWindowS))
  let storm ← look fun s => decide (cfg.underflowTripCount ≤ s.underflows.length)
  let live ← isLive
  if storm && live then do
    does .clearUnderflows
    trip cfg me .underflowStorm
  else .ret ()

def handleAsyncEvent (now : ℚ) : AsyncKind → Proc Unit
  | .underflow => does (.pushUnderflows now 1)
  | .seqError => .ret ()
  | .refUnlock => do
      let live ← isLive
      whenever live (trip cfg me .refUnlock)
  | .loUnlock => do
      let live ← isLive
      whenever live (trip cfg me .loUnlock)
  | .other => .ret ()

def handleAsyncEvents (events : List AsyncKind) : Proc Unit := do
  let now ← look (·.clock)
  forEach events (handleAsyncEvent cfg me now)
  checkUnderflows cfg me now

def retuneProblem (reading : Option (Option ℚ)) : Proc Bool := do
  let own ← look (·.armRecord)
  match reading, own with
  | none, _ => .ret false
  | some _, none => .ret false
  | some none, some _ => .ret true
  | some (some v), some r => .ret (decide (freqTolHz < |v - r.fcHz|))

def Setup.reading (cfg : Setup) (a : Answer) : Option (Option ℚ) :=
  if cfg.hasTxFreq then some a.txFreq else none

def pollFingerprint (now : ℚ) : Proc Bool := do
  let due ← look fun s => s.fpChecked.all fun t => decide (fingerprintPollS ≤ now - t)
  if due then do
    does (.setFpChecked now)
    let fp ← answer (·.fingerprint)
    look fun s => decide (fp.isNone ∨ fp ≠ s.armRecord.map (·.fingerprint))
  else .ret false

def pollStation (now : ℚ) : Proc Unit := do
  let due ← look fun s => s.stationNext.any fun t => decide (t ≤ now)
  if due then do
    does (.setStationNext (some (now + cfg.stationIdIntervalS)))
    emit cfg me
  else .ret ()

def pollRest (now : ℚ) : Proc Unit := do
  checkUnderflows cfg me now
  let live ← isLive
  if live then do
    expirePermits now
    paIdleCheck cfg me now
    let changed ← pollFingerprint now
    if changed then disarm cfg me else pollStation cfg me now
  else .ret ()

def pollInputs (now : ℚ) (tx : Bool) (a : Answer) : Proc Unit := do
  let dummy ← look fun s => decide (s.mode = some .dummyLoad)
  let retuned ← retuneProblem (cfg.reading a)
  if a.interlock = some false then trip cfg me .interlockOpen
  else if dummy && decide (a.dummyLoad = some false) then trip cfg me .dummyLoadLost
  else if a.telemetry.isSome then trip cfg me (a.telemetry.getD .telemetryStale)
  else if cfg.requireRefLock && decide (a.refLock = some false) then trip cfg me .refUnlock
  else if retuned then (if tx then trip cfg me .freqChanged else disarm cfg me)
  else pollRest cfg me now

def hangs (now : ℚ) (s : Sys) : Bool :=
  s.inflight.any fun pid => decide ((s.entries pid).permit.deadlineMono < now)

def pollLive (now : ℚ) (adopt : Bool) (a : Answer) : Proc Unit := do
  let tx ← stateIs .transmitting
  let hang ← look (hangs now)
  let expiry ← look (·.expiryMono)
  let hb ← look (·.lastHb)
  if tx && hang then trip cfg me .txHang
  else if expiry < now then
    (if tx then trip cfg me .txHang
    else do
      emit cfg me
      disarm cfg me)
  else if hb.any fun t => decide (cfg.heartbeatTimeoutS < now - t) then
    (if tx then trip cfg me .heartbeat else disarm cfg me)
  else if adopt then revokeAdopted cfg me
  else pollInputs cfg me now tx a

def poll (at' : Option ℚ) : Proc Unit := do
  let live ← isLive
  let adopt ← (if live then adoptedRecordProblem else .ret false)
  .ask fun a => do
    let clock ← look (·.clock)
    let live' ← isLive
    let now := at'.getD clock
    if live && live' then pollLive cfg me now adopt a else paIdleCheck cfg me now

/-! ## Authorization -/

def authorizeLiveness (now : ℚ) : Proc Unit := do
  let expiry ← look (·.expiryMono)
  (if expiry < now then do
    let armed ← stateIs .armed
    whenever armed (do
      emit cfg me
      disarm cfg me)
    refuse cfg me .armExpired
  else .ret ())
  let hb ← look (·.lastHb)
  if hb.all fun t => decide (cfg.heartbeatTimeoutS < now - t) then do
    let armed ← stateIs .armed
    whenever armed (disarm cfg me)
    refuse cfg me .watchdog
  else .ret ()

def authorizeRecord : Proc Unit := do
  let problem ← adoptedRecordProblem
  (if problem then do
    revokeAdopted cfg me
    refuse cfg me .notArmed
  else .ret ())
  let fp ← answer (·.fingerprint)
  let own ← look fun s => s.armRecord.map (·.fingerprint)
  if fp.isNone ∨ own.isNone then .throw .error
  else if fp ≠ own then do
    let armed ← stateIs .armed
    whenever armed (disarm cfg me)
    refuse cfg me .configChanged
  else .ret ()

def authorizeState (now : ℚ) : Proc Unit := do
  let disabled ← stateIs .disabled
  refuseIf cfg me disabled .txDisabled
  let latched ← stateIs .fault
  refuseIf cfg me latched .faultLatched
  let live ← isLive
  refuseIf cfg me (!live) .notArmed
  authorizeLiveness cfg me now
  authorizeRecord cfg me

def BurstRequest.WellShaped (cfg : Setup) (req : BurstRequest) : Prop :=
  req.chains ≠ [] ∧ req.chains.Nodup ∧ (∀ c ∈ req.chains, c < cfg.nTx) ∧
  req.samples.length = req.chains.length ∧ (∀ row ∈ req.samples, row.length = req.nSamp) ∧
  1 ≤ req.nSamp ∧ 0 < req.fsHz ∧ 0 ≤ req.timeoutS

instance (cfg : Setup) (req : BurstRequest) : Decidable (req.WellShaped cfg) :=
  inferInstanceAs (Decidable (_ ∧ _))

def authorizeShape (req : BurstRequest) (flowgraph : Bool) : Proc Unit := do
  refuseIf cfg me (¬req.WellShaped cfg) .shape
  checks cfg me
  refuseIf cfg me (0 < req.atOffsetS ∧ flowgraph = false) .shape
  checks cfg me
  refuseIf cfg me (cfg.maxBurstS * (1 + absTol) < req.durS) .burstLength

def Setup.minLead (cfg : Setup) : ℚ := max cfg.minStartLeadS cfg.minTxLeadS

variable (req : BurstRequest)

def authorizeTimed (now : ℚ) : Proc ℚ := do
  refuseIf cfg me (cfg.hasTimeNow = false) .startTime
  let reading ← answer (·.lead)
  match reading with
  | none => refuse cfg me .startTime
  | some lead => do
      refuseIf cfg me (lead < cfg.minLead - absTol) .startTime
      let expiry ← look (·.expiryMono)
      refuseIf cfg me (expiry < now + lead + req.durS) .startTime
      .ret lead

def authorizeUntimed (flowgraph : Bool) (now : ℚ) : Proc ℚ := do
  refuseIf cfg me (cfg.isSimulation = false ∧ flowgraph = false ∧
    (cfg.hasTimeNow ∨ cfg.hasBackend)) .startTime
  let expiry ← look (·.expiryMono)
  refuseIf cfg me (expiry < now + max 0 req.atOffsetS + req.durS) .startTime
  .ret (max 0 req.atOffsetS)

def issuedEntry (pid : PermitId) (sid : SessionId) (now ahead : ℚ) : Entry where
  permit :=
    { permitId := pid
      sessionId := sid
      samples := cfg.toComplex64 req.samples
      chains := req.chains
      timed := req.timed
      durationS := req.durS
      digest := cfg.toComplex64 req.samples
      deadlineMono := now + (if req.timed then ahead else 0) +
        max 1 (2 * req.durS + min req.timeoutS cfg.heartbeatTimeoutS) }
  session := sid
  dutyAt := now + ahead
  atOffset := max 0 req.atOffsetS
  lnaCredit := cfg.hasRf && cfg.lnaOffDuringTx && cfg.lnaControllable
  trCredit := cfg.hasRf && cfg.hasTrSwitch

def issue (gen0 : ℕ) (now ahead : ℚ) : Proc PermitId := do
  let gen ← tripGen .plain
  let live ← (if gen ≠ gen0 then .ret false else isLive)
  (if live then .ret () else raiseInterrupted cfg me)
  let pid ← reads .fresh (·.nextId)
  let own ← look fun s => s.armRecord.map (·.sessionId)
  match own with
  | none => .throw .error
  | some sid => do
      does (.register (issuedEntry cfg req pid sid now ahead))
      does (.reserve pid (now + ahead) req.durS)
      let gen' ← tripGen .plain
      if gen' ≠ gen0 then do
        dropPermit pid .interrupted
        raiseInterrupted cfg me
      else .ret pid

def authorizeBurst : Proc PermitId := do
  let gen0 ← tripGen .plain
  let now ← look (·.clock)
  expirePermits now
  authorizeState cfg me now
  let adopted ← look (·.adopted)
  authorizeShape cfg me req (req.flowgraph && adopted)
  let ahead ← (if req.timed then authorizeTimed cfg me req now
    else authorizeUntimed cfg me req (req.flowgraph && adopted) now)
  let exceeds ← look fun s => s.duty.wouldExceed req.durS (now + ahead) none
  refuseIf cfg me exceeds .duty
  checks cfg me
  issue cfg me req gen0 now ahead

/-! ## Consume -/

def refuseConsume {α : Type} (pid : Option PermitId) (code : Code) : Proc α := do
  (match pid with
    | none => .ret ()
    | some p => dropPermit p (.refused code))
  let now ← look (·.clock)
  paIdleCheck cfg me now
  refuse cfg me code

def unknownPermit {α : Type} (pid : PermitId) : Proc α := do
  let used ← look fun s => decide (pid ∈ s.completed)
  let why ← look fun s => s.revoked.lookup pid
  if used then tripRaise cfg me .permitReused
  else
    match why with
    | some .expired => refuseConsume cfg me none .permitExpired
    | some _ => refuseConsume cfg me none .notArmed
    | none => tripRaise cfg me .permitForged

def consumeLookup : Handle → Proc (PermitId × Samples)
  | .issued pid data => do
      let registered ← look fun s => decide (pid ∈ s.registry)
      if registered then .ret (pid, data) else unknownPermit cfg me pid
  | .foreign none => tripRaise cfg me .permitForged
  | .foreign (some pid) => do
      let registered ← look fun s => decide (pid ∈ s.registry)
      if registered then tripRaise cfg me .permitForged else unknownPermit cfg me pid

def consumePermit (now : ℚ) (pid : PermitId) (data : Samples) (e : Entry)
    (sess : Option SessionId) : Proc Unit :=
  if e.consumed then tripRaise cfg me .permitReused
  else if e.permit.sessionId ≠ e.session ∨ some e.permit.sessionId ≠ sess then
    tripRaise cfg me .permitForged
  else if data ≠ e.permit.digest then tripRaise cfg me .digest
  else if e.permit.deadlineMono < now then refuseConsume cfg me (some pid) .permitExpired
  else do
    let tx ← stateIs .transmitting
    refuseIf cfg me tx .sequence
    let armed ← stateIs .armed
    if armed then .ret () else refuseConsume cfg me (some pid) .notArmed

def consumeRetune (pid : PermitId) : Proc Unit := .ask fun a => do
  let retuned ← retuneProblem (cfg.reading a)
  if retuned then do
    disarm cfg me
    refuseConsume cfg me (some pid) .freqChanged
  else .ret ()

def consumePoll (now : ℚ) (pid : PermitId) : Proc Unit := do
  poll cfg me (some now)
  let latched ← stateIs .fault
  (if latched then do
    let code ← look (·.faultCode)
    .throw (.interlock code)
  else .ret ())
  let armed ← stateIs .armed
  let registered ← look fun s => decide (pid ∈ s.registry)
  if armed && registered then .ret () else refuseConsume cfg me (some pid) .notArmed

def frontendStateProblem (e : Entry) : Proc Bool := do
  let atr ← look (·.front.atr)
  let lna ← look (·.front.lna)
  let tr ← look (·.front.tr)
  .ret (cfg.hasRf && !atr && (e.lnaCredit && lna || e.trCredit && decide (tr ≠ .tx)))

def consumeDuty (pid : PermitId) (e : Entry) (start : ℚ) : Proc Unit := do
  let exceeds ← look fun s => s.duty.wouldExceed e.permit.durationS start (some pid)
  (if exceeds then refuseConsume cfg me (some pid) .duty else .ret ())
  let problem ← frontendStateProblem cfg e
  if problem then refuseConsume cfg me (some pid) .sequence else .ret ()

def consumeTest (gen0 : ℕ) (pid : PermitId) : Proc Bool := do
  let gen ← tripGen .plain
  let armed ← (if gen ≠ gen0 then .ret false
    else reads (.look .consumeTest) fun s => decide (s.state = .armed))
  if armed then reads (.look (.consumeEntry pid)) fun s => decide (pid ∈ s.registry)
  else .ret false

def consumeCommit (gen0 : ℕ) (pid : PermitId) (e : Entry) (sess : Option SessionId)
    (start : ℚ) : Proc Unit := do
  let ok ← consumeTest gen0 pid
  if ok then do
    does (.setConsumed pid)
    does (.setDutyAt pid start)
    does (.setInflight (some pid))
    does (.setState .transmitting (.consume pid))
    let gen ← tripGen .plain
    (if gen ≠ gen0 then do
      dropPermit pid .interrupted
      undoInterrupted cfg me sess (some pid)
    else .ret ())
    does (.record pid start e.permit.durationS)
    emit cfg me
  else do
    dropPermit pid .interrupted
    raiseInterrupted cfg me

def consume (h : Handle) : Proc Unit := do
  let gen0 ← tripGen .plain
  let now ← look (·.clock)
  let disabled ← stateIs .disabled
  refuseIf cfg me disabled .txDisabled
  let found ← consumeLookup cfg me h
  let e ← look (·.entries found.1)
  let sess ← look fun s => s.armRecord.map (·.sessionId)
  consumePermit cfg me now found.1 found.2 e sess
  consumeRetune cfg me found.1
  consumePoll cfg me now found.1
  let start := if e.permit.timed then e.dutyAt else now + e.atOffset
  consumeDuty cfg me found.1 e start
  consumeCommit cfg me gen0 found.1 e sess start

/-! ## Completion -/

def TxResult.bad (r : TxResult) : ℕ :=
  if r.contentCorrupt && decide (r.underflows + r.late = 0) then 1 else r.underflows + r.late

def retire (pid : PermitId) : Proc Unit := do
  does (.popRegistry pid)
  does (.setCompleted pid)
  does (.rememberCompleted pid)

def completeCommit (gen0 : ℕ) : Proc Unit := do
  let tx ← reads (.look .completeTest) fun s => decide (s.state = .transmitting)
  let same ← (if tx then reads (.look (.completeGen gen0)) fun s => decide (s.tripGen = gen0)
    else .ret false)
  if same then do
    does (.setState .armed .complete)
    let gen ← tripGen .plain
    let armed ← (if gen ≠ gen0 then reads (.look .repairTest) fun s => decide (s.state = .armed)
      else .ret false)
    if armed then do
      let code ← look (·.faultCode)
      does (.setState (restoredState code) .repair)
    else .ret ()
  else .ret ()

def completeRest (now : ℚ) : Proc Unit := do
  let armed ← stateIs .armed
  if armed then do
    let atr ← look (·.front.atr)
    whenever (!cfg.paHoldBetweenBursts && cfg.hasRf && !atr) (sequenceToRx cfg me).attempt
    let expiry ← look (·.expiryMono)
    if expiry < now then do
      emit cfg me
      disarm cfg me
    else .ret ()
  else .ret ()

def completeInflight (gen0 : ℕ) (now : ℚ) (pid : PermitId) (result : TxResult) : Proc Unit := do
  retire pid
  does (.setInflight none)
  does (.pushUnderflows now result.bad)
  emit cfg me
  whenever (!result.events.isEmpty) (handleAsyncEvents cfg me result.events)
  checkUnderflows cfg me now
  completeCommit gen0
  completeRest cfg me now

def completeEntry (gen0 : ℕ) (now : ℚ) (pid : PermitId) (result : TxResult) : Proc Unit := do
  let e ← look (·.entries pid)
  let mine ← look fun s => decide (s.inflight = some pid)
  if e.consumed then
    (if mine then completeInflight cfg me gen0 now pid result else retire pid)
  else do
    dropPermit pid .completedUnconsumed
    paIdleCheck cfg me now

def burstComplete (h : Handle) (result : TxResult) : Proc Unit := do
  let gen0 ← tripGen .plain
  let now ← look (·.clock)
  match h with
  | .foreign _ => .ret ()
  | .issued pid _ => do
      let registered ← look fun s => decide (pid ∈ s.registry)
      if registered then completeEntry cfg me gen0 now pid result else .ret ()

/-! ## Fault reset -/

/-- The arguments of `reset_fault`: whether an operator is named, and the code
whose phrase was typed (`none` for another text). -/
structure ResetRequest where
  operatorGiven : Bool
  typed : Option (Option Code)
  deriving DecidableEq, Inhabited

def resetChecks (req : ResetRequest) : Proc Unit := do
  let disabled ← reads (.look .resetBegin) fun s => decide (s.state = .disabled)
  refuseIf cfg me disabled .txDisabled
  let latched ← stateIs .fault
  refuseIf cfg me (!latched) .sequence
  refuseIf cfg me (!req.operatorGiven) .noOperator
  let code ← look (·.faultCode)
  refuseIf cfg me (req.typed ≠ some code) .confirmation
  .ask fun a => do
    refuseIf cfg me (a.interlock = some false) .interlockOpen
    refuseIf cfg me (a.telemetry.isSome ∧ a.telemetry ≠ some .telemetryStale)
      (a.telemetry.getD .telemetryStale)
    refuseIf cfg me (cfg.requireRefLock ∧ a.refLock = some false) .refUnlock

def resetFault (req : ResetRequest) : Proc Unit := do
  (resetChecks cfg me req).catching fun e => do
    does (.note .resetEnded)
    .throw e
  safeShutdown cfg me false
  does (.setState .safe .reset)
  does (.setArmRecord none)
  does (.setMode none)
  does (.setFaultCode none)
  emit cfg me
  does (.note .resetEnded)

end

/-! ## The operations -/

inductive Op
  | arm (req : ArmRequest)
  | refresh
  | heartbeat
  | disarm
  | authorizeBurst (req : BurstRequest)
  | consume (h : Handle)
  | burstComplete (h : Handle) (result : TxResult)
  | poll
  | handleAsyncEvents (events : List AsyncKind)
  | resetFault (req : ResetRequest)
  | trip (code : Code)
  | safeShutdown
  | paEnable (chans : Option (List ℕ)) (on : Bool) (c : Option Credential)
  | sequenceToTx (c : Credential)
  | sequenceToRx
  deriving DecidableEq

def Op.prog (cfg : Setup) (me : Thread) : Op → Proc Unit
  | .arm req => Tx.arm cfg me req >>= fun _ => .ret ()
  | .refresh => Tx.refresh cfg me >>= fun _ => .ret ()
  | .heartbeat => Tx.heartbeat
  | .disarm => Tx.disarm cfg me
  | .authorizeBurst req => Tx.authorizeBurst cfg me req >>= fun _ => .ret ()
  | .consume h => Tx.consume cfg me h
  | .burstComplete h result => Tx.burstComplete cfg me h result
  | .poll => Tx.poll cfg me none
  | .handleAsyncEvents events => Tx.handleAsyncEvents cfg me events
  | .resetFault req => Tx.resetFault cfg me req
  | .trip code => Tx.trip cfg me code
  | .safeShutdown => Tx.safeShutdown cfg me false
  | .paEnable chans on c => Tx.paEnable cfg me chans on c
  | .sequenceToTx c => Tx.sequenceToTx cfg me c
  | .sequenceToRx => Tx.sequenceToRx cfg me

end HeimdallDaq.Tx
