/-
  Tx/Types.lean --- the state of one transmit controller and its commands.

  `Sys` is what the methods of `TxSafetyController` and `RfControl` read and write: the
  fields of the two objects, the arm record on disk, the output lines, and the two locks
  of the event log that are not re-entrant.
-/
import HeimdallDaq.Foundation.Prog
import HeimdallDaq.Tx.Duty

namespace HeimdallDaq.Tx

/-! ## Values -/

inductive TxState
  | disabled | safe | armed | transmitting | fault
  deriving DecidableEq, Inhabited

def TxState.isLive : TxState → Bool
  | .armed | .transmitting => true
  | .disabled | .safe | .fault => false

/-- `TX_MODES`. -/
inductive TxMode
  | dummyLoad | cabled | radiate
  deriving DecidableEq, Inhabited

/-- `REFUSAL_CODES` and `TRIP_CODES`. -/
inductive Code
  | txDisabled | faultLatched | alreadyArmed | modeNotAllowed | confirmation
  | confirmationTtyRequired | noOperator | backend | configInvalid | configChanged
  | freqNotAllowed | freqDenied | freqChanged | refUnlock | noSync | coherenceClass
  | interlockOpen | interlockRequired | dummyLoad | telemetryStale | noPowerMonitor
  | reversePower | vswr | overTemp | chainPower | totalPower | paCompression
  | rxProtection | dummyLoadRating | cabledRxOverload | noPowerCal | noAuthorization
  | eirp | mpe | passiveChain | calRequired | calMode | notArmed | armExpired
  | armTotal | watchdog | shape | nonfinite | amplitude | gain | burstLength | duty
  | activeReflection | startTime | permitExpired | sequence | txArmed
  | heartbeat | txHang | underflowStorm | loUnlock | dummyLoadLost | permitForged
  | permitReused | digest | exception | signal | exitWhileArmed
  deriving DecidableEq, Inhabited

inductive Stop
  /-- `SafetyRefusal` -/
  | refusal (code : Code)
  /-- `InterlockTrip`; `none` for an empty code -/
  | interlock (code : Option Code)
  /-- `HardwareFault` -/
  | hardware
  | error
  deriving DecidableEq

abbrev SessionId := ℕ
abbrev PermitId := ℕ
abbrev Thread := ℕ

/-- `ArmRecord`; `objId` is the identity of the Python object. -/
structure ArmRecord where
  objId : ℕ
  sessionId : SessionId
  mode : TxMode
  fcHz : ℚ
  armedUnix : ℚ
  expiresUnix : ℚ
  fingerprint : String
  flowgraphSha256 : String := ""
  waveformSha256 : String := ""
  maxBursts : ℤ := 0
  deriving DecidableEq, Inhabited

abbrev Samples := List (List (ℚ × ℚ))

/-- `TxPermit`.  The digest stands for the samples it was taken of. -/
structure Permit where
  permitId : PermitId
  sessionId : SessionId
  samples : Samples
  chains : List ℕ
  /-- whether `start` is a device time -/
  timed : Bool
  durationS : ℚ
  digest : Samples
  deadlineMono : ℚ
  deriving DecidableEq, Inhabited

structure Entry where
  permit : Permit
  session : SessionId
  consumed : Bool := false
  completed : Bool := false
  dutyAt : ℚ
  atOffset : ℚ
  lnaCredit : Bool
  trCredit : Bool
  deriving DecidableEq, Inhabited

inductive Handle
  /-- the object issued under `pid`, whose buffer now holds `samples` -/
  | issued (pid : PermitId) (samples : Samples)
  /-- any other object, with its `permit_id` if that is a string -/
  | foreign (pid : Option PermitId)
  deriving DecidableEq

def Handle.pid : Handle → Option PermitId
  | .issued pid _ => some pid
  | .foreign pid => pid

/-- What `RfControl` takes as a permit: a permit or an arm record. -/
inductive Credential
  | permit (h : Handle)
  | record (objId : ℕ)
  deriving DecidableEq

inductive Revoked
  | expired | interrupted | completedUnconsumed | shutdown
  | refused (code : Code)
  deriving DecidableEq

/-! ## The front end -/

/-- `TR_MODES`. -/
inductive TrMode
  | rx | tx
  deriving DecidableEq, Inhabited

/-- `CAL_INPUTS`. -/
inductive CalInput
  | antenna | injection | loopback
  deriving DecidableEq, Inhabited

abbrev Line := Option ℕ

inductive Drive
  | manual (on : Bool)
  | atr
  deriving DecidableEq

inductive WriteResult
  | done | raised | raisedLate
  deriving DecidableEq, Inhabited

/-- `RfControl.state`, the values saved for RX, and the output lines. -/
structure FrontEnd where
  pa : ℕ → Bool := fun _ => false
  tr : TrMode := .rx
  lna : Bool := true
  calInput : CalInput := .antenna
  atr : Bool := false
  savedRxGain : Bool := false
  lnaBeforeTx : Option Bool := none
  drive : ℕ → Drive := fun _ => .manual false

inductive LineUse
  | paOn | paOff | forcePaOff | tr | lna | cal
  deriving DecidableEq

/-- The assignments of `RfControl`. -/
inductive FrontCmd
  | line (use : LineUse) (n : ℕ) (value : Bool) (result : WriteResult)
  | setPa (chain : ℕ) (on : Bool)
  | setPaAll (on : Bool)
  | setTr (mode : TrMode)
  | setLna (on : Bool)
  | setCalInput (mode : CalInput)
  | setAtr (on : Bool)
  | setSavedRxGain (saved : Bool)
  | setLnaBeforeTx (lna : Option Bool)
  deriving DecidableEq

def Drive.write (value : Bool) : Drive → Drive
  | .manual _ => .manual value
  | .atr => if value then .atr else .manual false

def FrontCmd.apply : FrontCmd → FrontEnd → FrontEnd
  | .line _ n value result, f =>
    match result with
    | .raised => f
    | .done | .raisedLate =>
      { f with drive := Function.update f.drive n ((f.drive n).write value) }
  | .setPa chain on, f => { f with pa := Function.update f.pa chain on }
  | .setPaAll on, f => { f with pa := fun _ => on }
  | .setTr mode, f => { f with tr := mode }
  | .setLna on, f => { f with lna := on }
  | .setCalInput mode, f => { f with calInput := mode }
  | .setAtr on, f => { f with atr := on }
  | .setSavedRxGain saved, f => { f with savedRxGain := saved }
  | .setLnaBeforeTx lna, f => { f with lnaBeforeTx := lna }

/-! ## The controller -/

structure Sys where
  clock : ℚ := 0
  state : TxState
  tripGen : ℕ := 0
  faultCode : Option Code := none
  armRecord : Option ArmRecord := none
  mode : Option TxMode := none
  armedMono : ℚ := 0
  expiryMono : ℚ := 0
  lastHb : Option ℚ := none
  adopted : Bool := false
  /-- the keys of `_registry`; the entries are objects of their own -/
  registry : List PermitId := []
  entries : PermitId → Entry := fun _ => default
  revoked : List (PermitId × Revoked) := []
  /-- `_completed`, with `_completed_set` -/
  completed : List PermitId := []
  inflight : Option PermitId := none
  underflows : List ℚ := []
  duty : DutyCycleMeter PermitId
  fpChecked : Option ℚ := none
  stationNext : Option ℚ := none
  /-- the arm record file; `none` when missing or corrupt -/
  disk : Option ArmRecord := none
  nextId : ℕ := 0
  front : FrontEnd := {}
  /-- whether the thread is inside the locked section of `EventLog.emit` -/
  eventHeld : Thread → Bool := fun _ => false
  /-- whether the thread is inside `put_nowait` of the event bus -/
  busHeld : Thread → Bool := fun _ => false

/-- Where the state is read.  Only the reads that a result refers to have a name
of their own. -/
inductive Site
  | plain
  /-- `gen0` of `arm`, its first read -/
  | armBegin
  /-- `state == FAULT` in A1 -/
  | armTest
  /-- `_check_not_interrupted(gen0, "arming")` -/
  | armCheck (gen0 : ℕ)
  /-- `state != ARMED` in the last test of `consume` -/
  | consumeTest
  /-- `_registry.get(pid) is not entry` in the last test of `consume` -/
  | consumeEntry (pid : PermitId)
  /-- `state == TRANSMITTING` at the end of `burst_complete` -/
  | completeTest
  /-- `_trip_gen == gen0` at the end of `burst_complete` -/
  | completeGen (gen0 : ℕ)
  /-- `state == ARMED` after the commit of `burst_complete` -/
  | repairTest
  /-- `state in (ARMED, TRANSMITTING)` in `_undo_interrupted` -/
  | undoTest
  /-- `state == FAULT` in `mark` -/
  | markTest
  /-- `state != DISABLED` in `mark` -/
  | markDisabled
  /-- `state not in (ARMED, TRANSMITTING)` in `permit_active` -/
  | permitState
  /-- `state == DISABLED`, the first read of `reset_fault` -/
  | resetBegin
  deriving DecidableEq

inductive Writer
  | latch | mark | arm | consume (pid : PermitId) | complete | repair | undo | reset
  deriving DecidableEq

inductive Point
  | shutdownReturned
  | tripReturned
  /-- the `pa_off` step of a shutdown begins -/
  | paOffBegin
  | permitDone
  | resetEnded
  /-- `_do_tx_send` -/
  | sent (pid : PermitId) (samples : Samples)
  deriving DecidableEq

inductive Bumper
  | trip | shutdown
  deriving DecidableEq

inductive Cmd
  | look (site : Site)
  | note (point : Point)
  | acquireEvent (t : Thread)
  | releaseEvent (t : Thread)
  | acquireBus (t : Thread)
  | releaseBus (t : Thread)
  | bump (caller : Bumper)
  | setState (st : TxState) (writer : Writer)
  | setFaultCode (code : Option Code)
  | setArmRecord (r : Option ArmRecord)
  | setMode (m : Option TxMode)
  /-- `_armed_mono`, `_expiry_mono`, `_last_hb` and `_fp_checked` of a new session -/
  | startSession (now expiry : ℚ)
  | setExpiry (t : ℚ)
  | setLastHb (t : ℚ)
  | setFpChecked (t : ℚ)
  | setStationNext (t : Option ℚ)
  | setAdopted (b : Bool)
  | clearRegistry
  | popRegistry (pid : PermitId)
  | register (e : Entry)
  | setConsumed (pid : PermitId)
  | setDutyAt (pid : PermitId) (t : ℚ)
  | setCompleted (pid : PermitId)
  | setInflight (pid : Option PermitId)
  | revoke (pid : PermitId) (why : Revoked)
  | rememberCompleted (pid : PermitId)
  | reserve (pid : PermitId) (start dur : ℚ)
  | release (pid : PermitId)
  | releaseAll
  | record (pid : PermitId) (start dur : ℚ)
  | pushUnderflows (t : ℚ) (n : ℕ)
  | dropUnderflows (before : ℚ)
  | clearUnderflows
  | writeRecord (r : ArmRecord) (ok : Bool)
  | clearRecord
  | fresh
  | front (c : FrontCmd)
  | advance (d : ℚ≥0)
  deriving DecidableEq

def revokeIn (revoked : List (PermitId × Revoked)) (pid : PermitId) (why : Revoked) :
    List (PermitId × Revoked) :=
  let revoked' := if revoked.any (·.1 == pid) then
      revoked.map fun r => if r.1 = pid then (pid, why) else r
    else revoked ++ [(pid, why)]
  if 4096 < revoked'.length then revoked'.drop 1024 else revoked'

def rememberIn (completed : List PermitId) (pid : PermitId) : List PermitId :=
  (if completed.length = 4096 then completed.tail else completed) ++ [pid]

def Cmd.apply : Cmd → Sys → Sys
  | .look _, s => s
  | .note _, s => s
  | .acquireEvent t, s => { s with eventHeld := Function.update s.eventHeld t true }
  | .releaseEvent t, s => { s with eventHeld := Function.update s.eventHeld t false }
  | .acquireBus t, s => { s with busHeld := Function.update s.busHeld t true }
  | .releaseBus t, s => { s with busHeld := Function.update s.busHeld t false }
  | .bump _, s => { s with tripGen := s.tripGen + 1 }
  | .setState st _, s => { s with state := st }
  | .setFaultCode code, s => { s with faultCode := code }
  | .setArmRecord r, s => { s with armRecord := r }
  | .setMode m, s => { s with mode := m }
  | .startSession now expiry, s =>
    { s with armedMono := now, expiryMono := expiry, lastHb := some now, fpChecked := some now }
  | .setExpiry t, s => { s with expiryMono := t }
  | .setLastHb t, s => { s with lastHb := some t }
  | .setFpChecked t, s => { s with fpChecked := some t }
  | .setStationNext t, s => { s with stationNext := t }
  | .setAdopted b, s => { s with adopted := b }
  | .clearRegistry, s => { s with registry := [] }
  | .popRegistry pid, s => { s with registry := s.registry.filter fun q => decide (q ≠ pid) }
  | .register e, s =>
    { s with
      registry := s.registry ++ [e.permit.permitId]
      entries := Function.update s.entries e.permit.permitId e }
  | .setConsumed pid, s =>
    { s with entries := Function.update s.entries pid { s.entries pid with consumed := true } }
  | .setDutyAt pid t, s =>
    { s with entries := Function.update s.entries pid { s.entries pid with dutyAt := t } }
  | .setCompleted pid, s =>
    { s with entries := Function.update s.entries pid { s.entries pid with completed := true } }
  | .setInflight pid, s => { s with inflight := pid }
  | .revoke pid why, s => { s with revoked := revokeIn s.revoked pid why }
  | .rememberCompleted pid, s => { s with completed := rememberIn s.completed pid }
  | .reserve pid start dur, s => { s with duty := s.duty.reserve pid start dur }
  | .release pid, s => { s with duty := s.duty.release pid }
  | .releaseAll, s => { s with duty := s.duty.releaseAll }
  | .record pid start dur, s => { s with duty := s.duty.record s.clock start dur pid }
  | .pushUnderflows t n, s => { s with underflows := s.underflows ++ List.replicate n t }
  | .dropUnderflows before, s =>
    { s with underflows := s.underflows.dropWhile fun t => decide (t < before) }
  | .clearUnderflows, s => { s with underflows := [] }
  | .writeRecord r ok, s => if ok then { s with disk := some r } else s
  | .clearRecord, s => { s with disk := none }
  | .fresh, s => { s with nextId := s.nextId + 1 }
  | .front c, s => { s with front := c.apply s.front }
  | .advance d, s => { s with clock := s.clock + d }

/-! ## Configuration -/

/-- The parts of the policy, of the RF control configuration and of the objects a
controller was built with that its methods read. -/
structure Setup where
  armTimeoutS : ℚ
  maxArmTotalS : ℚ
  heartbeatTimeoutS : ℚ
  maxBurstS : ℚ
  minStartLeadS : ℚ
  minTxLeadS : ℚ
  underflowTripCount : ℕ
  underflowWindowS : ℚ
  stationIdIntervalS : ℚ := 600
  amateur : Bool := false
  requireRefLock : Bool := false
  paHoldBetweenBursts : Bool := false
  lnaOffDuringTx : Bool := true
  muteRxDuringTx : Bool := true
  /-- `fe.lna_controllable` and `fe.has_tr_switch` of the front-end model -/
  lnaControllable : Bool := true
  hasTrSwitch : Bool := true
  paLines : List Line
  trLine : Line
  lnaLine : Line
  calInjectionLine : Line := none
  calLoopbackLine : Line := none
  hasRf : Bool := true
  hasBackend : Bool := true
  hasTimeNow : Bool := true
  hasTxFreq : Bool := true
  hasSafety : Bool := true
  isSimulation : Bool := false
  busEnabled : Bool := false
  /-- `astype(complex64)` -/
  toComplex64 : Samples → Samples := id
  txDevice : ℕ → ℕ := fun _ => 0
  /-- `iq_conjugate` and `min_tx_lead_s` of a device -/
  iqConjugate : ℕ → Bool := fun _ => false
  deviceLeadS : ℕ → ℚ := fun _ => 0

def Setup.nTx (cfg : Setup) : ℕ := cfg.paLines.length

def bench : Setup where
  armTimeoutS := 60
  maxArmTotalS := 900
  heartbeatTimeoutS := 2
  maxBurstS := 1 / 10
  minStartLeadS := 1 / 20
  minTxLeadS := 0
  underflowTripCount := 5
  underflowWindowS := 1
  paLines := [some 0]
  trLine := some 1
  lnaLine := some 2

def bench.idle : Sys where
  state := .safe
  duty :=
    { windowS := 10
      dutyMax := 1 / 10
      window_pos := by norm_num
      duty_pos := by norm_num
      duty_le_one := by norm_num }

def freqTolHz : ℚ := 1

def fingerprintPollS : ℚ := 1

/-! ## Answers of the outside world -/

/-- How a group of checks of the source ended: checks on sensors, on the
configuration, on the signal and on the RF model are answers. -/
inductive Check
  | pass
  | refuse (code : Code)
  | raise
  deriving DecidableEq, Inhabited

/-- The kinds of `AsyncEvent` that `handle_async_events` tells apart. -/
inductive AsyncKind
  | underflow | seqError | refUnlock | loUnlock | other
  deriving DecidableEq

structure TxResult where
  acked : Bool := true
  sentSamples : ℕ := 0
  underflows : ℕ := 0
  late : ℕ := 0
  contentCorrupt : Bool := false
  events : List AsyncKind := []
  deriving DecidableEq, Inhabited

structure Answer where
  check : Check := .pass
  wall : ℚ := 0
  ok : Bool := true
  write : WriteResult := .done
  /-- `_fingerprint()`; `none` if it raises -/
  fingerprint : Option String := some ""
  /-- `_interlock_state()` and `_dl_state()`; `none`: not configured -/
  interlock : Option Bool := none
  dummyLoad : Option Bool := none
  /-- `_telemetry_violation()` -/
  telemetry : Option Code := none
  /-- `_ref_state()[0]` -/
  refLock : Option Bool := some true
  /-- `_read_tx_freq()`; `none` if it cannot be read -/
  txFreq : Option ℚ := some 0
  /-- `start.diff_seconds(time_now())`; `none` if it cannot be read -/
  lead : Option ℚ := some 0
  /-- the send ended with this result; `none` if it raised -/
  result : Option TxResult := some {}

instance : Inhabited Answer := ⟨{}⟩

end HeimdallDaq.Tx
