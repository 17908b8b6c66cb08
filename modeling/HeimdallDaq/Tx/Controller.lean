/-
  Tx/Controller.lean --- arming, refreshing and disarming.

  The session operations of `TxSafetyController`, with every read and assignment of the
  shared state as a step of its own.
-/
import HeimdallDaq.Tx.RfControl

namespace HeimdallDaq.Tx

open Foundation
open Prog (does reads answer forEach)

/-- The arguments of `arm`, as far as the record and the session keep them. -/
structure ArmRequest where
  mode : TxMode := .dummyLoad
  fcHz : ℚ := 0
  durationS : Option ℚ := none
  flowgraphSha256 : String := ""
  waveformSha256 : String := ""
  maxBursts : ℤ := 0
  deriving DecidableEq, Inhabited

section

variable (cfg : Setup) (me : Thread)

/-! ## Small helpers -/

@[grind]
def tripGen (site : Site) : Proc ℕ := reads (.look site) (·.tripGen)

@[grind]
def stateIs (st : TxState) : Proc Bool := look fun s => decide (s.state = st)

@[grind]
def isLive : Proc Bool := look (·.state.isLive)

def checks : Proc Unit := .ask fun a =>
  match a.check with
  | .pass => .ret ()
  | .refuse code => refuse cfg me code
  | .raise => .throw .error

def raiseInterrupted {α : Type} : Proc α := do
  let latched ← stateIs .fault
  if latched then do
    let code ← look (·.faultCode)
    .throw (.interlock (some (code.getD .signal)))
  else refuse cfg me .sequence

def checkNotInterrupted (gen0 : ℕ) (site : Site) : Proc Unit := do
  let gen ← tripGen site
  if gen ≠ gen0 then raiseInterrupted cfg me else .ret ()

def restoredState (code : Option Code) : TxState := if code.isSome then .fault else .safe

def undoState : Proc Unit := do
  let live ← reads (.look .undoTest) (·.state.isLive)
  if live then do
    let code ← look (·.faultCode)
    does (.setState (restoredState code) .undo)
  else .ret ()

def undoInflight (entry : Option PermitId) : Proc Unit := do
  let mine ← look fun s => decide (entry.isSome ∧ s.inflight = entry)
  whenever mine (does (.setInflight none))

variable (session : Option SessionId)

def undoRecord : Proc Unit := do
  let latched ← stateIs .fault
  whenever (!latched) (do
    does (.setArmRecord none)
    does (.setMode none))
  let own ← look fun s => decide (s.disk.isSome ∧ s.disk.map (·.sessionId) = session)
  if own then do
    let adopted ← look (·.adopted)
    whenever (!adopted) (does .clearRecord)
  else .ret ()

def undoInterrupted {α : Type} (entry : Option PermitId) : Proc α := do
  undoState
  undoInflight entry
  undoRecord session
  raiseInterrupted cfg me

/-! ## Disarming -/

def disarm : Proc Unit := do
  let live ← isLive
  if live then do
    safeShutdown cfg me false
    emit cfg me
  else do
    let safe ← stateIs .safe
    whenever safe (does .clearRecord)

def dropPermit (pid : PermitId) (why : Revoked) : Proc Unit := do
  does (.popRegistry pid)
  does (.release pid)
  does (.revoke pid why)

variable (now : ℚ)

def expirePermit (pid : PermitId) : Proc Unit := do
  let e ← look (·.entries pid)
  whenever (!e.consumed && decide (e.permit.deadlineMono < now)) (dropPermit pid .expired)

def expirePermits : Proc Unit := do
  let pids ← look (·.registry)
  forEach pids (expirePermit now)

def liveIssued (s : Sys) : Bool :=
  s.registry.any fun pid =>
    !(s.entries pid).consumed && decide (now ≤ (s.entries pid).permit.deadlineMono)

def paIdle (live : Bool) : Proc Unit := do
  let issued ← look (liveIssued now)
  if live && issued then .ret ()
  else do
    emit cfg me
    (sequenceToRx cfg me).attempt

def paIdleCheck : Proc Unit :=
  if cfg.hasRf then do
    let atr ← look (·.front.atr)
    let live ← isLive
    let busy ← look fun s => s.inflight.isSome || cfg.paHoldBetweenBursts
    let on ← paAnyOn cfg
    if atr || (live && busy) || !on then .ret () else paIdle cfg me now live
  else .ret ()

/-! ## Adopted records -/

/-- What `_adopted_record_problem` compares: the record on disk no longer covers
the adopted one. -/
def recordChanged (own : ArmRecord) : Option ArmRecord → Bool
  | none => true
  | some d =>
    decide (d.sessionId ≠ own.sessionId) || decide (d.fingerprint ≠ own.fingerprint) ||
    decide (d.mode ≠ own.mode) || decide (freqTolHz < |d.fcHz - own.fcHz|) ||
    decide (d.expiresUnix < own.expiresUnix - 1 / 10 ^ 6)

def adoptedRecordProblem : Proc Bool := do
  let adopted ← look (·.adopted)
  let armed ← look (·.armRecord.isSome)
  if adopted && armed then do
    let own ← look (·.armRecord)
    match own with
    | none => .throw .error
    | some r => look fun s => recordChanged r s.disk
  else .ret false

def revokeAdopted : Proc Unit := do
  safeShutdown cfg me false
  emit cfg me

/-! ## Arming -/

def armState : Proc Unit := do
  let disabled ← stateIs .disabled
  refuseIf cfg me disabled .txDisabled
  let latched ← reads (.look .armTest) fun s => decide (s.state = .fault)
  refuseIf cfg me latched .faultLatched
  let live ← isLive
  refuseIf cfg me live .alreadyArmed

variable (r : ArmRecord)

def armWrite : Proc Unit := .ask fun a =>
  .act (.writeRecord r a.ok) fun _ => if a.ok then .ret () else refuse cfg me .configInvalid

def armCommit (now dur : ℚ) : Proc Unit := do
  does (.setArmRecord (some r))
  does (.setMode (some r.mode))
  does (.startSession now (now + dur))
  does .clearRegistry
  does .releaseAll
  does .clearUnderflows
  does (.setAdopted false)
  does (.setState .armed .arm)

def armHold : Proc Unit := do
  let atr ← look (·.front.atr)
  if cfg.paHoldBetweenBursts && cfg.hasRf && !atr then do
    let gen1 ← tripGen .plain
    (sequenceToTx cfg me (.record r.objId)).catching fun _ => tripRaise cfg me .sequence
    let gen ← tripGen .plain
    if gen ≠ gen1 then do
      let latched ← stateIs .fault
      safeShutdown cfg me latched
      raiseInterrupted cfg me
    else .ret ()
  else .ret ()

variable (req : ArmRequest)

def armDuration : ℚ :=
  match req.durationS with
  | none => cfg.armTimeoutS
  | some d => if d = 0 then cfg.armTimeoutS else min d cfg.armTimeoutS

def armRecordOf (id : ℕ) (fp : String) (wall : ℚ) : ArmRecord where
  objId := id
  sessionId := id
  mode := req.mode
  fcHz := req.fcHz
  armedUnix := wall
  expiresUnix := wall + armDuration cfg req
  fingerprint := fp
  flowgraphSha256 := req.flowgraphSha256
  waveformSha256 := req.waveformSha256
  maxBursts := req.maxBursts

/-- The commit of `arm`, between its two looks at the trip generation, and what
follows it. -/
def armFinish (gen0 : ℕ) (r : ArmRecord) (now dur : ℚ) : Proc Unit := do
  checkNotInterrupted cfg me gen0 (.armCheck gen0)
  armWrite cfg me r
  armCommit r now dur
  let gen ← tripGen .plain
  (if gen ≠ gen0 then undoInterrupted cfg me (some r.sessionId) none else .ret ())
  does (.setStationNext (if cfg.amateur then some (now + cfg.stationIdIntervalS) else none))
  emit cfg me
  whenever cfg.amateur (emit cfg me)
  armHold cfg me r

def arm : Proc ArmRecord := do
  let gen0 ← tripGen .armBegin
  armState cfg me
  checks cfg me
  let now ← look (·.clock)
  let wall ← answer (·.wall)
  refuseIf cfg me (¬0 < armDuration cfg req) .armTotal
  let fp ← answer (·.fingerprint)
  checks cfg me
  let id ← reads .fresh (·.nextId)
  let r := armRecordOf cfg req id (fp.getD "") wall
  armFinish cfg me gen0 r now (armDuration cfg req)
  .ret r

/-! ## Refresh and heartbeat -/

def expiryHeartbeat : Proc Unit := do
  let expiry ← look (·.expiryMono)
  (if expiry < now then do
    emit cfg me
    disarm cfg me
    refuse cfg me .armExpired
  else .ret ())
  let hb ← look (·.lastHb)
  if hb.any fun t => decide (cfg.heartbeatTimeoutS < now - t) then do
    disarm cfg me
    refuse cfg me .watchdog
  else .ret ()

def refreshWrite (now : ℚ) : Proc ArmRecord := do
  let gen0 ← tripGen .plain
  (.ask fun a => .act (.writeRecord r a.ok) fun _ => if a.ok then .ret () else .throw .error)
  let gen ← tripGen .plain
  let live ← (if gen ≠ gen0 then .ret false else isLive)
  if live then do
    does (.setArmRecord (some r))
    does (.setLastHb now)
    .ret r
  else do
    clearOwnRecord (some r.sessionId)
    raiseInterrupted cfg me

def refresh : Proc ArmRecord := do
  let disabled ← stateIs .disabled
  refuseIf cfg me disabled .txDisabled
  let live ← isLive
  refuseIf cfg me (!live) .notArmed
  let now ← look (·.clock)
  let armed ← stateIs .armed
  whenever armed (expiryHeartbeat cfg me now)
  let cap ← look fun s => s.armedMono + cfg.maxArmTotalS
  let expiry ← look (·.expiryMono)
  refuseIf cfg me (cap - 1 / 10 ^ 9 ≤ now ∨ cap - 1 / 10 ^ 9 ≤ expiry) .armTotal
  does (.setExpiry (max expiry (min (now + cfg.armTimeoutS) cap)))
  let own ← look (·.armRecord)
  let wall ← answer (·.wall)
  let until' ← look (·.expiryMono)
  let id ← reads .fresh (·.nextId)
  match own with
  | none => .throw .error
  | some r => refreshWrite cfg me { r with objId := id, expiresUnix := wall + (until' - now) } now

def heartbeat : Proc Unit := do
  let now ← look (·.clock)
  does (.setLastHb now)

end

end HeimdallDaq.Tx
