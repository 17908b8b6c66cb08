/-
  Tx/Backend.lean --- `ActiveBackend.tx_burst`, the only transmit path.

  `tx_burst` consumes a permit, checks again what may have changed meanwhile and hands
  the samples over.
-/
import HeimdallDaq.Tx.Bursts
import Mathlib.Data.List.Sort

namespace HeimdallDaq.Tx

open Foundation
open Prog (does)

def txStartTolS : ℚ := 1 / 20

/-- `_TxAbort.kind`. -/
inductive AbortKind
  | interrupted | refuse | late | trip
  deriving DecidableEq

/-- `_TxAbort`: why a burst was given up before its send, and what is raised. -/
structure Abort where
  kind : AbortKind
  exc : Stop
  deriving DecidableEq

/-- How the part of `tx_burst` between `consume` and its end went. -/
inductive Attempt
  | aborted (ab : Abort)
  | failed (exc : Stop)
  | done (result : TxResult)
  deriving DecidableEq

section

variable (cfg : Setup) (me : Thread)

/-! ## Samples -/

def conjugate (row : List (ℚ × ℚ)) : List (ℚ × ℚ) := row.map fun z => (z.1, -z.2)

def Setup.hostTxSamples (cfg : Setup) (chains : List ℕ) (samples : Samples) : Samples :=
  samples.mapIdx fun k row =>
    match chains[k]? with
    | some c => if cfg.iqConjugate (cfg.txDevice c) then conjugate row else row
    | none => row

/-! ## Checks -/

def backendChecks : Proc Unit := .ask fun a =>
  match a.check with
  | .pass => .ret ()
  | .refuse code => .throw (.refusal code)
  | .raise => .throw .error

def txShape : Handle → Proc Unit
  | .foreign _ => backendChecks
  | .issued pid _ => do
      let p ← look fun s => (s.entries pid).permit
      if ¬∀ c ∈ p.chains, c < cfg.nTx then .throw (.refusal .shape)
      else if p.timed = false ∧ cfg.isSimulation = false then .throw (.refusal .startTime)
      else .ret ()

def txEnter (h : Handle) : Proc ℕ := do
  let disabled ← stateIs .disabled
  (if disabled then .throw (.refusal .txDisabled) else .ret ())
  backendChecks
  txShape cfg h
  backendChecks
  tripGen .plain

variable (gen0 : ℕ)

def txInterruption : Proc (Option Stop) := do
  let gen ← look (·.tripGen)
  let st ← look (·.state)
  if gen = gen0 ∧ st = .transmitting then .ret none
  else if st = .fault then do
    let code ← look (·.faultCode)
    .ret (some (.interlock code))
  else .ret (some (.refusal .sequence))

def txStopped : Proc (Option Abort) := do
  let stop ← txInterruption gen0
  .ret (stop.map fun exc => { kind := .interrupted, exc })

def txRfProblem : Proc (Option Abort) := .ask fun a =>
  match a.check with
  | .pass => .ret none
  | .refuse code => .ret (some { kind := .refuse, exc := .refusal code })
  | .raise => .throw .error

def Setup.devicesOf (cfg : Setup) (chains : List ℕ) : List ℕ :=
  (chains.map cfg.txDevice).dedup.insertionSort (· ≤ ·)

def Setup.txMinLead (cfg : Setup) (devices : List ℕ) : ℚ :=
  devices.foldl (fun lead d => max lead (cfg.deviceLeadS d)) cfg.minLead

def txLeads (mono : ℚ) (startMono : Option ℚ) (expiry dur minLead : ℚ) :
    List ℕ → Proc (Option Abort)
  | [] => .ret none
  | _ :: rest => .ask fun a =>
    match a.lead with
    | none => .ret (some { kind := .trip, exc := .interlock (some .startTime) })
    | some lead =>
      if startMono.any fun t => decide (txStartTolS < |mono + lead - t|) then
        .ret (some { kind := .trip, exc := .interlock (some .startTime) })
      else if expiry + 1 / 10 ^ 9 < mono + max lead 0 + dur then
        .ret (some { kind := .trip, exc := .interlock (some .startTime) })
      else if lead < minLead - absTol then
        .ret (some { kind := .late, exc := .refusal .startTime })
      else txLeads mono startMono expiry dur minLead rest

variable (pid : PermitId)

def txStartProblem : Proc (Option Abort) := do
  let p ← look fun s => (s.entries pid).permit
  if p.timed then do
    let mono ← look (·.clock)
    let startMono ← look fun s =>
      if s.inflight = some pid then some (s.entries pid).dutyAt else none
    let expiry ← look (·.expiryMono)
    let devices := cfg.devicesOf p.chains
    txLeads mono startMono expiry p.durationS (cfg.txMinLead devices) devices
  else .ret none

def txGains : Proc (Option Abort) := do
  backendCall
  .ask fun a =>
    match a.check with
    | .pass => .ret none
    | .refuse _ => .ret (some { kind := .refuse, exc := .refusal .gain })
    | .raise => .throw .error

/-! ## The burst -/

def orAbort {α : Type} (check : Proc (Option Abort)) (next : Proc (Except Attempt α)) :
    Proc (Except Attempt α) := do
  let problem ← check
  match problem with
  | some ab => .ret (.error (.aborted ab))
  | none => next

def txPrepare (pid : PermitId) (data : Samples) : Proc (Except Attempt Samples) :=
  Prog.catching
    (orAbort (txStopped gen0) <| orAbort txRfProblem <| orAbort (txStartProblem cfg pid) <|
      orAbort txGains do
        let chains ← look fun s => (s.entries pid).permit.chains
        orAbort (txStopped gen0) (.ret (.ok (cfg.hostTxSamples chains data))))
    fun exc => .ret (.error (.failed exc))

def txSend (samples : Samples) : Proc Attempt := do
  does (.note (.sent pid samples))
  .ask fun a =>
    match a.result with
    | none => .ret (.failed .hardware)
    | some result => .ret (.done result)

def txSendPrepared : Except Attempt Samples → Proc Attempt
  | .error attempt => .ret attempt
  | .ok samples => txSend pid samples

def sendFault : Stop → Stop
  | .error => .hardware
  | exc => exc

def TxResult.hangs (result : TxResult) : Bool :=
  !result.acked && decide (result.late = 0) && decide (0 < result.sentSamples)

def txFinish (h : Handle) : Attempt → Proc TxResult
  | .aborted ab => do
      (match ab.kind with
        | .interrupted => .ret ()
        | .trip => (trip cfg me .startTime).attempt
        | .refuse => (burstComplete cfg me h { acked := false }).attempt
        | .late => (burstComplete cfg me h { acked := false, late := 1 }).attempt)
      .throw ab.exc
  | .failed exc => do
      (burstComplete cfg me h { acked := false, events := [.other] }).attempt
      (trip cfg me .exception).attempt
      .throw (sendFault exc)
  | .done result => do
      let stop ← txInterruption gen0
      match stop with
      | some exc => do
          (burstComplete cfg me h result).attempt
          .throw exc
      | none => do
          (burstComplete cfg me h result).catching fun exc => do
            whenever result.hangs (trip cfg me .txHang)
            .throw exc
          whenever result.hangs (trip cfg me .txHang)
          .ret result

def txConsumed : Handle → Proc TxResult
  | .foreign _ => .throw .error
  | .issued pid data => do
      let prepared ← txPrepare cfg gen0 pid data
      let attempt ← txSendPrepared pid prepared
      txFinish cfg me gen0 (.issued pid data) attempt

def txBurst (h : Handle) : Proc TxResult := do
  let gen0 ← txEnter cfg h
  consume cfg me h
  txConsumed cfg me gen0 h

end

/-! ## Stages -/

/-- Where a `tx_burst` stands between two of its parts. -/
inductive Stage
  | idle
  | called (h : Handle)
  | entered (h : Handle) (gen0 : ℕ)
  | committed (gen0 : ℕ) (pid : PermitId) (data : Samples)
  | prepared (gen0 : ℕ) (pid : PermitId) (data : Samples) (r : Except Attempt Samples)
  | tried (gen0 : ℕ) (pid : PermitId) (data : Samples) (attempt : Attempt)

def Stage.ofConsumed (gen0 : ℕ) : Handle → Proc Stage
  | .foreign _ => .throw .error
  | .issued pid data => .ret (.committed gen0 pid data)

def Stage.next (cfg : Setup) (me : Thread) : Stage → Proc Stage
  | .idle => .ret .idle
  | .called h => do
      let gen0 ← txEnter cfg h
      .ret (.entered h gen0)
  | .entered h gen0 => do
      consume cfg me h
      Stage.ofConsumed gen0 h
  | .committed gen0 pid data => do
      let r ← txPrepare cfg gen0 pid data
      .ret (.prepared gen0 pid data r)
  | .prepared gen0 pid data r => do
      let attempt ← txSendPrepared pid r
      .ret (.tried gen0 pid data attempt)
  | .tried gen0 pid data attempt => do
      let _ ← txFinish cfg me gen0 (.issued pid data) attempt
      .ret .idle

lemma txBurst_eq_stages (cfg : Setup) (me : Thread) (h : Handle) :
    (txBurst cfg me h >>= fun _ => Prog.ret Stage.idle) =
      Stage.next cfg me (.called h) >>= fun st => st.next cfg me >>= fun st => st.next cfg me >>=
        fun st => st.next cfg me >>= fun st => st.next cfg me := by
  rw [txBurst, bind_assoc, Stage.next, bind_assoc]
  refine bind_congr fun gen0 => ?_
  show _ = Stage.next cfg me (.entered h gen0) >>= fun st => st.next cfg me >>= fun st =>
    st.next cfg me >>= fun st => st.next cfg me
  rw [bind_assoc, Stage.next, bind_assoc]
  refine bind_congr fun _ => ?_
  cases h with
  | foreign pid => rfl
  | issued pid data =>
    show _ = Stage.next cfg me (.committed gen0 pid data) >>= fun st => st.next cfg me >>=
      fun st => st.next cfg me
    rw [txConsumed, bind_assoc, Stage.next, bind_assoc]
    refine bind_congr fun r => ?_
    show _ = Stage.next cfg me (.prepared gen0 pid data r) >>= fun st => st.next cfg me
    rw [bind_assoc, Stage.next, bind_assoc]
    exact bind_congr fun attempt => rfl

end HeimdallDaq.Tx
