/-
  HwController/Hwc.lean --- the state of the main loop and its control handlers.

  `Hwc` holds what the main loop of hw_controller owns: its FSM state, the gains, the
  noise source, the scheduler and the messages it has sent to rtl_daq.
-/
import HeimdallDaq.HwController.Scheduler
import Mathlib.Data.Fin.VecNotation

namespace HeimdallDaq.HwController

/-- `current_state`. -/
inductive FsmState
  | init
  | gainCtrWait
  | gainTune
  | iqCal
  | noiseCtrWait
  deriving DecidableEq

/-- `QUERY_COMMANDS`. -/
inductive Query
  | rfq
  | oqry
  | schq
  deriving DecidableEq

/-- The queued verbs with their decoded parameters.  A `SCHD` whose payload is
empty, unreadable or not a schedule carries `none`. -/
inductive Command
  | query (q : Query)
  | freq (hz : ℤ)
  | gain (params : List ℤ)
  | agc
  | schd (doc : Option ScheduleDoc)
  | schs
  | schn
  | egan (params : List ℤ)
  | bias (params : List ℤ)
  | ornt (az el : ℚ)
  | park
  | scan
  | ostp
  | init
  | recl

def Command.Mutating : Command → Bool
  | .query _ => false
  | _ => true

inductive Reason
  | ok
  | notConfirmed
  | heldForBurst
  | parseError
  | range
  | disabled
  | error (msg : String)
  deriving DecidableEq

abbrev Outcome := Option Bool × Reason

structure Config where
  unifiedGainControl : Bool := true
  calTrackMode : ℤ := 0
  calFrameInterval : ℤ := 50
  calFrameBurstSize : ℤ := 5
  gainLockInterval : ℤ := 0
  requireTrackLock : Bool := false
  deferControlDuringBurst : Bool := false
  enWireRecal : Bool := false
  recalOnGainChange : Bool := false
  enAmplification : Bool := false
  /-- An RF front end with `en_bias_tee_runtime = 1`. -/
  biasTeeRuntime : Bool := false
  orientation : Bool := false
  timing : Timing := {}
  clusterId : String := "default"
  fenceMaxTermJump : ℕ := 1000

abbrev GainIndex := Fin 29

instance neZero29 : NeZero 29 := ⟨by decide⟩

def validGains : GainIndex → ℤ :=
  ![0, 9, 14, 27, 37, 77, 87, 125, 144, 157, 166, 197, 207, 229, 254, 280, 297, 328, 338, 364,
    372, 386, 402, 421, 434, 439, 445, 480, 496]

def gainIndex (gain : ℤ) : Option GainIndex := (List.finRange 29).find? fun i => validGains i = gain

def gainIndexOf : Foundation.Json → Option GainIndex
  | .int n => gainIndex n
  | .bool b => gainIndex (if b then 1 else 0)
  | .float (.fin q) => (List.finRange 29).find? fun i => (validGains i : ℚ) = q
  | _ => none

def calGainTable : List (ℤ × GainIndex) :=
  [(100000000, 6), (200000000, 10), (300000000, 13), (400000000, 14), (500000000, 18),
    (600000000, 22), (700000000, 28), (1700000000, 28)]

def calGain (hz : ℤ) : GainIndex :=
  (calGainTable.foldl (fun best row => if |row.1 - hz| < |best.1 - hz| then row else best)
    (100000000, 6)).2

inductive Message
  | tune (hz : ℤ)
  | setGain (gains : List ℤ)
  | enableAgc
  | noiseSource (on : Bool)
  | setBiasTee (states : List Bool)
  deriving DecidableEq

inductive Sender
  | fsm
  | scheduler
  | wire
  deriving DecidableEq

structure Sent where
  msg : Message
  sender : Sender
  /-- `noise_source_state` at that moment. -/
  noise : Bool
  deriving DecidableEq

structure Hwc (M : ℕ) where
  iqHeader : IqHeader M
  currentState : FsmState := .init
  noiseSourceState : Bool := false
  gains : Fin M → GainIndex
  lastGains : Fin M → GainIndex
  agc : Bool := false
  lastAgc : Bool := false
  gainTuneStates : Fin M → Bool
  gainLockCntr : ℤ := 0
  calFrameCntr : ℤ := 0
  scheduler : Option Scheduler := none
  scheduleGen : Option ℕ := none
  rfCenterFrequency : ℤ := 0
  extLnaGainsDb : Fin M → ℚ := fun _ => 0
  biasTeeState : List Bool := []
  recalGeneration : ℕ := 0
  /-- An exception ended `start()`. -/
  crashed : Bool := false
  sent : List Sent := []

inductive RotatorVerdict
  | ok
  /-- an `IndexError`, `ValueError` or `TypeError` -/
  | badValue (msg : String)
  | raised (msg : String)

structure Verdicts where
  confirmed : Bool := true
  relayError : Option String := none
  rotator : RotatorVerdict := .ok

namespace Hwc

variable {M : ℕ} (sender : Sender)

def send (msg : Message) (h : Hwc M) : Hwc M :=
  { h with sent := ⟨msg, sender, h.noiseSourceState⟩ :: h.sent }

def minGain (gains : Fin M → GainIndex) : GainIndex := (List.ofFn gains).foldr min (Fin.last 28)

variable (cfg : Config)

def changeGains (sender : Sender) (h : Hwc M) : Hwc M :=
  let gains := if cfg.unifiedGainControl then fun _ => minGain h.gains else h.gains
  { h with gains := gains }.send sender (.setGain (List.ofFn fun m => validGains (gains m)))

def enableAgc (h : Hwc M) : Hwc M := if h.agc then h.send sender .enableAgc else h

/-- How the loop of the `GAIN` handler ended. -/
inductive GainLoop
  | stored
  /-- `ValueError`: not a gain of the tuner -/
  | improper
  | raised (msg : String)

/-- The loop of the `GAIN` handler over the remaining channels; it stops at the
first exception and keeps what it has stored.  The `ValueError` of an improper gain
is caught, and the gain is formatted as an integer for the log. -/
def storeGains (params : Foundation.Json) :
    List (Fin M) → (Fin M → GainIndex) → (Fin M → GainIndex) × GainLoop
  | [], gains => (gains, .stored)
  | m :: rest, gains =>
    match params.item m.val with
    | .error msg => (gains, .raised msg)
    | .ok gain =>
      match gainIndexOf gain with
      | some i => storeGains params rest (Function.update gains m i)
      | none =>
        match gain.formatDecimal with
        | .ok _ => (gains, .improper)
        | .error msg => (gains, .raised msg)

def performRecal (relayError : Option String) (h : Hwc M) : Hwc M × Outcome :=
  ({ h with recalGeneration := h.recalGeneration + 1, currentState := .init },
    match relayError with
    | none => (some true, .ok)
    | some msg => (none, .error msg))

variable (v : Verdicts)

def handleFreq (sender : Sender) (hz : ℤ) (h : Hwc M) : Hwc M × Outcome :=
  if 0 < hz ∧ hz < 2 ^ 32 then
    let h' := h.send sender (.tune hz)
    if v.confirmed then ({ h' with rfCenterFrequency := hz }, (some true, .ok))
    else (h', (some false, .notConfirmed))
  else (h, (some false, .range))

def handleGain (sender : Sender) (params : Foundation.Json)
    (h : Hwc M) : Hwc M × Except String Outcome :=
  if h.noiseSourceState then
    -- the burst holds the gains: they are only stored
    match storeGains params (List.finRange M) h.lastGains with
    | (gains, .stored) =>
      ({ h with lastGains := gains, agc := false }, .ok (none, .heldForBurst))
    | (gains, .improper) => ({ h with lastGains := gains }, .ok (some false, .range))
    | (gains, .raised msg) => ({ h with lastGains := gains }, .error msg)
  else
    match storeGains params (List.finRange M) h.gains with
    | (gains, .stored) =>
      let h' := { changeGains cfg sender { h with gains := gains } with agc := false }
      if v.confirmed then
        if cfg.recalOnGainChange ∧ sender = .wire then
          ((h'.performRecal v.relayError).1, .ok (some true, .ok))
        else (h', .ok (some true, .ok))
      else (h', .ok (some false, .notConfirmed))
    | (gains, .improper) => ({ h with gains := gains }, .ok (some false, .range))
    | (gains, .raised msg) => ({ h with gains := gains }, .error msg)

def handleAgc (sender : Sender) (h : Hwc M) : Hwc M × Outcome :=
  if h.noiseSourceState then ({ h with lastAgc := true }, (none, .heldForBurst))
  else
    (enableAgc sender { h with agc := true },
      if v.confirmed then (some true, .ok) else (some false, .notConfirmed))

def handleSchd (doc : Option ScheduleDoc) (h : Hwc M) : Hwc M × Outcome :=
  match h.scheduler with
  | none => (h, (some false, .disabled))
  | some s =>
    match doc with
    | none => (h, (some false, .parseError))
    | some d =>
      if d.entries = [] then (h, (some false, .parseError))
      -- an exception of the load is answered the same way, whatever it leaves behind
      else if d.logged then
        ({ h with scheduler := some (s.loadSchedule d), scheduleGen := d.gen }, (some true, .ok))
      else ({ h with scheduler := some (s.loadSchedule d) }, (some false, .parseError))

variable (params : List ℤ)

def storeExtGains (old : Fin M → ℚ) : Fin M → ℚ :=
  fun m =>
    match params[m.val]? with
    | some tenths => tenths / 10
    | none => old m

def handleEgan (h : Hwc M) : Hwc M × Outcome :=
  let h' := { h with extLnaGainsDb := storeExtGains params h.extLnaGainsDb }
  if params.length < M then (h', (some false, .range))
  else if cfg.enAmplification then (h', (some true, .ok))
  else (h', (some false, .disabled))

def handleBias (sender : Sender) (params : List ℤ) (h : Hwc M) : Hwc M × Outcome :=
  if cfg.biasTeeRuntime then
    if params.length < M then (h, (some false, .range))
    else
      let states := (params.take M).map fun p => decide (p ≠ 0)
      ({ h with biasTeeState := states }.send sender (.setBiasTee states),
        if v.confirmed then (some true, .ok) else (some false, .notConfirmed))
  else (h, (some false, .disabled))

/-- The rotator branches: `ORNT` reports a bad bearing as a result, the others let
the exception pass. -/
def handleRotator (bearing : Bool) (h : Hwc M) : Hwc M × Except String Outcome :=
  if cfg.orientation then
    match v.rotator with
    | .ok => (h, .ok (some true, .ok))
    | .badValue msg => (h, if bearing then .ok (some false, .range) else .error msg)
    | .raised msg => (h, .error msg)
  else (h, .ok (some false, .disabled))

/-- `_handle_control_reqest`: the state afterwards and the result, or the text of
the exception it raised. -/
def handleControlReqest (sender : Sender) (cmd : Command)
    (h : Hwc M) : Hwc M × Except String Outcome :=
  match cmd with
  | .freq hz => let r := h.handleFreq v sender hz; (r.1, .ok r.2)
  | .gain params => h.handleGain cfg v sender (.arr (params.map .int))
  | .agc => let r := h.handleAgc v sender; (r.1, .ok r.2)
  | .schd doc => let r := h.handleSchd doc; (r.1, .ok r.2)
  | .schs =>
    match h.scheduler with
    | none => (h, .ok (some false, .disabled))
    | some s =>
      ({ h with scheduler := some s.clearSchedule, scheduleGen := none }, .ok (some true, .ok))
  | .schn =>
    match h.scheduler with
    | none => (h, .ok (some false, .disabled))
    | some s => ({ h with scheduler := some s.skipToNext }, .ok (some true, .ok))
  | .query _ => (h, .ok (some true, .ok))
  | .egan params => let r := h.handleEgan cfg params; (r.1, .ok r.2)
  | .bias params => let r := h.handleBias cfg v sender params; (r.1, .ok r.2)
  | .ornt _ _ => h.handleRotator cfg v true
  | .park => h.handleRotator cfg v false
  | .scan => h.handleRotator cfg v false
  | .ostp => h.handleRotator cfg v false
  | .init => ({ h with currentState := .init }, .ok (some true, .ok))
  | .recl =>
    if cfg.enWireRecal then let r := h.performRecal v.relayError; (r.1, .ok r.2)
    else (h, .ok (some false, .disabled))

def deferDuringBurst (cmd : Command) (h : Hwc M) : Bool :=
  match cmd with
  | .init | .recl => h.noiseSourceState
  | .freq _ | .gain _ | .egan _ | .bias _ => cfg.deferControlDuringBurst && h.noiseSourceState
  | _ => false

end Hwc

def oneChannel : Hwc 1 where
  iqHeader := ⟨.data, 0, 6, 433000000, fun _ => 0, 0⟩
  gains := fun _ => 0
  lastGains := fun _ => 0
  gainTuneStates := fun _ => false

end HeimdallDaq.HwController
