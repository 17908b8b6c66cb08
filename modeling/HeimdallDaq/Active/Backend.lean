/-
  Active/Backend.lean --- the state that `ActiveBackend` keeps of its devices.

  The base class of the RF backends tracks what was programmed: which devices have their
  clock and time source, on which the time was loaded, whether anything is tuned or
  streams.
-/
import HeimdallDaq.Foundation.Python

namespace HeimdallDaq.Active

open Foundation

/-! ## Configuration -/

inductive Direction
  | rx | tx
  deriving DecidableEq

/-- The LO plan, with `auto` resolved. -/
inductive LoPlan
  | none | n321Star | twinrx | externalLo | pervicesCommon
  deriving DecidableEq

/-- `lo_share_kind` of a device family. -/
inductive LoShareKind
  | none | intraDevice | n321Star | twinrx | externalLo | pervicesCommon | sim
  deriving DecidableEq

/-- An LO source; `unknown` after a change that failed half way. -/
inductive LoSource
  | internal | external | companion | unknown
  | other (name : String)
  deriving DecidableEq

/-- `phase_ambiguity` of a device family. -/
inductive PhaseAmbiguity
  | random | halfTurn | deterministic
  deriving DecidableEq

structure DeviceCaps where
  loShareKind : LoShareKind := .none
  loExport : Bool := false
  loShareMinHz : ℚ := 0
  extLoHalfTurn : Bool := false
  phaseAmbiguity : PhaseAmbiguity := .random
  timedTune : Bool := true
  phaseRepeatableTimedTune : Bool := false

structure DeviceCfg (δ : Type) where
  name : δ
  rxChannels : ℕ := 1
  txChannels : ℕ := 0
  loSource : LoSource := .internal
  loExport : Bool := false
  caps : DeviceCaps := {}

def DeviceCfg.channels {δ : Type} (d : DeviceCfg δ) : Direction → ℕ
  | .rx => d.rxChannels
  | .tx => d.txChannels

structure Config (δ : Type) where
  devices : List (DeviceCfg δ)
  /-- `resolve_lo_plan` -/
  loPlan : LoPlan := .none
  loMaster : Option δ := none
  /-- `resolve_sync_method` is `none` -/
  syncNone : Bool := false
  /-- `device_groups` -/
  groups : List (String × List δ) := []
  centerFreqHz : ℚ

inductive Phase
  | closed | «open» | refsSet | timeSet | tuned | streaming
  deriving DecidableEq

def Phase.rank : Phase → ℕ
  | .closed => 0
  | .open => 1
  | .refsSet => 2
  | .timeSet => 3
  | .tuned => 4
  | .streaming => 5

inductive PhaseState
  | random | ambiguous180 | deterministic | repeatable | sharedLo
  | untuned
  deriving DecidableEq

namespace PhaseState

def rank : PhaseState → ℕ
  | .random => 0
  | .ambiguous180 => 1
  | .deterministic => 2
  | .repeatable => 2
  | .sharedLo => 3
  | .untuned => 0

def stable : PhaseState → Bool
  | .repeatable | .sharedLo | .deterministic => true
  | _ => false

end PhaseState

variable {δ : Type} [DecidableEq δ]

namespace Config

variable (cfg : Config δ)

def names : List δ := cfg.devices.map (·.name)

variable (dir : Direction)

def refs : List δ := cfg.devices.flatMap fun d => List.replicate (d.channels dir) d.name

def timeRequired : Bool := decide (1 < cfg.devices.length) || !cfg.syncNone

def devs : Option δ → Option (List δ)
  | none => some cfg.names
  | some d => if d ∈ cfg.names then some [d] else none

def groupDevs : Option String → Option (List δ)
  | none => some cfg.names
  | some name => (cfg.groups.find? fun g => g.1 = name).map (·.2)

def eligible : List (DeviceCfg δ) :=
  match cfg.loPlan with
  | .n321Star => cfg.devices.filter fun d => d.caps.loShareKind = .n321Star
  | .twinrx => cfg.devices.filter fun d => d.caps.loShareKind = .twinrx
  | _ => []

variable (d : DeviceCfg δ)

def exports : Bool := d.caps.loExport && (d.loExport || decide (cfg.loMaster = some d.name))

def imports : Bool :=
  decide (d.loSource = .external) ||
    (decide (cfg.loPlan = .twinrx) && decide (d.loSource = .companion))

def exporters : List δ := (cfg.eligible.filter cfg.exports).map (·.name)

def shared : List δ :=
  (cfg.eligible.filter fun d =>
    (decide (cfg.loPlan = .twinrx) && decide (d.loSource = .companion)) ||
      (!cfg.exporters.isEmpty && (cfg.exports d || cfg.imports d))).map (·.name)

def devicesOf : List (DeviceCfg δ) :=
  let used := cfg.devices.filter fun d => d.channels dir ≠ 0
  if used.isEmpty then cfg.devices else used

def phaseClass (timed live : Bool) (f : ℚ) (d : DeviceCfg δ) : PhaseState :=
  if cfg.loPlan = .n321Star ∧ d.name ∈ cfg.shared ∧ live ∧ d.caps.loShareMinHz ≤ f then
    .sharedLo
  else if cfg.loPlan = .twinrx ∧ d.name ∈ cfg.shared ∧ live = true then .sharedLo
  else if cfg.devices.length = 1 ∧ d.caps.loShareKind = .intraDevice then .sharedLo
  else if cfg.loPlan = .externalLo ∧ d.caps.extLoHalfTurn ∧ d.loSource = .external ∧
      live = true then .ambiguous180
  else if d.caps.phaseAmbiguity = .deterministic then .deterministic
  else if timed ∧ d.caps.timedTune ∧ d.caps.phaseRepeatableTimedTune = true then
    .repeatable
  else .random

def phaseAfterTuneAt (f : ℚ) (timed : Bool) (dir : Direction) (shareLive : δ → Bool) : PhaseState :=
  ((cfg.devicesOf dir).foldl (fun worst d =>
      let cls := cfg.phaseClass timed (shareLive d.name) f d
      match worst with
      | none => some cls
      | some w => if cls.rank < w.rank then some cls else some w) none).getD .random

def loShareFloorCrossed (fOld fNew : ℚ) (dir : Direction) : Bool :=
  match cfg.loPlan with
  | .n321Star | .twinrx =>
    cfg.devices.any fun d =>
      decide (d.name ∈ cfg.shared) && decide (d.channels dir ≠ 0) &&
        decide (0 < d.caps.loShareMinHz) &&
        decide (¬(d.caps.loShareMinHz ≤ fOld ↔ d.caps.loShareMinHz ≤ fNew))
  | _ => false

end Config

/-! ## State -/

structure Backend (δ : Type) where
  isOpen : Bool := false
  everOpened : Bool := false
  clockSet : Finset δ := ∅
  timeSrcSet : Finset δ := ∅
  timeSet : Finset δ := ∅
  tuned : Bool := false
  tunedDirs : Direction → Bool := fun _ => false
  streaming : Bool := false
  syncDepth : ℕ := 0
  /-- `coherence.generation` -/
  generation : ℕ := 0
  center : Direction → Option ℚ := fun _ => none
  lastTune : Direction → Option PhaseState := fun _ => none
  loSrc : δ → Direction → Option LoSource := fun _ _ => none
  loExp : δ → Direction → Bool := fun _ _ => false
  cmdTime : δ → Option ℚ := fun _ => none

inductive Stop
  /-- `BackendError` of a check -/
  | backend
  /-- `SafetyRefusal`: TX stays live -/
  | safety
  | hook
  /-- `CoherenceError("LO_LOCK")` -/
  | loLock
  deriving DecidableEq

inductive Event (δ : Type)
  | opened
  | changed (devices : List δ)
  | loaded (devices : List δ)

structure Called (δ α : Type) where
  backend : Backend δ
  events : List (Event δ) := []
  result : Except Stop α

namespace Backend

variable (cfg : Config δ) (b : Backend δ)

def refsOk : Bool :=
  decide (cfg.names.toFinset ⊆ b.clockSet) && decide (cfg.names.toFinset ⊆ b.timeSrcSet)

def timeOk : Bool := !cfg.names.isEmpty && decide (cfg.names.toFinset ⊆ b.timeSet)

def phase : Phase :=
  if b.isOpen = false then .closed
  else if b.streaming then .streaming
  else if b.refsOk cfg && b.tuned then .tuned
  else if b.refsOk cfg && b.timeOk cfg then .timeSet
  else if b.refsOk cfg then .refsSet
  else .open

def reached (least : Phase) : Bool := decide (least.rank ≤ (b.phase cfg).rank)

def streamOk : Bool := b.reached cfg .refsSet && (!cfg.timeRequired || b.timeOk cfg)

def bump : Backend δ := { b with generation := b.generation + 1 }

def refuse {α : Type} (stop : Stop) : Called δ α := ⟨b, [], .error stop⟩

def forgetTime : Backend δ :=
  { b with
    streaming := false
    timeSet := ∅
    tuned := false
    tunedDirs := fun _ => false
    generation := b.generation + 1 }

def dropTime : Backend δ := if b.reached cfg .timeSet then b.forgetTime else b

def invalidateTime : Called δ Unit := ⟨b.forgetTime, [], .ok ()⟩

/-! ### Life cycle -/

def reopened : Backend δ :=
  { b with
    isOpen := true
    everOpened := true
    clockSet := ∅
    timeSrcSet := ∅
    timeSet := ∅
    tuned := false
    tunedDirs := fun _ => false
    streaming := false
    generation := if b.everOpened then b.generation + 1 else b.generation
    center := fun _ => none
    lastTune := fun _ => none
    loSrc := fun _ _ => none
    loExp := fun _ _ => false
    cmdTime := fun _ => none }

def close : Called δ Unit :=
  ⟨if b.isOpen then { b with isOpen := false, streaming := false } else b, [], .ok ()⟩

def «open» (hook paOff : Bool) : Called δ Unit :=
  if b.isOpen then b.refuse .backend
  else if hook = false then ⟨b, [.opened], .error .hook⟩
  else if paOff then ⟨b.reopened, [.opened], .ok ()⟩
  else ⟨b.reopened.close.backend, [.opened], .error .hook⟩

def syncing (enter : Bool) : Called δ Unit :=
  ⟨{ b with syncDepth := if enter then b.syncDepth + 1 else b.syncDepth - 1 }, [], .ok ()⟩

/-! ### References -/

inductive Reference
  | clockSource | timeSource | masterClockRate
  deriving DecidableEq

variable (part : Reference)

def noteReference (devices : List δ) : Backend δ :=
  match part with
  | .clockSource => { b with clockSet := b.clockSet ∪ devices.toFinset }
  | .timeSource => { b with timeSrcSet := b.timeSrcSet ∪ devices.toFinset }
  | .masterClockRate => b

/-- A change of a reference, given whether TX is quiet, whether the value is usable and
whether the hook succeeds.  A hook that fails may have changed its devices. -/
def changeReference (device : Option δ) (quiet usable hook : Bool) : Called δ Unit :=
  if quiet = false then b.refuse .safety
  else if b.reached cfg .open = false then b.refuse .backend
  else
    match cfg.devs device with
    | none => b.refuse .backend
    | some devices =>
      if usable = false then b.refuse .backend
      else if hook then ⟨(b.dropTime cfg).noteReference part devices, [.changed devices], .ok ()⟩
      else ⟨b.dropTime cfg, [.changed devices], .error .hook⟩

variable (device : Option δ)

def setClockSource (quiet hook : Bool) : Called δ Unit :=
  b.changeReference cfg .clockSource device quiet true hook

def setTimeSource (quiet hook : Bool) : Called δ Unit :=
  b.changeReference cfg .timeSource device quiet true hook

def finitePos : PyFloat → Bool
  | .fin q => decide (0 < q)
  | _ => false

def setMasterClockRate (hz : PyFloat) (device : Option δ) (quiet hook : Bool) : Called δ Unit :=
  b.changeReference cfg .masterClockRate device quiet (finitePos hz) hook

/-! ### Time -/

def afterTimeLoad (devices : List δ) : Backend δ :=
  { b with
    timeSet := b.timeSet ∪ devices.toFinset
    generation := if b.syncDepth = 0 then b.generation + 1 else b.generation }

/-- A time load, given whether TX is quiet, whether the value is a `DevTime` and whether
the hook succeeds. -/
def loadTime (devices : Option (List δ)) (quiet isTime hook : Bool) : Called δ Unit :=
  if quiet = false then b.refuse .safety
  else if b.reached cfg .refsSet = false then b.refuse .backend
  else if isTime = false then b.refuse .backend
  else
    match devices with
    | none => b.refuse .backend
    | some devices =>
      if hook then ⟨b.afterTimeLoad devices, [.loaded devices], .ok ()⟩ else b.refuse .hook

def setTimeUnknownPps (group : Option String) (quiet isTime hook : Bool) : Called δ Unit :=
  b.loadTime cfg (cfg.groupDevs group) quiet isTime hook

def setTimeNextPps (quiet isTime hook : Bool) : Called δ Unit :=
  b.loadTime cfg (cfg.devs device) quiet isTime hook

def setTimeNow (quiet isTime hook : Bool) : Called δ Unit :=
  b.loadTime cfg (cfg.devs device) quiet isTime hook

def setCommandTime (t : ℚ) (device : Option δ) (hook : Bool) : Called δ Unit :=
  if b.reached cfg .open = false then b.refuse .backend
  else
    match cfg.devs device with
    | none => b.refuse .backend
    | some devices =>
      let b := { b with cmdTime := fun d => if d ∈ devices then some t else b.cmdTime d }
      ⟨b, [], if hook then .ok () else .error .hook⟩

def clearCommandTime (hook : Bool) : Called δ Unit :=
  if b.reached cfg .open = false then b.refuse .backend
  else
    match cfg.devs device with
    | none => b.refuse .backend
    | some devices =>
      if hook then
        ⟨{ b with cmdTime := fun d => if d ∈ devices then none else b.cmdTime d }, [], .ok ()⟩
      else b.refuse .hook

/-! ### Local oscillators -/

def bumpOutsideSync : Backend δ := if b.syncDepth = 0 then b.bump else b

inductive LoHook
  | done
  /-- `NotSupported` or `BackendError`: nothing was changed -/
  | refused
  | failed
  deriving DecidableEq

variable (dir : Direction)

def setLoSource (src : LoSource) (device : δ) (quiet : Bool) (hook : LoHook) : Called δ Unit :=
  if quiet = false then b.refuse .safety
  else if b.reached cfg .open = false then b.refuse .backend
  else
    let store := fun src => { b with
      loSrc := fun d r => if d = device ∧ r = dir then some src else b.loSrc d r }
    match hook with
    | .refused => b.refuse .backend
    | .failed => ⟨(store .unknown).bumpOutsideSync, [], .error .hook⟩
    | .done =>
      if (b.loSrc device dir).getD .internal = src then ⟨store src, [], .ok ()⟩
      else ⟨(store src).bumpOutsideSync, [], .ok ()⟩

def setLoExport (enabled : Bool) (device : δ) (quiet : Bool) (hook : LoHook) : Called δ Unit :=
  if quiet = false then b.refuse .safety
  else if b.reached cfg .open = false then b.refuse .backend
  else
    let store := fun on => { b with
      loExp := fun d r => if d = device ∧ r = dir then on else b.loExp d r }
    match hook with
    | .refused => b.refuse .backend
    | .failed => ⟨(store false).bumpOutsideSync, [], .error .hook⟩
    | .done =>
      if b.loExp device dir = enabled then ⟨store enabled, [], .ok ()⟩
      else ⟨(store enabled).bumpOutsideSync, [], .ok ()⟩

def shareLive (device : δ) : Bool :=
  match cfg.loPlan with
  | .n321Star | .twinrx =>
    if device ∉ cfg.shared then false
    else if device ∈ cfg.exporters then b.loExp device dir
    else
      match cfg.devices.find? fun d => d.name = device with
      | none => false
      | some d =>
        if cfg.loPlan = .twinrx ∧ d.loSource = .companion then
          decide (b.loSrc device dir = some .companion)
        else
          decide (b.loSrc device dir = some d.loSource) && cfg.exporters.any fun e => b.loExp e dir
  | .externalLo => decide (b.loSrc device dir = some .external)
  | _ => true

/-! ### Tuning -/

/-- What `_do_tune` reports. -/
structure RawReport (δ : Type) where
  refs : List δ
  timed : Bool
  loLocked : List Bool
  bandChange : Bool
  actualRfHz : List ℚ
  actualDspHz : List ℚ
  actualCenterHz : List ℚ

/-- `TuneReport`, as far as it is read again. -/
structure TuneReport (δ : Type) where
  dir : Direction
  refs : List δ
  timed : Bool
  phaseState : PhaseState
  loLocked : List Bool
  bandChange : Bool
  phaseClassChanged : Bool
  deriving DecidableEq

def dspSign : Direction → ℚ
  | .rx => 1
  | .tx => -1

def tunedCenterHz (report : RawReport δ) (requested : ℚ) : ℚ :=
  match report.actualCenterHz, report.actualRfHz, report.actualDspHz with
  | center :: _, _, _ => center
  | [], rf :: _, dsp :: _ => rf - dspSign dir * dsp
  | [], _, _ => requested

def tuneNeedsBump (report : TuneReport δ) : Bool :=
  if report.bandChange || report.phaseClassChanged then true
  else !(report.phaseState.stable && report.timed)

def tuneMinLeadS : ℚ := 1 / 10000

/-- `_late_command`: the tune is not a timed command, given the device times as far as
they can be read. -/
def lateCommand (times : δ → Option ℚ) : Bool :=
  let devices := if (cfg.refs dir).isEmpty then cfg.names else (cfg.refs dir).dedup
  devices.any fun d =>
    match b.cmdTime d, times d with
    | some t, some now => !decide (tuneMinLeadS < t - now)
    | _, _ => true

structure TuneAnswer (δ : Type) where
  quiet : Bool := true
  times : δ → Option ℚ := fun _ => none
  hook : Option (RawReport δ)

def judge (f : ℚ) (late : Bool) (raw : RawReport δ) : TuneReport δ :=
  let fNew := tunedCenterHz dir raw f
  let timed := raw.timed && !late
  let state := cfg.phaseAfterTuneAt fNew timed dir (b.shareLive cfg dir)
  { dir
    refs := raw.refs
    timed
    phaseState := state
    loLocked := raw.loLocked
    bandChange := raw.bandChange ||
      cfg.loShareFloorCrossed ((b.center dir).getD cfg.centerFreqHz) fNew dir
    phaseClassChanged := (b.lastTune dir).any fun old => decide (old ≠ state) }

def noteTune (fNew : ℚ) (report : TuneReport δ) : Backend δ :=
  { b with
    center := fun r => if r = dir then some fNew else b.center r
    lastTune := fun r => if r = dir then some report.phaseState else b.lastTune r
    tuned := true
    tunedDirs := fun r => if r = dir then true else b.tunedDirs r }

def usableFreq : PyFloat → PyFloat → Option ℚ
  | .fin f, .fin _ => if 0 < f then some f else none
  | _, _ => none

def tune (freq lo : PyFloat) (timed bump : Bool) (a : TuneAnswer δ) : Called δ (TuneReport δ) :=
  if dir = .tx ∧ a.quiet = false then b.refuse .safety
  else if b.reached cfg .refsSet = false then b.refuse .backend
  else
    match usableFreq freq lo with
    | none => b.refuse .backend
    | some f =>
      match a.hook with
      | none => b.refuse .hook
      | some raw =>
        let report := b.judge cfg dir f (timed && b.lateCommand cfg dir a.times) raw
        let b := if bump && tuneNeedsBump report then b.bump else b
        ⟨b.noteTune dir (tunedCenterHz dir raw f) report, [], .ok report⟩

/-! ### Streaming -/

def rxStart (isTime hook : Bool) : Called δ Unit :=
  if b.streamOk cfg = false ∨ isTime = false ∨ b.streaming = true then b.refuse .backend
  else if hook then ⟨{ b with streaming := true }, [], .ok ()⟩
  else b.refuse .hook

def rxCapture (usable hook : Bool) : Called δ Unit :=
  if b.streamOk cfg = false ∨ usable = false then b.refuse .backend
  else ⟨b, [], if hook then .ok () else .error .hook⟩

def rxStop (hook : Bool) : Called δ Unit :=
  if b.streaming then ⟨{ b with streaming := false }, [], if hook then .ok () else .error .hook⟩
  else ⟨b, [], .ok ()⟩

/-- `tx_burst`; `sent` stands for an enabled controller, the checks of the permit and the
send.  It holds the TX lock to its end, which every change of the time needs. -/
def txBurst (sent : Bool) : Called δ Unit :=
  if b.isOpen = false ∨ b.refsOk cfg = false ∨ b.tuned = false then b.refuse .safety
  else if cfg.timeRequired ∧ b.timeOk cfg = false then b.refuse .safety
  else ⟨b, [], if sent then .ok () else .error .hook⟩

end Backend

end HeimdallDaq.Active
