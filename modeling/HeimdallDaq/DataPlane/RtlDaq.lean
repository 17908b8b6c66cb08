/-
  DataPlane/RtlDaq.lean --- the threads of rtl_daq.

  Each channel has a ring of `num_buff` slots.
-/
import HeimdallDaq.Foundation.Buffers
import HeimdallDaq.Foundation.Runs
import Mathlib.Data.Fintype.Basic

namespace HeimdallDaq.DataPlane.RtlDaq

open Foundation

/-- The configuration: `ch_no`, `num_buff` and `daq_buffer_size`. -/
structure Config where
  chNo : ℕ
  numBuff : ℕ
  daqBufferSize : ℕ

abbrev Config.bufferSize (cfg : Config) : ℕ := cfg.daqBufferSize * 2

def noDummyFrames : ℕ := 5

inductive FrameType
  | data
  | dummy
  | cal
  deriving DecidableEq

structure Header where
  frameType : FrameType := .data
  dataType : ℕ := 2
  cpiLength : ℕ := 0
  daqBlockIndex : ℕ := 0
  /-- `reserved[IQH_RSV_BUFFER_OVERRUN_CNT]` -/
  bufferOverrunCnt : ℕ := 0
  noiseSourceState : Bool := false
  deriving DecidableEq

structure Frame where
  header : Header
  payload : List Byte
  deriving DecidableEq

inductive Callback (size : ℕ)
  | idle
  | copying (wrBuffInd : ℕ) (copied : Fin size → Bool)

inductive Main (chNo size : ℕ)
  | waiting
  | completing
  /-- before the first test of `en_dummy_frame` -/
  | typing
  /-- before the second test of `en_dummy_frame` -/
  | gathering
  /-- inside `write_full_iov`, with the bytes still to be written -/
  | writing (todo : List (Fin chNo × Fin size))
  /-- before the third test of `en_dummy_frame` -/
  | advancing
  | counting
  | storing (cntr : ℕ)
  | comparing
  | clearing

structure Daq (cfg : Config) where
  buffer : Fin cfg.chNo → ℕ → Fin cfg.bufferSize → Byte
  buffInd : Fin cfg.chNo → ℕ := fun _ => 0
  callback : Fin cfg.chNo → Callback cfg.bufferSize := fun _ => .idle
  enDummyFrame : Bool := false
  dummyFrameCntr : ℕ := 0
  noiseSourceState : Bool := false
  main : Main cfg.chNo cfg.bufferSize := .waiting
  readBuffInd : ℕ := 0
  overrunCntr : ℕ := 0
  iqHeader : Header := {}
  written : List Frame := []

inductive Action (cfg : Config)
  | main
  /-- the critical section of the control thread; a `'n'` request carries the state
  of the noise source -/
  | control (noise : Option Bool)
  | beginCopy (m : Fin cfg.chNo)
  | copy (m : Fin cfg.chNo) (p : Fin cfg.bufferSize)
  | publish (m : Fin cfg.chNo)

namespace Daq

variable {cfg : Config}

/-- The loop over the channels under the mutex: `none` when a channel has nothing to
read or when its index meets the read index, else whether an overrun was seen. -/
def compareIndexes (buffInd : Fin cfg.chNo → ℕ) (readBuffInd : ℕ) :
    List (Fin cfg.chNo) → Bool → Option Bool
  | [], overrunDetected => some overrunDetected
  | m :: rest, overrunDetected =>
    if buffInd m ≤ readBuffInd then none
    else
      let overrunDetected := overrunDetected || decide (cfg.numBuff ≤ buffInd m - readBuffInd)
      if buffInd m % cfg.numBuff = readBuffInd % cfg.numBuff then none
      else compareIndexes buffInd readBuffInd rest overrunDetected

def rdBuffInd (d : Daq cfg) : ℕ := d.readBuffInd % cfg.numBuff

def addresses (cfg : Config) : List (Fin cfg.chNo × Fin cfg.bufferSize) :=
  (List.finRange cfg.chNo).flatMap fun m => (List.finRange cfg.bufferSize).map fun p => (m, p)

def pushByte (b : Byte) : List Frame → List Frame
  | [] => []
  | f :: rest => { f with payload := f.payload ++ [b] } :: rest

def typedHeader (d : Daq cfg) : Header :=
  if d.enDummyFrame then { d.iqHeader with frameType := .dummy, dataType := 0, cpiLength := 0 }
  else
    { d.iqHeader with
      cpiLength := cfg.daqBufferSize
      dataType := 1
      frameType := if d.noiseSourceState then .cal else .data }

def mainStep (d : Daq cfg) : Daq cfg :=
  match d.main with
  | .waiting =>
    match compareIndexes d.buffInd d.readBuffInd (List.finRange cfg.chNo) false with
    | none => d
    | some overrunDetected =>
      { d with
        overrunCntr := if overrunDetected then (d.overrunCntr + 1) % 2 ^ 32 else d.overrunCntr
        main := .completing }
  | .completing =>
    { d with
      iqHeader := { d.iqHeader with
        daqBlockIndex := d.readBuffInd % 2 ^ 32
        bufferOverrunCnt := d.overrunCntr
        noiseSourceState := d.noiseSourceState }
      main := .typing }
  | .typing => { d with iqHeader := d.typedHeader, main := .gathering }
  | .gathering =>
    { d with
      written := ⟨d.iqHeader, []⟩ :: d.written
      main := .writing (if d.enDummyFrame then [] else addresses cfg) }
  | .writing [] => { d with main := .advancing }
  | .writing ((m, p) :: todo) =>
    { d with
      written := pushByte (d.buffer m d.rdBuffInd p) d.written
      main := .writing todo }
  | .advancing =>
    { d with
      readBuffInd := d.readBuffInd + 1
      main := if d.enDummyFrame then .counting else .waiting }
  | .counting => { d with main := .storing d.dummyFrameCntr }
  | .storing cntr => { d with dummyFrameCntr := cntr + 1, main := .comparing }
  | .comparing =>
    { d with main := if d.dummyFrameCntr = noDummyFrames then .clearing else .waiting }
  | .clearing => { d with enDummyFrame := false, main := .waiting }

def controlStep (noise : Option Bool) (d : Daq cfg) : Daq cfg :=
  { d with
    noiseSourceState := noise.getD d.noiseSourceState
    enDummyFrame := true
    dummyFrameCntr := 0 }

def setCallback (m : Fin cfg.chNo) (c : Callback cfg.bufferSize) (d : Daq cfg) : Daq cfg :=
  { d with callback := Function.update d.callback m c }

def storeByte (m : Fin cfg.chNo) (slot : ℕ) (p : Fin cfg.bufferSize) (b : Byte) (d : Daq cfg) :
    Daq cfg :=
  { d with buffer := fun m' slot' p' =>
      if m' = m ∧ slot' = slot ∧ p' = p then b else d.buffer m' slot' p' }

def advanceIndex (m : Fin cfg.chNo) (d : Daq cfg) : Daq cfg :=
  { d with buffInd := Function.update d.buffInd m (d.buffInd m + 1) }

/-- One action; a callback that is asked for an access it is not at leaves the state
as it is. -/
def step (usb : Fin cfg.chNo → ℕ → Fin cfg.bufferSize → Byte) (d : Daq cfg) : Action cfg → Daq cfg
  | .main => d.mainStep
  | .control noise => d.controlStep noise
  | .beginCopy m =>
    match d.callback m with
    | .idle => d.setCallback m (.copying (d.buffInd m % cfg.numBuff) fun _ => false)
    | .copying _ _ => d
  | .copy m p =>
    match d.callback m with
    | .idle => d
    | .copying slot copied =>
      (d.storeByte m slot p (usb m (d.buffInd m) p)).setCallback m
        (.copying slot (Function.update copied p true))
  | .publish m =>
    match d.callback m with
    | .idle => d
    | .copying _ copied =>
      if ∀ p, copied p = true then (d.advanceIndex m).setCallback m .idle else d

def start (buffer : Fin cfg.chNo → ℕ → Fin cfg.bufferSize → Byte) : Daq cfg := { buffer := buffer }

end Daq

end HeimdallDaq.DataPlane.RtlDaq
