/-
  DataPlane/Rebuffer.lean --- rebuffer.c, from DAQ buffers to CPIs.

  The block reads frames of `daq_buffer_size` samples into one circular buffer per
  channel and hands on frames of the CPI size (DATA) or of the correlation size (CAL),
  at most one for each frame it reads.
-/
import HeimdallDaq.DataPlane.RtlDaq
import HeimdallDaq.Foundation.Ring

namespace HeimdallDaq.DataPlane.Rebuffer

open Foundation

/-- The parameters of the ini file, as `ini_checker.py` accepts them.  Sizes are in
samples per channel. -/
structure Config where
  numCh : ℕ
  calSize : ℕ
  cpiSize : ℕ
  daqBufferSize : ℕ
  decimationRatio : ℕ
  daqBufferSize_pow : ∃ k, daqBufferSize = 2 ^ k
  daqBufferSize_le : daqBufferSize ≤ cpiSize * decimationRatio
  calSize_pos : 1 ≤ calSize

namespace Config

variable (cfg : Config)

def inBufferSize : ℕ := cfg.daqBufferSize

def outBufferSize : ℕ := cfg.cpiSize * cfg.decimationRatio

def calOutBufferSize : ℕ := cfg.calSize

def bufferNumData : ℕ := cfg.outBufferSize / cfg.inBufferSize + 2

def bufferNumCal : ℕ := cfg.calOutBufferSize / cfg.inBufferSize + 2

def bufferNum : ℕ :=
  if cfg.bufferNumCal ≤ cfg.bufferNumData then cfg.bufferNumData else cfg.bufferNumCal

def ringSize : ℕ := cfg.bufferNum * cfg.inBufferSize * 2

end Config

/-- The fields of `iq_header` the block reads or sets. -/
structure IqHeader where
  frameType : RtlDaq.FrameType
  daqBlockIndex : ℕ
  cpiLength : ℕ
  adcOverdriveFlags : BitVec 32

/-- The answer of `transport_get_write_buf`: buffer 0 or 1, or a frame drop. -/
inductive Outcome
  | delivered
  | dropped
  deriving DecidableEq

/-- A frame on stdin, and the answers of the transport while it is handled: the first
one and, where the loop asks twice in one turn, the second. -/
structure Input (cfg : Config) where
  header : IqHeader
  iq : Fin cfg.numCh → List Byte
  outcome : Outcome
  again : Outcome := .delivered
  dummy_cpiLength : header.frameType = .dummy → header.cpiLength = 0
  cpiLength_eq : header.frameType ≠ .dummy → header.cpiLength = cfg.daqBufferSize
  length_iq : header.frameType ≠ .dummy → ∀ m, (iq m).length = cfg.daqBufferSize * 2

structure OutFrame (cfg : Config) where
  header : IqHeader
  payload : Fin cfg.numCh → List Byte

def checked (v : ℕ) : Option ℕ := if v < 2 ^ 31 then some v else none

def checkedInt (v : ℤ) : Option ℤ := if -2 ^ 31 ≤ v ∧ v < 2 ^ 31 then some v else none

structure Loop (cfg : Config) where
  circBuffer : Fin cfg.numCh → List Byte
  rdOffset : ℕ
  wrOffset : ℕ
  available : ℤ
  activeOutBufferSize : ℕ
  adcOverdriveFlags : BitVec 32
  frames : List (OutFrame cfg)

namespace Loop

variable {cfg : Config}

def start (cfg : Config) : Option (Loop cfg) := do
  let _ ← checked cfg.outBufferSize
  let _ ← checked cfg.bufferNumData
  let _ ← checked cfg.bufferNumCal
  let ringSize ← checked cfg.ringSize
  some
    { circBuffer := fun _ => List.replicate ringSize 0
      rdOffset := 0
      wrOffset := 0
      available := 0
      activeOutBufferSize := 0
      adcOverdriveFlags := 0
      frames := [] }

variable (r : Loop cfg)

def readIq (i : Input cfg) : Option (Loop cfg) :=
  if 0 < i.header.cpiLength then do
    let circBuffer ← forChannels fun m => blit (r.circBuffer m) r.rdOffset (i.iq m)
    some { r with circBuffer := circBuffer }
  else some r

def account (i : Input cfg) : Option (Loop cfg) :=
  if i.header.frameType = .dummy then
    some
      { r with
        circBuffer := fun _ => List.replicate cfg.ringSize 0
        wrOffset := 0
        rdOffset := 0
        available := 0 }
  else do
    let rdOffset ← checked (r.rdOffset + cfg.inBufferSize * 2)
    let available ← checkedInt (r.available + (cfg.inBufferSize * 2 : ℕ))
    some
      { r with
        rdOffset := rdOffset % cfg.ringSize
        available := available
        adcOverdriveFlags := r.adcOverdriveFlags ||| i.header.adcOverdriveFlags }

def activate (size : ℕ) : Option (Loop cfg) := do
  let bytes ← checked (size * 2)
  some { r with activeOutBufferSize := if (bytes : ℤ) ≤ r.available then size else 0 }

/-- The size of the frame to write.  A DUMMY frame is handed on here; when it is
dropped, the size stays what it was in the turn before. -/
def choose (i : Input cfg) : Option (Loop cfg) :=
  match i.header.frameType with
  | .dummy =>
    match i.outcome with
    | .delivered =>
      some
        { r with
          activeOutBufferSize := 0
          frames := r.frames ++ [⟨{ i.header with cpiLength := 0 }, fun _ => []⟩] }
    | .dropped => some r
  | .cal => r.activate cfg.calOutBufferSize
  | .data => r.activate cfg.outBufferSize

def chunkSize : ℕ := cfg.ringSize - r.wrOffset

def copyOut (size : ℕ) (m : Fin cfg.numCh) : Option (List Byte) := do
  let _ ← checked (m * r.activeOutBufferSize * 2)
  if size ≤ r.chunkSize then slice (r.circBuffer m) r.wrOffset size
  else do
    let front ← slice (r.circBuffer m) r.wrOffset r.chunkSize
    let back ← slice (r.circBuffer m) 0 (size - r.chunkSize)
    some (front ++ back)

def emit (header : IqHeader) (outcome : Outcome) : Option (Loop cfg) :=
  if r.activeOutBufferSize = 0 then some r
  else do
    let size ← checked (r.activeOutBufferSize * 2)
    let available ← checkedInt (r.available - (size : ℤ))
    match outcome with
    | .delivered => do
        let payload ← forChannels fun m => r.copyOut size m
        some
          { r with
            frames := r.frames ++ [⟨{ header with
              cpiLength := r.activeOutBufferSize
              adcOverdriveFlags := r.adcOverdriveFlags }, payload⟩]
            adcOverdriveFlags := 0
            wrOffset :=
              if size ≤ r.chunkSize then (r.wrOffset + size) % cfg.ringSize
              else size - r.chunkSize
            available := available }
    | .dropped => do
        let wrOffset ← checked (r.wrOffset + size)
        some { r with wrOffset := wrOffset % cfg.ringSize, available := available }

def turn (i : Input cfg) : Option (Loop cfg) := do
  let r ← r.readIq i
  let r ← r.account i
  let r ← r.choose i
  r.emit i.header (if i.header.frameType = .dummy then i.again else i.outcome)

def step (r : Option (Loop cfg)) (i : Input cfg) : Option (Loop cfg) := r.bind (·.turn i)

end Loop

/-! ## The stream of samples -/

structure Content (cfg : Config) where
  frameType : RtlDaq.FrameType
  payload : Fin cfg.numCh → List Byte

def OutFrame.content {cfg : Config} (f : OutFrame cfg) : Content cfg :=
  ⟨f.header.frameType, f.payload⟩

structure Stream (cfg : Config) where
  since : Fin cfg.numCh → List Byte := fun _ => []
  received : ℕ := 0
  taken : ℕ := 0
  frames : List (Content cfg) := []

namespace Stream

variable {cfg : Config}

def wanted (cfg : Config) : RtlDaq.FrameType → ℕ
  | .data => cfg.outBufferSize
  | .cal => cfg.calOutBufferSize
  | .dummy => 0

variable (s : Stream cfg)

def receive (iq : Fin cfg.numCh → List Byte) : Stream cfg :=
  { s with
    since := fun m => s.since m ++ iq m
    received := s.received + cfg.inBufferSize * 2 }

def take (frameType : RtlDaq.FrameType) (size : ℕ) : Outcome → Stream cfg
  | .delivered =>
    { s with
      taken := s.taken + size
      frames := s.frames ++ [⟨frameType, fun m => ((s.since m).drop s.taken).take size⟩] }
  | .dropped => { s with taken := s.taken + size }

/-- A DUMMY frame starts the stream over; any other one adds to it, and the next
segment leaves it when it is complete. -/
def step (i : Input cfg) : Stream cfg :=
  if i.header.frameType = .dummy then
    match i.outcome with
    | .delivered => { frames := s.frames ++ [⟨.dummy, fun _ => []⟩] }
    | .dropped => { frames := s.frames }
  else
    let size := wanted cfg i.header.frameType * 2
    let s := s.receive i.iq
    if s.taken + size ≤ s.received then s.take i.header.frameType size i.outcome else s

end Stream

end HeimdallDaq.DataPlane.Rebuffer
