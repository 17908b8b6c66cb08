/-
  Gateware/SpiConfig.lean --- the register protocol between host and gateware.

  The framing machine of spi_slave.v drives config_regs.v.
-/
import HeimdallDaq.Foundation.Buffers
import HeimdallDaq.Foundation.Runs
import Mathlib.Tactic.IntervalCases

namespace HeimdallDaq.Gateware

open Foundation List

/-! ## The framing machine of the slave -/

inductive FrameState
  | idle
  | sync
  | seq
  | len
  | cmd
  | payload
  | crc
  | regExec
  | error
  deriving DecidableEq

structure Framing where
  state : FrameState := .idle
  syncShift : BitVec 32 := 0
  seqReg : BitVec 16 := 0
  lenReg : BitVec 32 := 0
  cmdReg : Byte := 0
  crcShift : BitVec 32 := 0
  byteCnt : BitVec 32 := 0
  hdrByteCnt : BitVec 3 := 0
  crcErrReg : Bool := false
  crcCalc : BitVec 32 := 0xFFFFFFFF
  raAddr : Byte := 0
  raWdata : BitVec 32 := 0
  raWrPulse : Bool := false
  raRdPulse : Bool := false
  raByteIdx : BitVec 2 := 0
  deriving DecidableEq

namespace Framing

def syncWord : BitVec 32 := 0x48415400

def shiftIn (shift : BitVec 32) (b : Byte) : BitVec 32 := shift.extractLsb' 0 24 ++ b

def setByte (word : BitVec 32) (k : ℕ) (b : Byte) : BitVec 32 :=
  let low := 8 * (3 - k)
  word &&& ~~~(0xFF#32 <<< low) ||| b.setWidth 32 <<< low

variable (s : Framing) (b : Byte)

def hunt : Framing :=
  let shift := shiftIn s.syncShift b
  if shift = syncWord then { s with syncShift := shift, state := .seq, hdrByteCnt := 0 }
  else { s with syncShift := shift }

def takeSeq : Framing :=
  let s' := { s with seqReg := s.seqReg.extractLsb' 0 8 ++ b }
  if s.hdrByteCnt = 1 then { s' with state := .len, hdrByteCnt := 0 }
  else { s' with hdrByteCnt := s.hdrByteCnt + 1 }

def takeLen : Framing :=
  let s' := { s with lenReg := shiftIn s.lenReg b }
  if s.hdrByteCnt = 3 then { s' with state := .cmd, hdrByteCnt := 0 }
  else { s' with hdrByteCnt := s.hdrByteCnt + 1 }

def takeCmd : Framing :=
  { s with
    cmdReg := b
    byteCnt := 1
    state := .payload
    raByteIdx := if b = 0x01 ∨ b = 0x02 then 0 else s.raByteIdx }

def access : Framing :=
  if s.cmdReg = 0x01 then
    { s with
      raAddr := if s.raByteIdx = 0 then b else s.raAddr
      raWdata :=
        if s.raByteIdx = 1 then setByte s.raWdata 0 b
        else if s.raByteIdx = 2 then setByte s.raWdata 1 b
        else if s.raByteIdx = 3 then setByte s.raWdata 2 b
        else s.raWdata
      raByteIdx := s.raByteIdx + 1 }
  else if s.cmdReg = 0x02 then
    { s with
      raAddr := if s.raByteIdx = 0 then b else s.raAddr
      raRdPulse := s.raByteIdx = 0
      raByteIdx := s.raByteIdx + 1 }
  else s

def takePayload : Framing :=
  let s' := { s.access b with byteCnt := s.byteCnt + 1 }
  if s.lenReg ≤ s.byteCnt then
    let s' := { s' with state := .crc, hdrByteCnt := 0 }
    if s.cmdReg = 0x01 ∧ s.raByteIdx = 3 then
      { s' with raWdata := setByte s'.raWdata 3 b, raWrPulse := true }
    else s'
  else s'

def takeCrc : Framing :=
  let shift := shiftIn s.crcShift b
  let s' := { s with crcShift := shift, hdrByteCnt := s.hdrByteCnt + 1 }
  if s.hdrByteCnt = 3 then
    { s' with crcErrReg := if shift = 0xDEADBEEF then true else s.crcErrReg, state := .idle }
  else s'

def cleared : Framing := { s with raWrPulse := false, raRdPulse := false }

def fresh : Framing := { s with crcErrReg := false, crcCalc := 0xFFFFFFFF }

def quiet : Framing :=
  match s.state with
  | .idle => s.fresh
  | .sync | .regExec | .error => { s with state := .idle }
  | .seq | .len | .cmd | .payload | .crc => s

def take : Framing :=
  match s.state with
  | .idle => s.fresh.hunt b
  | .seq => s.takeSeq b
  | .len => s.takeLen b
  | .cmd => s.takeCmd b
  | .payload => s.takePayload b
  | .crc => s.takeCrc b
  | .sync | .regExec | .error => { s with state := .idle }

def step (rx : Option Byte) : Framing :=
  match rx with
  | none => s.cleared.quiet
  | some b => s.cleared.take b

end Framing

/-! ## The registers -/

/-- The registers of `config_regs` and its coefficient port. -/
structure ConfigRegs where
  rControl : BitVec 32 := 0
  rDecimRatio : BitVec 32 := 1
  rTapCount : BitVec 32 := 16
  rChannelCount : BitVec 32 := 5
  rCpiLength : BitVec 32 := 1024
  rReserved0 : BitVec 32 := 0
  rReserved1 : BitVec 32 := 0
  rProcMode : BitVec 32 := 0
  ctrlStart : Bool := false
  ctrlStop : Bool := false
  ctrlReset : Bool := false
  coeffAddr : BitVec 7 := 0
  coeffWdata : BitVec 32 := 0
  coeffWr : Bool := false
  deriving DecidableEq

namespace ConfigRegs

variable (r : ConfigRegs)

def cfgDecimRatio : BitVec 4 := r.rDecimRatio.extractLsb' 0 4

def cfgTapCount : BitVec 7 := r.rTapCount.extractLsb' 0 7

def write (addr : Byte) (wdata : BitVec 32) : ConfigRegs :=
  if addr = 0x00 then
    { r with
      rControl := wdata
      ctrlStart := wdata.getLsbD 0
      ctrlStop := wdata.getLsbD 1
      ctrlReset := wdata.getLsbD 2 }
  else if addr = 0x08 then { r with rDecimRatio := wdata }
  else if addr = 0x0C then { r with rTapCount := wdata }
  else if addr = 0x10 then { r with rChannelCount := wdata }
  else if addr = 0x14 then { r with rCpiLength := wdata }
  else if addr = 0x18 then { r with rReserved0 := wdata }
  else if addr = 0x1C then { r with rReserved1 := wdata }
  else if addr = 0xA0 then { r with rProcMode := wdata }
  else if 0x20 ≤ addr ∧ addr ≤ 0x9F then
    { r with
      coeffAddr := ((addr - 0x20) >>> 2).setWidth 7
      coeffWdata := wdata
      coeffWr := true }
  else r

def step (regWr : Bool) (addr : Byte) (wdata : BitVec 32) : ConfigRegs :=
  let r := { r with ctrlStart := false, ctrlStop := false, ctrlReset := false, coeffWr := false }
  if regWr then r.write addr wdata else r

end ConfigRegs

/-- The slave and its registers, with the `reg_wr` pulses and the coefficient writes so
far. -/
structure Gate where
  framing : Framing := {}
  regs : ConfigRegs := {}
  pulses : List (Byte × BitVec 32) := []
  coeffWrites : List (BitVec 7 × BitVec 32) := []

namespace Gate

def step (g : Gate) (rx : Option Byte) : Gate :=
  let framing := g.framing.step rx
  let regs := g.regs.step g.framing.raWrPulse g.framing.raAddr g.framing.raWdata
  { framing := framing
    regs := regs
    pulses := g.pulses ++ if framing.raWrPulse then [(framing.raAddr, framing.raWdata)] else []
    coeffWrites := g.coeffWrites ++ if regs.coeffWr then [(regs.coeffAddr, regs.coeffWdata)] else [] }

end Gate

/-! ## The host -/

namespace Host

/-- What `fpga_fir_init` is called with. -/
structure FirInit where
  decRatio : ℕ
  tapSize : ℕ
  blockSize : BitVec 32
  numChannels : BitVec 32
  coeffs : ℕ → ℚ
  decRatio_range : 1 ≤ decRatio ∧ decRatio ≤ 16
  tapSize_range : 1 ≤ tapSize ∧ tapSize ≤ 128
  coeffs_range : ∀ i < tapSize, -1 ≤ coeffs i ∧ coeffs i ≤ 1

/-- `(int32_t)(coeff * 2147483647.0f)`: the constant is 2^31 in single precision, and C
leaves open what the conversion of 2^31 gives. -/
def fixedCoeff (outOfRange : BitVec 32) (coeff : ℚ) : BitVec 32 :=
  let scaled := coeff * 2 ^ 31
  if scaled < 2 ^ 31 then BitVec.ofInt 32 (scaled.num.tdiv scaled.den) else outOfRange

def fpgaWriteRegister (addr : BitVec 16) (data : BitVec 32) : List Byte :=
  [0x01, addr.extractLsb' 8 8, addr.extractLsb' 0 8, data.extractLsb' 24 8, data.extractLsb' 16 8,
    data.extractLsb' 8 8, data.extractLsb' 0 8]

variable (outOfRange : BitVec 32) (h : FirInit)

def writes : List (BitVec 16 × BitVec 32) :=
  [(0x0001, 0x00000002), (0x0010, BitVec.ofNat 32 h.decRatio), (0x0011, BitVec.ofNat 32 h.tapSize),
    (0x0012, h.blockSize), (0x0013, h.numChannels)] ++
  (List.range h.tapSize).map (fun i =>
    (0x0100 + BitVec.ofNat 16 i, fixedCoeff outOfRange (h.coeffs i))) ++
  [(0x0001, 0x00000004), (0x0001, 0x00000001)]

def bytes : List Byte := (writes outOfRange h).flatMap fun w => fpgaWriteRegister w.1 w.2

lemma length_bytes : (bytes outOfRange h).length = 7 * (writes outOfRange h).length := by
  rw [bytes, length_flatMap]
  simp [fpgaWriteRegister, Nat.mul_comm]

end Host

/-! ## Frames are longer than messages -/

namespace Framing

def progress (s : Framing) : ℕ :=
  match s.state with
  | .seq => s.hdrByteCnt.toNat
  | .len => 2 + s.hdrByteCnt.toNat
  | .cmd => 6
  | .payload => 7
  | _ => 0

@[simp] lemma access_raWrPulse (s : Framing) (b : Byte) :
    (s.access b).raWrPulse = s.raWrPulse := by
  unfold access
  split_ifs <;> rfl

@[simp] lemma access_state (s : Framing) (b : Byte) : (s.access b).state = s.state := by
  unfold access
  split_ifs <;> rfl

section Branches

variable {s : Framing} (b : Byte)

section

variable (hpulse : s.raWrPulse = false)
include hpulse

lemma hunt_progress (hstate : s.state = .idle) :
    (s.hunt b).raWrPulse = false ∧ (s.hunt b).progress = 0 := by
  grind [hunt, progress]

lemma takeSeq_progress (hstate : s.state = .seq) :
    (s.takeSeq b).raWrPulse = false ∧ (s.takeSeq b).progress ≤ s.progress + 1 := by
  grind [takeSeq, progress]

lemma takeLen_progress (hstate : s.state = .len) :
    (s.takeLen b).raWrPulse = false ∧ (s.takeLen b).progress ≤ s.progress + 1 := by
  grind [takeLen, progress]

lemma takePayload_progress (hstate : s.state = .payload) :
    8 * (if (s.takePayload b).raWrPulse then 1 else 0) + (s.takePayload b).progress ≤ 8 := by
  unfold takePayload
  dsimp only
  split_ifs <;> simp_all [progress]

lemma takeCrc_progress (hstate : s.state = .crc) :
    (s.takeCrc b).raWrPulse = false ∧ (s.takeCrc b).progress = 0 := by
  grind [takeCrc, progress]

lemma quiet_progress : s.quiet.raWrPulse = false ∧ s.quiet.progress = s.progress := by
  unfold quiet progress
  cases hstate : s.state <;> simp [fresh, hpulse, hstate]

end

lemma take_progress (b : Byte) (hpulse : s.raWrPulse = false) :
    8 * (if (s.take b).raWrPulse then 1 else 0) + (s.take b).progress ≤ s.progress + 1 := by
  unfold take
  cases hstate : s.state with
  | idle =>
    obtain ⟨hp, hzero⟩ := hunt_progress (s := s.fresh) b hpulse hstate
    simp [hp, hzero]
  | seq =>
    obtain ⟨hp, hle⟩ := takeSeq_progress b hpulse hstate
    simpa [hp] using hle
  | len =>
    obtain ⟨hp, hle⟩ := takeLen_progress b hpulse hstate
    simpa [hp] using hle
  | cmd => simp [takeCmd, hpulse, progress, hstate]
  | payload =>
    have hle := takePayload_progress b hpulse hstate
    simpa [progress, hstate] using hle
  | crc =>
    obtain ⟨hp, hzero⟩ := takeCrc_progress b hpulse hstate
    simp [hp, hzero]
  | _ => simp [hpulse, progress]

end Branches

lemma step_progress (s : Framing) (rx : Option Byte) :
    8 * (if (s.step rx).raWrPulse then 1 else 0) + (s.step rx).progress ≤
      s.progress + rx.toList.length := by
  cases rx with
  | none =>
    obtain ⟨hp, heq⟩ := quiet_progress (s := s.cleared) rfl
    have hstep : s.step none = s.cleared.quiet := rfl
    rw [hstep, hp, heq]
    simp [progress, cleared]
  | some b => exact take_progress (s := s.cleared) b rfl

end Framing

namespace Gate

lemma eight_mul_pulses_le (inputs : List (Option Byte)) (g : Gate) :
    8 * (run step g inputs).pulses.length + (run step g inputs).framing.progress ≤
      8 * g.pulses.length + g.framing.progress + (inputs.filterMap id).length := by
  induction inputs generalizing g with
  | nil => simp
  | cons rx rest ih =>
    have hstep := g.framing.step_progress rx
    have hrest := ih (g.step rx)
    have hlen : ((rx :: rest).filterMap id).length =
        rx.toList.length + (rest.filterMap id).length := by
      cases rx <;> simp [Nat.add_comm]
    have hpulses : (g.step rx).pulses.length =
        g.pulses.length + if (g.framing.step rx).raWrPulse then 1 else 0 := by
      rw [step, length_append]
      split <;> rfl
    have hprogress : (g.step rx).framing.progress = (g.framing.step rx).progress := rfl
    rw [run_cons, hlen]
    omega

end Gate

/-! ## Without a sync word -/

namespace Framing

def syncBytes : List Byte := [0x48, 0x41, 0x54, 0x00]

lemma toNat_shiftIn (shift : BitVec 32) (b : Byte) :
    (shiftIn shift b).toNat = shift.toNat % 2 ^ 24 * 2 ^ 8 + b.toNat := by
  have hlt := b.isLt
  rw [shiftIn, BitVec.toNat_append, BitVec.extractLsb'_toNat, Nat.shiftRight_zero,
    ← Nat.shiftLeft_add_eq_or_of_lt hlt, Nat.shiftLeft_eq]

def window (received : List Byte) : BitVec 32 := received.foldl shiftIn 0

lemma window_snoc (received : List Byte) (b : Byte) :
    window (received ++ [b]) = shiftIn (window received) b := by
  rw [window, foldl_append]
  rfl

variable {received : List Byte}

/-- The lowest byte of the register is the last one received, unless it is zero
because there was none. -/
lemma window_last {k v : ℕ} {b : Byte} (hk : k ≤ 3)
    (h : (window received).toNat % 256 ^ (k + 1) = b.toNat + 256 * v) (hne : 0 < v + b.toNat) :
    ∃ before, received = before ++ [b] ∧ (window before).toNat % 256 ^ k = v := by
  obtain rfl | ⟨before, last, rfl⟩ := eq_nil_or_concat received
  · have hzero : (window []).toNat = 0 := rfl
    rw [hzero, Nat.zero_mod] at h
    omega
  · have hlast := last.isLt
    have hb := b.isLt
    have hdvd : 256 ^ k ∣ 2 ^ 24 := pow_dvd_pow 256 hk
    rw [concat_eq_append, window_snoc, toNat_shiftIn, pow_succ' 256 k, Nat.mod_mul] at h
    have hdiv : ((window before).toNat % 2 ^ 24 * 2 ^ 8 + last.toNat) / 256 =
        (window before).toNat % 2 ^ 24 := by omega
    rw [hdiv, Nat.mod_mod_of_dvd _ hdvd] at h
    refine ⟨before, ?_, by omega⟩
    have heq : last = b := BitVec.eq_of_toNat_eq (by omega)
    rw [concat_eq_append, heq]

lemma suffix_of_window (h : window received = syncWord) : syncBytes <:+ received := by
  have h0 : (window received).toNat % 256 ^ 4 = (0x00 : Byte).toNat + 256 * 0x484154 := by
    rw [h]
    rfl
  obtain ⟨r1, rfl, h1⟩ := window_last (by omega) h0 (by decide)
  obtain ⟨r2, rfl, h2⟩ := window_last (b := 0x54) (v := 0x4841) (by omega) h1 (by decide)
  obtain ⟨r3, rfl, h3⟩ := window_last (b := 0x41) (v := 0x48) (by omega) h2 (by decide)
  obtain ⟨r4, rfl, -⟩ := window_last (b := 0x48) (v := 0) (by omega) h3 (by decide)
  exact ⟨r4, by simp [syncBytes]⟩

end Framing

namespace Gate

/-- The slave is still looking for a frame and the registers are as after reset. -/
@[local grind]
structure Deaf (received : List Byte) (g : Gate) : Prop where
  state : g.framing.state = .idle
  syncShift : g.framing.syncShift = Framing.window received
  raWrPulse : g.framing.raWrPulse = false
  regs : g.regs = {}
  pulses : g.pulses = []
  coeffWrites : g.coeffWrites = []

lemma start_deaf : Deaf [] {} := ⟨rfl, rfl, rfl, rfl, rfl, rfl⟩

variable {received : List Byte}

lemma Deaf.step {g : Gate} (h : g.Deaf received) (rx : Option Byte)
    (hsync : ¬ Framing.syncBytes <:+ received ++ rx.toList) :
    (g.step rx).Deaf (received ++ rx.toList) := by
  have hregs : g.regs.step g.framing.raWrPulse g.framing.raAddr g.framing.raWdata = {} := by
    rw [h.raWrPulse, h.regs]
    rfl
  have hframing : (g.framing.step rx).state = .idle ∧
      (g.framing.step rx).syncShift = Framing.window (received ++ rx.toList) ∧
      (g.framing.step rx).raWrPulse = false := by
    cases rx with
    | none =>
      simp [Framing.step, Framing.quiet, Framing.cleared, Framing.fresh, h.state, h.syncShift]
    | some b =>
      grind [Framing.window_snoc, Framing.suffix_of_window, Framing.step, Framing.take, Framing.cleared, Framing.fresh, Framing.hunt]
  grind [Gate.step]

lemma Deaf.run {g : Gate} (h : g.Deaf received) (inputs : List (Option Byte))
    (hsync : ¬ Framing.syncBytes <:+: received ++ inputs.filterMap id) :
    (run Gate.step g inputs).Deaf (received ++ inputs.filterMap id) := by
  induction inputs generalizing received g with
  | nil => simpa using h
  | cons rx rest ih =>
    have hsplit : (rx :: rest).filterMap id = rx.toList ++ rest.filterMap id := by
      cases rx <;> rfl
    rw [hsplit, ← append_assoc] at hsync ⊢
    refine ih (h.step rx fun hsuffix => hsync ?_) hsync
    exact hsuffix.isInfix.trans (prefix_append _ _).isInfix

end Gate

/-! ## The host does not reach the registers -/

namespace Host

variable (outOfRange : BitVec 32) (h : FirInit)

@[local grind]
def Configured (g : Gate) : Prop :=
  g.regs.cfgDecimRatio = BitVec.ofNat 4 h.decRatio ∧ g.regs.cfgTapCount = BitVec.ofNat 7 h.tapSize ∧
    (∀ i < h.tapSize, (BitVec.ofNat 7 i, fixedCoeff outOfRange (h.coeffs i)) ∈ g.coeffWrites) ∧
    g.pulses.map (fun p => (p.1.setWidth 16, p.2)) = writes outOfRange h

/-- Whatever the parameters and the spacing of the bytes, there are fewer pulses than
register writes, so the filter is never configured.  Unless the bytes of the sync word
occur among the data there is no pulse at all: the decimation ratio stays 1, the tap
count 16, and no coefficient is written. -/
theorem never_configured (inputs : List (Option Byte))
    (hin : inputs.filterMap id = bytes outOfRange h) :
    (run Gate.step {} inputs).pulses.length < (writes outOfRange h).length ∧
      ¬ Configured outOfRange h (run Gate.step {} inputs) ∧
      (¬ Framing.syncBytes <:+: bytes outOfRange h →
        (run Gate.step {} inputs).pulses = [] ∧ (run Gate.step {} inputs).coeffWrites = [] ∧
          ((run Gate.step {} inputs).regs.cfgDecimRatio = BitVec.ofNat 4 h.decRatio ↔
            h.decRatio = 1) ∧
          ((run Gate.step {} inputs).regs.cfgTapCount = BitVec.ofNat 7 h.tapSize ↔
            h.tapSize = 16)) := by
  have hfewer : (run Gate.step {} inputs).pulses.length < (writes outOfRange h).length := by
    have hle := Gate.eight_mul_pulses_le inputs {}
    grind [length_bytes, writes, Framing.progress]
  refine ⟨hfewer, ?_, fun hsync => ?_⟩
  · grind
  · have hdeaf := Gate.start_deaf.run inputs (by rwa [hin])
    obtain ⟨hratio, hratio'⟩ := h.decRatio_range
    obtain ⟨htap, htap'⟩ := h.tapSize_range
    refine ⟨hdeaf.pulses, hdeaf.coeffWrites, ?_, ?_⟩
    · rw [hdeaf.regs, ← BitVec.toNat_inj, BitVec.toNat_ofNat,
        show (ConfigRegs.cfgDecimRatio {}).toNat = 1 from rfl]
      omega
    · rw [hdeaf.regs, ← BitVec.toNat_inj, BitVec.toNat_ofNat,
        show (ConfigRegs.cfgTapCount {}).toNat = 16 from rfl]
      omega

def average : FirInit where
  decRatio := 4
  tapSize := 2
  blockSize := 4096
  numChannels := 5
  coeffs := fun _ => 1 / 2
  decRatio_range := by decide
  tapSize_range := by decide
  coeffs_range := by intros; norm_num

lemma fixedCoeff_half : fixedCoeff outOfRange (1 / 2) = 0x40000000 := by
  have hscaled : (1 / 2 : ℚ) * 2 ^ 31 = 1073741824 := by norm_num
  rw [fixedCoeff, hscaled, if_pos (by norm_num)]
  rfl

lemma writes_average : writes outOfRange average =
    [(0x0001, 0x00000002), (0x0010, 4), (0x0011, 2), (0x0012, 4096), (0x0013, 5),
      (0x0100, 0x40000000), (0x0101, 0x40000000), (0x0001, 0x00000004), (0x0001, 0x00000001)] := by
  simp only [writes, average, fixedCoeff_half]
  rfl

/-- Its bytes hold no sync word, so the ratio stays 1 and nothing is written. -/
theorem average_lost :
    let g := run Gate.step {} ((bytes 0 average).map some)
    g.pulses = [] ∧ g.coeffWrites = [] ∧ g.regs.cfgDecimRatio = 1 ∧ g.regs.cfgTapCount = 16 := by
  rw [bytes, writes_average]
  decide

/-- The same through the general theorem. -/
theorem never_configured_average :
    let inputs := (bytes 0 average).map some
    inputs.filterMap id = bytes 0 average ∧
      (run Gate.step {} inputs).pulses.length < (writes 0 average).length ∧
      ¬ Configured 0 average (run Gate.step {} inputs) := by
  have hin : ((bytes 0 average).map some).filterMap id = bytes 0 average := by
    simp
  obtain ⟨hfewer, hnot, -⟩ := never_configured 0 average _ hin
  exact ⟨hin, hfewer, hnot⟩

end Host

end HeimdallDaq.Gateware
