/-
  Gateware/XcorrEngine.lean --- the control of the cross-correlation engine.

  The counters and the ten states of xcorr_engine.v, one clock edge a step; the samples
  stay outside, and the FFT answers by any `fft_busy` and `fft_done`.
-/
import HeimdallDaq.Foundation.Runs
import Mathlib

namespace HeimdallDaq.Gateware

inductive XcorrState where
  | idle | loadRef | fftRef | loadTest | fftTest | conjMul | ifft | magSq | output | done
  deriving DecidableEq

/-- The registers, with counters of `LOG2_N = $clog2(FFT_N)` bits. -/
structure Xcorr (fftN : ℕ) where
  state : XcorrState := .idle
  loadCnt : BitVec (Nat.clog 2 fftN) := 0
  procCnt : BitVec (Nat.clog 2 fftN) := 0
  fftStart : Bool := false
  fftInverse : Bool := false
  fftWrAddr : BitVec (Nat.clog 2 fftN) := 0
  fftWrEn : Bool := false
  fftRdAddr : BitVec (Nat.clog 2 fftN) := 0
  xcorrValid : Bool := false
  xcorrIdx : BitVec (Nat.clog 2 fftN) := 0

namespace Xcorr

structure Inputs where
  start : Bool
  modeXcorr : Bool
  refValid : Bool
  testValid : Bool
  xcorrReady : Bool
  fftBusy : Bool
  fftDone : Bool

variable {fftN : ℕ} (s : Xcorr fftN) (i : Inputs)

/-- A word goes into the FFT memory. -/
def write : Xcorr fftN :=
  { s with fftWrAddr := s.loadCnt, fftWrEn := true, loadCnt := s.loadCnt + 1 }

def load (valid : Bool) (next : XcorrState) : Xcorr fftN :=
  if valid && !i.fftBusy then
    { s.write with state := if s.loadCnt.toNat = fftN - 1 then next else s.state }
  else s

def transform : Xcorr fftN :=
  if !i.fftBusy && !i.fftDone then { s with fftStart := true, fftInverse := false } else s

/-- One word of the FFT memory is read out, up to the count `FFT_N`. -/
def sweep (next : Xcorr fftN → Xcorr fftN) : Xcorr fftN :=
  let swept := { s with fftRdAddr := s.procCnt, procCnt := s.procCnt + 1 }
  if s.procCnt.toNat = fftN then next swept else swept

def offers : Bool := s.state = .output ∧ (!s.xcorrValid || i.xcorrReady)

def step : Xcorr fftN :=
  let r := { s with fftStart := false, fftWrEn := false,
                    xcorrValid := s.xcorrValid && !i.xcorrReady }
  match s.state with
  | .idle => if i.start && i.modeXcorr then { r with state := .loadRef, loadCnt := 0 } else r
  | .loadRef => r.load i i.refValid .fftRef
  | .fftRef =>
    let r := r.transform i
    if i.fftDone then { r with state := .loadTest, loadCnt := 0, procCnt := 0 } else r
  | .loadTest =>
    let r := if s.procCnt.toNat < fftN then
        { r with fftRdAddr := s.procCnt, procCnt := s.procCnt + 1 }
      else if s.procCnt.toNat = fftN then { r with procCnt := s.procCnt + 1 } else r
    r.load i i.testValid .fftTest
  | .fftTest =>
    let r := r.transform i
    if i.fftDone then { r with state := .conjMul, procCnt := 0 } else r
  | .conjMul => r.sweep ({ · with state := .ifft, loadCnt := 0 })
  | .ifft =>
    let r := if s.loadCnt.toNat < fftN then r.write
      else if !i.fftBusy && !i.fftDone && s.loadCnt.toNat == fftN then
        { r with fftStart := true, fftInverse := true, loadCnt := s.loadCnt + 1 }
      else r
    if i.fftDone then { r with state := .magSq, procCnt := 0 } else r
  | .magSq => r.sweep ({ · with state := .output, xcorrIdx := 0 })
  | .output =>
    if s.offers i then
      { r with xcorrValid := true, xcorrIdx := s.xcorrIdx + 1
               state := if s.xcorrIdx.toNat = fftN - 1 then .done else .output }
    else r
  | .done => { r with state := .idle }

/-- The registers before each clock edge, from reset. -/
def trace (fftN : ℕ) (env : ℕ → Inputs) : ℕ → Xcorr fftN
  | 0 => {}
  | t + 1 => (trace fftN env t).step (env t)

/-- The indices of the results presented before edge `t`. -/
def presented (fftN : ℕ) (env : ℕ → Inputs) (t : ℕ) : List ℕ :=
  ((List.range t).filter fun k => (trace fftN env k).offers (env k)).map fun k =>
    (trace fftN env k).xcorrIdx.toNat

def Completes (fftN : ℕ) (env : ℕ → Inputs) : Prop :=
  ∃ t, (trace fftN env t).state = .done ∧ (presented fftN env t).Perm (List.range fftN)

/-- The states up to the conjugate product. -/
def Early : Prop := s.state ∉ [XcorrState.ifft, .magSq, .output, .done]

-- a counter of `m` bits never equals `2 ^ m`, so the product sweep has no end
lemma early_step {m : ℕ} (s : Xcorr (2 ^ m)) (h : s.Early) : (s.step i).Early := by
  have hcount : s.procCnt.toNat ≠ 2 ^ m := by
    have hwidth : 2 ^ Nat.clog 2 (2 ^ m) = 2 ^ m := by rw [Nat.clog_pow 2 m Nat.one_lt_two]
    exact (s.procCnt.isLt.trans_eq hwidth).ne
  unfold Early at h ⊢
  cases hs : s.state <;> simp only [step, hs, load, transform, sweep, write, if_neg hcount] at h ⊢ <;>
    grind

lemma trace_early (m : ℕ) (env : ℕ → Inputs) : ∀ t, (trace (2 ^ m) env t).Early
  | 0 => by simp [trace, Early]
  | t + 1 => early_step _ _ (trace_early m env t)

lemma not_done (m : ℕ) (env : ℕ → Inputs) (t : ℕ) : (trace (2 ^ m) env t).state ≠ .done := by
  intro hdone
  exact trace_early m env t (by simp [hdone])

/-- With a power of two the engine completes under no inputs. -/
theorem xcorr_never_completes (m : ℕ) (env : ℕ → Inputs) : ¬ Completes (2 ^ m) env :=
  fun ⟨t, hdone, _⟩ => not_done m env t hdone

/-- Samples and outputs move at once; the FFT of two points answers five edges after it
saw its start. -/
def prompt (t : ℕ) : Inputs where
  start := t = 0
  modeXcorr := true
  refValid := true
  testValid := true
  xcorrReady := true
  fftBusy := (5 ≤ t ∧ t ≤ 9) ∨ (15 ≤ t ∧ t ≤ 19)
  fftDone := t = 10 ∨ t = 20

theorem prompt_stuck : (trace (2 ^ 1) prompt 21).state = .conjMul ∧ ¬ Completes (2 ^ 1) prompt :=
  ⟨by decide, fun ⟨t, hdone, _⟩ => not_done 1 prompt t hdone⟩

end Xcorr

end HeimdallDaq.Gateware
