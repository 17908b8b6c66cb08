/-
  DataPlane/FirGeneric.lean --- the portable FIR decimator.

  offload_cpu_generic.c keeps, per channel and quadrature, the last `tap_size - 1` input
  samples.
-/
import HeimdallDaq.Foundation.Buffers
import Mathlib.Algebra.Order.Ring.Rat
import Mathlib.Data.List.GetD
import Mathlib.Data.Nat.ModEq

namespace HeimdallDaq.DataPlane.FirGeneric

open Foundation List Function

/-! ## The engine -/

def sizeT (n : ℕ) : ℕ := n % 2 ^ 64

@[local grind]
def int32 (n : ℤ) : ℤ := n.bmod (2 ^ 32)

def mallocFloats (n : ℕ) : ℕ := sizeT (n * 4) / 4

/-- The arguments of `generic_fir_init`. -/
structure FirParams where
  coeffs : List ℚ
  tapSize : ℕ
  decRatio : ℤ
  blockSize : ℕ
  numChannels : ℤ

/-- `generic_fir_ctx`. -/
structure FirCtx where
  coeffs : List ℚ
  history : List (List ℚ)
  work : List ℚ
  workLen : ℕ
  maxInputLen : ℕ
  numChannels : ℤ
  decRatio : ℤ
  blockSize : ℕ
  tapSize : ℕ
  initialized : Bool

/-- `generic_fir_init`, given whether every allocation succeeded and what the fresh
work buffer holds. -/
def genericFirInit (granted : Bool) (garbage : ℕ → ℚ) (p : FirParams) : Option FirCtx :=
  if p.numChannels < 1 ∨ p.decRatio < 1 ∨ p.tapSize < 1 then none
  else if granted then
    let maxInputLen := sizeT (p.blockSize * p.decRatio.toNat)
    let workLen := sizeT (p.tapSize - 1 + maxInputLen)
    let histAlloc := if 1 < p.tapSize then p.tapSize - 1 else 1
    some
      { coeffs := p.coeffs.take (mallocFloats p.tapSize)
        history := List.replicate (int32 (p.numChannels * 2)).toNat (List.replicate histAlloc 0)
        work := (List.range (mallocFloats workLen)).map garbage
        workLen := workLen
        maxInputLen := maxInputLen
        numChannels := p.numChannels
        decRatio := p.decRatio
        blockSize := p.blockSize
        tapSize := p.tapSize
        initialized := true }
  else none

namespace FirCtx

variable (ctx : FirCtx)

def histLen : ℕ := ctx.tapSize - 1

def dec : ℕ := ctx.decRatio.toNat

variable (work : List ℚ)

def back (pos k : ℕ) : Option ℚ := if k ≤ pos then work[pos - k]? else none

def tap (pos : ℕ) (acc : ℚ) (k : ℕ) : Option ℚ := do
  let c ← ctx.coeffs[k]?
  let x ← back work pos k
  return acc + c * x

def sample (n : ℕ) : Option ℚ :=
  (List.range ctx.tapSize).foldlM (ctx.tap work (ctx.histLen + n * ctx.dec)) 0

def storeSample (work output : List ℚ) (n : ℕ) : Option (List ℚ) := do
  let acc ← ctx.sample work n
  blit output n [acc]

variable (index : ℤ)

def historyAt : Option (List ℚ) := if 0 ≤ index then ctx.history[index.toNat]? else none

/-- `generic_fir_run` on the history at `index`: the engine and the output buffer
afterwards. -/
def genericFirRun (input output : List ℚ) (inputLen : ℕ) : Option (FirCtx × List ℚ) := do
  let history ← ctx.historyAt index
  let work ← blit ctx.work 0 (← slice history 0 ctx.histLen)
  let work ← blit work ctx.histLen (← slice input 0 inputLen)
  let output ← (List.range (inputLen / ctx.dec)).foldlM (ctx.storeSample work) output
  let history ← blit history 0 (← slice work inputLen ctx.histLen)
  return ({ ctx with work := work, history := ctx.history.set index.toNat history }, output)

def genericFirDecimate (ch : ℤ) (inputI inputQ outputI outputQ : List ℚ) (inputLen : ℕ) :
    Option (FirCtx × ℤ × List ℚ × List ℚ) :=
  if ctx.initialized = false ∨ ch < 0 ∨ ctx.numChannels ≤ ch then
    some (ctx, -1, outputI, outputQ)
  else if ctx.maxInputLen < inputLen then some (ctx, -1, outputI, outputQ)
  else do
    let (ctx₁, outputI) ← ctx.genericFirRun (int32 (2 * ch)) inputI outputI inputLen
    let (ctx₂, outputQ) ← ctx₁.genericFirRun (int32 (2 * ch + 1)) inputQ outputQ inputLen
    return (ctx₂, 0, outputI, outputQ)

def clearHistory : Option FirCtx := do
  let history ← ctx.historyAt index
  let history ← blit history 0 (List.replicate ctx.histLen 0)
  return { ctx with history := ctx.history.set index.toNat history }

def genericFirReset (ch : ℤ) : Option FirCtx :=
  if ctx.initialized = false ∨ ch < 0 ∨ ctx.numChannels ≤ ch then some ctx
  else do
    let ctx₁ ← ctx.clearHistory (int32 (2 * ch))
    ctx₁.clearHistory (int32 (2 * ch + 1))

end FirCtx

/-! ## Streams -/

@[local grind]
def past (x : List ℚ) (i k : ℕ) : ℚ := if k ≤ i then x.getD (i - k) 0 else 0

variable (coeffs : List ℚ)

@[local grind]
def filtered (dec : ℕ) (x : List ℚ) (n : ℕ) : ℚ :=
  ∑ k ∈ Finset.range coeffs.length, coeffs.getD k 0 * past x (n * dec) k

def decimated (dec : ℕ) (x : List ℚ) : List ℚ :=
  (List.range (x.length / dec)).map (filtered coeffs dec x)

inductive Call
  | decimate (ch : ℤ) (inputI inputQ outputI outputQ : List ℚ) (inputLen : ℕ)
  | reset (ch : ℤ)

structure Stream where
  input : List ℚ := []
  output : List ℚ := []

structure Channel where
  i : Stream := {}
  q : Stream := {}

def Stream.extend (s : Stream) (input : List ℚ) (code : ℤ) (output : List ℚ) : Stream :=
  ⟨s.input ++ input, if code = 0 then s.output ++ output else s.output⟩

structure Session where
  ctx : FirCtx
  channels : ℤ → Channel := fun _ => {}

def Session.step (s : Session) : Call → Option Session
  | .decimate ch inputI inputQ outputI outputQ inputLen => do
      let (ctx, code, outputI, outputQ) ←
        s.ctx.genericFirDecimate ch inputI inputQ outputI outputQ inputLen
      let produced := inputLen / s.ctx.dec
      return ⟨ctx, Function.update s.channels ch
        ⟨(s.channels ch).i.extend (inputI.take inputLen) code (outputI.take produced),
          (s.channels ch).q.extend (inputQ.take inputLen) code (outputQ.take produced)⟩⟩
  | .reset ch => do
      let ctx ← s.ctx.genericFirReset ch
      return ⟨ctx, Function.update s.channels ch {}⟩

def Session.run (s : Session) (calls : List Call) : Option Session := calls.foldlM Session.step s

/-- The call is for a channel of the engine, its input has a length the engine was
set up for, and the caller's buffers hold what the call reads and writes. -/
def Call.Proper (p : FirParams) : Call → Prop
  | .decimate ch inputI inputQ outputI outputQ inputLen =>
    0 ≤ ch ∧ ch < p.numChannels ∧ inputI.length = inputLen ∧ inputQ.length = inputLen ∧
      p.decRatio.toNat ∣ inputLen ∧ inputLen ≤ p.blockSize * p.decRatio.toNat ∧
      inputLen / p.decRatio.toNat ≤ outputI.length ∧ inputLen / p.decRatio.toNat ≤ outputQ.length
  | .reset ch => 0 ≤ ch ∧ ch < p.numChannels

/-- Parameters `generic_fir_init` accepts, with an array of `tap_size` coefficients. -/
structure FirParams.Valid (p : FirParams) : Prop where
  tapSize : 1 ≤ p.tapSize
  decRatio : 1 ≤ p.decRatio
  numChannels : 1 ≤ p.numChannels
  coeffs : p.coeffs.length = p.tapSize

/-- The sizes computed from the parameters do not wrap. -/
@[local grind]
structure FirParams.Fits (p : FirParams) : Prop where
  coeffBytes : p.tapSize * 4 < 2 ^ 64
  workBytes : (p.tapSize - 1 + p.blockSize * p.decRatio.toNat) * 4 < 2 ^ 64
  histories : p.numChannels * 2 < 2 ^ 31

/-- The arguments `fir_decimate.c` passes: ints, with the bounds of `ini_checker.py` on the size
of a CPI and the number of channels. -/
structure FirParams.Configured (p : FirParams) : Prop where
  tapSize : p.tapSize < 2 ^ 31
  decRatio : p.decRatio < 2 ^ 31
  blockSize : p.blockSize ≤ 2 ^ 23
  numChannels : p.numChannels ≤ 31

lemma FirParams.Configured.fits {p : FirParams} (h : p.Configured) : p.Fits := by
  obtain ⟨htap, hdec, hblock, hchannels⟩ := h
  have hwork : p.blockSize * p.decRatio.toNat ≤ 2 ^ 23 * 2 ^ 31 :=
    Nat.mul_le_mul hblock (by omega)
  exact ⟨by omega, by omega, by omega⟩

/-! ## The history -/

variable (len : ℕ)

@[local grind]
def recent (x : List ℚ) : List ℚ := (List.replicate len 0 ++ x).drop x.length

@[simp] lemma length_recent (x : List ℚ) : (recent len x).length = len := by
  simp [recent]

@[simp] lemma recent_nil : recent len [] = List.replicate len 0 := by simp [recent]

lemma recent_append_eq_drop (x b : List ℚ) :
    recent len x ++ b = (List.replicate len 0 ++ (x ++ b)).drop x.length := by grind

/-- The history of the longer stream is what the work buffer holds from the input's
length on, also when the input is shorter than the history. -/
lemma drop_recent_append (x b : List ℚ) :
    (recent len x ++ b).drop b.length = recent len (x ++ b) := by
  rw [recent_append_eq_drop, drop_drop, recent, length_append]

lemma recent_append_getElem? {len j k : ℕ} (x b : List ℚ) (hk : k ≤ len) (hj : j < b.length) :
    (recent len x ++ b)[len + j - k]? = some (past (x ++ b) (x.length + j) k) := by grind

/-! ## Concatenated outputs -/

lemma filtered_append {coeffs x : List ℚ} {dec n : ℕ} (b : List ℚ) (hn : n * dec < x.length) :
    filtered coeffs dec (x ++ b) n = filtered coeffs dec x n := by grind

lemma decimated_append {coeffs x b : List ℚ} {dec : ℕ} (hdec : 0 < dec) (hx : dec ∣ x.length) :
    decimated coeffs dec (x ++ b) = decimated coeffs dec x ++ (List.range (b.length / dec)).map
          (fun n => filtered coeffs dec (x ++ b) (x.length / dec + n)) := by
  have hlen : (x ++ b).length / dec = x.length / dec + b.length / dec := by
    rw [length_append, Nat.add_div_of_dvd_right hx]
  have hold : ∀ n ∈ range (x.length / dec),
      filtered coeffs dec (x ++ b) n = filtered coeffs dec x n := by
    intro n hn
    refine filtered_append b ?_
    calc n * dec < x.length / dec * dec :=
          Nat.mul_lt_mul_of_pos_right (mem_range.mp hn) hdec
      _ = x.length := Nat.div_mul_cancel hx
  rw [decimated, hlen, range_add, map_append, map_map, map_congr_left hold]
  rfl

/-! ## One run of a filter -/

/-- The engine was set up with `p`. -/
@[local grind]
structure FirCtx.Sound (p : FirParams) (ctx : FirCtx) : Prop where
  coeffs : ctx.coeffs = p.coeffs
  tapSize : ctx.tapSize = p.tapSize
  decRatio : ctx.decRatio = p.decRatio
  numChannels : ctx.numChannels = p.numChannels
  initialized : ctx.initialized = true
  maxInputLen : ctx.maxInputLen = p.blockSize * p.decRatio.toNat
  work : ctx.work.length = p.tapSize - 1 + p.blockSize * p.decRatio.toNat

def Remembers (history x : List ℚ) : Prop := ∃ rest, history = recent len x ++ rest

section Run

variable {p : FirParams} {ctx : FirCtx} {x b junk : List ℚ}

lemma tap_eq (hp : p.Valid) (hctx : ctx.Sound p) {j k : ℕ}
    (hk : k < p.tapSize) (hj : j < b.length) (acc : ℚ) :
    ctx.tap (recent (p.tapSize - 1) x ++ b ++ junk) (p.tapSize - 1 + j) acc k =
      some (acc + p.coeffs.getD k 0 * past (x ++ b) (x.length + j) k) := by
  have hc : k < p.coeffs.length := by rw [hp.coeffs]; exact hk
  have hin : p.tapSize - 1 + j - k < (recent (p.tapSize - 1) x ++ b).length := by simp; omega
  unfold FirCtx.tap FirCtx.back
  rw [hctx.coeffs, if_pos (by omega), getElem?_append_left hin,
    recent_append_getElem? x b (by omega) hj, getElem?_eq_getElem hc,
    getD_eq_getElem _ _ hc]
  rfl

lemma sample_eq (hp : p.Valid) (hctx : ctx.Sound p) {n : ℕ}
    (hx : p.decRatio.toNat ∣ x.length) (hn : n * p.decRatio.toNat < b.length) :
    ctx.sample (recent (p.tapSize - 1) x ++ b ++ junk) n =
      some (filtered p.coeffs p.decRatio.toNat (x ++ b) (x.length / p.decRatio.toNat + n)) := by
  have hpos : (x.length / p.decRatio.toNat + n) * p.decRatio.toNat =
      x.length + n * p.decRatio.toNat := by
    rw [Nat.add_mul, Nat.div_mul_cancel hx]
  unfold FirCtx.sample FirCtx.histLen FirCtx.dec filtered
  rw [hctx.tapSize, hctx.decRatio, hpos, hp.coeffs,
    foldlM_range_add (fun k hk acc => tap_eq hp hctx hk hn acc), zero_add]

variable {m : ℕ}

/-- One run of a filter stays inside every buffer, continues the output and leaves
the history of the longer stream. -/
lemma genericFirRun_eq (hp : p.Valid) (hctx : ctx.Sound p) {history x b output : List ℚ}
    (hm : ctx.history[m]? = some history) (hist : Remembers (p.tapSize - 1) history x)
    (hx : p.decRatio.toNat ∣ x.length) (hb : p.decRatio.toNat ∣ b.length)
    (hlen : b.length ≤ p.blockSize * p.decRatio.toNat)
    (hout : b.length / p.decRatio.toNat ≤ output.length) :
    ∃ ctx' history', ctx.genericFirRun m b output b.length =
        some (ctx', (List.range (b.length / p.decRatio.toNat)).map (fun n =>
          filtered p.coeffs p.decRatio.toNat (x ++ b) (x.length / p.decRatio.toNat + n)) ++
            output.drop (b.length / p.decRatio.toNat)) ∧
      ctx'.Sound p ∧ ctx'.history = ctx.history.set m history' ∧
      Remembers (p.tapSize - 1) history' (x ++ b) := by
  obtain ⟨rest, rfl⟩ := hist
  have hdec : 0 < p.decRatio.toNat := by have := hp.decRatio; omega
  have hH : ctx.histLen = p.tapSize - 1 := by rw [FirCtx.histLen, hctx.tapSize]
  have hD : ctx.dec = p.decRatio.toNat := by rw [FirCtx.dec, hctx.decRatio]
  set H := p.tapSize - 1 with hHdef
  -- the two copies into the work buffer
  obtain ⟨old, junk, hwork, hold⟩ := exists_append_of_le_length
    (show H + b.length ≤ ctx.work.length by rw [hctx.work]; omega)
  obtain ⟨front, back, rfl, hfront⟩ := exists_append_of_le_length
    (show H ≤ old.length by omega)
  have hback : back.length = b.length := by grind
  have hslice : slice (recent H x ++ rest) 0 H = some (recent H x) :=
    slice_zero rest (length_recent H x)
  have hfill : blit ctx.work 0 (recent H x) = some (recent H x ++ (back ++ junk)) := by
    rw [hwork, append_assoc]
    exact blit_zero _ (by rw [length_recent, hfront])
  have hinput : slice b 0 b.length = some b := by simpa using slice_zero [] (rfl : b.length = _)
  have hcopy : blit (recent H x ++ (back ++ junk)) H b = some (recent H x ++ b ++ junk) := by
    rw [append_assoc]
    exact blit_append junk (length_recent H x) hback
  -- the output loop
  have hloop : (range (b.length / p.decRatio.toNat)).foldlM
      (ctx.storeSample (recent H x ++ b ++ junk)) output =
      some ((range (b.length / p.decRatio.toNat)).map (fun n =>
        filtered p.coeffs p.decRatio.toNat (x ++ b) (x.length / p.decRatio.toNat + n)) ++
          output.drop (b.length / p.decRatio.toNat)) := by
    refine foldlM_range_blit (fun n hn out => ?_) hout
    have hin : n * p.decRatio.toNat < b.length :=
      calc n * p.decRatio.toNat < b.length / p.decRatio.toNat * p.decRatio.toNat :=
            Nat.mul_lt_mul_of_pos_right hn hdec
        _ = b.length := Nat.div_mul_cancel hb
    rw [FirCtx.storeSample, sample_eq hp hctx hx hin]
    rfl
  -- the new history
  have htail : slice (recent H x ++ b ++ junk) b.length H = some (recent H (x ++ b)) := by
    rw [slice_of_le (by simp; omega), drop_append_of_le_length (by simp),
      drop_recent_append, take_left' (length_recent H (x ++ b))]
  have hsave : blit (recent H x ++ rest) 0 (recent H (x ++ b)) = some (recent H (x ++ b) ++ rest) :=
    blit_zero rest (by simp)
  refine ⟨{ ctx with work := recent H x ++ b ++ junk,
                     history := ctx.history.set m (recent H (x ++ b) ++ rest) },
    recent H (x ++ b) ++ rest, ?_, ?_, rfl, ⟨rest, rfl⟩⟩
  · have hat : ctx.historyAt m = some (recent H x ++ rest) := by
      rw [FirCtx.historyAt, if_pos (Int.natCast_nonneg m), Int.toNat_natCast, hm]
    unfold FirCtx.genericFirRun
    rw [hat, hH, hD]
    simp only [Option.bind_eq_bind, Option.bind_some, hslice, hfill, hinput, hcopy, hloop, htail,
      hsave]
    rfl
  all_goals grind

/-- A filter of the engine is in step with its stream. -/
structure Filters (p : FirParams) (ctx : FirCtx) (m : ℕ) (s : Stream) : Prop where
  history : ∃ history, ctx.history[m]? = some history ∧ Remembers (p.tapSize - 1) history s.input
  input : p.decRatio.toNat ∣ s.input.length
  output : s.output = decimated p.coeffs p.decRatio.toNat s.input

variable {s : Stream}

lemma Filters.of_set {m m' : ℕ} {ctx' : FirCtx} {history : List ℚ}
    (h : Filters p ctx m' s) (hset : ctx'.history = ctx.history.set m history) (hne : m ≠ m') :
    Filters p ctx' m' s where
  history := by rw [hset, getElem?_set_ne hne]; exact h.history
  input := h.input
  output := h.output

lemma Filters.run (hp : p.Valid) (hctx : ctx.Sound p) {b output : List ℚ}
    (h : Filters p ctx m s) (hb : p.decRatio.toNat ∣ b.length)
    (hlen : b.length ≤ p.blockSize * p.decRatio.toNat)
    (hout : b.length / p.decRatio.toNat ≤ output.length) :
    ∃ ctx' output' history', ctx.genericFirRun m b output b.length = some (ctx', output') ∧
      ctx'.Sound p ∧ ctx'.history = ctx.history.set m history' ∧
      Filters p ctx' m (s.extend b 0 (output'.take (b.length / p.decRatio.toNat))) := by
  obtain ⟨history, hm, hist⟩ := h.history
  obtain ⟨ctx', history', hrun, hctx', hset, hist'⟩ :=
    genericFirRun_eq hp hctx hm hist h.input hb hlen hout
  refine ⟨ctx', _, history', hrun, hctx', hset, ?_⟩
  have hin : m < ctx.history.length := (List.getElem?_eq_some_iff.mp hm).1
  exact
    { history := ⟨history', by rw [hset, getElem?_set_self hin], hist'⟩
      input := by
        rw [Stream.extend, length_append]
        exact Nat.dvd_add h.input hb
      output := by
        have hdec : 0 < p.decRatio.toNat := by have := hp.decRatio; omega
        rw [Stream.extend, if_pos rfl, h.output, take_left' (by simp),
          decimated_append hdec h.input] }

lemma Filters.clear (hctx : ctx.Sound p) (h : Filters p ctx m s) :
    ∃ ctx' history', ctx.clearHistory m = some ctx' ∧ ctx'.Sound p ∧
      ctx'.history = ctx.history.set m history' ∧ Filters p ctx' m {} := by
  obtain ⟨history, hm, rest, rfl⟩ := h.history
  have hin : m < ctx.history.length := (List.getElem?_eq_some_iff.mp hm).1
  have hH : ctx.histLen = p.tapSize - 1 := by rw [FirCtx.histLen, hctx.tapSize]
  have hat : ctx.historyAt m = some (recent (p.tapSize - 1) s.input ++ rest) := by
    rw [FirCtx.historyAt, if_pos (Int.natCast_nonneg m), Int.toNat_natCast, hm]
  have hzero : blit (recent (p.tapSize - 1) s.input ++ rest) 0
      (replicate (p.tapSize - 1) 0) = some (replicate (p.tapSize - 1) 0 ++ rest) :=
    blit_zero rest (by simp)
  refine ⟨{ ctx with history := ctx.history.set m (replicate (p.tapSize - 1) 0 ++ rest) }, _,
    ?_, ?_, rfl, ?_⟩
  · grind [FirCtx.clearHistory]
  · grind
  · exact
      { history := ⟨_, getElem?_set_self hin, rest, by rw [recent_nil]⟩
        input := by simp
        output := by simp [decimated] }

end Run

/-! ## Sessions -/

lemma int32_eq {n : ℤ} (hlow : 0 ≤ n) (hhigh : n < 2 ^ 31) : int32 n = n := by grind

structure Session.InStep (p : FirParams) (s : Session) : Prop where
  ctx : s.ctx.Sound p
  i : ∀ c : ℕ, (c : ℤ) < p.numChannels → Filters p s.ctx (2 * c) (s.channels c).i
  q : ∀ c : ℕ, (c : ℤ) < p.numChannels → Filters p s.ctx (2 * c + 1) (s.channels c).q

section Session

variable {p : FirParams}

lemma inStep_start (hp : p.Valid) (hfits : p.Fits) (garbage : ℕ → ℚ) :
    ∃ ctx, genericFirInit true garbage p = some ctx ∧ (⟨ctx, fun _ => {}⟩ : Session).InStep p := by
  obtain ⟨htap, hdec, hch, hcoeffs⟩ := hp
  obtain ⟨hcbytes, hwbytes, hhist⟩ := hfits
  have hvalid : ¬(p.numChannels < 1 ∨ p.decRatio < 1 ∨ p.tapSize < 1) := by omega
  have hmax : sizeT (p.blockSize * p.decRatio.toNat) = p.blockSize * p.decRatio.toNat :=
    Nat.mod_eq_of_lt (by omega)
  have hworkLen : sizeT (p.tapSize - 1 + p.blockSize * p.decRatio.toNat) =
      p.tapSize - 1 + p.blockSize * p.decRatio.toNat := Nat.mod_eq_of_lt (by omega)
  have hfloats : ∀ {n : ℕ}, n * 4 < 2 ^ 64 → mallocFloats n = n := by
    intro n hn
    rw [mallocFloats, sizeT, Nat.mod_eq_of_lt hn, Nat.mul_div_cancel n (by decide)]
  have hhistories : int32 (p.numChannels * 2) = p.numChannels * 2 := int32_eq (by omega) hhist
  refine ⟨_, by rw [genericFirInit, if_neg hvalid, if_pos rfl], ?_⟩
  have hfresh : ∀ m : ℕ, m < (int32 (p.numChannels * 2)).toNat →
      ∃ history, (replicate (int32 (p.numChannels * 2)).toNat
        (replicate (if 1 < p.tapSize then p.tapSize - 1 else 1) (0 : ℚ)))[m]? = some history ∧
        Remembers (p.tapSize - 1) history [] := by
    intro m hm
    refine ⟨_, getElem?_replicate_of_lt hm,
      replicate ((if 1 < p.tapSize then p.tapSize - 1 else 1) - (p.tapSize - 1)) 0, ?_⟩
    rw [recent_nil, replicate_append_replicate]
    congr 1
    split <;> omega
  have hin : ∀ m : ℕ, (m : ℤ) < p.numChannels * 2 → m < (int32 (p.numChannels * 2)).toNat := by
    intro m hm
    rw [hhistories]
    omega
  exact
    { ctx :=
        { coeffs := by
            show p.coeffs.take (mallocFloats p.tapSize) = p.coeffs
            rw [hfloats hcbytes, ← hcoeffs, take_length]
          tapSize := rfl
          decRatio := rfl
          numChannels := rfl
          initialized := rfl
          maxInputLen := hmax
          work := by
            simp only [length_map, length_range]
            rw [hmax, hworkLen, hfloats hwbytes] }
      i := fun c hc => ⟨hfresh (2 * c) (hin _ (by omega)), by simp, by simp [decimated]⟩
      q := fun c hc => ⟨hfresh (2 * c + 1) (hin _ (by omega)), by simp, by simp [decimated]⟩ }

/-- The session stays in step when the two filters of one channel moved together
with their streams and the others were left alone. -/
lemma Session.InStep.update {s : Session} (h : s.InStep p) {ctx' : FirCtx} {c : ℕ}
    {channel : Channel} (hctx' : ctx'.Sound p)
    (hother : ∀ m st, m ≠ 2 * c → m ≠ 2 * c + 1 → Filters p s.ctx m st → Filters p ctx' m st)
    (hi : Filters p ctx' (2 * c) channel.i) (hq : Filters p ctx' (2 * c + 1) channel.q) :
    (⟨ctx', Function.update s.channels c channel⟩ : Session).InStep p where
  ctx := hctx'
  i := by
    intro c' hc'
    show Filters p ctx' (2 * c') (Function.update s.channels c channel c').i
    by_cases heq : c' = c
    · rw [heq, update_self]
      exact hi
    · rw [update_of_ne (by simpa using heq)]
      exact hother _ _ (by omega) (by omega) (h.i c' hc')
  q := by
    intro c' hc'
    show Filters p ctx' (2 * c' + 1) (Function.update s.channels c channel c').q
    by_cases heq : c' = c
    · rw [heq, update_self]
      exact hq
    · rw [update_of_ne (by simpa using heq)]
      exact hother _ _ (by omega) (by omega) (h.q c' hc')

lemma int32_slots (hfits : p.Fits) {c : ℕ} (hc : (c : ℤ) < p.numChannels) :
    int32 (2 * (c : ℤ)) = (2 * c : ℕ) ∧ int32 (2 * (c : ℤ) + 1) = (2 * c + 1 : ℕ) := by grind

lemma inStep_step (hp : p.Valid) (hfits : p.Fits) {s : Session} (h : s.InStep p) {call : Call}
    (hcall : call.Proper p) : ∃ s', s.step call = some s' ∧ s'.InStep p := by
  cases call with
  | decimate ch inputI inputQ outputI outputQ inputLen =>
    obtain ⟨hch, hlt, hI, hQ, hdvd, hmax, houtI, houtQ⟩ := hcall
    obtain ⟨c, rfl⟩ := Int.eq_ofNat_of_zero_le hch
    obtain ⟨hindexI, hindexQ⟩ := int32_slots hfits hlt
    have hD : s.ctx.dec = p.decRatio.toNat := by rw [FirCtx.dec, h.ctx.decRatio]
    obtain ⟨ctx₁, out₁, hist₁, hrun₁, hctx₁, hset₁, hfilter₁⟩ :=
      (h.i c hlt).run hp h.ctx (hI ▸ hdvd) (hI ▸ hmax) (hI ▸ houtI)
    have hq₁ := (h.q c hlt).of_set hset₁ (by omega)
    obtain ⟨ctx₂, out₂, hist₂, hrun₂, hctx₂, hset₂, hfilter₂⟩ :=
      hq₁.run hp hctx₁ (hQ ▸ hdvd) (hQ ▸ hmax) (hQ ▸ houtQ)
    have hreturn : s.ctx.genericFirDecimate c inputI inputQ outputI outputQ inputLen =
        some (ctx₂, 0, out₁, out₂) := by
      unfold FirCtx.genericFirDecimate
      rw [h.ctx.initialized, h.ctx.numChannels, h.ctx.maxInputLen, if_neg (by simp; omega),
        if_neg (by omega), hindexI, hindexQ, ← hI, hrun₁]
      simp only [Option.bind_eq_bind, Option.bind_some]
      rw [hI, ← hQ, hrun₂]
      rfl
    refine ⟨_, by simp only [Session.step, hreturn, Option.bind_eq_bind, Option.bind_some]; rfl,
      h.update hctx₂ (fun m st hi hq hst => (hst.of_set hset₁ hi.symm).of_set hset₂ hq.symm) ?_ ?_⟩
    all_goals grind [Filters.of_set]
  | reset ch =>
    obtain ⟨hch, hlt⟩ := hcall
    obtain ⟨c, rfl⟩ := Int.eq_ofNat_of_zero_le hch
    obtain ⟨hindexI, hindexQ⟩ := int32_slots hfits hlt
    obtain ⟨ctx₁, hist₁, hclear₁, hctx₁, hset₁, hfilter₁⟩ := (h.i c hlt).clear h.ctx
    have hq₁ := (h.q c hlt).of_set hset₁ (by omega)
    obtain ⟨ctx₂, hist₂, hclear₂, hctx₂, hset₂, hfilter₂⟩ := hq₁.clear hctx₁
    have hreset : s.ctx.genericFirReset c = some ctx₂ := by
      unfold FirCtx.genericFirReset
      rw [h.ctx.initialized, h.ctx.numChannels, if_neg (by simp; omega), hindexI, hindexQ, hclear₁]
      exact hclear₂
    exact ⟨_, by simp only [Session.step, hreset, Option.bind_eq_bind, Option.bind_some]; rfl,
      h.update hctx₂ (fun m st hi hq hst => (hst.of_set hset₁ hi.symm).of_set hset₂ hq.symm)
        (hfilter₁.of_set hset₂ (by omega)) hfilter₂⟩

lemma inStep_run (hp : p.Valid) (hfits : p.Fits) (calls : List Call) :
    ∀ {s : Session}, s.InStep p → (∀ call ∈ calls, call.Proper p) →
      ∃ s', s.run calls = some s' ∧ s'.InStep p := by
  induction calls with
  | nil => exact fun h _ => ⟨_, rfl, h⟩
  | cons call rest ih =>
    intro s h hcalls
    obtain ⟨s₁, hs₁, h₁⟩ := inStep_step hp hfits h (hcalls call mem_cons_self)
    obtain ⟨s₂, hs₂, h₂⟩ := ih h₁ fun c hc => hcalls c (mem_cons_of_mem call hc)
    refine ⟨s₂, ?_, h₂⟩
    rw [Session.run, foldlM_cons, hs₁]
    exact hs₂

/-- With the arguments of the decimator, for every interleaving of proper calls over the
channels, no access leaves its buffer, and the concatenated outputs of each channel's I and Q since its last reset
are the filter applied to the concatenated inputs. -/
theorem genericFir_streams (p : FirParams) (hp : p.Valid) (hargs : p.Configured)
    (garbage : ℕ → ℚ) (calls : List Call) (hcalls : ∀ call ∈ calls, call.Proper p) :
    ∃ ctx s, genericFirInit true garbage p = some ctx ∧
      (⟨ctx, fun _ => {}⟩ : Session).run calls = some s ∧ ∀ ch, 0 ≤ ch → ch < p.numChannels →
        (s.channels ch).i.output = decimated p.coeffs p.decRatio.toNat (s.channels ch).i.input ∧
        (s.channels ch).q.output = decimated p.coeffs p.decRatio.toNat (s.channels ch).q.input := by
  obtain ⟨ctx, hinit, hstart⟩ := inStep_start hp hargs.fits garbage
  obtain ⟨s, hrun, hs⟩ := inStep_run hp hargs.fits calls hstart hcalls
  refine ⟨ctx, s, hinit, hrun, ?_⟩
  intro ch hch hlt
  obtain ⟨c, rfl⟩ := Int.eq_ofNat_of_zero_le hch
  exact ⟨(hs.i c hlt).output, (hs.q c hlt).output⟩

end Session

def smallFilter : FirParams := ⟨[1, 2], 2, 1, 2, 1⟩

/-- Two calls, the first with a block shorter than the filter. -/
theorem genericFir_streams_smallFilter :
    ∃ ctx s, genericFirInit true (fun _ => 0) smallFilter = some ctx ∧
      (⟨ctx, fun _ => {}⟩ : Session).run
        [.decimate 0 [3] [0] [0] [0] 1, .decimate 0 [4, 5] [0, 1] [0, 0] [0, 0] 2] = some s ∧
      ∀ ch, 0 ≤ ch → ch < smallFilter.numChannels → (s.channels ch).i.output =
          decimated smallFilter.coeffs smallFilter.decRatio.toNat (s.channels ch).i.input ∧
        (s.channels ch).q.output =
          decimated smallFilter.coeffs smallFilter.decRatio.toNat (s.channels ch).q.input :=
  genericFir_streams smallFilter ⟨by decide, by decide, by decide, rfl⟩
    ⟨by decide, by decide, by decide, by decide⟩ (fun _ => 0) _ (by
      intro call hcall
      simp only [mem_cons, not_mem_nil, or_false] at hcall
      rcases hcall with rfl | rfl
      · exact ⟨by decide, by decide, rfl, rfl, by decide, by decide, by decide, by decide⟩
      · exact ⟨by decide, by decide, rfl, rfl, by decide, by decide, by decide, by decide⟩)

end HeimdallDaq.DataPlane.FirGeneric
