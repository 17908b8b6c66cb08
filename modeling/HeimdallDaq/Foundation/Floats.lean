/-
  Foundation/Floats.lean --- binary floating point over the rationals.

  A format is a number of binary digits and a largest exponent.
-/
import HeimdallDaq.Foundation.Python
import Mathlib.Data.Int.Log

namespace HeimdallDaq.Foundation

variable (q : ℚ)

/-- Round to the nearest integer, ties to even. -/
@[local grind]
def roundHalfEven : ℤ :=
  let low := ⌊q⌋
  if q - low < 1 / 2 then low
  else if 1 / 2 < q - low then low + 1
  else if low % 2 = 0 then low else low + 1

lemma le_roundHalfEven_iff {n : ℤ} (hn : n % 2 = 0) (q : ℚ) :
    n ≤ roundHalfEven q ↔ (n : ℚ) - 1 / 2 ≤ q := by
  have hlow := Int.floor_le q
  have hhigh := Int.lt_floor_add_one q
  unfold roundHalfEven
  simp only
  generalize ⌊q⌋ = low at *
  split_ifs with hbelow habove heven
  · constructor
    · intro h
      have : (n : ℚ) ≤ low := by exact_mod_cast h
      linarith
    · intro h
      have : (n : ℚ) < low + 1 := by linarith
      exact Int.lt_add_one_iff.mp (by exact_mod_cast this)
  · constructor
    · intro h
      have : (n : ℚ) ≤ low + 1 := by exact_mod_cast h
      linarith
    · intro h
      have : (n : ℚ) < low + 1 + 1 := by linarith
      exact Int.lt_add_one_iff.mp (by exact_mod_cast this)
  -- a tie: both sides say that `n` is at most the even one of the two neighbours
  · have htie : q = low + 1 / 2 := by linarith
    constructor
    · intro h
      have : (n : ℚ) ≤ low := by exact_mod_cast h
      linarith
    · intro h
      have : (n : ℚ) ≤ low + 1 := by linarith
      have : n ≤ low + 1 := by exact_mod_cast this
      omega
  · have htie : q = low + 1 / 2 := by linarith
    constructor
    · intro h
      have : (n : ℚ) ≤ low + 1 := by exact_mod_cast h
      linarith
    · intro h
      have : (n : ℚ) ≤ low + 1 := by linarith
      exact_mod_cast this

lemma floor_le_roundHalfEven : ⌊q⌋ ≤ roundHalfEven q := by
  unfold roundHalfEven
  simp only
  split_ifs <;> omega

lemma roundHalfEven_mem_Icc {a b : ℤ} {q : ℚ} (ha : (a : ℚ) ≤ q) (hb : q ≤ b) :
    a ≤ roundHalfEven q ∧ roundHalfEven q ≤ b := by
  refine ⟨(Int.le_floor.mpr ha).trans (floor_le_roundHalfEven q), ?_⟩
  have hlow : ⌊q⌋ ≤ b := Int.floor_le_iff.mpr (by linarith)
  grind

lemma roundHalfEven_neg : roundHalfEven (-q) = -roundHalfEven q := by
  rcases eq_or_ne q ⌊q⌋ with hint | hfrac
  · have hfloor : ⌊-q⌋ = -⌊q⌋ := by
      rw [hint, ← Int.cast_neg, Int.floor_intCast, Int.floor_intCast]
    unfold roundHalfEven
    simp only [hfloor, Int.cast_neg, ← hint]
    norm_num
  · have hlow : (⌊q⌋ : ℚ) < q := (Int.floor_le q).lt_of_ne (Ne.symm hfrac)
    have hhigh := Int.lt_floor_add_one q
    have hfloor : ⌊-q⌋ = -⌊q⌋ - 1 := by
      rw [Int.floor_eq_iff]
      push_cast
      constructor <;> linarith
    unfold roundHalfEven
    simp only [hfloor]
    grind

lemma roundHalfEven_intCast (n : ℤ) : roundHalfEven n = n := by
  have h := roundHalfEven_mem_Icc (q := n) (a := n) (b := n) le_rfl le_rfl
  omega

lemma abs_roundHalfEven_sub_le : |roundHalfEven q - q| ≤ 1 / 2 := by
  have hlow := Int.floor_le q
  have hhigh := Int.lt_floor_add_one q
  unfold roundHalfEven
  simp only
  split_ifs <;> push_cast <;> rw [abs_le] <;> constructor <;> linarith

lemma roundHalfEven_eq_of_near {n : ℤ} {q : ℚ} (h : |q - n| < 1 / 2) : roundHalfEven q = n := by
  have hnear := abs_roundHalfEven_sub_le q
  have hlt : |(roundHalfEven q - n : ℚ)| < 1 := by
    calc |(roundHalfEven q - n : ℚ)| ≤ |roundHalfEven q - q| + |q - n| := abs_sub_le _ _ _
      _ < 1 := by linarith
  have hzero : |roundHalfEven q - n| < 1 := by exact_mod_cast hlt
  exact sub_eq_zero.mp (Int.abs_lt_one_iff.mp hzero)

lemma roundHalfEven_mono {p q : ℚ} (h : p ≤ q) : roundHalfEven p ≤ roundHalfEven q := by
  by_contra hlt
  have hp := abs_le.mp (abs_roundHalfEven_sub_le p)
  have hq := abs_le.mp (abs_roundHalfEven_sub_le q)
  have hnext : (roundHalfEven q + 1 : ℚ) ≤ roundHalfEven p := by exact_mod_cast not_le.mp hlt
  -- the two values are half way between the same neighbours, hence equal
  obtain rfl : p = q := by linarith
  exact hlt le_rfl

/-- A grid point `k / a` survives the trip to a grid at least as fine and back. -/
lemma roundHalfEven_back {a b : ℚ} (ha : 0 < a) (hab : a ≤ b) (k : ℤ) :
    roundHalfEven (roundHalfEven (k / a * b) / b * a) = k := by
  rcases hab.eq_or_lt with rfl | hlt
  · rw [div_mul_cancel₀ _ ha.ne', roundHalfEven_intCast, div_mul_cancel₀ _ ha.ne',
      roundHalfEven_intCast]
  · have hb := ha.trans hlt
    refine roundHalfEven_eq_of_near ?_
    have hscale : (roundHalfEven (k / a * b) / b * a - k : ℚ) =
        (roundHalfEven (k / a * b) - k / a * b) * (a / b) := by field_simp
    rw [hscale, abs_mul, abs_of_pos (div_pos ha hb)]
    calc _ ≤ 1 / 2 * (a / b) :=
          mul_le_mul_of_nonneg_right (abs_roundHalfEven_sub_le _) (div_pos ha hb).le
      _ < 1 / 2 := by linarith [(div_lt_one hb).mpr hlt]

/-- A binary format: the digits of a significand and the largest exponent. -/
structure Format where
  precision : ℕ
  maxExponent : ℤ
  precision_pos : 0 < precision
  maxExponent_pos : 0 < maxExponent

namespace Format

def binary64 : Format := ⟨53, 1023, by decide, by decide⟩

def binary32 : Format := ⟨24, 127, by decide, by decide⟩

variable (f : Format)

def minQuantum : ℤ := 2 - f.maxExponent - f.precision

variable (q : ℚ)

@[local grind]
def quantum : ℤ := max f.minQuantum (Int.log 2 |q| + 1 - f.precision)

@[local grind]
def nearest : ℚ := roundHalfEven (q / 2 ^ f.quantum q) * 2 ^ f.quantum q

def round : PyFloat :=
  if |f.nearest q| < 2 ^ (f.maxExponent + 1) then .fin (f.nearest q) else .inf (q < 0)

def overflow : ℚ := 2 ^ (f.maxExponent + 1) - 2 ^ (f.maxExponent - f.precision)

variable {f} {q : ℚ}

lemma quantum_le (hpos : 0 < q) (hlt : q < 2 ^ (f.maxExponent + 1)) :
    f.quantum q ≤ f.maxExponent + 1 - f.precision := by
  have hlog : Int.log 2 |q| < f.maxExponent + 1 := by
    rw [abs_of_pos hpos]
    exact (Int.lt_zpow_iff_log_lt (by norm_num) hpos).mp (by exact_mod_cast hlt)
  have := f.maxExponent_pos
  unfold quantum minQuantum
  omega

lemma two_zpow_le {j k : ℤ} (h : j ≤ k) : (2 : ℚ) ^ j ≤ 2 ^ k :=
  zpow_le_zpow_right₀ (by norm_num) h

lemma two_zpow_eq_mul {j k : ℤ} {d : ℕ} (h : k - j = d) :
    (2 : ℚ) ^ k = ((2 ^ d : ℤ) : ℚ) * 2 ^ j := by
  rw [Int.cast_pow, Int.cast_ofNat, ← zpow_natCast, ← zpow_add₀ (by norm_num)]
  congr 1
  omega

lemma zpow_le_nearest_iff {k : ℤ} (hk : f.quantum q < k) :
    (2 : ℚ) ^ k ≤ f.nearest q ↔ 2 ^ k - 2 ^ (f.quantum q - 1) ≤ q := by
  obtain ⟨d, hd⟩ := Int.eq_ofNat_of_zero_le (show 0 ≤ k - f.quantum q - 1 by omega)
  have hu : (0 : ℚ) < 2 ^ f.quantum q := zpow_pos (by norm_num) _
  have hpow : (2 : ℚ) ^ k = ((2 ^ (d + 1) : ℤ) : ℚ) * 2 ^ f.quantum q :=
    two_zpow_eq_mul (by omega)
  have hhalf : (2 : ℚ) ^ (f.quantum q - 1) = 1 / 2 * 2 ^ f.quantum q := by
    rw [zpow_sub_one₀ (by norm_num)]
    ring
  have heven : (2 ^ (d + 1) : ℤ) % 2 = 0 := by omega
  rw [nearest, hpow, mul_le_mul_iff_left₀ hu, Int.cast_le, le_roundHalfEven_iff heven, hhalf,
    ← sub_mul, ← le_div_iff₀ hu]

lemma zpow_le_nearest {k : ℤ} (hk : f.quantum q ≤ k) (hq : (2 : ℚ) ^ k ≤ q) :
    (2 : ℚ) ^ k ≤ f.nearest q := by
  obtain ⟨d, hd⟩ := Int.eq_ofNat_of_zero_le (show 0 ≤ k - f.quantum q by omega)
  have hu : (0 : ℚ) < 2 ^ f.quantum q := zpow_pos (by norm_num) _
  rw [nearest, two_zpow_eq_mul hd, mul_le_mul_iff_left₀ hu, Int.cast_le]
  refine le_trans (Int.le_floor.mpr ?_) (floor_le_roundHalfEven _)
  rwa [le_div_iff₀ hu, ← two_zpow_eq_mul hd]

lemma nearest_zero : f.nearest 0 = 0 := by simp [nearest, roundHalfEven]

lemma nearest_nonneg (hq : 0 ≤ q) : 0 ≤ f.nearest q := by
  have hu : (0 : ℚ) < 2 ^ f.quantum q := zpow_pos (by norm_num) _
  refine mul_nonneg ?_ hu.le
  have hfloor : 0 ≤ ⌊q / 2 ^ f.quantum q⌋ := Int.floor_nonneg.mpr (div_nonneg hq hu.le)
  exact_mod_cast hfloor.trans (floor_le_roundHalfEven _)

lemma quantum_of_overflow_le (hq : f.overflow ≤ q) (hlt : q < 2 ^ (f.maxExponent + 1)) :
    f.quantum q = f.maxExponent + 1 - f.precision := by
  have hp := f.precision_pos
  have htop : (2 : ℚ) ^ f.maxExponent ≤ q := by
    have hhalf : (2 : ℚ) ^ (f.maxExponent - f.precision) ≤ 2 ^ f.maxExponent :=
      two_zpow_le (by omega)
    have hdouble : (2 : ℚ) ^ (f.maxExponent + 1) = 2 ^ f.maxExponent * 2 :=
      zpow_add_one₀ (by norm_num) _
    unfold overflow at hq
    linarith
  have hpos : 0 < q := lt_of_lt_of_le (zpow_pos (by norm_num) _) htop
  have hlog : f.maxExponent ≤ Int.log 2 |q| := by
    rw [abs_of_pos hpos]
    exact (Int.zpow_le_iff_le_log (by norm_num) hpos).mp (by exact_mod_cast htop)
  refine le_antisymm (quantum_le hpos hlt) ?_
  unfold quantum
  omega

lemma le_nearest_iff (hq : 0 ≤ q) :
    (2 : ℚ) ^ (f.maxExponent + 1) ≤ f.nearest q ↔ f.overflow ≤ q := by
  have hp := f.precision_pos
  rcases lt_or_ge q (2 ^ (f.maxExponent + 1)) with hlt | hge
  · rcases hq.eq_or_lt with rfl | hpos
    · have hover : 0 < f.overflow :=
        sub_pos.mpr (zpow_lt_zpow_right₀ (by norm_num) (by omega))
      grind [nearest_zero]
    · have hquantum := quantum_le hpos hlt
      rw [zpow_le_nearest_iff (by omega)]
      constructor
      · intro h
        have : (2 : ℚ) ^ (f.quantum q - 1) ≤ 2 ^ (f.maxExponent - f.precision) :=
          two_zpow_le (by omega)
        unfold overflow
        linarith
      · intro h
        rw [quantum_of_overflow_le h hlt]
        unfold overflow at h
        convert h using 3
        omega
  · have hover : f.overflow ≤ q := (sub_le_self _ (zpow_nonneg (by norm_num) _)).trans hge
    refine iff_of_true ?_ hover
    rcases le_or_gt (f.quantum q) (f.maxExponent + 1) with hquantum | hquantum
    · exact zpow_le_nearest hquantum hge
    · -- the last place alone is too large, and `q` is at least that
      have hpos : 0 < q := lt_of_lt_of_le (zpow_pos (by norm_num) _) hge
      have hlast : f.quantum q ≤ Int.log 2 |q| := by
        have := f.maxExponent_pos
        unfold quantum minQuantum at hquantum ⊢
        omega
      have hle : (2 : ℚ) ^ f.quantum q ≤ q := by
        refine (two_zpow_le hlast).trans ?_
        rw [abs_of_pos hpos]
        exact_mod_cast Int.zpow_log_le_self (by norm_num) hpos
      exact (two_zpow_le hquantum.le).trans (zpow_le_nearest le_rfl hle)

lemma round_fin_iff (hq : 0 ≤ q) : (∃ r, f.round q = .fin r) ↔ q < f.overflow := by
  unfold round
  rw [abs_of_nonneg (nearest_nonneg hq)]
  split_ifs with h
  all_goals grind [le_nearest_iff]

/-! ## Floats as bits -/

section Bits

variable (f)

def half : ℕ := 2 ^ (f.precision - 1)

def topField : ℕ := 2 * f.maxExponent.toNat + 1

def signBit : ℕ := (f.topField + 1) * f.half

variable (q : ℚ)

def significand : ℕ := (roundHalfEven (|q| / 2 ^ f.quantum q)).toNat

def bits : PyFloat → Option ℕ
  | .fin q =>
    if q = 0 then some 0
    else if |f.nearest q| < 2 ^ (f.maxExponent + 1) then
      -- a significand of all digits, or rounded up to one more, carries into the exponent field
      some ((if q < 0 then f.signBit else 0) +
        ((f.quantum q - f.minQuantum).toNat * f.half + f.significand q))
    else none
  | .inf negative => some ((if negative then f.signBit else 0) + f.topField * f.half)
  | .nan => some (f.topField * f.half + f.half / 2)

def magnitude (field fraction : ℕ) : ℚ :=
  if field = 0 then fraction * 2 ^ f.minQuantum
  else (f.half + fraction : ℕ) * 2 ^ (f.minQuantum + (field - 1 : ℕ))

def ofBits (n : ℕ) : PyFloat :=
  let negative := decide (f.signBit ≤ n)
  let field := n % f.signBit / f.half
  let fraction := n % f.half
  if field = f.topField then (if fraction = 0 then .inf negative else .nan)
  else .fin (if negative then -f.magnitude field fraction else f.magnitude field fraction)

def roundFloat : PyFloat → PyFloat
  | .fin q => f.round q
  | x => x

variable {f}

lemma half_pos : 0 < f.half := Nat.two_pow_pos _

lemma quantum_neg : f.quantum (-q) = f.quantum q := by rw [quantum, abs_neg, quantum]

lemma nearest_neg : f.nearest (-q) = -f.nearest q := by
  rw [nearest, quantum_neg, neg_div, roundHalfEven_neg, Int.cast_neg, neg_mul, nearest]

lemma significand_le : f.significand q ≤ 2 * f.half := by
  have hp := f.precision_pos
  have hu : (0 : ℚ) < 2 ^ f.quantum q := zpow_pos (by norm_num) _
  have hlt : |q| ≤ 2 ^ (Int.log 2 |q| + 1) := by
    exact_mod_cast (Int.lt_zpow_succ_log_self (by norm_num) |q|).le
  have hle : |q| / 2 ^ f.quantum q ≤ ((2 * f.half : ℕ) : ℤ) := by
    rw [div_le_iff₀ hu]
    have hpow : (2 : ℚ) ^ (f.quantum q + f.precision) =
        (((2 * f.half : ℕ) : ℤ) : ℚ) * 2 ^ f.quantum q := by
      have hdouble : 2 * f.half = 2 ^ f.precision := by
        rw [half, ← pow_succ', Nat.sub_add_cancel hp]
      rw [hdouble]
      push_cast
      rw [← zpow_natCast, ← zpow_add₀ (by norm_num)]
      congr 1
      omega
    rw [← hpow]
    refine hlt.trans (two_zpow_le ?_)
    unfold quantum
    omega
  have := (roundHalfEven_mem_Icc (a := 0) (by simpa using div_nonneg (abs_nonneg q) hu.le) hle).2
  unfold significand
  omega

lemma half_le_significand {q : ℚ} (hq : q ≠ 0) (h : f.minQuantum < f.quantum q) :
    f.half ≤ f.significand q := by
  have hp := f.precision_pos
  have hu : (0 : ℚ) < 2 ^ f.quantum q := zpow_pos (by norm_num) _
  have hquantum : f.quantum q = Int.log 2 |q| + 1 - f.precision := by
    unfold quantum at h ⊢
    omega
  have hpos : 0 < |q| := abs_pos.mpr hq
  have hge : (2 : ℚ) ^ Int.log 2 |q| ≤ |q| := by
    exact_mod_cast Int.zpow_log_le_self (by norm_num) hpos
  have hle : (((f.half : ℕ) : ℤ) : ℚ) ≤ |q| / 2 ^ f.quantum q := by
    rw [le_div_iff₀ hu]
    refine le_trans (le_of_eq ?_) hge
    rw [half]
    push_cast
    rw [← zpow_natCast, ← zpow_add₀ (by norm_num)]
    congr 1
    omega
  have := (Int.le_floor.mpr hle).trans (floor_le_roundHalfEven _)
  unfold significand
  omega

lemma nearest_abs : f.nearest |q| = f.significand q * 2 ^ f.quantum q := by
  have hu : (0 : ℚ) < 2 ^ f.quantum q := zpow_pos (by norm_num) _
  have hquantum : f.quantum |q| = f.quantum q := by rw [quantum, abs_abs, quantum]
  have hround : 0 ≤ roundHalfEven (|q| / 2 ^ f.quantum q) :=
    (Int.floor_nonneg.mpr (div_nonneg (abs_nonneg q) hu.le)).trans (floor_le_roundHalfEven _)
  rw [nearest, hquantum, significand]
  congr 1
  exact_mod_cast (Int.toNat_of_nonneg hround).symm

lemma nearest_eq : f.nearest q = if q < 0 then -f.nearest |q| else f.nearest |q| := by
  grind [nearest_neg]

lemma abs_nearest : |f.nearest q| = f.nearest |q| := by
  grind [nearest_eq, nearest_nonneg]

lemma ofBits_parts (negative : Bool) {field fraction : ℕ} (hfield : field ≤ f.topField)
    (hfraction : fraction < f.half) :
    f.ofBits ((if negative then f.signBit else 0) + (field * f.half + fraction)) =
      (if field = f.topField then (if fraction = 0 then .inf negative else .nan)
        else .fin (if negative then -f.magnitude field fraction else f.magnitude field fraction)) ∧
    (if negative then f.signBit else 0) + (field * f.half + fraction) < 2 * f.signBit := by
  have hcode : field * f.half + fraction < f.signBit := by
    rw [signBit]
    calc field * f.half + fraction < (field + 1) * f.half := by
          rw [Nat.add_mul, Nat.one_mul]
          omega
      _ ≤ (f.topField + 1) * f.half := Nat.mul_le_mul_right _ (by omega)
  have hsign : decide (f.signBit ≤ (if negative then f.signBit else 0) + (field * f.half + fraction)) =
      negative := by
    cases negative <;> simp [hcode]
  have hmod : ((if negative then f.signBit else 0) + (field * f.half + fraction)) % f.signBit =
      field * f.half + fraction := by
    cases negative
    · simp [Nat.mod_eq_of_lt hcode]
    · simp [Nat.mod_eq_of_lt hcode]
  have hdiv : (field * f.half + fraction) / f.half = field := by
    rw [Nat.add_comm, Nat.add_mul_div_right _ _ half_pos, Nat.div_eq_of_lt hfraction, Nat.zero_add]
  have hrest : ((if negative then f.signBit else 0) + (field * f.half + fraction)) % f.half =
      fraction := by
    have hmul : (if negative then f.signBit else 0) + (field * f.half + fraction) =
        fraction + ((if negative then f.topField + 1 else 0) + field) * f.half := by
      cases negative
      · simp [Nat.add_comm]
      · simp [signBit, Nat.add_mul]
        omega
    rw [hmul, Nat.add_mul_mod_self_right, Nat.mod_eq_of_lt hfraction]
  constructor
  · unfold ofBits
    simp only [hsign, hmod, hdiv, hrest]
  · split_ifs <;> omega

lemma exists_field {q : ℚ} (hq : q ≠ 0) (hfin : |f.nearest q| < 2 ^ (f.maxExponent + 1)) :
    ∃ field fraction, field < f.topField ∧ fraction < f.half ∧
      (f.quantum q - f.minQuantum).toNat * f.half + f.significand q = field * f.half + fraction ∧
      f.magnitude field fraction = f.nearest |q| := by
  have hp := f.precision_pos
  have hE := f.maxExponent_pos
  have hmin : f.minQuantum ≤ f.quantum q := le_max_left _ _
  have hsig := significand_le (f := f) q
  have hhalf : (f.half : ℚ) = 2 ^ ((f.precision - 1 : ℕ) : ℤ) := by
    rw [half]
    push_cast
    rw [zpow_natCast]
  rw [abs_nearest, nearest_abs] at hfin
  obtain ⟨d, hd⟩ := Int.eq_ofNat_of_zero_le (sub_nonneg.mpr hmin)
  have hquantum : f.quantum q = f.minQuantum + d := by omega
  rw [hd, Int.toNat_natCast, nearest_abs, hquantum]
  rw [hquantum] at hfin
  -- how far the exponent may go when the significand has at least `k` digits
  have hbound : ∀ k : ℕ, (2 : ℚ) ^ (k : ℤ) ≤ f.significand q → (k : ℤ) + (f.minQuantum + d) <
      f.maxExponent + 1 := by
    intro k hk
    have hle : (2 : ℚ) ^ ((k : ℤ) + (f.minQuantum + d)) < 2 ^ (f.maxExponent + 1) := by
      rw [zpow_add₀ (by norm_num)]
      exact (mul_le_mul_of_nonneg_right hk (zpow_nonneg (by norm_num) _)).trans_lt hfin
    exact (zpow_lt_zpow_iff_right₀ (by norm_num)).mp hle
  rcases lt_or_ge (f.significand q) f.half with hsmall | hlarge
  · -- a number without its first digit has the smallest exponent
    have hzero : d = 0 := by
      by_contra hne
      exact absurd (half_le_significand hq (show f.minQuantum < f.quantum q by omega)) (by omega)
    subst hzero
    refine ⟨0, f.significand q, by unfold topField; omega, hsmall, rfl, ?_⟩
    simp [magnitude]
  · rcases hsig.lt_or_eq with hdigits | hcarry
    · have hexp := hbound (f.precision - 1) (hhalf ▸ by exact_mod_cast hlarge)
      refine ⟨d + 1, f.significand q - f.half, ?_, by omega, ?_, ?_⟩
      · unfold topField minQuantum at *
        omega
      · rw [Nat.add_mul, Nat.one_mul]
        omega
      · rw [magnitude, if_neg (by omega), Nat.add_sub_cancel, Nat.add_sub_cancel' hlarge]
    · have hexp := hbound f.precision (by
        rw [hcarry]
        push_cast
        rw [hhalf, ← zpow_one_add₀ (by norm_num)]
        exact two_zpow_le (by omega))
      refine ⟨d + 2, 0, ?_, half_pos, ?_, ?_⟩
      · unfold topField minQuantum at *
        omega
      · rw [hcarry, Nat.add_mul, Nat.add_zero]
      · rw [magnitude, if_neg (by omega), hcarry]
        have hsucc : f.minQuantum + ((d + 2 - 1 : ℕ) : ℤ) = f.minQuantum + d + 1 := by omega
        rw [hsucc, zpow_add_one₀ (by norm_num)]
        push_cast
        ring

lemma ofBits_bits (hp : 1 < f.precision) {x : PyFloat} {n : ℕ} (h : f.bits x = some n) :
    f.ofBits n = f.roundFloat x ∧ n < 2 * f.signBit := by
  have hhalf : 1 < f.half := Nat.one_lt_two_pow (by omega)
  have htop : 0 < f.topField := Nat.succ_pos _
  cases x with
  | fin q =>
    rw [bits] at h
    by_cases hzero : q = 0
    · rw [if_pos hzero] at h
      cases h
      subst hzero
      obtain ⟨hread, hlt⟩ := ofBits_parts (f := f) false (Nat.zero_le _) half_pos
      rw [Nat.zero_mul] at hread hlt
      refine ⟨hread.trans ?_, hlt⟩
      rw [if_neg htop.ne, roundFloat, round, nearest_zero, abs_zero,
        if_pos (zpow_pos (by norm_num) _)]
      simp [magnitude]
    · rw [if_neg hzero] at h
      by_cases hfin : |f.nearest q| < 2 ^ (f.maxExponent + 1)
      · rw [if_pos hfin, Option.some.injEq] at h
        obtain ⟨field, fraction, hfield, hfraction, hcode, hvalue⟩ := exists_field hzero hfin
        obtain ⟨hread, hlt⟩ := ofBits_parts (decide (q < 0)) hfield.le hfraction
        simp only [decide_eq_true_eq] at hread hlt
        rw [← h, hcode, hread, if_neg hfield.ne, hvalue, ← nearest_eq, roundFloat, round,
          if_pos hfin]
        exact ⟨rfl, hlt⟩
      · rw [if_neg hfin] at h
        cases h
  | inf negative =>
    cases h
    obtain ⟨hread, hlt⟩ := ofBits_parts (f := f) negative le_rfl half_pos
    rw [Nat.add_zero] at hread hlt
    exact ⟨hread.trans (by rw [if_pos rfl, if_pos rfl]; rfl), hlt⟩
  | nan =>
    cases h
    have hfraction : f.half / 2 < f.half := by omega
    obtain ⟨hread, hlt⟩ := ofBits_parts false le_rfl hfraction
    rw [if_neg Bool.false_ne_true, Nat.zero_add] at hread hlt
    exact ⟨hread.trans (by rw [if_pos rfl, if_neg (by omega)]; rfl), hlt⟩

end Bits

end Format

namespace PyFloat

def ofInt (n : ℤ) : Except PyError PyFloat :=
  match Format.binary64.round n with
  | .fin q => .ok (.fin q)
  | _ => .error (.builtin .overflow (.int n))

def div (x y : PyFloat) : Except PyError PyFloat :=
  match x, y with
  | x, .fin d =>
    if d = 0 then .error (.builtin .zeroDivision (.float x))
    else
      match x with
      | .fin q => .ok (Format.binary64.round (q / d))
      | .inf negative => .ok (.inf (negative ^^ decide (d < 0)))
      | .nan => .ok .nan
  | .fin _, .inf _ => .ok (.fin 0)
  | _, _ => .ok .nan

def roundToInt : PyFloat → Except PyError ℤ
  | .fin q => .ok (roundHalfEven q)
  | .inf negative => .error (.builtin .overflow (.float (.inf negative)))
  | .nan => .error (.builtin .value (.float .nan))

end PyFloat

end HeimdallDaq.Foundation
