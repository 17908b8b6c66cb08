/-
  Active/DevTime.lean --- exact device time on a tick grid.

  `DevTime` of active_common.py, with fractions as rationals.
-/
import HeimdallDaq.Foundation.Floats

namespace HeimdallDaq.Active

open Foundation

structure DevTime where
  secs : ℤ
  ticks : ℤ
  tickRate : ℤ
  ticks_nonneg : 0 ≤ ticks
  ticks_lt : ticks < tickRate

namespace DevTime

def normal (secs ticks rate : ℤ) (h : 0 < rate) : DevTime where
  secs := secs + ticks / rate
  ticks := ticks % rate
  tickRate := rate
  ticks_nonneg := Int.emod_nonneg _ h.ne'
  ticks_lt := Int.emod_lt_of_pos _ h

/-- `__post_init__`. -/
def postInit (secs ticks rate : ℤ) : Except String DevTime :=
  if h : 0 < rate then .ok (normal secs ticks rate h)
  else .error s!"tick_rate must be > 0, got {rate}"

def fromSeconds (t : ℚ) (tickRate : ℤ) : Except String DevTime :=
  if tickRate ≤ 0 then .error "tick_rate must be > 0"
  else postInit 0 (roundHalfEven (t * tickRate)) tickRate

variable (t u : DevTime)

def toFraction : ℚ := t.secs + t.ticks / t.tickRate

def addTicks (n : ℤ) : Except String DevTime := postInit t.secs (t.ticks + n) t.tickRate

def addSeconds (dt : ℚ) : Except String DevTime := t.addTicks (roundHalfEven (dt * t.tickRate))

def withTickRate (tickRate : ℤ) : Except String DevTime := fromSeconds t.toFraction tickRate

def diffTicks : Except String ℤ :=
  let rate := t.tickRate
  let other := u.tickRate
  if rate ≠ other then .error s!"diff_ticks needs equal tick rates ({rate} != {other})"
  else .ok ((t.secs - u.secs) * rate + (t.ticks - u.ticks))

def diffSeconds : ℚ := t.toFraction - u.toFraction

def sampleOffset (fsHz : ℚ) : ℤ := roundHalfEven (t.diffSeconds u * fsHz)

def eq : Bool := t.toFraction == u.toFraction

def lt : Bool := t.toFraction < u.toFraction

def le : Bool := t.toFraction ≤ u.toFraction

def ne : Bool := t.toFraction != u.toFraction

def gt : Bool := t.toFraction > u.toFraction

def ge : Bool := t.toFraction ≥ u.toFraction

/-- `__hash__`, for the hash of fractions `hashOf`. -/
def hash (hashOf : ℚ → ℤ) : ℤ := hashOf t.toFraction

/-- The whole ticks since zero. -/
def total : ℤ := t.secs * t.tickRate + t.ticks

lemma tickRate_pos : 0 < t.tickRate := t.ticks_nonneg.trans_lt t.ticks_lt

lemma toFraction_eq : t.toFraction = t.total / t.tickRate := by
  have hrate : (t.tickRate : ℚ) ≠ 0 := by exact_mod_cast t.tickRate_pos.ne'
  rw [toFraction, total]
  push_cast
  field_simp

lemma total_normal (secs ticks rate : ℤ) (h : 0 < rate) :
    (normal secs ticks rate h).total = secs * rate + ticks := by
  have hdiv := Int.mul_ediv_add_emod ticks rate
  simp only [total, normal]
  linarith

lemma normal_total (h : 0 < t.tickRate) : normal 0 t.total t.tickRate h = t := by
  have hdiv := Int.ediv_eq_zero_of_lt t.ticks_nonneg t.ticks_lt
  have hmod := Int.emod_eq_of_lt t.ticks_nonneg t.ticks_lt
  cases t
  simp_all [normal, total, Int.add_comm, Int.add_mul_ediv_right, h.ne']

lemma withTickRate_eq {rate : ℤ} (h : 0 < rate) : t.withTickRate rate =
    .ok (normal 0 (roundHalfEven (t.total / t.tickRate * rate)) rate h) := by
  rw [withTickRate, fromSeconds, if_neg h.not_ge, postInit, dif_pos h, toFraction_eq]

lemma addTicks_eq (n : ℤ) :
    t.addTicks n = .ok (normal t.secs (t.ticks + n) t.tickRate t.tickRate_pos) :=
  dif_pos t.tickRate_pos

lemma withTickRate_mono {rate : ℤ} (h : 0 < rate) (htu : t.le u) :
    ∃ t' u', t.withTickRate rate = .ok t' ∧ u.withTickRate rate = .ok u' ∧ t'.le u' := by
  refine ⟨_, _, t.withTickRate_eq h, u.withTickRate_eq h, ?_⟩
  have hrate : (0 : ℚ) < rate := by exact_mod_cast h
  simp only [le, toFraction_eq, total_normal, decide_eq_true_eq] at htu ⊢
  refine div_le_div_of_nonneg_right ?_ hrate.le
  exact_mod_cast add_le_add_right (roundHalfEven_mono (mul_le_mul_of_nonneg_right htu hrate.le)) _

lemma withTickRate_back {rate : ℤ} (h : t.tickRate ≤ rate) :
    ∃ v, t.withTickRate rate = .ok v ∧ v.withTickRate t.tickRate = .ok t := by
  have hrate := t.tickRate_pos.trans_le h
  refine ⟨_, t.withTickRate_eq hrate, ?_⟩
  have hback := roundHalfEven_back (a := t.tickRate) (b := rate)
    (by exact_mod_cast t.tickRate_pos) (by exact_mod_cast h) t.total
  rw [withTickRate_eq _ t.tickRate_pos, total_normal, zero_mul, zero_add]
  simp only [show (normal _ _ _ hrate).tickRate = rate from rfl, hback, normal_total]

lemma sampleOffset_addSeconds (n : ℤ) {fs : ℚ} (hpos : 0 < fs) (hle : fs ≤ t.tickRate) :
    ∃ v, t.addSeconds (n / fs) = .ok v ∧ v.sampleOffset t fs = n := by
  refine ⟨_, t.addTicks_eq _, ?_⟩
  rw [sampleOffset, diffSeconds, toFraction_eq, toFraction_eq, total_normal]
  simp only [show (normal _ _ _ t.tickRate_pos).tickRate = t.tickRate from rfl, ← sub_div]
  rw [← Int.cast_sub, show ∀ m : ℤ, t.secs * t.tickRate + (t.ticks + m) - t.total = m by
    intro m; rw [total]; ring]
  exact roundHalfEven_back hpos hle n

/-- Comparisons, equality and hash follow the exact time; the tick and sample arithmetic
has its round trips. -/
theorem devTime_arithmetic (hashOf : ℚ → ℤ) : (let p : ℚ := t.total / t.tickRate
      let q : ℚ := u.total / u.tickRate
      (t.eq u ↔ p = q) ∧ (t.ne u ↔ p ≠ q) ∧ (t.lt u ↔ p < q) ∧ (t.le u ↔ p ≤ q) ∧
        (t.gt u ↔ p > q) ∧ (t.ge u ↔ p ≥ q) ∧ (t.eq u → t.hash hashOf = u.hash hashOf)) ∧
    (∀ n, ∃ v, t.addTicks n = .ok v ∧ v.diffTicks t = .ok n) ∧
    (∀ s > 0, t.le u → ∃ t' u', t.withTickRate s = .ok t' ∧ u.withTickRate s = .ok u' ∧ t'.le u') ∧
    (∀ s ≥ t.tickRate, ∃ v, t.withTickRate s = .ok v ∧ v.withTickRate t.tickRate = .ok t) ∧
    ∀ (n : ℤ) (fs : ℚ), 0 < fs → fs ≤ t.tickRate →
      ∃ v, t.addSeconds (n / fs) = .ok v ∧ v.sampleOffset t fs = n := by
  refine ⟨by simp +contextual [eq, ne, lt, le, gt, ge, hash, toFraction_eq], fun n => ?_,
    fun s hs => t.withTickRate_mono u hs, fun s hs => t.withTickRate_back hs,
    fun n fs => t.sampleOffset_addSeconds n⟩
  refine ⟨_, t.addTicks_eq n, ?_⟩
  have hdiv := Int.mul_ediv_add_emod (t.ticks + n) t.tickRate
  simp only [diffTicks, normal, ne_eq, not_true_eq_false, if_false, Except.ok.injEq]
  linarith

end DevTime

end HeimdallDaq.Active
