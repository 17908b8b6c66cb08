/-
  Gateware/FirMac.lean --- the multiply-accumulate unit of the gateware.

  fir_mac.v: the operands are registered, multiplied and accumulated in three stages.
-/
import Mathlib.Algebra.BigOperators.Group.Finset.Basic
import Mathlib.Algebra.Order.Ring.Abs
import Mathlib.Tactic.NormNum

namespace HeimdallDaq.Gateware

abbrev Sample := BitVec 18

/-- The registers of `fir_mac`. -/
structure FirMac where
  dataR : Sample := 0
  coeffR : Sample := 0
  enR1 : Bool := false
  clearR1 : Bool := false
  product : BitVec 36 := 0
  enR2 : Bool := false
  clearR2 : Bool := false
  accumulator : BitVec 48 := 0
  validR3 : Bool := false
  deriving DecidableEq

namespace FirMac

/-- The inputs of `fir_mac` outside reset. -/
structure Input where
  clear : Bool
  en : Bool
  dataIn : Sample
  coeffIn : Sample

def multiply (d c : Sample) : BitVec 36 := d.signExtend 36 * c.signExtend 36

def step (m : FirMac) (i : Input) : FirMac where
  dataR := i.dataIn
  coeffR := i.coeffIn
  enR1 := i.en
  clearR1 := i.clear
  product := multiply m.dataR m.coeffR
  enR2 := m.enR1
  clearR2 := m.clearR1
  accumulator :=
    if m.clearR2 then m.product.signExtend 48
    else if m.enR2 then m.accumulator + m.product.signExtend 48
    else m.accumulator
  validR3 := m.enR2

/-! ## Products and sums -/

lemma toInt_multiply (d c : Sample) : (multiply d c).toInt = d.toInt * c.toInt := by
  have hd := abs_le.mpr ⟨d.le_toInt, d.toInt_lt.le⟩
  have hc := abs_le.mpr ⟨c.le_toInt, c.toInt_lt.le⟩
  rw [multiply, BitVec.toInt_mul, BitVec.toInt_signExtend_of_le (by decide),
    BitVec.toInt_signExtend_of_le (by decide)]
  have habs : |d.toInt * c.toInt| ≤ 2 ^ 17 * 2 ^ 17 := by
    rw [abs_mul]
    exact mul_le_mul hd hc (abs_nonneg _) (by norm_num)
  grind

def total (d c : ℕ → Sample) (n : ℕ) : BitVec 48 :=
  BitVec.ofInt 48 (∑ k ∈ Finset.range n, (c k).toInt * (d k).toInt)

lemma total_succ (d c : ℕ → Sample) (n : ℕ) :
    total d c (n + 1) = total d c n + (multiply (d n) (c n)).signExtend 48 := by
  rw [total, Finset.sum_range_succ, BitVec.ofInt_add, BitVec.signExtend, toInt_multiply,
    Int.mul_comm]
  rfl

lemma total_one (d c : ℕ → Sample) : total d c 1 = (multiply (d 0) (c 0)).signExtend 48 := by
  rw [total_succ, total, Finset.range_zero, Finset.sum_empty]
  exact BitVec.zero_add _

/-! ## The stages -/

/-- The unit after `t` cycles in which the operands `d k` and `c k`, `k < count`, were
given one pair a cycle. -/
structure Fed (d c : ℕ → Sample) (count t : ℕ) (m : FirMac) : Prop where
  registered : ∀ k, t = k + 1 → m.enR1 = decide (k < count) ∧ m.clearR1 = decide (k = 0) ∧
    (k < count → m.dataR = d k ∧ m.coeffR = c k)
  multiplied : ∀ k, t = k + 2 → m.enR2 = decide (k < count) ∧ m.clearR2 = decide (k = 0) ∧
    (k < count → m.product = multiply (d k) (c k))
  accumulated : ∀ k, t = k + 3 → m.accumulator = total d c (min (k + 1) count)

variable {d c : ℕ → Sample} {count t : ℕ} {m : FirMac}

lemma fed_zero (d c : ℕ → Sample) (count : ℕ) (m : FirMac) : Fed d c count 0 m where
  registered k h := by omega
  multiplied k h := by omega
  accumulated k h := by omega

lemma Fed.step (h : Fed d c count t m) (hcount : 0 < count) {i : Input}
    (hclear : i.clear = decide (t = 0)) (hen : i.en = decide (t < count))
    (hdata : t < count → i.dataIn = d t ∧ i.coeffIn = c t) :
    Fed d c count (t + 1) (m.step i) where
  registered k hk := by
    obtain rfl : t = k := by omega
    exact ⟨hen, hclear, hdata⟩
  multiplied k hk := by
    obtain ⟨hen1, hclear1, hpair⟩ := h.registered k (by omega)
    refine ⟨hen1, hclear1, fun hlt => ?_⟩
    obtain ⟨hd, hc⟩ := hpair hlt
    rw [FirMac.step, hd, hc]
  accumulated k hk := by
    obtain ⟨hen2, hclear2, hproduct⟩ := h.multiplied k (by omega)
    cases k with
    | zero =>
      rw [FirMac.step, hclear2, hproduct hcount, Nat.min_eq_left (by omega), total_one]
      rfl
    | succ k =>
      have hacc := h.accumulated k (by omega)
      rw [FirMac.step, hclear2, hen2, hacc]
      by_cases hlt : k + 1 < count
      · rw [hproduct hlt, Nat.min_eq_left (by omega), Nat.min_eq_left (by omega), total_succ d c (k + 1)]
        simp [hlt]
      · rw [Nat.min_eq_right (by omega), Nat.min_eq_right (by omega)]
        simp [hlt]

lemma Fed.accumulator_eq (h : Fed d c count t m) (ht : count + 2 ≤ t) (hcount : 0 < count) :
    m.accumulator = total d c count := by
  rw [h.accumulated (t - 3) (by omega), Nat.min_eq_right (by omega)]

end FirMac

end HeimdallDaq.Gateware
