/-
  Active/Exposure.lean --- the exposure limit over a band.

  The limit on the power density falls from 3 to 30 MHz, is flat up to 300 MHz, rises up
  to 1.5 GHz and is flat again.
-/
import HeimdallDaq.Foundation.Python
import Mathlib

namespace HeimdallDaq.Active

open Foundation List

variable {K : Type} [Field K] [LinearOrder K]

/-- The `ValueError`s of `mpe_limit_w_m2`, with the frequency in MHz that the text shows. -/
inductive MpeError (K : Type)
  | below (fMhz : K)
  | above (fMhz : K)
  deriving DecidableEq

def mpeLimitWM2 (fHz : K) : Except (MpeError K) K :=
  let fMhz := fHz / 1000000
  if fMhz < 3 then .error (.below fMhz)
  else if fMhz < 30 then .ok (1800 / (fMhz * fMhz))
  else if fMhz < 300 then .ok 2
  else if fMhz < 1500 then .ok (fMhz / 150)
  else if fMhz ≤ 100000 then .ok 10
  else .error (.above fMhz)

def bandCandidates (lo hi : K) : List K :=
  [lo, hi] ++ [30000000, 300000000].filter fun x => decide (lo ≤ x ∧ x ≤ hi)

def mpeLimitBandWM2 (fLoHz fHiHz : K) : Except (MpeError K) (Option K) := do
  let limits ← (bandCandidates (min fLoHz fHiHz) (max fLoHz fHiHz)).mapM mpeLimitWM2
  pure limits.min?

def tableLimit (fMhz : K) : K :=
  if fMhz < 30 then 1800 / (fMhz * fMhz)
  else if fMhz < 300 then 2
  else if fMhz < 1500 then fMhz / 150
  else 10

variable [IsStrictOrderedRing K]

lemma mpeLimitWM2_eq {f : K} (hlo : 3000000 ≤ f) (hhi : f ≤ 100000000000) :
    mpeLimitWM2 f = .ok (tableLimit (f / 1000000)) := by
  have h3 : ¬f / 1000000 < 3 := by
    rw [div_lt_iff₀ (by norm_num)]
    linarith
  have h100 : f / 1000000 ≤ 100000 := by
    rw [div_le_iff₀ (by norm_num)]
    linarith
  simp only [mpeLimitWM2, tableLimit, h3, h100, if_false, if_true]
  split_ifs <;> rfl

lemma two_le_tableLimit {f : K} (hf : 3 ≤ f) : 2 ≤ tableLimit f := by
  unfold tableLimit
  split_ifs with h30 h300 h1500
  · rw [le_div_iff₀ (by nlinarith)]
    nlinarith
  · exact le_rfl
  · rw [le_div_iff₀ (by norm_num)]
    linarith
  · norm_num

lemma tableLimit_antitone {f g : K} (hf : 3 ≤ f) (hfg : f ≤ g) (hg : g ≤ 30) :
    tableLimit g ≤ tableLimit f := by
  rcases hg.lt_or_eq with hg | rfl
  · rw [tableLimit, tableLimit, if_pos hg, if_pos (hfg.trans_lt hg)]
    exact div_le_div_of_nonneg_left (by norm_num) (by nlinarith) (by nlinarith)
  · have h30 : tableLimit (30 : K) = 2 := by norm_num [tableLimit]
    exact h30 ▸ two_le_tableLimit hf

lemma tableLimit_monotone {f g : K} (hf : 30 ≤ f) (hfg : f ≤ g) : tableLimit f ≤ tableLimit g := by
  have htwo := two_le_tableLimit (show (3 : K) ≤ g by linarith)
  unfold tableLimit at htwo ⊢
  split_ifs at htwo ⊢ <;> linarith

/-- Over every band of the table the limit is the smallest of the limits of its frequencies. -/
theorem mpeLimitBandWM2_isLeast {lo hi : K} (hlo : 3000000 ≤ lo) (hle : lo ≤ hi)
    (hhi : hi ≤ 100000000000) :
    ∃ limit, mpeLimitBandWM2 lo hi = .ok (some limit) ∧
      IsLeast {v | ∃ f, lo ≤ f ∧ f ≤ hi ∧ mpeLimitWM2 f = .ok v} limit := by
  have hcands : ∀ f ∈ bandCandidates lo hi, lo ≤ f ∧ f ≤ hi := by
    simp only [bandCandidates, mem_append, mem_cons, mem_filter]
    grind
  have htable : ∀ f, lo ≤ f → f ≤ hi → mpeLimitWM2 f = .ok (tableLimit (f / 1000000)) :=
    fun f h h' => mpeLimitWM2_eq (hlo.trans h) (h'.trans hhi)
  have hscale : ∀ {f g : K}, f ≤ g → f / 1000000 ≤ g / 1000000 := fun h => by gcongr
  have h3 : (3 : K) ≤ lo / 1000000 := by
    rw [le_div_iff₀ (by norm_num)]
    linarith
  have h30 : (30000000 : K) / 1000000 = 30 := by norm_num
  -- every frequency of the band has a candidate whose limit is not larger
  have hcover : ∀ f, lo ≤ f → f ≤ hi → ∃ c ∈ bandCandidates lo hi,
      tableLimit (c / 1000000) ≤ tableLimit (f / 1000000) := by
    intro f hf hf'
    have hf3 := h3.trans (hscale hf)
    by_cases hmid : lo ≤ 30000000 ∧ 30000000 ≤ hi
    · refine ⟨30000000, by simp [bandCandidates, hmid], ?_⟩
      rw [h30]
      rcases le_total (f / 1000000) 30 with h | h
      · exact tableLimit_antitone hf3 h le_rfl
      · exact tableLimit_monotone le_rfl h
    · rcases le_total 30000000 lo with h | h
      · exact ⟨lo, by simp [bandCandidates], tableLimit_monotone (h30 ▸ hscale h) (hscale hf)⟩
      · have hhi30 : hi ≤ 30000000 := le_of_not_ge fun h' => hmid ⟨h, h'⟩
        exact ⟨hi, by simp [bandCandidates],
          tableLimit_antitone hf3 (hscale hf') (h30 ▸ hscale hhi30)⟩
  obtain ⟨limit, hlimit⟩ : ∃ limit,
      ((bandCandidates lo hi).map fun f => tableLimit (f / 1000000)).min? = some limit :=
    ⟨_, rfl⟩
  obtain ⟨hmem, hleast⟩ := min?_eq_some_iff.mp hlimit
  refine ⟨limit, ?_, ?_, ?_⟩
  · have hlimits : (bandCandidates lo hi).mapM mpeLimitWM2 =
        .ok ((bandCandidates lo hi).map fun f => tableLimit (f / 1000000)) := by
      rw [mapM_eq_ok_iff, forall₂_map_right_iff, forall₂_same]
      exact fun f hf => htable f (hcands f hf).1 (hcands f hf).2
    rw [mpeLimitBandWM2, min_eq_left hle, max_eq_right hle, hlimits]
    exact congrArg Except.ok hlimit
  · obtain ⟨f, hf, rfl⟩ := mem_map.mp hmem
    exact ⟨f, (hcands f hf).1, (hcands f hf).2, htable f (hcands f hf).1 (hcands f hf).2⟩
  · rintro v ⟨f, hf, hf', hv⟩
    obtain ⟨c, hc, hle⟩ := hcover f hf hf'
    rw [htable f hf hf'] at hv
    exact (hleast _ (mem_map_of_mem hc)).trans (Except.ok.inj hv ▸ hle)

/-- A band over the whole falling part and into the flat one has the limit of the flat part. -/
theorem mpeLimitBandWM2_isLeast_hf : mpeLimitBandWM2 (3000000 : ℚ) 40000000 = .ok (some 2) ∧
      ∃ limit, mpeLimitBandWM2 (3000000 : ℚ) 40000000 = .ok (some limit) ∧
        IsLeast {v | ∃ f : ℚ, 3000000 ≤ f ∧ f ≤ 40000000 ∧ mpeLimitWM2 f = .ok v} limit :=
  ⟨by decide +kernel, mpeLimitBandWM2_isLeast (by norm_num) (by norm_num) (by norm_num)⟩

end HeimdallDaq.Active
