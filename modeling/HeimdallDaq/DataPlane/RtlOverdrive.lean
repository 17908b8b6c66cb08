/-
  DataPlane/RtlOverdrive.lean --- the overdrive flags of rtl_daq.

  The main loop looks for a saturated byte in the slot of each channel and sets the bit
  of the channel in `overdrive_flags`, which it copies to the header of the frame and
  clears.
-/
import HeimdallDaq.DataPlane.RtlDaq

namespace HeimdallDaq.DataPlane.RtlDaq

open Foundation

variable {cfg : Config}

structure Emission (cfg : Config) where
  buffer : Fin cfg.chNo → ℕ → Fin cfg.bufferSize → Byte
  rdBuffInd : ℕ

def Emission.Overdriven (e : Emission cfg) (m : Fin cfg.chNo) : Prop :=
  ∃ p, e.buffer m e.rdBuffInd p = 255

instance (e : Emission cfg) (m : Fin cfg.chNo) : Decidable (e.Overdriven m) :=
  inferInstanceAs (Decidable (∃ _, _))

@[local grind]
def scanChannel (e : Emission cfg) (overdriveFlags : BitVec 8) (m : Fin cfg.chNo) : BitVec 8 :=
  if e.Overdriven m then (overdriveFlags.setWidth 32 ||| 1#32 <<< m.val).setWidth 8
  else overdriveFlags

def scanChannels (e : Emission cfg) (overdriveFlags : BitVec 8) : BitVec 8 :=
  (List.finRange cfg.chNo).foldl (scanChannel e) overdriveFlags

/-- `adc_overdrive_flags` of the frames, with `overdrive_flags` carried from one to the
next. -/
def adcOverdriveFlags : BitVec 8 → List (Emission cfg) → List (BitVec 32)
  | _, [] => []
  | overdriveFlags, e :: rest =>
    (scanChannels e overdriveFlags).setWidth 32 :: adcOverdriveFlags 0 rest

lemma getLsbD_foldl_scanChannel (e : Emission cfg) (i : ℕ) : ∀ (ms : List (Fin cfg.chNo)) flags,
    (ms.foldl (scanChannel e) flags).getLsbD i =
      (flags.getLsbD i || decide (i < 8 ∧ ∃ m ∈ ms, i = m.val ∧ e.Overdriven m)) := by
  intro ms
  induction ms with
  | nil => simp
  | cons m ms ih => grind

/-- The flags name the overdriven channels among the first eight. -/
lemma getLsbD_scanChannels (e : Emission cfg) (m : Fin cfg.chNo) :
    ((scanChannels e 0).setWidth 32).getLsbD m ↔ m.val < 8 ∧ e.Overdriven m := by
  grind [scanChannels, getLsbD_foldl_scanChannel]

lemma adcOverdriveFlags_zero (es : List (Emission cfg)) :
    adcOverdriveFlags 0 es = es.map fun e => (scanChannels e 0).setWidth 32 := by
  induction es with
  | nil => rfl
  | cons e es ih => rw [adcOverdriveFlags, ih, List.map_cons]

/-- A frame reports exactly its overdriven channels when none of them is beyond the
eighth. -/
theorem overdriveFlags_exact_iff (cfg : Config) (es : List (Emission cfg)) (k : ℕ)
    (hk : k < es.length) :
    ∃ flags, (adcOverdriveFlags 0 es)[k]? = some flags ∧
      ((∀ m : Fin cfg.chNo, flags.getLsbD m ↔ es[k].Overdriven m) ↔
        ∀ m : Fin cfg.chNo, 8 ≤ m.val → ¬es[k].Overdriven m) := by
  refine ⟨(scanChannels es[k] 0).setWidth 32, ?_, ?_⟩
  · rw [adcOverdriveFlags_zero, List.getElem?_map, List.getElem?_eq_getElem hk, Option.map_some]
  · refine forall_congr' fun m => ?_
    rw [getLsbD_scanChannels]
    grind

def nineChannels (saturated : Fin 9 → Bool) : Emission ⟨9, 2, 1⟩ :=
  ⟨fun m _ _ => if saturated m then 255 else 0, 0⟩

/-- The second channel is saturated in the second of two frames. -/
theorem overdriveFlags_exact_iff_second :
    ∃ flags, (adcOverdriveFlags 0 [nineChannels fun _ => false, nineChannels (· = 1)])[1]? =
        some flags ∧
      ((∀ m : Fin 9, flags.getLsbD m ↔ (nineChannels (· = 1)).Overdriven m) ↔
        ∀ m : Fin 9, 8 ≤ m.val → ¬(nineChannels (· = 1)).Overdriven m) :=
  overdriveFlags_exact_iff ⟨9, 2, 1⟩ [nineChannels fun _ => false, nineChannels (· = 1)] 1
    (by decide)

theorem ninth_channel_unreported : adcOverdriveFlags 0 [nineChannels (· = 8)] = [0] ∧
    (nineChannels (· = 8)).Overdriven 8 := by decide

end HeimdallDaq.DataPlane.RtlDaq
