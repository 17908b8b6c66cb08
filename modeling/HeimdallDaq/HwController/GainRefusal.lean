/-
  HwController/GainRefusal.lean --- what a refused GAIN leaves behind.

  The handler stores the gains in place, channel by channel, until it meets one that is
  not a gain of the tuner.
-/
import HeimdallDaq.HwController.Hwc
import Mathlib

namespace HeimdallDaq.HwController.Hwc

open List

variable {M : ℕ}

variable (params : Foundation.Json)

def paramIndex (m : Fin M) : Option GainIndex :=
  match params.item m.val with
  | .ok gain => gainIndexOf gain
  | .error _ => none

def reachedChannels (channels : List (Fin M)) : List (Fin M) :=
  channels.takeWhile fun m => (paramIndex params m).isSome

lemma storeGains_of_not_mem {m : Fin M} :
    ∀ (l : List (Fin M)) (g : Fin M → GainIndex), m ∉ l → (storeGains params l g).1 m = g m := by
  intro l
  induction l with
  | nil => exact fun _ _ => rfl
  | cons k rest ih =>
    intro g hm
    obtain ⟨hne, hrest⟩ := not_or.1 (mt mem_cons.2 hm)
    unfold storeGains
    split
    · rfl
    · split
      · rw [ih _ hrest, Function.update_of_ne hne]
      · split <;> rfl

lemma storeGains_eq_iff :
    ∀ (l : List (Fin M)) (g : Fin M → GainIndex), l.Nodup → ((storeGains params l g).1 = g ↔
      ∀ m ∈ reachedChannels params l, paramIndex params m = some (g m)) := by
  intro l
  induction l with
  | nil => simp [storeGains, reachedChannels]
  | cons k rest ih =>
    intro g hl
    obtain ⟨hk, hrest⟩ := nodup_cons.1 hl
    cases hi : paramIndex params k with
    | none =>
      have hstop : (storeGains params (k :: rest) g).1 = g := by
        unfold storeGains
        grind [paramIndex]
      simp [hstop, reachedChannels, hi]
    | some i =>
      have hgo : storeGains params (k :: rest) g =
          storeGains params rest (Function.update g k i) := by
        rw [storeGains]
        grind [paramIndex]
      rw [hgo]
      simp only [reachedChannels, takeWhile_cons, hi, Option.isSome_some, if_true,
        forall_mem_cons, Option.some.injEq]
      by_cases he : i = g k
      · rw [he, Function.update_eq_self]
        simpa [reachedChannels] using ih g hrest
      · refine iff_of_false (fun h => he ?_) (fun h => he h.1)
        have := congrFun h k
        rwa [storeGains_of_not_mem params rest _ hk, Function.update_self] at this

variable (cfg : Config) (v : Verdicts)

/-- A `GAIN` that is refused for its range leaves the gains as they were exactly if the
channels before the improper parameter had the gains it asks for. -/
theorem refused_gain_keeps_iff (sender : Sender) (params : Foundation.Json) (h : Hwc M)
    (hr : (h.handleGain cfg v sender params).2 = .ok (some false, .range)) :
    ((h.handleGain cfg v sender params).1.gains = h.gains ∧
      (h.handleGain cfg v sender params).1.lastGains = h.lastGains ∧
      (h.handleGain cfg v sender params).1.agc = h.agc) ↔
    ∀ m ∈ reachedChannels params (List.finRange M), paramIndex params m =
      some (if h.noiseSourceState then h.lastGains m else h.gains m) := by
  cases hn : h.noiseSourceState with
  | true =>
    have hs := storeGains_eq_iff params _ h.lastGains (nodup_finRange M)
    rcases hg : storeGains params (finRange M) h.lastGains with ⟨gains, loop⟩
    simp only [handleGain, hn, hg, if_true] at hs hr ⊢
    cases loop <;> simp_all
  | false =>
    have hs := storeGains_eq_iff params _ h.gains (nodup_finRange M)
    rcases hg : storeGains params (finRange M) h.gains with ⟨gains, loop⟩
    simp only [handleGain, hn, hg, Bool.false_eq_true, if_false] at hs hr ⊢
    cases loop with
    | stored => split_ifs at hr <;> simp at hr
    | improper => simpa using hs
    | raised msg => simp at hr

def twoChannels : Hwc 2 where
  iqHeader := ⟨.data, 0, 0, 0, fun _ => 0, 0⟩
  gains _ := 0
  lastGains _ := 0
  gainTuneStates _ := false

theorem refused_gain_keeps_iff_first :
    (twoChannels.handleGain {} {} .wire (.arr [.int 1, .int 9])).1.gains = twoChannels.gains ∧
    (twoChannels.handleGain {} {} .wire (.arr [.int 1, .int 9])).1.lastGains =
      twoChannels.lastGains ∧
    (twoChannels.handleGain {} {} .wire (.arr [.int 1, .int 9])).1.agc = twoChannels.agc :=
  (refused_gain_keeps_iff {} {} .wire (.arr [.int 1, .int 9]) twoChannels (by rfl)).2 (by decide)

/-- The first gain is stored before the second one is refused. -/
theorem refused_gain_stored :
    (twoChannels.handleGain {} {} .wire (.arr [.int 9, .int 1])).2 = .ok (some false, .range) ∧
    (twoChannels.handleGain {} {} .wire (.arr [.int 9, .int 1])).1.gains ≠ twoChannels.gains :=
  ⟨by rfl, fun h => absurd (congrFun h 0) (by decide)⟩

end HeimdallDaq.HwController.Hwc
