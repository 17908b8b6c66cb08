/-
  Foundation/Ring.lean --- circular buffers.

  A ring is a buffer in which positions are counted without end and taken modulo its
  length.
-/
import HeimdallDaq.Foundation.Buffers
import Mathlib.Data.Nat.ModEq

namespace HeimdallDaq.Foundation

open List

variable {α β : Type}

@[local grind]
def Carries (b : List α) (pos : ℕ) (s : List α) : Prop :=
  ∀ k < s.length, b[(pos + k) % b.length]? = s[k]?

lemma carries_nil (b : List α) (pos : ℕ) : Carries b pos [] := nofun

variable {b s : List α} {pos : ℕ}

lemma Carries.drop (h : Carries b pos s) (n : ℕ) : Carries b (pos + n) (s.drop n) := by grind

lemma getElem?_blit {b b' src : List α} {off : ℕ} (h : blit b off src = some b') (i : ℕ) :
    b'[i]? = if off ≤ i ∧ i < off + src.length then src[i - off]? else b[i]? := by
  unfold blit at h
  split at h
  next hfit =>
    cases h
    rw [append_assoc, getElem?_append, getElem?_append, length_take,
      Nat.min_eq_left (by omega), getElem?_take, getElem?_drop]
    by_cases hbefore : i < off
    · rw [if_pos hbefore, if_pos hbefore, if_neg (by omega)]
    · rw [if_neg hbefore]
      by_cases hinside : i - off < src.length
      · rw [if_pos hinside, if_pos (by omega)]
      · rw [if_neg hinside, if_neg (by omega)]
        congr 1
        omega
  next => cases h

lemma Carries.blit {b b' s src : List α} {pos off : ℕ} (h : Carries b pos s)
    (hoff : (pos + s.length) % b.length = off) (hfit : off + src.length ≤ b.length)
    (hroom : s.length + src.length ≤ b.length) (hb : blit b off src = some b') :
    Carries b' pos (s ++ src) := by
  intro k hk
  have hlength : b'.length = b.length := blit_length hb
  rw [hlength, getElem?_blit hb, getElem?_append]
  rw [length_append] at hk
  by_cases hold : k < s.length
  · -- a position of the stretch inside the copy would be a whole round away
    have houtside : ¬ (off ≤ (pos + k) % b.length ∧ (pos + k) % b.length < off + src.length) := by
      rintro ⟨hle, hlt⟩
      have hmod : (pos + s.length + ((pos + k) % b.length - off)) % b.length =
          (pos + k) % b.length := by
        rw [Nat.add_mod, hoff, Nat.mod_eq_of_lt (a := (pos + k) % b.length - off) (by omega),
          Nat.add_sub_cancel' hle, Nat.mod_mod]
      have hdvd := (Nat.modEq_iff_dvd' (by omega)).mp hmod.symm
      have := Nat.le_of_dvd (by omega) hdvd
      omega
    rw [if_neg houtside, if_pos hold]
    exact h k hold
  · have hpos : (pos + k) % b.length = off + (k - s.length) := by
      have hk' : pos + k = pos + s.length + (k - s.length) := by omega
      rw [hk', Nat.add_mod, hoff, Nat.mod_eq_of_lt (a := k - s.length) (by omega),
        Nat.mod_eq_of_lt (by omega)]
    rw [hpos, if_pos (by omega), if_neg hold, Nat.add_sub_cancel_left]

lemma Carries.congr {pos pos' : ℕ} (h : Carries b pos s)
    (hpos : pos ≡ pos' [MOD b.length]) : Carries b pos' s := by
  intro k hk
  rw [← (hpos.add_right k : (pos + k) % b.length = (pos' + k) % b.length)]
  exact h k hk

lemma Carries.snoc (h : Carries b pos s) (hroom : s.length < b.length)
    (x : α) : Carries (b.set ((pos + s.length) % b.length) x) pos (s ++ [x]) := by
  grind [Nat.mod_lt, Carries.blit, blit_of_le, set_eq_take_append_cons_drop]

lemma Carries.head {x : α} (h : Carries b pos (x :: s)) :
    b[pos % b.length]? = some x := h 0 (Nat.succ_pos _)

lemma Carries.slice {pos want : ℕ} (h : Carries b pos s)
    (hwant : want ≤ s.length) (hfit : pos % b.length + want ≤ b.length) :
    slice b (pos % b.length) want = some (s.take want) := by
  rw [slice_of_le hfit]
  refine congrArg some (ext_getElem? fun k => ?_)
  rw [getElem?_take, getElem?_take, getElem?_drop]
  split
  next hk =>
    have hpos : (pos + k) % b.length = pos % b.length + k := by
      rw [Nat.add_mod, Nat.mod_eq_of_lt (a := k) (by omega), Nat.mod_eq_of_lt (by omega)]
    rw [← hpos]
    exact h k (by omega)
  next => rfl

lemma Carries.slice_wrapped {pos want : ℕ} (h : Carries b pos s)
    (hpos : 0 < b.length) (hwant : want ≤ s.length) (hlen : want ≤ b.length)
    (hwrap : b.length < pos % b.length + want) :
    ∃ front back, Foundation.slice b (pos % b.length) (b.length - pos % b.length) = some front ∧
      Foundation.slice b 0 (want - (b.length - pos % b.length)) = some back ∧
      front ++ back = s.take want := by
  have hlt : pos % b.length < b.length := Nat.mod_lt _ hpos
  generalize hchunk : b.length - pos % b.length = chunk
  have hstart : (pos + chunk) % b.length = 0 := by
    rw [← Nat.mod_add_mod, ← hchunk, Nat.add_sub_cancel' hlt.le, Nat.mod_self]
  have hback : Foundation.slice b ((pos + chunk) % b.length) (want - chunk) =
      some ((s.drop chunk).take (want - chunk)) :=
    (h.drop chunk).slice (by rw [length_drop]; omega) (by rw [hstart]; omega)
  rw [hstart] at hback
  refine ⟨_, _, h.slice (by omega) (by omega), hback, ?_⟩
  rw [← take_add, Nat.add_sub_cancel' (by omega)]

/-! ## One buffer per channel -/

def forChannels {n : ℕ} (f : Fin n → Option β) : Option (Fin n → β) :=
  if h : ∀ m, (f m).isSome then some fun m => (f m).get (h m) else none

lemma forChannels_eq_some {n : ℕ} {f : Fin n → Option β} {g : Fin n → β}
    (h : ∀ m, f m = some (g m)) : forChannels f = some g := by
  have hsome : ∀ m, (f m).isSome := fun m => by rw [h m]; rfl
  unfold forChannels
  rw [dif_pos hsome]
  refine congrArg some (funext fun m => ?_)
  simp only [h m, Option.get_some]

end HeimdallDaq.Foundation
