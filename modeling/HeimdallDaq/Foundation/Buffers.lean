/-
  Foundation/Buffers.lean --- checked accesses to allocated buffers.

  A buffer is the list of its elements.
-/
import Mathlib.Algebra.BigOperators.Group.Finset.Basic

namespace HeimdallDaq.Foundation

open List

variable {α : Type}

@[local grind]
def slice (b : List α) (off len : ℕ) : Option (List α) :=
  if off + len ≤ b.length then some ((b.drop off).take len) else none

@[local grind]
def blit (b : List α) (off : ℕ) (src : List α) : Option (List α) :=
  if off + src.length ≤ b.length then some (b.take off ++ src ++ b.drop (off + src.length))
  else none

variable {b : List α} {off len : ℕ}

lemma slice_of_le (h : off + len ≤ b.length) : slice b off len = some ((b.drop off).take len) :=
  if_pos h

lemma slice_eq_none (h : b.length < off + len) : slice b off len = none :=
  if_neg (Nat.not_le.mpr h)

variable {n : ℕ}

lemma exists_append_of_le_length (h : n ≤ b.length) :
    ∃ front rest, b = front ++ rest ∧ front.length = n :=
  ⟨b.take n, b.drop n, (take_append_drop n b).symm, length_take_of_le h⟩

variable (rest : List α)

lemma slice_append {before mid : List α}
    (hoff : before.length = off) (hlen : mid.length = len) :
    slice (before ++ (mid ++ rest)) off len = some mid := by grind

variable {before mid src : List α}

lemma blit_append
    (hoff : before.length = off) (hlen : mid.length = src.length) :
    blit (before ++ (mid ++ rest)) off src = some (before ++ (src ++ rest)) := by grind

lemma slice_zero {mid : List α} {len : ℕ} (hlen : mid.length = len) :
    slice (mid ++ rest) 0 len = some mid := by grind

lemma blit_zero {mid src : List α} (hlen : mid.length = src.length) :
    blit (mid ++ rest) 0 src = some (src ++ rest) := by grind

lemma blit_full (hlen : b.length = src.length) : blit b 0 src = some src := by
  grind

lemma blit_append_end (hoff : before.length = off)
    (hlen : mid.length = src.length) : blit (before ++ mid) off src = some (before ++ src) := by
  grind

lemma blit_of_le (h : off + src.length ≤ b.length) :
    blit b off src = some (b.take off ++ src ++ b.drop (off + src.length)) := if_pos h

lemma blit_length {b b' src : List α} (h : blit b off src = some b') :
    b'.length = b.length := by grind

/-! ## Words in a buffer -/

abbrev Byte := BitVec 8

@[local grind]
def leBytes : ℕ → ℕ → List Byte
  | 0, _ => []
  | k + 1, v => BitVec.ofNat 8 v :: leBytes k (v / 256)

@[local grind]
def ofLeBytes : List Byte → ℕ
  | [] => 0
  | b :: rest => b.toNat + 256 * ofLeBytes rest

variable (k v : ℕ)

@[simp] lemma length_leBytes : (leBytes k v).length = k := by
  induction k generalizing v with
  | zero => rfl
  | succ k ih => rw [leBytes, length_cons, ih]

lemma ofLeBytes_leBytes : ofLeBytes (leBytes k v) = v % 256 ^ k := by
  induction k generalizing v with
  | zero => rw [pow_zero, Nat.mod_one]; rfl
  | succ k ih => grind [leBytes, ofLeBytes, Nat.mod_mul]

variable (bytes : List Byte)

lemma ofLeBytes_lt : ofLeBytes bytes < 256 ^ bytes.length := by
  induction bytes with
  | nil => exact Nat.one_pos
  | cons b rest ih =>
    have hb := b.isLt
    grind

lemma leBytes_ofLeBytes : leBytes bytes.length (ofLeBytes bytes) = bytes := by
  induction bytes with
  | nil => rfl
  | cons b rest ih =>
    have hb : b.toNat < 256 := b.isLt
    have hlow : BitVec.ofNat 8 (b.toNat + 256 * ofLeBytes rest) = b := by
      apply BitVec.eq_of_toNat_eq
      rw [BitVec.toNat_ofNat]
      omega
    grind

def beBytes : List Byte := (leBytes k v).reverse

def ofBeBytes : ℕ := ofLeBytes bytes.reverse

@[simp] lemma length_beBytes : (beBytes k v).length = k := by
  rw [beBytes, length_reverse, length_leBytes]

lemma ofBeBytes_beBytes : ofBeBytes (beBytes k v) = v % 256 ^ k := by
  rw [ofBeBytes, beBytes, reverse_reverse, ofLeBytes_leBytes]

/-! ## Loops over a buffer -/

lemma foldlM_range_add {R : Type} [AddCommMonoid R] {f : R → ℕ → Option R} {g : ℕ → R}
    (h : ∀ k < n, ∀ acc, f acc k = some (acc + g k)) (acc : R) :
    (List.range n).foldlM f acc = some (acc + ∑ k ∈ Finset.range n, g k) := by
  induction n with
  | zero => simp
  | succ n ih =>
    have hn := ih fun k hk => h k (Nat.lt_succ_of_lt hk)
    rw [range_succ, foldlM_append, hn, Finset.sum_range_succ, ← add_assoc]
    simp [h n (Nat.lt_succ_self n)]

lemma foldlM_range_blit {f : List α → ℕ → Option (List α)} {y : ℕ → α}
    (h : ∀ k < n, ∀ out, f out k = blit out k [y k]) {out : List α} (hn : n ≤ out.length) :
    (List.range n).foldlM f out = some ((List.range n).map y ++ out.drop n) := by
  induction n with
  | zero => simp
  | succ n ih =>
    have hsplit : out.drop n = [out.get ⟨n, hn⟩] ++ out.drop (n + 1) := by
      rw [drop_eq_getElem_cons hn]
      rfl
    have hfront : ((range n).map y).length = n := by simp
    rw [range_succ, foldlM_append,
      ih (fun k hk => h k (Nat.lt_succ_of_lt hk)) (Nat.le_of_succ_le hn), hsplit,
      map_append]
    simp only [append_assoc, Option.bind_eq_bind, Option.bind_some, foldlM_cons,
      foldlM_nil, h n (Nat.lt_succ_self n)]
    have hstore : blit ((range n).map y ++ ([out.get ⟨n, hn⟩] ++ out.drop (n + 1))) n [y n] =
        some ((range n).map y ++ ([y n] ++ out.drop (n + 1))) := blit_append _ hfront rfl
    rw [hstore]
    rfl

end HeimdallDaq.Foundation
