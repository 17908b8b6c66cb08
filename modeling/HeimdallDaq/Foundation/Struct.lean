/-
  Foundation/Struct.lean --- packed records.

  A format is a list of codes for little-endian words and byte fields.
-/
import HeimdallDaq.Foundation.Buffers
import Mathlib

namespace HeimdallDaq.Foundation

open List

/-- The codes `H`, `I`, `Q` and `ns`. -/
inductive Code
  | u16
  | u32
  | u64
  | bytes (n : ℕ)
  deriving DecidableEq

inductive Packed
  | int (n : ℤ)
  | bytes (bs : List Byte)
  deriving DecidableEq

namespace Packed

def toInt : Packed → ℤ
  | .int n => n
  | .bytes _ => 0

def toBytes : Packed → List Byte
  | .int _ => []
  | .bytes bs => bs

end Packed

def fit (n : ℕ) (bs : List Byte) : List Byte := bs.take n ++ List.replicate (n - bs.length) 0

@[simp] lemma length_fit (n : ℕ) (bs : List Byte) : (fit n bs).length = n := by
  rw [fit, length_append, length_take, length_replicate]
  omega

lemma fit_of_length {n : ℕ} {bs : List Byte} (h : bs.length = n) : fit n bs = bs := by
  simp [fit, ← h]

lemma take_fit {m n : ℕ} (h : m ≤ n) (bs : List Byte) :
    (fit n bs).take m = (bs ++ List.replicate m 0).take m := by
  rw [fit, take_append, take_append, take_take, Nat.min_eq_left h, take_replicate,
    take_replicate, length_take]
  congr 2
  omega

namespace Code

def size : Code → ℕ
  | .u16 => 2
  | .u32 => 4
  | .u64 => 8
  | .bytes n => n

def align : Code → ℕ
  | .bytes _ => 1
  | c => c.size

def Fits (c : Code) (n : ℤ) : Prop := 0 ≤ n ∧ n < ((256 ^ c.size : ℕ) : ℤ)

instance (c : Code) (n : ℤ) : Decidable (c.Fits n) := inferInstanceAs (Decidable (_ ∧ _))

@[local grind]
def put (c : Code) : Packed → Option (List Byte)
  | .int n =>
    match c with
    | .bytes _ => none
    | c => if c.Fits n then some (leBytes c.size n.toNat) else none
  | .bytes bs =>
    match c with
    | .bytes n => some (fit n bs)
    | _ => none

@[local grind]
def get (c : Code) (bs : List Byte) : Packed :=
  match c with
  | .bytes _ => .bytes bs
  | _ => .int (ofLeBytes bs)

/-- A value that `put` takes and `get` can give. -/
@[local grind]
inductive Holds : Code → Packed → Prop
  | word {c : Code} {n : ℤ} (hc : ∀ k, c ≠ .bytes k) (h : c.Fits n) :
      Holds c (.int n)
  | bytes {n : ℕ} {bs : List Byte} (h : bs.length = n) : Holds (.bytes n) (.bytes bs)

variable {c : Code}

lemma put_word (hc : ∀ k, c ≠ .bytes k) (n : ℤ) :
    c.put (.int n) = if c.Fits n then some (leBytes c.size n.toNat) else none := by
  cases c with
  | bytes k => exact absurd rfl (hc k)
  | u16 | u32 | u64 => rfl

lemma get_word (hc : ∀ k, c ≠ .bytes k) (bs : List Byte) : c.get bs = .int (ofLeBytes bs) := by
  cases c with
  | bytes k => exact absurd rfl (hc k)
  | u16 | u32 | u64 => rfl

lemma length_of_put {f : Packed} {bs : List Byte} (h : c.put f = some bs) : bs.length = c.size := by
  cases f with
  | int n => grind [put_word, length_leBytes]
  | bytes data =>
    cases c with
    | bytes k =>
      cases h
      exact length_fit _ _
    | u16 | u32 | u64 => cases h

lemma ofLeBytes_put {n : ℤ} (h : c.Fits n) : (ofLeBytes (leBytes c.size n.toNat) : ℤ) = n := by
  have hlt : n.toNat < 256 ^ c.size := (Int.toNat_lt h.1).mpr h.2
  rw [ofLeBytes_leBytes, Nat.mod_eq_of_lt hlt, Int.toNat_of_nonneg h.1]

lemma put_of_holds {f : Packed} (h : c.Holds f) : ∃ bs, c.put f = some bs ∧ c.get bs = f := by
  cases h with
  | word hc h =>
    refine ⟨_, (put_word hc _).trans (if_pos h), ?_⟩
    rw [get_word hc, ofLeBytes_put h]
  | bytes h => exact ⟨_, rfl, congrArg Packed.bytes (fit_of_length h)⟩

lemma holds_get {bs : List Byte} (h : bs.length = c.size) :
    c.Holds (c.get bs) ∧ c.put (c.get bs) = some bs := by
  have hfits : c.Fits (ofLeBytes bs) := by
    refine ⟨Int.natCast_nonneg _, Int.ofNat_lt.mpr ?_⟩
    rw [← h]
    exact ofLeBytes_lt bs
  grind [size, leBytes_ofLeBytes, fit_of_length, get_word, put_word]

lemma put_fit (n : ℕ) (bs : List Byte) :
    (bytes n).put (.bytes (fit n bs)) = (bytes n).put (.bytes bs) :=
  congrArg some (fit_of_length (length_fit n bs))

end Code

namespace Struct

variable (aligned : Bool)

@[local grind]
def pad (off : ℕ) (c : Code) : ℕ := if aligned then (c.align - off % c.align) % c.align else 0

@[local grind]
def packFrom : ℕ → List Code → List Packed → Option (List Byte)
  | _, [], [] => some []
  | off, c :: cs, f :: fs =>
    (c.put f).bind fun bs =>
      (packFrom (off + pad aligned off c + c.size) cs fs).map fun rest =>
        List.replicate (pad aligned off c) 0 ++ bs ++ rest
  | _, _, _ => none

@[local grind]
def unpackFrom : ℕ → List Code → List Byte → Option (List Packed)
  | _, [], bs => if bs = [] then some [] else none
  | off, c :: cs, bs =>
    if bs.length < pad aligned off c + c.size then none
    else
      (unpackFrom (off + pad aligned off c + c.size) cs
        (bs.drop (pad aligned off c + c.size))).map fun rest =>
          c.get ((bs.drop (pad aligned off c)).take c.size) :: rest

def pack (cs : List Code) (fs : List Packed) : Option (List Byte) := packFrom aligned 0 cs fs

def unpack (cs : List Code) (bs : List Byte) : Option (List Packed) := unpackFrom aligned 0 cs bs

@[local grind]
def sizeFrom : ℕ → List Code → ℕ
  | _, [] => 0
  | off, c :: cs =>
    pad aligned off c + c.size + sizeFrom (off + pad aligned off c + c.size) cs

@[local grind]
def blankFrom : ℕ → List Code → List Byte → List Byte
  | _, [], bs => bs
  | off, c :: cs, bs =>
    List.replicate (pad aligned off c) 0 ++ (bs.drop (pad aligned off c)).take c.size ++
      blankFrom (off + pad aligned off c + c.size) cs (bs.drop (pad aligned off c + c.size))

def flush : ℕ → List Code → Bool
  | _, [] => true
  | off, c :: cs => pad aligned off c == 0 && flush (off + c.size) cs

variable {aligned} {off : ℕ} {cs : List Code} {fs : List Packed}

lemma unpackFrom_packFrom (h : List.Forall₂ Code.Holds cs fs) :
    ∃ bs, packFrom aligned off cs fs = some bs ∧ bs.length = sizeFrom aligned off cs ∧
      unpackFrom aligned off cs bs = some fs := by
  induction h generalizing off with
  | nil => exact ⟨[], rfl, rfl, rfl⟩
  | @cons c f cs fs hc _ ih =>
    obtain ⟨bs, hput, hget⟩ := Code.put_of_holds hc
    obtain ⟨rest, hrest, hlen, hunpack⟩ := ih
    have hsize := Code.length_of_put hput
    refine ⟨replicate (pad aligned off c) 0 ++ bs ++ rest, ?_, ?_, ?_⟩
    · rw [packFrom, hput, Option.bind_some, hrest]
      rfl
    · grind
    all_goals grind

lemma unpack_pack (aligned : Bool) (h : List.Forall₂ Code.Holds cs fs) :
    ∃ bs, pack aligned cs fs = some bs ∧ bs.length = sizeFrom aligned 0 cs ∧
      unpack aligned cs bs = some fs := unpackFrom_packFrom h

variable {bs : List Byte}

lemma packFrom_unpackFrom (h : unpackFrom aligned off cs bs = some fs) :
    List.Forall₂ Code.Holds cs fs ∧ packFrom aligned off cs fs = some (blankFrom aligned off cs bs) := by
  induction cs generalizing off bs fs with
  | nil =>
    rw [unpackFrom] at h
    split_ifs at h with hbs
    cases h
    subst hbs
    exact ⟨.nil, rfl⟩
  | cons c cs ih =>
    rw [unpackFrom] at h
    split_ifs at h with hlen
    obtain ⟨rest, hrest, rfl⟩ := Option.map_eq_some_iff.mp h
    obtain ⟨hholds, hpack⟩ := ih hrest
    have hsize : ((bs.drop (pad aligned off c)).take c.size).length = c.size := by
      rw [length_take, length_drop]
      omega
    obtain ⟨hfits, hput⟩ := Code.holds_get hsize
    refine ⟨.cons hfits hholds, ?_⟩
    rw [packFrom, hput, Option.bind_some, hpack]
    rfl

variable {ds : List Code} {gs : List Packed}

lemma packFrom_append (h : cs.length = fs.length) : packFrom aligned off (cs ++ ds) (fs ++ gs) =
      (packFrom aligned off cs fs).bind fun front =>
        (packFrom aligned (off + sizeFrom aligned off cs) ds gs).map (front ++ ·) := by
  induction cs generalizing off fs with
  | nil =>
    cases length_eq_zero_iff.mp h.symm
    simp [packFrom, sizeFrom]
  | cons c cs ih =>
    cases fs with
    | nil => cases h
    | cons f fs =>
      simp only [cons_append, packFrom, sizeFrom]
      rw [ih (Nat.succ.inj h), ← Nat.add_assoc, ← Nat.add_assoc]
      cases c.put f with
      | none => rfl
      | some bs =>
        simp only [Option.bind_some]
        cases packFrom aligned (off + pad aligned off c + c.size) cs fs with
        | none => rfl
        | some front => simp [Function.comp_def]

lemma length_of_unpackFrom
    (h : unpackFrom aligned off cs bs = some fs) : bs.length = sizeFrom aligned off cs := by
  induction cs generalizing off bs fs with
  | nil =>
    rw [unpackFrom] at h
    split_ifs at h with hbs
    rw [hbs]
    rfl
  | cons c cs ih =>
    rw [unpackFrom] at h
    split_ifs at h with hlen
    obtain ⟨rest, hrest, -⟩ := Option.map_eq_some_iff.mp h
    have hdrop := ih hrest
    rw [length_drop] at hdrop
    rw [sizeFrom, ← hdrop]
    omega

lemma exists_unpackFrom
    (h : bs.length = sizeFrom aligned off cs) : ∃ fs, unpackFrom aligned off cs bs = some fs := by
  induction cs generalizing off bs with
  | nil =>
    rw [sizeFrom] at h
    exact ⟨[], if_pos (length_eq_zero_iff.mp h)⟩
  | cons c cs ih =>
    rw [sizeFrom] at h
    have hlen : (bs.drop (pad aligned off c + c.size)).length =
        sizeFrom aligned (off + pad aligned off c + c.size) cs := by
      rw [length_drop, h]
      omega
    obtain ⟨fs, hfs⟩ := ih hlen
    exact ⟨_, by rw [unpackFrom, if_neg (by omega), hfs]; rfl⟩

lemma packFrom_fit {off n : ℕ} (bs : List Byte) (h : cs.length = fs.length) :
    packFrom aligned off (cs ++ .bytes n :: ds) (fs ++ .bytes (fit n bs) :: gs) =
      packFrom aligned off (cs ++ .bytes n :: ds) (fs ++ .bytes bs :: gs) := by
  induction cs generalizing off fs with
  | nil =>
    cases length_eq_zero_iff.mp h.symm
    rw [nil_append, nil_append, nil_append, packFrom, packFrom, Code.put_fit]
  | cons c cs ih =>
    cases fs with
    | nil => cases h
    | cons f fs =>
      simp only [cons_append, packFrom]
      rw [ih (Nat.succ.inj h)]

variable {c : Code}

lemma forall₂_holds_replicate (hc : ∀ k, c ≠ .bytes k) {ns : List ℤ} (h : ∀ n ∈ ns, c.Fits n) :
    List.Forall₂ Code.Holds (List.replicate ns.length c) (ns.map .int) := by
  induction ns with
  | nil => exact .nil
  | cons n ns ih =>
    obtain ⟨hn, hns⟩ := forall_mem_cons.mp h
    exact .cons (.word hc hn) (ih hns)

lemma words_of_forall₂ (hcs : ∀ c ∈ cs, ∀ k, c ≠ .bytes k) (h : List.Forall₂ Code.Holds cs fs) :
    ∃ ns : List ℤ, fs = ns.map .int ∧ List.Forall₂ Code.Fits cs ns := by
  induction h with
  | nil => exact ⟨[], rfl, .nil⟩
  | cons hf _ ih =>
    obtain ⟨hc, hrest⟩ := forall_mem_cons.mp hcs
    obtain ⟨ns, rfl, hfits⟩ := ih hrest
    cases hf with
    | @word _ m _ hm => exact ⟨m :: ns, rfl, .cons hm hfits⟩
    | bytes _ => exact absurd rfl (hc _)

lemma words_of_forall₂_replicate (hc : ∀ k, c ≠ .bytes k) {n : ℕ}
    (h : List.Forall₂ Code.Holds (List.replicate n c) fs) :
    ∃ ns : List ℤ, fs = ns.map .int ∧ ns.length = n ∧ ∀ m ∈ ns, c.Fits m := by
  have hcs : ∀ d ∈ replicate n c, ∀ k, d ≠ .bytes k := by
    intro d hd
    rwa [eq_of_mem_replicate hd]
  obtain ⟨ns, rfl, hfits⟩ := words_of_forall₂ hcs h
  refine ⟨ns, rfl, by simpa using hfits.length_eq.symm, fun m hm => ?_⟩
  obtain ⟨i, hi, rfl⟩ := mem_iff_getElem.mp hm
  have hget := hfits.get (hfits.length_eq ▸ hi) hi
  simpa using hget

lemma exists_append_of_forall₂ (h : List.Forall₂ Code.Holds (cs ++ ds) fs) :
    ∃ xs ys, List.Forall₂ Code.Holds cs xs ∧ List.Forall₂ Code.Holds ds ys ∧ fs = xs ++ ys := by
  induction cs generalizing fs with
  | nil => exact ⟨[], fs, .nil, h, rfl⟩
  | cons c cs ih =>
    obtain ⟨f, rest, hf, hrest, rfl⟩ := forall₂_cons_left_iff.mp h
    obtain ⟨xs, ys, hxs, hys, rfl⟩ := ih hrest
    exact ⟨f :: xs, ys, .cons hf hxs, hys, rfl⟩

lemma blankFrom_append (h : flush aligned off cs) : blankFrom aligned off (cs ++ ds) bs =
      bs.take (cs.map Code.size).sum ++
        blankFrom aligned (off + (cs.map Code.size).sum) ds (bs.drop (cs.map Code.size).sum) := by
  induction cs generalizing off bs with
  | nil => rfl
  | cons c cs ih =>
    obtain ⟨hpad, hcs⟩ := (Bool.and_eq_true _ _).mp h
    rw [cons_append, blankFrom, beq_iff_eq.mp hpad, map_cons, sum_cons, take_add, ← Nat.add_assoc]
    simp only [replicate_zero, nil_append, drop_zero, Nat.zero_add, Nat.add_zero]
    rw [ih hcs, append_assoc, drop_drop]

lemma blankFrom_of_flush (bs : List Byte)
    (h : flush aligned off cs) : blankFrom aligned off cs bs = bs := by
  have happend : blankFrom aligned off (cs ++ []) bs = _ := blankFrom_append h
  rwa [append_nil, blankFrom, take_append_drop] at happend

lemma blankFrom_pad {off k : ℕ}
    (h : pad aligned off c = k) (hnext : pad aligned (off + k) c = 0) :
    blankFrom aligned off (c :: cs) bs =
      List.replicate k 0 ++ blankFrom aligned (off + k) (c :: cs) (bs.drop k) := by
  rw [blankFrom, blankFrom, h, hnext]
  simp only [replicate_zero, nil_append, Nat.zero_add, Nat.add_zero, append_assoc, drop_drop]

end Struct

end HeimdallDaq.Foundation
