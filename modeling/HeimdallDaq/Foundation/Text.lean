/-
  Foundation/Text.lean --- texts and their UTF-8 bytes.

  A text is a list of code points.
-/
import HeimdallDaq.Foundation.Buffers
import HeimdallDaq.Foundation.Words

namespace HeimdallDaq.Foundation

open List

inductive Glyph
  | char (c : Char)
  | surrogate (n : Fin 2048)
  deriving DecidableEq

def Glyph.satisfies (p : Char → Bool) : Glyph → Bool
  | .char c => p c
  | .surrogate _ => false

def Glyph.char? : Glyph → Option Char
  | .char c => some c
  | .surrogate _ => none

abbrev Text : Type := List Glyph

namespace Text

def ofString (s : String) : Text := s.toList.map .char

variable (space : Char → Bool) (t : Text)

def strip : Text := (t.dropWhile (Glyph.satisfies space)).rdropWhile (Glyph.satisfies space)

def words : List Text := (t.splitOnP (Glyph.satisfies space)).filter (· ≠ [])

def splitFirst : List Text :=
  match t.dropWhile (Glyph.satisfies space) with
  | [] => []
  | t =>
    let first := t.takeWhile fun g => !g.satisfies space
    let rest := (t.dropWhile fun g => !g.satisfies space).dropWhile (Glyph.satisfies space)
    if rest = [] then [first] else [first, rest]

def rsplitLast : List Text :=
  let last := Words.last (Glyph.satisfies space) t
  let front := Words.front (Glyph.satisfies space) t
  if last = [] then [] else if front = [] then [last] else [front, last]

def toString? : Option String := (t.mapM Glyph.char?).map String.ofList

variable (c : Char)

def utf8 : List Byte := (String.utf8EncodeChar c).map UInt8.toBitVec

@[local grind]
def encode : Text → Option (List Byte)
  | [] => some []
  | .char c :: rest => (encode rest).map (utf8 c ++ ·)
  | .surrogate _ :: _ => none

def decodeChar? (bs : List Byte) : Option Char :=
  (bs.map UInt8.ofBitVec).toByteArray.utf8DecodeChar? 0

def decodeFrom : ℕ → List Byte → Option Text
  | _, [] => some []
  | 0, _ :: _ => none
  | fuel + 1, b :: bs =>
    match decodeChar? (b :: bs) with
    | some c => (decodeFrom fuel ((b :: bs).drop (utf8 c).length)).map (.char c :: ·)
    | none => none

def decode (bs : List Byte) : Option Text := decodeFrom bs.length bs

def following (b : Byte) : ℕ × ℕ × ℕ :=
  let n := b.toNat
  if n < 0xC2 then (0, 0, 0)
  else if n < 0xE0 then (1, 0x80, 0xBF)
  else if n = 0xE0 then (2, 0xA0, 0xBF)
  else if n = 0xED then (2, 0x80, 0x9F)
  else if n < 0xF0 then (2, 0x80, 0xBF)
  else if n = 0xF0 then (3, 0x90, 0xBF)
  else if n = 0xF4 then (3, 0x80, 0x8F)
  else if n < 0xF4 then (3, 0x80, 0xBF)
  else (0, 0, 0)

def malformed : List Byte → ℕ
  | [] => 0
  | [_] => 1
  | b :: second :: rest =>
    let (k, low, high) := following b
    if 0 < k ∧ low ≤ second.toNat ∧ second.toNat ≤ high then
      2 + ((rest.take (k - 1)).takeWhile fun x => 0x80 ≤ x.toNat ∧ x.toNat ≤ 0xBF).length
    else 1

@[local grind]
def decodeWithFrom (bad : Text) : ℕ → List Byte → Text
  | _, [] => []
  | 0, _ :: _ => []
  | fuel + 1, b :: bs =>
    match decodeChar? (b :: bs) with
    | some c => .char c :: decodeWithFrom bad fuel ((b :: bs).drop (utf8 c).length)
    | none => bad ++ decodeWithFrom bad fuel ((b :: bs).drop (malformed (b :: bs)))

def decodeReplace (bs : List Byte) : Text := decodeWithFrom [.char '�'] bs.length bs

def decodeIgnore (bs : List Byte) : Text := decodeWithFrom [] bs.length bs

/-! ## Stripping -/

lemma dropWhile_rdropWhile {α : Type} (p : α → Bool) (l : List α) :
    ((l.dropWhile p).rdropWhile p).dropWhile p = (l.dropWhile p).rdropWhile p :=
  (Words.trimmed_strip l).dropWhile_eq

lemma strip_strip : strip space (strip space t) = strip space t := by
  simp only [strip, dropWhile_rdropWhile, rdropWhile_idempotent]

lemma length_strip_le : (strip space t).length ≤ t.length :=
  (List.rdropWhile_prefix _ _).length_le.trans (dropWhile_suffix _).length_le

/-! ## One character -/

@[simp] lemma length_utf8 : (utf8 c).length = c.utf8Size := by
  rw [utf8, length_map, String.length_utf8EncodeChar]

lemma utf8_ne_nil : utf8 c ≠ [] := by
  rw [ne_eq, ← length_eq_zero_iff, length_utf8]
  exact c.utf8Size_pos.ne'

lemma map_ofBitVec_utf8 : (utf8 c).map UInt8.ofBitVec = String.utf8EncodeChar c := by
  rw [utf8, map_map]
  exact map_id _

@[simp] lemma decodeChar?_append (bs : List Byte) : decodeChar? (utf8 c ++ bs) = some c := by
  rw [decodeChar?, map_append, map_ofBitVec_utf8, toByteArray_append]
  exact ByteArray.utf8DecodeChar?_utf8EncodeChar_append

variable {bs : List Byte} {c : Char}

lemma exists_of_decodeChar? (h : decodeChar? bs = some c) : ∃ rest, bs = utf8 c ++ rest := by
  obtain ⟨l, hl⟩ := ByteArray.exists_of_utf8DecodeChar?_eq_some h
  have hlist : bs.map UInt8.ofBitVec = String.utf8EncodeChar c ++ l.data.toList := by
    have hdata := congrArg (fun b => b.data.toList) hl
    simpa only [toList_data_toByteArray, ByteArray.data_append, Array.toList_append] using hdata
  refine ⟨l.data.toList.map UInt8.toBitVec, ?_⟩
  have hback := congrArg (map UInt8.toBitVec) hlist
  rw [map_map, map_append] at hback
  rw [utf8, ← hback]
  exact (map_id bs).symm

lemma drop_utf8_append (bs : List Byte) : (utf8 c ++ bs).drop (utf8 c).length = bs :=
  drop_left

lemma isUTF8FirstByte_iff {i : ℕ} (hi : i < (utf8 c).length) :
    (UInt8.ofBitVec ((utf8 c).get ⟨i, hi⟩)).IsUTF8FirstByte ↔ i = 0 := by
  have hlen : i < (String.utf8EncodeChar c).length := by simpa using hi
  have hget : UInt8.ofBitVec ((utf8 c).get ⟨i, hi⟩) = (String.utf8EncodeChar c)[i] := by
    simp [utf8]
  rw [hget]
  exact UInt8.isUTF8FirstByte_getElem_utf8EncodeChar

lemma utf8_ascii (n : Fin 128) : utf8 (Char.ofNat n) = [BitVec.ofNat 8 n] := by
  revert n
  decide

lemma utf8_null : utf8 (Char.ofNat 0) = [0] := utf8_ascii 0

lemma isUTF8FirstByte_ascii (n : Fin 128) :
    (UInt8.ofBitVec (BitVec.ofNat 8 n)).IsUTF8FirstByte := by
  revert n
  decide

variable {n : Fin 128}

lemma eq_ascii_of_mem (h : BitVec.ofNat 8 n ∈ utf8 c) : c = Char.ofNat n := by
  obtain ⟨i, hi, hget⟩ := mem_iff_getElem.mp h
  have hfirst : i = 0 := by
    rw [← isUTF8FirstByte_iff hi, get_eq_getElem, hget]
    exact isUTF8FirstByte_ascii n
  subst hfirst
  obtain ⟨b, bs, hbs⟩ := exists_cons_of_ne_nil (utf8_ne_nil c)
  have hb : b = BitVec.ofNat 8 n := by simpa [hbs] using hget
  have hread : decodeChar? (utf8 (Char.ofNat n) ++ bs) = some c := by
    have hsame : utf8 (Char.ofNat n) ++ bs = utf8 c ++ [] := by
      rw [append_nil, hbs, hb, utf8_ascii, singleton_append]
    rw [hsame]
    exact decodeChar?_append c []
  rw [decodeChar?_append] at hread
  exact (Option.some.inj hread).symm

lemma utf8_ofNat_toNat {b : Byte} (h : b.toNat < 128) : utf8 (Char.ofNat b.toNat) = [b] := by
  have hchar := utf8_ascii ⟨b.toNat, h⟩
  simpa using hchar

lemma decodeChar?_of_prefix {part : List Byte} (h : part <+: utf8 c)
    (hshort : part.length < (utf8 c).length) : decodeChar? part = none := by
  by_contra hread
  obtain ⟨d, hd⟩ := Option.ne_none_iff_exists'.mp hread
  obtain ⟨tail, rfl⟩ := exists_of_decodeChar? hd
  obtain ⟨more, hmore⟩ := h
  rw [append_assoc] at hmore
  have hcd : some d = some c := by
    rw [← decodeChar?_append d (tail ++ more), hmore, ← decodeChar?_append c [], append_nil]
  cases hcd
  simp only [length_append] at hshort
  omega

/-! ## Texts -/

lemma encode_append (s t : Text) :
    encode (s ++ t) = (encode s).bind fun a => (encode t).map (a ++ ·) := by
  induction s with
  | nil => simp [encode]
  | cons g s ih =>
    cases g with
    | char c =>
      rw [cons_append, encode, ih, encode]
      cases encode s <;> cases encode t <;> simp
    | surrogate n => rfl

lemma encode_append_eq_some {s t : Text} (h : encode (s ++ t) = some bs) :
    ∃ a b, encode s = some a ∧ encode t = some b ∧ bs = a ++ b := by
  rw [encode_append] at h
  obtain ⟨a, ha, hmap⟩ := Option.bind_eq_some_iff.mp h
  obtain ⟨b, hb, rfl⟩ := Option.map_eq_some_iff.mp hmap
  exact ⟨a, b, ha, hb, rfl⟩

variable {t : Text}

lemma encode_cases (h : encode t = some bs) : (t = [] ∧ bs = []) ∨
      ∃ c rest tail, t = .char c :: rest ∧ encode rest = some tail ∧ bs = utf8 c ++ tail := by
  cases t with
  | nil =>
    cases h
    exact .inl ⟨rfl, rfl⟩
  | cons g rest =>
    cases g with
    | char c =>
      obtain ⟨tail, htail, rfl⟩ := Option.map_eq_some_iff.mp h
      exact .inr ⟨c, rest, tail, rfl, htail, rfl⟩
    | surrogate n => cases h

lemma length_encode_le (h : encode t = some bs) : bs.length ≤ 4 * t.length := by
  induction t generalizing bs with
  | nil =>
    cases h
    exact le_rfl
  | cons g t ih =>
    rcases encode_cases h with ⟨hnil, -⟩ | ⟨c, rest, tail, hcons, htail, rfl⟩
    · cases hnil
    · cases hcons
      have := ih htail
      have := c.utf8Size_le_four
      simp only [length_append, length_utf8, length_cons]
      omega

def ofAscii (bs : List Byte) : Text := bs.map fun b => .char (Char.ofNat b.toNat)

lemma encode_ofAscii (h : ∀ b ∈ bs, b.toNat < 128) : encode (ofAscii bs) = some bs := by
  induction bs with
  | nil => rfl
  | cons b bs ih =>
    obtain ⟨hb, hbs⟩ := forall_mem_cons.mp h
    grind [ofAscii, utf8_ofNat_toNat]

lemma decodeFrom_append (fuel : ℕ) (c : Char) (tail : List Byte) :
    decodeFrom (fuel + 1) (utf8 c ++ tail) = (decodeFrom fuel tail).map (.char c :: ·) := by
  obtain ⟨b, bs, hbs⟩ := exists_cons_of_ne_nil (utf8_ne_nil c)
  have hcons : utf8 c ++ tail = b :: (bs ++ tail) := by rw [hbs, cons_append]
  rw [hcons, decodeFrom, ← hcons, decodeChar?_append]
  simp only
  rw [drop_utf8_append]

lemma decodeWithFrom_append (bad : Text) (fuel : ℕ) (c : Char) (tail : List Byte) :
    decodeWithFrom bad (fuel + 1) (utf8 c ++ tail) = .char c :: decodeWithFrom bad fuel tail := by
  obtain ⟨b, bs, hbs⟩ := exists_cons_of_ne_nil (utf8_ne_nil c)
  have hcons : utf8 c ++ tail = b :: (bs ++ tail) := by rw [hbs, cons_append]
  rw [hcons, decodeWithFrom, ← hcons, decodeChar?_append]
  simp only
  rw [drop_utf8_append]

variable {fuel : ℕ}

lemma exists_fuel {tail : List Byte} (h : (utf8 c ++ tail).length ≤ fuel) :
    ∃ k, fuel = k + 1 ∧ tail.length ≤ k := by
  have := c.utf8Size_pos
  simp only [length_append, length_utf8] at h
  exact ⟨fuel - 1, by omega, by omega⟩

lemma decodeFrom_of_encode (h : encode t = some bs)
    (hfuel : bs.length ≤ fuel) : decodeFrom fuel bs = some t := by
  induction t generalizing fuel bs with
  | nil =>
    cases h
    cases fuel <;> rfl
  | cons g t ih =>
    grind [encode_cases, exists_fuel, decodeFrom_append]

lemma decodeWithFrom_of_encode {bad : Text}
    (h : encode t = some bs) (hfuel : bs.length ≤ fuel) : decodeWithFrom bad fuel bs = t := by
  induction t generalizing fuel bs with
  | nil =>
    cases h
    cases fuel <;> rfl
  | cons g t ih =>
    grind [encode_cases, exists_fuel, decodeWithFrom_append]

lemma encode_of_decodeFrom (h : decodeFrom fuel bs = some t) : encode t = some bs := by
  induction fuel generalizing t bs with
  | zero =>
    cases bs with
    | nil =>
      cases h
      rfl
    | cons b bs => cases h
  | succ fuel ih =>
    cases bs with
    | nil =>
      cases h
      rfl
    | cons b bs =>
      rw [decodeFrom] at h
      split at h
      next c hc =>
        obtain ⟨rest, hrest, rfl⟩ := Option.map_eq_some_iff.mp h
        obtain ⟨tail, htail⟩ := exists_of_decodeChar? hc
        rw [htail, drop_utf8_append] at hrest
        rw [encode, ih hrest, htail]
        rfl
      · cases h

lemma decode_eq_some_iff : decode bs = some t ↔ encode t = some bs :=
  ⟨encode_of_decodeFrom, fun h => decodeFrom_of_encode h le_rfl⟩

lemma prefix_of_encode {s t : Text} {a b : List Byte} (hs : encode s = some a)
    (ht : encode t = some (a ++ b)) : ∃ rest, t = s ++ rest ∧ encode rest = some b := by
  induction s generalizing t a with
  | nil =>
    cases hs
    exact ⟨t, rfl, ht⟩
  | cons g s ih =>
    rcases encode_cases hs with ⟨hnil, -⟩ | ⟨c, rest, tail, hcons, htail, rfl⟩
    · cases hnil
    · cases hcons
      rw [append_assoc] at ht
      rcases encode_cases ht with ⟨-, hempty⟩ | ⟨d, rest, tail', rfl, htail', heq⟩
      · exact absurd (append_eq_nil_iff.mp hempty).1 (utf8_ne_nil c)
      · have hc : some c = some d := by
          rw [← decodeChar?_append c (tail ++ b), heq, decodeChar?_append]
        cases hc
        rw [← append_cancel_left heq] at htail'
        obtain ⟨rest', rfl, hrest'⟩ := ih htail htail'
        exact ⟨rest', rfl, hrest'⟩

lemma encode_replicate {b : Byte} (h : utf8 c = [b]) (k : ℕ) :
    encode (List.replicate k (.char c)) = some (List.replicate k b) := by
  induction k with
  | zero => rfl
  | succ k ih =>
    rw [replicate_succ, encode, ih, h, replicate_succ]
    rfl

lemma ascii_mem_of_encode (h : encode t = some bs)
    (hmem : BitVec.ofNat 8 n ∈ bs) : .char (Char.ofNat n) ∈ t := by
  induction t generalizing bs with
  | nil =>
    cases h
    cases hmem
  | cons g t ih =>
    rcases encode_cases h with ⟨hnil, -⟩ | ⟨c, rest, tail, hcons, htail, rfl⟩
    all_goals grind [eq_ascii_of_mem]

lemma head_of_encode
    (h : encode t = some (BitVec.ofNat 8 n :: bs)) : ∃ rest, t = .char (Char.ofNat n) :: rest := by
  rcases encode_cases h with ⟨-, hnil⟩ | ⟨c, rest, tail, rfl, -, heq⟩
  · cases hnil
  · obtain ⟨b, more, hb⟩ := exists_cons_of_ne_nil (utf8_ne_nil c)
    grind [eq_ascii_of_mem]

variable {part : List Byte}

lemma decodeWithFrom_of_prefix {bad : Text}
    (h : encode t = some bs) (hpart : part <+: bs) (hfuel : part.length ≤ fuel) :
    decodeWithFrom bad fuel part <+: t ∨
      ∃ kept tail, decodeWithFrom bad fuel part = kept ++ bad ++ tail := by
  induction t generalizing fuel bs part with
  | nil => grind
  | cons g t ih =>
    rcases encode_cases h with ⟨hnil, -⟩ | ⟨c, rest, tail, hcons, htail, rfl⟩
    · cases hnil
    cases hcons
    rcases lt_or_ge part.length (utf8 c).length with hshort | hlong
    · have hinside : part <+: utf8 c :=
        prefix_of_prefix_length_le hpart (prefix_append _ _) hshort.le
      cases part with
      | nil => exact .inl (by cases fuel <;> exact nil_prefix)
      | cons b part =>
        obtain ⟨k, rfl⟩ : ∃ k, fuel = k + 1 := ⟨fuel - 1, by simp at hfuel; omega⟩
        right
        rw [decodeWithFrom, decodeChar?_of_prefix hinside hshort]
        exact ⟨[], _, rfl⟩
    · obtain ⟨more, rfl⟩ := prefix_of_prefix_length_le (prefix_append _ _) hpart hlong
      grind [exists_fuel, decodeWithFrom_append, prefix_append_right_inj]

lemma decodeReplace_of_prefix (h : encode t = some bs)
    (hpart : part <+: bs) : decodeReplace part <+: t ∨ .char '�' ∈ decodeReplace part := by
  grind [ decodeWithFrom_of_prefix, decodeReplace]

def CutsAt (n : ℕ) (t : Text) : Prop :=
  ∃ bs kept rest, encode t = some bs ∧ t = kept ++ rest ∧ encode kept = some (bs.take n)

end Text

end HeimdallDaq.Foundation
