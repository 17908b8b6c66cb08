/-
  Foundation/JsonText.lean --- the text `json.dumps` writes, and its length.

  The compact form, `separators=(",", ":")`, with every character outside the printable
  ASCII range escaped.
-/
import HeimdallDaq.Foundation.Python
import Mathlib.Algebra.Order.BigOperators.Group.List

namespace HeimdallDaq.Foundation

open List

@[local grind]
def byteLength (text : List Char) : ℕ := (text.flatMap Text.utf8).length

lemma byteLength_append (s t : List Char) :
    byteLength (s ++ t) = byteLength s + byteLength t := by simp [byteLength]

lemma byteLength_cons (c : Char) (t : List Char) :
    byteLength (c :: t) = (Text.utf8 c).length + byteLength t := by simp [byteLength]

namespace Json

/-! ## Texts -/

def unicodeEscape (n : ℕ) : List Char :=
  ['\\', 'u', Nat.digitChar (n / 4096 % 16), Nat.digitChar (n / 256 % 16),
    Nat.digitChar (n / 16 % 16), Nat.digitChar (n % 16)]

def escapeChar (c : Char) : List Char :=
  if c = '\\' then ['\\', '\\']
  else if c = '"' then ['\\', '"']
  else if c = '\n' then ['\\', 'n']
  else if c = '\r' then ['\\', 'r']
  else if c = '\t' then ['\\', 't']
  else if c = '\x0c' then ['\\', 'f']
  else if c = '\x08' then ['\\', 'b']
  else if ' ' ≤ c ∧ c ≤ '~' then [c]
  else if c.toNat < 0x10000 then unicodeEscape c.toNat
  else
    let n := c.toNat - 0x10000
    unicodeEscape (0xd800 + n / 1024 % 1024) ++ unicodeEscape (0xdc00 + n % 1024)

def escaped (s : String) : List Char := s.toList.flatMap escapeChar

def quoted (s : String) : List Char := '"' :: (escaped s ++ ['"'])

section

variable (py : Python)

def floatText : PyFloat → List Char
  | .fin q => (py.repr (.float (.fin q))).toList
  | .inf negative => if negative then "-Infinity".toList else "Infinity".toList
  | .nan => "NaN".toList

mutual

def dumps : Json → List Char
  | .null => "null".toList
  | .bool b => if b then "true".toList else "false".toList
  | .int n => (toString n).toList
  | .float x => floatText py x
  | .str s => quoted s
  | .arr xs => '[' :: (dumpsElements xs ++ [']'])
  | .obj items => '\x7b' :: (dumpsItems items ++ ['\x7d'])

def dumpsElements : List Json → List Char
  | [] => []
  | [x] => dumps x
  | x :: y :: rest => dumps x ++ ',' :: dumpsElements (y :: rest)

def dumpsItems : List (String × Json) → List Char
  | [] => []
  | [(k, v)] => quoted k ++ ':' :: dumps v
  | (k, v) :: item :: rest => quoted k ++ ':' :: (dumps v ++ ',' :: dumpsItems (item :: rest))

end

def size (v : Json) : ℕ := byteLength (dumps py v)

end

def escapedSize (s : String) : ℕ := byteLength (escaped s)

/-! ## Lengths -/

lemma escapedSize_append (s t : String) : escapedSize (s ++ t) = escapedSize s + escapedSize t := by
  rw [escapedSize, escaped, String.toList_append, flatMap_append, byteLength_append]
  rfl

lemma byteLength_of_ascii {t : List Char} (h : ∀ c ∈ t, c.toNat < 128) :
    byteLength t = t.length := by
  induction t with
  | nil => rfl
  | cons c t ih =>
    obtain ⟨hc, ht⟩ := forall_mem_cons.mp h
    have hutf8 : (Text.utf8 c).length = 1 := by
      have hcode := Text.utf8_ascii ⟨c.toNat, hc⟩
      grind [Char.ofNat_toNat]
    grind

@[local grind]
def Plain (c : Char) : Prop := 32 ≤ c.toNat ∧ c.toNat ≤ 126 ∧ c ≠ '\\' ∧ c ≠ '"'

instance (c : Char) : Decidable (Plain c) := by
  unfold Plain
  infer_instance

lemma escapeChar_of_plain {c : Char} (h : Plain c) : escapeChar c = [c] := by
  obtain ⟨hlow, hhigh, hslash, hquote⟩ := h
  have hcontrol : ∀ d : Char, d.toNat < 32 → c ≠ d := by
    rintro d hd rfl
    omega
  have hrange : ' ' ≤ c ∧ c ≤ '~' := ⟨hlow, hhigh⟩
  rw [escapeChar, if_neg hslash, if_neg hquote, if_neg (hcontrol _ (by decide)),
    if_neg (hcontrol _ (by decide)), if_neg (hcontrol _ (by decide)),
    if_neg (hcontrol _ (by decide)), if_neg (hcontrol _ (by decide)), if_pos hrange]

lemma escapedSize_of_plain {s : String} (h : ∀ c ∈ s.toList, Plain c) :
    escapedSize s = s.length := by
  have hescaped : escaped s = s.toList := by
    rw [escaped]
    generalize s.toList = t at h
    induction t with
    | nil => rfl
    | cons c t ih =>
      obtain ⟨hc, ht⟩ := forall_mem_cons.mp h
      rw [flatMap_cons, escapeChar_of_plain hc, ih ht, singleton_append]
  grind [Json.escapedSize, Json.byteLength_of_ascii, String.length_toList]

lemma escapedSize_replicate {c : Char} (hc : Plain c) (k : ℕ) :
    escapedSize (String.ofList (List.replicate k c)) = k := by
  grind [Json.escapedSize_of_plain, String.length_ofList, String.toList_ofList]

lemma plain_of_mem_toString {n : ℤ} {c : Char} (h : c ∈ (toString n).toList) : Plain c := by
  have hrepr : ∀ (m : ℕ), c ∈ (Nat.repr m).toList → Plain c := by
    intro m hm
    rw [Nat.toList_repr] at hm
    have hdigit := Nat.isDigit_of_mem_toDigits (by decide) (by decide) hm
    have hrange : 48 ≤ c.toNat ∧ c.toNat ≤ 57 := by
      simpa [Char.isDigit, UInt32.le_iff_toNat_le] using hdigit
    refine ⟨by omega, by omega, ?_, ?_⟩
    · rintro rfl
      exact absurd hrange.2 (by decide)
    · rintro rfl
      exact absurd hrange.1 (by decide)
  cases n with
  | ofNat m => exact hrepr m h
  | negSucc m =>
    rw [show toString (Int.negSucc m) = "-" ++ Nat.repr (m + 1) from rfl, String.toList_append] at h
    rcases mem_append.mp h with h | h
    · rw [mem_singleton.mp h]
      decide
    · exact hrepr _ h

lemma escapedSize_toString (n : ℤ) : escapedSize (toString n) = (toString n).length :=
  escapedSize_of_plain fun _ => plain_of_mem_toString

variable {py : Python}

lemma size_str (s : String) : size py (.str s) = escapedSize s + 2 := by
  have hquote : (Text.utf8 '"').length = 1 := by decide
  have hclose : byteLength ['"'] = 1 := by decide
  rw [size, dumps, quoted, byteLength_cons, byteLength_append, hquote, hclose, escapedSize]
  omega

lemma size_int (n : ℤ) : size py (.int n) = (toString n).length := by
  rw [size, dumps, byteLength_of_ascii, String.length_toList]
  intro c hc
  exact Nat.lt_of_le_of_lt (plain_of_mem_toString hc).2.1 (by decide)

lemma byteLength_dumpsElements (x : Json) (xs : List Json) :
    byteLength (dumpsElements py (x :: xs)) + 1 = ((x :: xs).map fun y => size py y + 1).sum := by
  have hcomma : (Text.utf8 ',').length = 1 := by decide
  induction xs generalizing x with
  | nil => simp [dumpsElements, size]
  | cons y rest ih =>
    rw [dumpsElements, byteLength_append, byteLength_cons, hcomma, map_cons, sum_cons, ← ih y, size]
    omega

def itemSize (py : Python) (p : String × Json) : ℕ := size py (.str p.1) + size py p.2 + 2

lemma byteLength_dumpsItems (p : String × Json) (items : List (String × Json)) :
    byteLength (dumpsItems py (p :: items)) + 1 = ((p :: items).map (itemSize py)).sum := by
  have hcolon : (Text.utf8 ':').length = 1 := by decide
  have hcomma : (Text.utf8 ',').length = 1 := by decide
  induction items generalizing p with
  | nil =>
    simp only [dumpsItems, byteLength_append, byteLength_cons, hcolon, map_cons,
      map_nil, sum_cons, sum_nil, itemSize, size, dumps]
    omega
  | cons q rest ih =>
    rw [map_cons, sum_cons, ← ih q]
    simp only [dumpsItems, byteLength_append, byteLength_cons, hcolon, hcomma, itemSize, size,
      dumps]
    omega

lemma size_arr_nil : size py (.arr []) = 2 := by
  rw [size, dumps, dumpsElements]
  decide

lemma size_arr {xs : List Json} (h : xs ≠ []) :
    size py (.arr xs) = 1 + (xs.map fun x => size py x + 1).sum := by
  have hopen : (Text.utf8 '[').length = 1 := by decide
  have hclose : byteLength [']'] = 1 := by decide
  obtain ⟨x, rest, rfl⟩ := exists_cons_of_ne_nil h
  rw [← byteLength_dumpsElements, size, dumps, byteLength_cons, byteLength_append, hopen, hclose]

lemma size_obj {items : List (String × Json)} (h : items ≠ []) :
    size py (.obj items) = 1 + (items.map (itemSize py)).sum := by
  have hopen : (Text.utf8 '\x7b').length = 1 := by decide
  have hclose : byteLength ['\x7d'] = 1 := by decide
  obtain ⟨p, rest, rfl⟩ := exists_cons_of_ne_nil h
  rw [← byteLength_dumpsItems, size, dumps, byteLength_cons, byteLength_append, hopen, hclose]

lemma two_le_size_arr (xs : List Json) : 2 ≤ size py (.arr xs) := by
  cases xs with
  | nil => rw [size_arr_nil]
  | cons x rest =>
    rw [size_arr (cons_ne_nil x rest), map_cons, sum_cons]
    omega

lemma size_arr_le_of_subperm {xs ys : List Json} (h : xs.Subperm ys) :
    size py (.arr xs) ≤ size py (.arr ys) := by
  by_cases hxs : xs = []
  · rw [hxs, size_arr_nil]
    exact two_le_size_arr ys
  · have hys : ys ≠ [] := by grind [subperm_nil.mp]
    obtain ⟨zs, hperm, hsub⟩ := h
    rw [size_arr hxs, size_arr hys]
    refine Nat.add_le_add_left ?_ 1
    calc (xs.map fun x => size py x + 1).sum
        = (zs.map fun x => size py x + 1).sum := ((hperm.map _).sum_eq).symm
      _ ≤ (ys.map fun x => size py x + 1).sum := (hsub.map _).sum_le_sum fun _ _ => Nat.zero_le _

end Json

end HeimdallDaq.Foundation
