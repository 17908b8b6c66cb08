/-
  Foundation/Python.lean --- JSON values as the interpreter sees them.

  `json.loads` yields these values; objects are dictionaries in the order of the text.
-/
import HeimdallDaq.Foundation.Dict
import HeimdallDaq.Foundation.Text
import Mathlib.Data.Rat.Floor

namespace HeimdallDaq.Foundation

open List

inductive PyFloat
  | fin (q : ℚ)
  | inf (negative : Bool)
  | nan
  deriving DecidableEq

namespace PyFloat

def isPos : PyFloat → Bool
  | .fin q => decide (0 < q)
  | .inf negative => !negative
  | .nan => false

end PyFloat

inductive Json
  | null
  | bool (b : Bool)
  | int (n : ℤ)
  | float (x : PyFloat)
  | str (s : String)
  | arr (xs : List Json)
  | obj (items : List (String × Json))

namespace Json

instance : Inhabited Json := ⟨.null⟩

def truthy : Json → Bool
  | .null => false
  | .bool b => b
  | .int n => n ≠ 0
  | .float x => x ≠ .fin 0
  | .str s => s ≠ ""
  | .arr xs => !xs.isEmpty
  | .obj items => !items.isEmpty

def object? : Json → Option (Dict Json)
  | .obj items => some items
  | _ => none

def typeName : Json → String
  | .null => "NoneType"
  | .bool _ => "bool"
  | .int _ => "int"
  | .float _ => "float"
  | .str _ => "str"
  | .arr _ => "list"
  | .obj _ => "dict"

def item (i : ℕ) : Json → Except String Json
  | .arr xs =>
    match xs[i]? with
    | some x => .ok x
    | none => .error "list index out of range"
  | .str s =>
    match s.toList[i]? with
    | some c => .ok (.str (String.singleton c))
    | none => .error "string index out of range"
  | .obj _ => .error (toString i)
  | v => .error ("'" ++ v.typeName ++ "' object is not subscriptable")

def formatDecimal : Json → Except String Unit
  | .int _ => .ok ()
  | .bool _ => .ok ()
  | .float _ => .error "Unknown format code 'd' for object of type 'float'"
  | .str _ => .error "Unknown format code 'd' for object of type 'str'"
  | v => .error ("unsupported format string passed to " ++ v.typeName ++ ".__format__")

def given : Option Json → Option Json
  | some .null => none
  | value => value

def orEmpty (value : Option Json) : Json :=
  match value with
  | some v => if v.truthy then v else .obj []
  | none => .obj []

def number? : Json → Option PyFloat
  | .bool b => some (.fin (if b then 1 else 0))
  | .int n => some (.fin n)
  | .float x => some x
  | _ => none

mutual

/-- `==` of two values: numbers by their value, dicts whatever the order of their keys. -/
def same : Json → Json → Bool
  | .null, .null => true
  | .str s, .str t => s = t
  | .arr xs, .arr ys => sameElements xs ys
  | .obj xs, .obj ys => xs.length = ys.length && sameItems xs ys
  | v, w =>
    match v.number?, w.number? with
    | some x, some y => x = y ∧ x ≠ .nan
    | _, _ => false

def sameElements : List Json → List Json → Bool
  | [], [] => true
  | x :: xs, y :: ys => same x y && sameElements xs ys
  | _, _ => false

def sameItems : List (String × Json) → Dict Json → Bool
  | [], _ => true
  | x :: xs, ys =>
    (match ys.find x.1 with
    | some w => same x.2 w
    | none => false) && sameItems xs ys

end

@[simp] lemma same_str (s t : String) : same (.str s) (.str t) = decide (s = t) := rfl

end Json

inductive ErrorKind
  | type
  | value
  | overflow
  | key
  | attribute
  | zeroDivision
  | recursion
  | struct
  deriving DecidableEq

inductive PyError
  | valueError (message : String)
  | builtin (kind : ErrorKind) (value : Json)

def Json.formatText : Json → Except PyError String
  | .str s => .ok s
  | .int n => .error (.builtin .value (.int n))
  | .bool b => .error (.builtin .value (.bool b))
  | .float x => .error (.builtin .value (.float x))
  | v => .error (.builtin .type v)

def Json.elements : Json → Except PyError (List Json)
  | .arr xs => .ok xs
  | .str s => .ok (s.toList.map fun c => .str (String.singleton c))
  | .obj items => .ok ((Dict.keys items).map .str)
  | v => .error (.builtin .type v)

structure Python where
  /-- `int(text)` -/
  intOfText : String → Option ℤ
  /-- `float(text)` -/
  floatOfText : String → Option PyFloat
  /-- `float(n)`; `none` is an `OverflowError` -/
  floatOfInt : ℤ → Option PyFloat
  /-- `repr(value)` -/
  repr : Json → String
  errorText : ErrorKind → Json → String
  /-- `c.isspace()` -/
  isSpace : Char → Bool
  /-- `text.lower()` -/
  lower : String → String

variable {ε β γ : Type} {f : β → Except ε γ}

lemma bind_eq_ok {x : Except ε β} {c : γ} : x >>= f = .ok c ↔ ∃ b, x = .ok b ∧ f b = .ok c := by
  cases x with
  | ok b =>
    refine ⟨fun h => ⟨b, rfl, h⟩, ?_⟩
    rintro ⟨b', hb, h⟩
    cases hb
    exact h
  | error e =>
    refine ⟨fun h => (by cases h), ?_⟩
    rintro ⟨b, hb, -⟩
    cases hb

variable {xs : List β}

lemma mapM_eq_ok_iff {ys : List γ} :
    xs.mapM f = .ok ys ↔ List.Forall₂ (fun x y => f x = .ok y) xs ys := by
  induction xs generalizing ys with
  | nil =>
    rw [mapM_nil, forall₂_nil_left_iff]
    exact ⟨fun h => (Except.ok.inj h).symm, fun h => congrArg Except.ok h.symm⟩
  | cons x xs ih =>
    rw [mapM_cons, forall₂_cons_left_iff, bind_eq_ok]
    constructor
    · rintro ⟨y, hy, h⟩
      obtain ⟨rest, hrest, h⟩ := bind_eq_ok.mp h
      exact ⟨y, rest, hy, ih.mp hrest, (Except.ok.inj h).symm⟩
    · rintro ⟨y, rest, hy, hrest, rfl⟩
      exact ⟨y, hy, bind_eq_ok.mpr ⟨rest, ih.mpr hrest, rfl⟩⟩

lemma exists_mapM_eq_ok_iff : (∃ ys, xs.mapM f = .ok ys) ↔ ∀ x ∈ xs, ∃ y, f x = .ok y := by
  induction xs with
  | nil => exact ⟨fun _ => nofun, fun _ => ⟨[], rfl⟩⟩
  | cons x xs ih =>
    rw [forall_mem_cons, ← ih]
    simp only [mapM_eq_ok_iff, forall₂_cons_left_iff]
    grind

lemma exists_map_of_mapM (default : γ) {ys : List γ} (h : xs.mapM f = .ok ys) :
    ∃ g : β → γ, (∀ x ∈ xs, f x = .ok (g x)) ∧ xs.map g = ys := by
  refine ⟨fun x => (f x).toOption.getD default, ?_⟩
  have hall := mapM_eq_ok_iff.mp h
  clear h
  induction hall with
  | nil => exact ⟨nofun, rfl⟩
  | cons hx _ ih =>
    rw [forall_mem_cons, map_cons, ih.2]
    simp only [hx]
    exact ⟨⟨rfl, ih.1⟩, rfl⟩

namespace PyError

def text (py : Python) : PyError → String
  | .valueError message => message
  | .builtin kind value => py.errorText kind value

def isA (kinds : List ErrorKind) : PyError → Bool
  | .valueError _ => kinds.contains .value
  | .builtin kind _ => kinds.contains kind

end PyError

namespace Python

variable (py : Python)

def reraise {β : Type} (kinds : List ErrorKind) (message : PyError → String) :
    Except PyError β → Except PyError β
  | .ok b => .ok b
  | .error e => .error (if e.isA kinds then .valueError (message e) else e)

def trunc (q : ℚ) : ℤ := if 0 ≤ q then ⌊q⌋ else ⌈q⌉

def int : Json → Except PyError ℤ
  | .int n => .ok n
  | .bool b => .ok (if b then 1 else 0)
  | .float (.fin q) => .ok (trunc q)
  | .float (.inf negative) => .error (.builtin .overflow (.float (.inf negative)))
  | .float .nan => .error (.builtin .value (.float .nan))
  | .str s =>
    match py.intOfText s with
    | some n => .ok n
    | none => .error (.builtin .value (.str s))
  | v => .error (.builtin .type v)

def floatInt (n : ℤ) : Except PyError PyFloat :=
  match py.floatOfInt n with
  | some x => .ok x
  | none => .error (.builtin .overflow (.int n))

def float : Json → Except PyError PyFloat
  | .float x => .ok x
  | .int n => py.floatInt n
  | .bool b => py.floatInt (if b then 1 else 0)
  | .str s =>
    match py.floatOfText s with
    | some x => .ok x
    | none => .error (.builtin .value (.str s))
  | v => .error (.builtin .type v)

def str : Json → String
  | .str s => s
  | v => py.repr v

def strip (text : String) : String :=
  String.ofList ((text.toList.dropWhile py.isSpace).rdropWhile py.isSpace)

def ascii : Python where
  intOfText _ := none
  floatOfText _ := none
  floatOfInt n := some (.fin n)
  repr _ := ""
  errorText _ _ := ""
  isSpace c := c == ' '
  lower s := String.ofList (s.toList.map Char.toLower)

@[simp] lemma int_int (n : ℤ) : py.int (.int n) = .ok n := rfl

@[simp] lemma float_float (x : PyFloat) : py.float (.float x) = .ok x := rfl

@[simp] lemma str_str (s : String) : py.str (.str s) = s := rfl

lemma reraise_eq_ok {β : Type} {kinds : List ErrorKind} {message : PyError → String}
    {x : Except PyError β} {b : β} (h : reraise kinds message x = .ok b) : x = .ok b := by
  cases x with
  | ok b' => exact h
  | error e => cases h

@[simp] lemma reraise_ok {β : Type} {kinds : List ErrorKind} {message : PyError → String} {b : β} :
    reraise kinds message (.ok b) = .ok b := rfl

@[simp] lemma strip_strip (text : String) : py.strip (py.strip text) = py.strip text := by
  simp only [strip, String.toList_ofList, Text.dropWhile_rdropWhile, rdropWhile_idempotent]

end Python

end HeimdallDaq.Foundation
