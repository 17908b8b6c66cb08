/-
  Foundation/Dict.lean --- dictionaries that remember insertion order.

  A dictionary is its list of items.
-/
import Mathlib.Data.List.Nodup

namespace HeimdallDaq.Foundation

/-- A Python dict with text keys, in insertion order. -/
abbrev Dict (α : Type) : Type := List (String × α)

namespace Dict

variable {α : Type}

@[local grind]
def keys (d : Dict α) : List String := d.map Prod.fst

@[local grind]
def find (key : String) : Dict α → Option α
  | [] => none
  | (k, v) :: rest => if k = key then some v else find key rest

/-- `d[key] = value`: a known key keeps its place. -/
@[local grind]
def put (key : String) (value : α) : Dict α → Dict α
  | [] => [(key, value)]
  | (k, v) :: rest => if k = key then (k, value) :: rest else (k, v) :: put key value rest

def erase (key : String) (d : Dict α) : Dict α := d.filter (·.1 ≠ key)

@[local grind]
def update (d : Dict α) (items : Dict α) : Dict α := items.foldl (fun d p => d.put p.1 p.2) d

@[local grind]
def adjust (key : String) (f : α → α) (d : Dict α) : Dict α :=
  d.map fun p => if p.1 = key then (p.1, f p.2) else p

def setDefault (key : String) (value : α) (d : Dict α) : Dict α :=
  match d.find key with
  | some _ => d
  | none => d.put key value

@[simp] lemma keys_nil : keys ([] : Dict α) = [] := rfl

@[simp] lemma keys_cons (p : String × α) (d : Dict α) : keys (p :: d) = p.1 :: keys d := rfl

@[simp] lemma keys_append (d e : Dict α) : keys (d ++ e) = keys d ++ keys e := List.map_append

@[simp] lemma find_nil (key : String) : find key ([] : Dict α) = none := rfl

lemma find_cons (key k : String) (v : α) (rest : Dict α) :
    find key ((k, v) :: rest) = if k = key then some v else find key rest := rfl

@[simp] lemma put_nil (key : String) (value : α) : put key value [] = [(key, value)] := rfl

lemma put_cons (key k : String) (value v : α) (rest : Dict α) : put key value ((k, v) :: rest) =
      if k = key then (k, value) :: rest else (k, v) :: put key value rest := rfl

@[simp] lemma keys_adjust (key : String) (f : α → α) (d : Dict α) :
    (adjust key f d).keys = d.keys := by
  rw [adjust, keys, List.map_map]
  refine List.map_congr_left fun p _ => ?_
  simp only [Function.comp]
  split <;> rfl

variable {key : String} {value : α} {d : Dict α} {p : String × α}

lemma mem_put (h : p ∈ put key value d) : p = (key, value) ∨ p ∈ d := by
  induction d with
  | nil => exact Or.inl (by simpa using h)
  | cons q rest ih => grind

variable {items : Dict α}

lemma mem_update (h : p ∈ update d items) : p ∈ d ∨ p ∈ items := by
  induction items generalizing d with
  | nil => exact Or.inl h
  | cons q rest ih => grind [mem_put]

lemma find_put_self (key : String) (value : α) (d : Dict α) :
    find key (put key value d) = some value := by
  induction d with
  | nil => simp [find_cons]
  | cons p rest ih => grind

variable {key' : String}

lemma find_put_of_ne (value : α) (d : Dict α) (h : key' ≠ key) :
    find key' (put key value d) = find key' d := by
  induction d with
  | nil => simp [find_cons, h.symm]
  | cons p rest ih => grind

lemma put_of_find (h : find key d = some value) : put key value d = d := by
  induction d with
  | nil => cases h
  | cons p rest ih => grind

lemma put_of_not_mem (h : key ∉ d.keys) : put key value d = d ++ [(key, value)] := by
  induction d with
  | nil => rfl
  | cons p rest ih => grind

lemma keys_put_of_mem (h : key ∈ d.keys) : (put key value d).keys = d.keys := by
  induction d with
  | nil => cases h
  | cons p rest ih => grind

lemma mem_keys_put : key' ∈ (put key value d).keys ↔ key' = key ∨ key' ∈ d.keys := by
  induction d with
  | nil => simp
  | cons p rest ih => grind

lemma nodup_put (h : d.keys.Nodup) : (put key value d).keys.Nodup := by
  induction d with
  | nil => simp
  | cons p rest ih => grind [mem_keys_put]

lemma nodup_update (h : d.keys.Nodup) : (update d items).keys.Nodup := by
  induction items generalizing d with
  | nil => exact h
  | cons p rest ih => exact ih (nodup_put h)

lemma update_of_nodup (h : (d.keys ++ items.keys).Nodup) : update d items = d ++ items := by
  induction items generalizing d with
  | nil => simp [update]
  | cons p rest ih =>
    have hnew : p.1 ∉ d.keys := by grind
    have hput : put p.1 p.2 d = d ++ [p] := put_of_not_mem hnew
    calc update d (p :: rest) = update (put p.1 p.2 d) rest := rfl
      _ = (d ++ [p]) ++ rest := by grind
      _ = d ++ p :: rest := by simp

lemma mem_keys_update : key ∈ (update d items).keys ↔ key ∈ d.keys ∨ key ∈ items.keys := by
  induction items generalizing d with
  | nil => simp [update]
  | cons p rest ih =>
    have hstep : update d (p :: rest) = update (put p.1 p.2 d) rest := rfl
    rw [hstep, ih, mem_keys_put, keys_cons, List.mem_cons]
    tauto

lemma find_eq_none_of_not_mem (h : key ∉ d.keys) : find key d = none := by
  induction d with
  | nil => rfl
  | cons p rest ih => grind

lemma find_append (key : String) (d e : Dict α) :
    find key (d ++ e) = (find key d).or (find key e) := by
  induction d with
  | nil => rfl
  | cons p rest ih => grind

lemma find_update (h : items.keys.Nodup) :
    find key (update d items) = (find key items).or (find key d) := by
  induction items generalizing d with
  | nil => rfl
  | cons p rest ih =>
    obtain ⟨k, v⟩ := p
    rw [keys_cons, List.nodup_cons] at h
    have hstep : update d ((k, v) :: rest) = update (put k v d) rest := rfl
    grind [find_eq_none_of_not_mem, find_put_self, find_put_of_ne]

lemma find_setDefault_self (key : String) (value : α) (d : Dict α) :
    find key (setDefault key value d) = some ((find key d).getD value) := by
  grind [setDefault, find_put_self]

lemma find_setDefault_of_ne (value : α) (d : Dict α) (h : key' ≠ key) :
    find key' (setDefault key value d) = find key' d := by
  grind [setDefault, find_put_of_ne]

lemma mem_of_find (h : find key d = some value) : (key, value) ∈ d := by
  induction d with
  | nil => cases h
  | cons p rest ih => grind

lemma find_of_mem_keys (h : key ∈ d.keys) : ∃ value, find key d = some value := by
  induction d with
  | nil => cases h
  | cons p rest ih =>
    obtain ⟨k, v⟩ := p
    by_cases hk : k = key
    · exact ⟨v, by rw [find_cons, if_pos hk]⟩
    all_goals grind

lemma find_filter (P : String → Bool) (key : String) (d : Dict α) :
    find key (d.filter fun p => P p.1) = if P key then find key d else none := by
  induction d with
  | nil => simp
  | cons p rest ih => grind

lemma find_erase_of_ne (h : key' ≠ key) : find key' (erase key d) = find key' d := by
  rw [erase, find_filter (· ≠ key), if_pos (by simpa using h)]

lemma find_adjust (key key' : String) (f : α → α) (d : Dict α) :
    find key' (adjust key f d) = if key' = key then (find key' d).map f else find key' d := by
  induction d with
  | nil => simp [adjust]
  | cons p rest ih => grind

lemma erase_of_not_mem (h : key ∉ d.keys) : erase key d = d := by
  grind [Dict.erase, List.filter_eq_self]

end Dict

end HeimdallDaq.Foundation
