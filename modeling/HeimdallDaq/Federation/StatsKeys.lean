/-
  Federation/StatsKeys.lean --- the keys under which the IQ router lists its sources.

  A source behind another router is named by what that router calls it, if the name is
  taken once; else by the name under the router; else by its CRC.
-/
import Mathlib

namespace HeimdallDaq.Federation.StatsKeys

open List

/-- An entry of a SOURCES reply: `node_key` when it is true, and the two CRCs when they are
numbers. -/
structure SourceEntry where
  key : String
  nodeKey : Option String
  nodeKeyCrc32 : Option ℤ
  nodeIdCrc32 : Option ℤ

variable (e : SourceEntry)

def SourceEntry.nk : Option String :=
  (e.nodeKey <|> if e.key.startsWith "via:" then none else some e.key).filter (· ≠ "")

def SourceEntry.Carries (crc : UInt32) : Prop :=
  ∃ c ∈ [e.nodeKeyCrc32, e.nodeIdCrc32], c.any fun c : ℤ => decide (c ≠ 0 ∧ c % 2 ^ 32 = crc.toNat)

instance (e : SourceEntry) (crc : UInt32) : Decidable (e.Carries crc) :=
  inferInstanceAs (Decidable (∃ _ ∈ _, _))

def table (sources : List SourceEntry) (crc : UInt32) : Option String :=
  sources.findSome? fun e => if e.Carries crc then e.nk else none

/-- A reader of another router, with the CRCs of its logical sources; `none` is the source of
frames without a tag. -/
structure Chained where
  via : String
  statsEndpoints : List String
  logical : List (Option UInt32)
  nodup : logical.Nodup

variable (replies : String → List SourceEntry)

def lookupNodeKey (r : Chained) (crc : UInt32) : Option String :=
  r.statsEndpoints.findSome? fun ep => table (replies ep) crc

structure Mapped where
  via : String
  crc : Option UInt32
  nk : Option String

def mapped (readers : List Chained) : List Mapped :=
  readers.flatMap fun r =>
    r.logical.map fun crc => ⟨r.via, crc, crc.bind (lookupNodeKey replies r)⟩

@[local grind]
def hexDigits : ℕ → ℕ → List Char
  | 0, _ => []
  | n + 1, value => hexDigits n (value / 16) ++ [Nat.digitChar (value % 16)]

inductive Form
  | untagged
  | bare
  | named
  | tagged
  deriving DecidableEq

variable (direct : List String) (sources : List Mapped)

@[local grind]
def counts (nk : String) : ℕ := direct.count nk + (sources.map (·.nk)).count (some nk)

@[local grind]
def perVia (via nk : String) : ℕ := (sources.map fun x => (x.via, x.nk)).count (via, some nk)

@[local grind]
def form (x : Mapped) : Form :=
  match x.crc, x.nk with
  | none, _ => .untagged
  | some _, none => .tagged
  | some _, some nk =>
    if counts direct sources nk = 1 then .bare
    else if perVia sources x.via nk = 1 then .named
    else .tagged

@[local grind]
def key (x : Mapped) : String :=
  match form direct sources x with
  | .untagged => "via:" ++ x.via
  | .bare => x.nk.getD ""
  | .named => "via:" ++ x.via ++ "/" ++ x.nk.getD ""
  | .tagged => "via:" ++ x.via ++ "/crc:" ++ String.ofList (hexDigits 8 ((x.crc.getD 0).toNat))

def keys (direct : List String) (readers : List Chained) : List String :=
  direct ++ (mapped replies readers).map (key direct (mapped replies readers))

/-! ## Equal names are kept apart -/

lemma hexDigits_inj {n : ℕ} : ∀ {a b : ℕ}, a < 16 ^ n → b < 16 ^ n →
    hexDigits n a = hexDigits n b → a = b := by
  have hdigit : ∀ a < 16, ∀ b < 16, Nat.digitChar a = Nat.digitChar b → a = b := by decide
  induction n with
  | zero => intro a b ha hb _; omega
  | succ n ih => grind [append_inj']

lemma pairwise_count {α β : Type} [BEq β] [LawfulBEq β] (f : α → β) (l : List α) :
    l.Pairwise fun x y => f x = f y → 2 ≤ (l.map f).count (f x) := by
  induction l with
  | nil => exact List.Pairwise.nil
  | cons a l ih =>
    refine pairwise_cons.mpr ⟨fun y hy heq => ?_, ih.imp fun h heq => ?_⟩
    all_goals grind [mem_map_of_mem]

lemma pairwise_crc {readers : List Chained} (hvia : (readers.map Chained.via).Nodup) :
    (mapped replies readers).Pairwise fun x y => x.via = y.via → x.crc ≠ y.crc := by
  refine pairwise_flatMap.mpr ⟨fun r _ => ?_, (pairwise_map.mp hvia).imp ?_⟩
  · rw [pairwise_map]
    refine List.Pairwise.imp ?_ r.nodup
    exact fun hne _ => hne
  all_goals grind

section

variable {direct : List String} {sources : List Mapped} {x y : Mapped}

lemma form_bare (h : form direct sources x = .bare) :
    ∃ nk, x.nk = some nk ∧ counts direct sources nk = 1 := by
  unfold form at h
  grind

lemma form_named (h : form direct sources x = .named) :
    ∃ nk, x.nk = some nk ∧ perVia sources x.via nk = 1 := by
  unfold form at h
  grind

lemma form_untagged (h : form direct sources x = .untagged) : x.crc = none := by
  unfold form at h
  grind

lemma form_tagged (h : form direct sources x = .tagged) : ∃ crc, x.crc = some crc := by
  unfold form at h
  grind

/-- The texts that can stand for a source under its router. -/
def fallbacks (x : Mapped) : List String :=
  match x.crc with
  | none => ["via:" ++ x.via]
  | some crc =>
    ("via:" ++ x.via ++ "/crc:" ++ String.ofList (hexDigits 8 crc.toNat)) ::
      x.nk.toList.map ("via:" ++ x.via ++ "/" ++ ·)

/-- Two sources share no such text, unless they have one name under one router. -/
def Apart (x y : Mapped) : Prop :=
  ∀ t ∈ fallbacks x, t ∈ fallbacks y → x.via = y.via ∧ x.nk = y.nk ∧ x.nk.isSome

instance decidableApart (x y : Mapped) : Decidable (Apart x y) :=
  inferInstanceAs (Decidable (∀ t ∈ fallbacks x, _ → _))

lemma key_mem_fallbacks (h : form direct sources x ≠ .bare) :
    key direct sources x ∈ fallbacks x := by
  unfold key
  cases hform : form direct sources x with
  | untagged => simp [fallbacks, form_untagged hform]
  | bare => exact absurd hform h
  | named | tagged =>
    unfold form at hform
    unfold fallbacks
    grind

lemma key_ne_of_bare (hx : form direct sources x = .bare) (hy : form direct sources y = .bare)
    (hnk : x.nk = y.nk → 2 ≤ (sources.map (·.nk)).count x.nk) :
    key direct sources x ≠ key direct sources y := by grind

lemma untagged_ne_tagged (via digits : String) :
    "via:" ++ via ≠ "via:" ++ via ++ "/crc:" ++ digits := by
  intro h
  have hlength := congrArg String.length h
  have hfive : "/crc:".length = 5 := rfl
  simp only [String.length_append] at hlength
  omega

/-- Keys under a router are distinct: equal names are counted, and the CRCs differ. -/
lemma key_ne_of_apart (h : Apart x y) (hx : form direct sources x ≠ .bare)
    (hy : form direct sources y ≠ .bare) (hcrc : x.via = y.via → x.crc ≠ y.crc)
    (hvia : (x.via, x.nk) = (y.via, y.nk) →
      2 ≤ (sources.map fun x => (x.via, x.nk)).count (x.via, x.nk)) :
    key direct sources x ≠ key direct sources y := by
  intro hkey
  obtain ⟨heq, hname, -⟩ := h _ (key_mem_fallbacks hx) (hkey ▸ key_mem_fallbacks hy)
  have htwice := hvia (by rw [heq, hname])
  have hkind : ∀ z : Mapped, z.via = x.via → z.nk = x.nk → form direct sources z ≠ .bare →
      form direct sources z = .untagged ∨ form direct sources z = .tagged := by
    intro z hz hznk hbare
    cases hform : form direct sources z with
    | untagged => exact .inl rfl
    | bare => exact absurd hform hbare
    | tagged => exact .inr rfl
    | named =>
      obtain ⟨nk, hnk, hcount⟩ := form_named hform
      rw [hz] at hcount
      rw [← hznk, hnk] at htwice
      unfold perVia at hcount
      omega
  have hdiffer := hcrc heq
  rcases hkind x rfl rfl hx with hxform | hxform <;>
    rcases hkind y heq.symm hname.symm hy with hyform | hyform
  · exact hdiffer (by rw [form_untagged hxform, form_untagged hyform])
  · simp only [key, hxform, hyform, heq] at hkey
    exact untagged_ne_tagged _ _ hkey
  · simp only [key, hxform, hyform, heq] at hkey
    exact untagged_ne_tagged _ _ hkey.symm
  · obtain ⟨crc, hxcrc⟩ := form_tagged hxform
    obtain ⟨crc', hycrc⟩ := form_tagged hyform
    simp only [key, hxform, hyform, hxcrc, hycrc, heq, Option.getD_some] at hkey
    have hdigits : hexDigits 8 crc.toNat = hexDigits 8 crc'.toNat := by
      simpa [← String.toList_inj] using hkey
    have hcrcs := UInt32.toNat_inj.mp (hexDigits_inj crc.toNat_lt crc'.toNat_lt hdigits)
    exact hdiffer (by rw [hxcrc, hycrc, hcrcs])

lemma nk_of_bare (h : form direct sources x = .bare) : x.nk = some (key direct sources x) := by
  obtain ⟨nk, hnk, -⟩ := form_bare h
  simp [key, h, hnk]

lemma key_notMem_of_bare (hx : x ∈ sources) (hform : form direct sources x = .bare) :
    key direct sources x ∉ direct := by
  intro hmem
  obtain ⟨nk, hnk, hcount⟩ := form_bare hform
  simp only [key, hform, hnk, Option.getD_some] at hmem
  have hdirect : 0 < direct.count nk := count_pos_iff.mpr hmem
  have hsources : 0 < (sources.map (·.nk)).count (some nk) :=
    count_pos_iff.mpr (mem_map.mpr ⟨x, hx, hnk⟩)
  unfold counts at hcount
  omega

end

def twoRouters : List Chained :=
  [⟨"h:1", [], [some 5], by decide⟩, ⟨"k:2", ["k:3"], [some 7], by decide⟩]

def naming (name : String) : String → List SourceEntry := fun _ => [⟨"k", some name, some 7, none⟩]

end HeimdallDaq.Federation.StatsKeys
