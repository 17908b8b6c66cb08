/-
  Storage/TimeKeys.lean --- rotation and time ranges over byte-ordered keys.

  The keys of the records begin with the timestamp, packed big-endian, and the B-tree
  compares keys byte by byte.
-/
import HeimdallDaq.Foundation.Buffers
import Mathlib.Data.List.Sort
import Mathlib.Tactic.Ring

namespace HeimdallDaq.Storage

open Foundation List

@[local grind]
def ByteLt (x y : List Byte) : Prop := List.Lex (fun a b => a.toNat < b.toNat) x y

def makeKey (timestampMs index : ℕ) : List Byte := beBytes 8 timestampMs ++ beBytes 8 index

def timestamp (key : List Byte) : ℕ := ofBeBytes (key.take 8)

/-! ## The order of the keys -/

lemma ofBeBytes_cons (b : Byte) (bs : List Byte) :
    ofBeBytes (b :: bs) = b.toNat * 256 ^ bs.length + ofBeBytes bs := by
  have happend (x : List Byte) : ofLeBytes (x ++ [b]) = ofLeBytes x + 256 ^ x.length * b.toNat := by
    induction x with
    | nil => simp [ofLeBytes]
    | cons a x ih =>
      rw [cons_append, ofLeBytes, ih, ofLeBytes, length_cons]
      ring
  rw [ofBeBytes, reverse_cons, happend, length_reverse, ofBeBytes]
  ring

lemma ofBeBytes_lt (bs : List Byte) : ofBeBytes bs < 256 ^ bs.length := by
  simpa [ofBeBytes] using ofLeBytes_lt bs.reverse

lemma ofBeBytes_append (x y : List Byte) :
    ofBeBytes (x ++ y) = ofBeBytes x * 256 ^ y.length + ofBeBytes y := by
  induction x with
  | nil => simp [ofBeBytes, ofLeBytes]
  | cons b x ih => grind [ofBeBytes_cons]

lemma byteLt_iff {x y : List Byte} (h : x.length = y.length) :
    ByteLt x y ↔ ofBeBytes x < ofBeBytes y := by
  induction x generalizing y with
  | nil =>
    rw [length_eq_zero_iff.mp h.symm]
    simp [ByteLt]
  | cons a x ih =>
    obtain ⟨b, y, rfl⟩ := exists_cons_of_length_eq_add_one h.symm
    have hlen : x.length = y.length := by simpa using h
    have hx := ofBeBytes_lt x
    have hy := hlen ▸ ofBeBytes_lt y
    rw [ByteLt, cons_lex_cons_iff, ofBeBytes_cons, ofBeBytes_cons, ← hlen, ← BitVec.toNat_inj]
    rcases lt_trichotomy a.toNat b.toNat with hab | hab | hab
    · have hmul := Nat.mul_le_mul_right (256 ^ x.length) (Nat.succ_le_of_lt hab)
      grind
    · grind
    · have hmul := Nat.mul_le_mul_right (256 ^ x.length) (Nat.succ_le_of_lt hab)
      grind

lemma timestamp_eq_div (key : List Byte) :
    timestamp key = ofBeBytes key / 256 ^ (key.length - 8) := by
  have hsplit := ofBeBytes_append (key.take 8) (key.drop 8)
  have hlt := ofBeBytes_lt (key.drop 8)
  rw [take_append_drop, length_drop] at hsplit
  rw [length_drop] at hlt
  rw [hsplit, Nat.add_comm, Nat.add_mul_div_right _ _ (Nat.pow_pos (by decide)),
    Nat.div_eq_of_lt hlt, Nat.zero_add, timestamp]

/-! ## Tables -/

structure Table (V : Type) where
  entries : List (List Byte × V)
  keyLength : ℕ
  length_key : ∀ e ∈ entries, e.1.length = keyLength
  sorted : entries.Pairwise fun e e' => ByteLt e.1 e'.1

variable {V R : Type}

structure Index (t : Table V) (extract : List Byte × V → List Byte) where
  entries : List (List Byte × V)
  perm : entries.Perm t.entries
  sorted : entries.Pairwise fun e e' =>
    ByteLt (extract e) (extract e') ∨ extract e = extract e' ∧ ByteLt e.1 e'.1

instance : DecidableRel ByteLt := fun x y => inferInstanceAs (Decidable (List.Lex _ x y))

def rotate (cutoffMs : ℤ) : List (List Byte × V) → List (List Byte × V)
  | [] => []
  | e :: rest => if cutoffMs ≤ timestamp e.1 then e :: rest else rotate cutoffMs rest

/-- The loop of a query from its first record on.  A record that cannot be decoded is
skipped; with the index of the frames, the end of the range is tested before. -/
def collect (decode : List Byte × V → Option R) (byIndex : Bool) (endTsMs : ℤ) (limit : ℕ) :
    List R → List (List Byte × V) → List R
  | results, [] => results
  | results, e :: rest =>
    if results.length < limit then
      if endTsMs < timestamp e.1 ∧ (byIndex ∨ (decode e).isSome) then results
      else collect decode byIndex endTsMs limit (results ++ (decode e).toList) rest
    else results

section

variable (decode : List Byte × V → Option R) (t : Table V) (startTsMs : ℕ) (endTsMs : ℤ)
  (limit : ℕ)

def getFrameMetricsByTimeRange (idx : Index t (·.1.take 8)) : List R :=
  collect decode true endTsMs limit []
    (idx.entries.dropWhile fun e => ByteLt (e.1.take 8) (beBytes 8 startTsMs))

def getCalHistory : List R :=
  collect decode false endTsMs limit [] (t.entries.dropWhile fun e => ByteLt e.1 (makeKey startTsMs 0))

def getHwSnapshots : List R :=
  collect decode false endTsMs limit []
    (t.entries.dropWhile fun e => ByteLt e.1 (beBytes 8 startTsMs))

def InRange (e : List Byte × V) : Prop := startTsMs ≤ timestamp e.1 ∧ (timestamp e.1 : ℤ) ≤ endTsMs

instance (e : List Byte × V) : Decidable (InRange startTsMs endTsMs e) :=
  inferInstanceAs (Decidable (_ ∧ _))

def collectDups : List R → List (List Byte × V) → List R
  | results, [] => results
  | results, e :: rest =>
    if results.length < limit then
      collectDups (results ++ if InRange startTsMs endTsMs e then (decode e).toList else []) rest
    else results

def getCalHistoryByFreq {extract : List Byte × V → List Byte} (idx : Index t extract)
    (searchKey : List Byte) : List R :=
  collectDups decode startTsMs endTsMs limit [] (idx.entries.filter (extract · = searchKey))

def rangeOf (es : List (List Byte × V)) : List R :=
  ((es.filter (InRange startTsMs endTsMs ·)).filterMap decode).take limit

end

lemma timestamp_le {x y : List Byte} (hlen : x.length = y.length) (h : ByteLt x y) :
    timestamp x ≤ timestamp y := by
  rw [timestamp_eq_div, timestamp_eq_div, ← hlen]
  exact Nat.div_le_div_right ((byteLt_iff hlen).mp h).le

lemma Table.ascending (t : Table V) :
    t.entries.Pairwise fun e e' => timestamp e.1 ≤ timestamp e'.1 :=
  t.sorted.imp_of_mem fun {e e'} he he' h =>
    timestamp_le ((t.length_key e he).trans (t.length_key e' he').symm) h

variable {es : List (List Byte × V)}

lemma rotate_eq_filter (cutoffMs : ℤ)
    (h : es.Pairwise fun e e' => timestamp e.1 ≤ timestamp e'.1) :
    rotate cutoffMs es = es.filter fun e => cutoffMs ≤ timestamp e.1 := by
  induction es with
  | nil => rfl
  | cons e es ih =>
    grind [pairwise_cons, rotate, filter_eq_self.mpr]

lemma dropWhile_eq_filter {start : ℕ} {below : List Byte × V → Prop} [DecidablePred below]
    (h : es.Pairwise fun e e' => timestamp e.1 ≤ timestamp e'.1)
    (hbelow : ∀ e ∈ es, below e ↔ timestamp e.1 < start) :
    es.dropWhile (fun e => below e) = es.filter fun e => start ≤ timestamp e.1 := by
  induction es with
  | nil => rfl
  | cons e es ih =>
    rw [pairwise_cons] at h
    rw [forall_mem_cons] at hbelow
    grind [dropWhile_cons, filter_eq_self.mpr]

section

variable (decode : List Byte × V → Option R) (startTsMs : ℕ) (endTsMs : ℤ) (limit : ℕ)

lemma collect_eq (byIndex : Bool) (h : es.Pairwise fun e e' => timestamp e.1 ≤ timestamp e'.1) :
    ∀ results : List R, results.length ≤ limit → collect decode byIndex endTsMs limit results es =
      (results ++ (es.filter fun e => timestamp e.1 ≤ endTsMs).filterMap decode).take limit := by
  induction es with
  | nil => intro results hlen; simp [collect, take_of_length_le hlen]
  | cons e es ih =>
    intro results hlen
    rw [pairwise_cons] at h
    have hone : (decode e).toList.length ≤ 1 := by cases decode e <;> simp
    unfold collect
    split
    case isFalse hfull => rw [take_left' (by omega)]
    case isTrue hroom =>
      split
      case isTrue hstop =>
        grind [filter_eq_nil_iff.mpr, take_of_length_le]
      grind

lemma collectDups_eq : ∀ (es : List (List Byte × V)) (results : List R), results.length ≤ limit →
    collectDups decode startTsMs endTsMs limit results es =
      (results ++ (es.filter (InRange startTsMs endTsMs ·)).filterMap decode).take limit := by
  intro es
  induction es with
  | nil => intro results hlen; simp [collectDups, take_of_length_le hlen]
  | cons e es ih =>
    grind [collectDups]

/-- A query over the keys in order, from the first that is not below the start. -/
lemma collect_from_start (byIndex : Bool)
    (h : es.Pairwise fun e e' => timestamp e.1 ≤ timestamp e'.1) {below : List Byte × V → Prop}
    [DecidablePred below] (hbelow : ∀ e ∈ es, below e ↔ timestamp e.1 < startTsMs) :
    collect decode byIndex endTsMs limit [] (es.dropWhile fun e => below e) =
      rangeOf decode startTsMs endTsMs limit es := by
  rw [dropWhile_eq_filter h hbelow, collect_eq decode endTsMs limit byIndex (h.filter _) []
    (Nat.zero_le _), filter_filter, nil_append, rangeOf]
  refine congrArg (fun l => (l.filterMap decode).take limit) (filter_congr fun e _ => ?_)
  rw [Bool.and_comm, ← Bool.decide_and]
  rfl

end

lemma byteLt_beBytes {v w : ℕ} (hv : v < 256 ^ 8) (hw : w < 256 ^ 8) :
    ByteLt (beBytes 8 v) (beBytes 8 w) ↔ v < w := by
  rw [byteLt_iff (by simp), ofBeBytes_beBytes, ofBeBytes_beBytes, Nat.mod_eq_of_lt hv,
    Nat.mod_eq_of_lt hw]

lemma ofBeBytes_makeKey {ts index : ℕ} (hts : ts < 256 ^ 8) (hindex : index < 256 ^ 8) :
    ofBeBytes (makeKey ts index) = ts * 256 ^ 8 + index := by
  grind [makeKey, ofBeBytes_append, ofBeBytes_beBytes, length_beBytes]

lemma byteLt_makeKey {ts index ts' index' : ℕ} (hts : ts < 256 ^ 8) (hindex : index < 256 ^ 8)
    (hts' : ts' < 256 ^ 8) (hindex' : index' < 256 ^ 8) :
    ByteLt (makeKey ts index) (makeKey ts' index') ↔ ts < ts' ∨ ts = ts' ∧ index < index' := by
  rw [byteLt_iff (by simp [makeKey]), ofBeBytes_makeKey hts hindex, ofBeBytes_makeKey hts' hindex']
  omega

/-- A key is below a start key exactly when its timestamp is. -/
lemma byteLt_start {key start : List Byte} {ts : ℕ} (hlen : key.length = start.length)
    (hstart : ofBeBytes start = ts * 256 ^ (start.length - 8)) :
    ByteLt key start ↔ timestamp key < ts := by
  rw [byteLt_iff hlen, timestamp_eq_div, hstart, hlen,
    Nat.div_lt_iff_lt_mul (Nat.pow_pos (by decide))]

lemma Index.filter_eq {t : Table V} {extract : List Byte × V → List Byte} (idx : Index t extract)
    (p : List Byte × V → Bool) (h : ∀ e ∈ idx.entries, ∀ e' ∈ idx.entries, p e → p e' →
      ByteLt (extract e) (extract e') → ByteLt e.1 e'.1) :
    idx.entries.filter p = t.entries.filter p := by
  have hmem {e : List Byte × V} (he : e ∈ idx.entries.filter p) : e ∈ t.entries :=
    idx.perm.subset (mem_filter.mp he).1
  refine List.Perm.eq_of_pairwise (fun a b ha hb hab hba => ?_) ?_ (t.sorted.filter p)
    (idx.perm.filter p)
  · have hlen : a.1.length = b.1.length :=
      (t.length_key a (hmem ha)).trans (t.length_key b (mem_filter.mp hb).1).symm
    grind [byteLt_iff]
  refine List.Pairwise.imp_of_mem ?_ (idx.sorted.filter p)
  grind

lemma Index.entries_eq {t : Table V} (idx : Index t (·.1.take 8)) : idx.entries = t.entries := by
  have hfilter := idx.filter_eq (fun _ => true) fun e he e' he' _ _ hlt => ?_
  · rwa [filter_eq_self.mpr fun _ _ => rfl, filter_eq_self.mpr fun _ _ => rfl] at hfilter
  have hlen : e.1.length = e'.1.length := (t.length_key e (idx.perm.subset he)).trans
    (t.length_key e' (idx.perm.subset he')).symm
  rw [byteLt_iff (by simp [hlen])] at hlt
  have hts : timestamp e.1 < timestamp e'.1 := hlt
  grind [timestamp_eq_div, byteLt_iff, Nat.lt_of_div_lt_div]

/-- Keys compare as timestamps and counters; `rotate` leaves exactly the records from the
cutoff on, and every query returns the first `limit` records of its range, in order. -/
theorem time_indexed :
    (∀ ts index ts' index' : ℕ, ts < 256 ^ 8 → index < 256 ^ 8 → ts' < 256 ^ 8 → index' < 256 ^ 8 →
      (ByteLt (makeKey ts index) (makeKey ts' index') ↔ ts < ts' ∨ ts = ts' ∧ index < index') ∧
      (ByteLt (beBytes 8 ts) (beBytes 8 ts') ↔ ts < ts')) ∧
    ∀ {V R : Type} (decode : List Byte × V → Option R) (t : Table V) (cutoffMs endTsMs : ℤ)
      (startTsMs limit : ℕ), startTsMs < 256 ^ 8 →
      t.entries.Pairwise (fun e e' => timestamp e.1 ≤ timestamp e'.1) ∧
      rotate cutoffMs t.entries = t.entries.filter (fun e => cutoffMs ≤ timestamp e.1) ∧
      (t.keyLength = 16 → (∀ idx, getFrameMetricsByTimeRange decode t startTsMs endTsMs limit idx =
          rangeOf decode startTsMs endTsMs limit t.entries) ∧
        getCalHistory decode t startTsMs endTsMs limit =
          rangeOf decode startTsMs endTsMs limit t.entries) ∧
      (t.keyLength = 8 → getHwSnapshots decode t startTsMs endTsMs limit =
        rangeOf decode startTsMs endTsMs limit t.entries) ∧
      ∀ extract (idx : Index t extract) searchKey,
        getCalHistoryByFreq decode t startTsMs endTsMs limit idx searchKey =
          rangeOf decode startTsMs endTsMs limit (t.entries.filter (extract · = searchKey)) := by
  refine ⟨fun ts index ts' index' h₁ h₂ h₃ h₄ => ⟨byteLt_makeKey h₁ h₂ h₃ h₄, byteLt_beBytes h₁ h₃⟩,
    fun decode t cutoffMs endTsMs startTsMs limit hstart => ⟨t.ascending,
      rotate_eq_filter cutoffMs t.ascending, fun hlen => ⟨fun idx => ?_, ?_⟩, fun hlen => ?_,
      fun extract idx searchKey => ?_⟩⟩
  · rw [getFrameMetricsByTimeRange, idx.entries_eq]
    refine collect_from_start decode startTsMs endTsMs limit true t.ascending fun e he => ?_
    rw [byteLt_iff (by simp [t.length_key e he, hlen]), ofBeBytes_beBytes, Nat.mod_eq_of_lt hstart,
      timestamp]
  · refine collect_from_start decode startTsMs endTsMs limit false t.ascending fun e he => ?_
    refine byteLt_start ((t.length_key e he).trans (by simp [hlen, makeKey])) ?_
    rw [ofBeBytes_makeKey hstart (by decide)]
    simp [makeKey]
  · refine collect_from_start decode startTsMs endTsMs limit false t.ascending fun e he => ?_
    refine byteLt_start ((t.length_key e he).trans (by simp [hlen])) ?_
    rw [ofBeBytes_beBytes, Nat.mod_eq_of_lt hstart]
    simp
  · rw [getCalHistoryByFreq, collectDups_eq _ _ _ _ _ _ (Nat.zero_le _), nil_append, rangeOf,
      idx.filter_eq]
    grind [byteLt_iff]

def twoFrames : Table Unit where
  entries := [(makeKey 255 0, ()), (makeKey 256 0, ())]
  keyLength := 16
  length_key := by decide
  sorted := by decide

theorem time_indexed_twoFrames : ByteLt (makeKey 255 7) (makeKey 256 0) ∧
    getCalHistory (fun e => some (timestamp e.1)) twoFrames 256 300 10 =
      rangeOf (fun e => some (timestamp e.1)) 256 300 10 twoFrames.entries :=
  ⟨(time_indexed.1 255 7 256 0 (by decide) (by decide) (by decide) (by decide)).1.mpr (by decide),
    ((time_indexed.2 _ twoFrames 0 300 256 10 (by decide)).2.2.1 rfl).2⟩

end HeimdallDaq.Storage
