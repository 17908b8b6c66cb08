/-
  Federation/MasterSchedule.lean --- master schedule documents.

  `federation_scheduler.py` validates a document into a canonical copy and stores it
  split into its known keys and the rest.
-/
import HeimdallDaq.Foundation.Python

namespace HeimdallDaq.Federation

open Foundation List Dict

/-- `STRATEGIES`. -/
inductive Strategy
  | roundRobin
  | range
  deriving DecidableEq

namespace Strategy

def word : Strategy → String
  | .roundRobin => "round_robin"
  | .range => "range"

def ofWord (s : String) : Option Strategy :=
  if s = "round_robin" then some .roundRobin else if s = "range" then some .range else none

@[simp] lemma ofWord_word (s : Strategy) : ofWord s.word = some s := by cases s <;> rfl

end Strategy

/-! ## Entries -/

abbrev Check : Type := Option Json → Except PyError (Option Json)

namespace Entry

variable (py : Python) (index : ℕ)

def path (key : String) : String := "entries[" ++ toString index ++ "]." ++ key

def checkedInt (what : String) : Json → Except PyError ℤ
  | .bool _ => .error (.valueError (what ++ " must be an integer"))
  | v => Python.reraise [.type, .value]
      (fun _ => what ++ " must be an integer (got " ++ py.repr v ++ ")") (py.int v)

def checkedInts (what : String) : List Json → Except PyError (List ℤ)
  | [] => .ok []
  | v :: vs => do
      let n ← checkedInt py what v
      let ns ← checkedInts what vs
      pure (n :: ns)

def frequency : Check
  | none => .error (.valueError ("entries[" ++ toString index ++ "] has no frequency"))
  | some v => do
      let n ← checkedInt py (path index "frequency") v
      if 0 < n ∧ n < 2 ^ 32 then pure (some (.int n))
      else .error (.valueError (path index "frequency" ++ " " ++ toString n ++ " is out of range"))

def gains : Check
  | none => .ok none
  | some .null => .ok (some .null)
  | some (.arr (g :: gs)) => do
      let ns ← checkedInts py (path index "gains") (g :: gs)
      pure (some (.arr (ns.map .int)))
  | some _ => .error (.valueError (path index "gains" ++ " must be a per-channel list"))

def dwellFrames : Check
  | none => .ok none
  | some v => do
      let n ← checkedInt py (path index "dwell_frames") v
      if n < 1 then .error (.valueError (path index "dwell_frames" ++ " must be >= 1"))
      else pure (some (.int n))

def dwellTimeSec : Check
  | none => .ok none
  | some .null => .ok (some .null)
  | some v => do
      let x ← Python.reraise [.type, .value]
        (fun _ => path index "dwell_time_sec" ++ " must be a number") (py.float v)
      if x.isPos then pure (some (.float x))
      else .error (.valueError (path index "dwell_time_sec" ++ " must be > 0"))

def requireCal : Check
  | none => .ok none
  | some (.bool b) => .ok (some (.bool b))
  | some _ => .error (.valueError (path index "require_cal" ++ " must be true or false"))

def checks : List (String × Check) :=
  [("frequency", frequency py index), ("gains", gains py index),
    ("dwell_frames", dwellFrames py index), ("dwell_time_sec", dwellTimeSec py index),
    ("require_cal", requireCal index)]

def assign (key : String) (out : Dict Json) : Option Json → Dict Json
  | none => out
  | some v => out.put key v

def applyChecks (entry : Dict Json) : List (String × Check) → Dict Json → Except PyError (Dict Json)
  | [], out => .ok out
  | (key, check) :: rest, out => do
      let v ← check (entry.find key)
      applyChecks entry rest (assign key out v)

end Entry

def normalizeEntry (py : Python) (index : ℕ) : Json → Except PyError (Dict Json)
  | .obj entry => Entry.applyChecks entry (Entry.checks py index) entry
  | _ => .error (.valueError ("entries[" ++ toString index ++ "] must be an object"))

def normalizeEntries (py : Python) : ℕ → List Json → Except PyError (List (Dict Json))
  | _, [] => .ok []
  | index, e :: es => do
      let entry ← normalizeEntry py index e
      let entries ← normalizeEntries py (index + 1) es
      pure (entry :: entries)

/-! ## Documents -/

namespace ScheduleParser

/-- `ScheduleEntry`, as `ScheduleParser.from_json` fills it. -/
structure ScheduleEntry where
  frequency : ℤ
  gains : Option Json
  dwellFrames : ℤ
  requireCal : Json
  dwellTimeSec : Option PyFloat

variable (py : Python)

def dwellTime : Option Json → Except PyError (Option PyFloat)
  | none => pure none
  | some .null => pure none
  | some v => some <$> py.float v

def fromEntry (entry : Dict Json) : Except PyError ScheduleEntry := do
  let frequency ←
    match entry.find "frequency" with
    | some v => py.int v
    | none => .error (.builtin .key (.str "frequency"))
  let dwellFrames ← py.int ((entry.find "dwell_frames").getD (.int 100))
  let dwellTimeSec ← dwellTime py (entry.find "dwell_time_sec")
  pure { frequency := frequency
         gains := Json.given (entry.find "gains")
         dwellFrames := dwellFrames
         requireCal := (entry.find "require_cal").getD (.bool true)
         dwellTimeSec := dwellTimeSec }

def fromEntries (entries : List (Dict Json)) : Except PyError (List ScheduleEntry) :=
  entries.mapM (fromEntry py)

end ScheduleParser

namespace ScheduleDoc

def checkText (doc : Dict Json) (key message : String) : Except PyError Unit :=
  match doc.find key with
  | none => .ok ()
  | some (.str _) => .ok ()
  | some _ => .error (.valueError message)

def strategyOf (py : Python) (doc : Dict Json) : Except PyError (Option Strategy) :=
  match doc.find "strategy" with
  | none => .ok none
  | some .null => .ok none
  | some v =>
    match v with
    | .str s =>
      match Strategy.ofWord s with
      | some strategy => .ok (some strategy)
      | none => .error (.valueError
          ("unknown strategy '" ++ s ++ "' (expected round_robin or range)"))
    | v => .error (.valueError
        ("unknown strategy '" ++ py.str v ++ "' (expected round_robin or range)"))

end ScheduleDoc

open ScheduleDoc

def validateItems (py : Python) (doc : Dict Json) : Except PyError (Dict Json) :=
  match doc.find "entries" with
  | some (.arr (e :: es)) => do
      let entries ← normalizeEntries py 0 (e :: es)
      checkText doc "name" "schedule name must be a string"
      checkText doc "repeat_mode" "repeat_mode must be a string"
      let _ ← strategyOf py doc
      -- the member-side parser must accept it as members will load it
      let _ ← Python.reraise [.key, .type, .value]
        (fun e => "schedule rejected by ScheduleParser: " ++ e.text py)
        (ScheduleParser.fromEntries py entries)
      pure ((doc.put "entries" (.arr (entries.map .obj))).erase "gen")
  | _ => .error (.valueError "schedule needs a non-empty 'entries' list")

def validateScheduleDoc (py : Python) : Json → Except PyError (Dict Json)
  | .obj doc => validateItems py doc
  | _ => .error (.valueError "schedule must be a JSON object")

/-- `FederationScheduler._master_schedule`, without the views derived from its entries. -/
structure Master where
  name : String
  repeatMode : String
  entries : List (Dict Json)
  strategy : Strategy
  extra : Dict Json

namespace Master

def reserved : List String := ["name", "repeat_mode", "entries", "strategy", "gen"]

def textOr (default : String) : Option Json → String
  | some (.str s) => s
  | _ => default

def entriesOf : Option Json → List (Dict Json)
  | some (.arr xs) => xs.filterMap Json.object?
  | _ => []

def store (doc : Dict Json) (strategy : Strategy) : Master where
  name := textOr "federation" (doc.find "name")
  repeatMode := textOr "loop" (doc.find "repeat_mode")
  entries := entriesOf (doc.find "entries")
  strategy := strategy
  extra := Dict.update [] (doc.filter fun p => p.1 ∉ reserved)

def doc (m : Master) : Dict Json :=
  (Dict.update [("name", .str m.name), ("repeat_mode", .str m.repeatMode),
    ("strategy", .str m.strategy.word)] m.extra).put "entries" (.arr (m.entries.map .obj))

end Master

def setMasterScheduleDoc (py : Python) (doc : Json) (strategy : Option Strategy) :
    Except PyError Master := do
  let canon ← validateScheduleDoc py doc
  let own ← strategyOf py canon
  pure (Master.store canon ((strategy.or own).getD .roundRobin))

/-! ## Validation is idempotent -/

namespace Entry

variable {py : Python} {index : ℕ}

@[local grind]
def Settles (c : Check) : Prop := ∀ o v, c o = .ok v → c v = .ok v ∧ (v = none ↔ o = none)

@[simp] lemma checkedInt_int (what : String) (n : ℤ) : checkedInt py what (.int n) = .ok n := rfl

@[simp] lemma checkedInts_int (what : String) (ns : List ℤ) :
    checkedInts py what (ns.map .int) = .ok ns := by
  induction ns with
  | nil => rfl
  | cons n ns ih => simp [checkedInts, ih, bind, Except.bind, pure, Except.pure]

lemma settles_frequency : Settles (frequency py index) := by
  rintro (_ | v) w h
  · cases h
  · obtain ⟨n, -, h⟩ := bind_eq_ok.mp h
    split at h
    · rename_i hrange
      cases h
      exact ⟨by rw [frequency, checkedInt_int]; exact if_pos hrange, by simp⟩
    · cases h

lemma settles_gains : Settles (gains py index) := by
  intro o w h
  unfold gains at h
  split at h
  · cases h
    exact ⟨rfl, by simp⟩
  · cases h
    exact ⟨rfl, by simp⟩
  · rename_i g gs
    obtain ⟨ns, hns, h⟩ := bind_eq_ok.mp h
    cases h
    refine ⟨?_, by simp⟩
    cases ns with
    | nil =>
      obtain ⟨n, -, hns⟩ := bind_eq_ok.mp hns
      obtain ⟨ns', -, hns⟩ := bind_eq_ok.mp hns
      cases hns
    | cons n ns =>
      grind [gains, checkedInts_int]
  · cases h

lemma settles_dwellFrames : Settles (dwellFrames py index) := by
  rintro (_ | v) w h
  · cases h
    exact ⟨rfl, by simp⟩
  · obtain ⟨n, -, h⟩ := bind_eq_ok.mp h
    split at h
    · cases h
    · rename_i hmin
      cases h
      exact ⟨by simp [dwellFrames, hmin, bind, Except.bind, pure, Except.pure], by simp⟩

lemma settles_dwellTimeSec : Settles (dwellTimeSec py index) := by
  intro o w h
  unfold dwellTimeSec at h
  split at h
  · cases h
    exact ⟨rfl, by simp⟩
  · cases h
    exact ⟨rfl, by simp⟩
  · obtain ⟨x, -, h⟩ := bind_eq_ok.mp h
    split at h
    · rename_i hpos
      cases h
      exact ⟨by simp [dwellTimeSec, hpos, bind, Except.bind, pure, Except.pure], by simp⟩
    · cases h

lemma settles_requireCal : Settles (requireCal index) := by
  intro o w h
  unfold requireCal at h
  split at h
  · cases h
    exact ⟨rfl, by simp⟩
  · cases h
    exact ⟨rfl, by simp⟩
  · cases h

lemma settles_checks : ∀ c ∈ checks py index, Settles c.2 := by
  grind [checks, settles_frequency, settles_gains, settles_dwellFrames, settles_dwellTimeSec, settles_requireCal]

variable {out : Dict Json} {v : Option Json}

lemma find_assign_self {key : String}
    (h : v = none → out.find key = none) : (assign key out v).find key = v := by
  cases v with
  | none => exact h rfl
  | some v => exact find_put_self key v out

lemma find_assign_of_ne {key key' : String}
    (h : key' ≠ key) : (assign key out v).find key' = out.find key' := by
  cases v with
  | none => rfl
  | some v => exact find_put_of_ne v out h

variable {entry : Dict Json}

lemma find_of_applyChecks :
    ∀ {cs : List (String × Check)} {out out' : Dict Json}, (∀ c ∈ cs, Settles c.2) →
      (cs.map Prod.fst).Nodup → applyChecks entry cs out = .ok out' →
      (∀ c ∈ cs, out.find c.1 = entry.find c.1) →
      (∀ c ∈ cs, c.2 (entry.find c.1) = .ok (out'.find c.1)) ∧
        ∀ key ∉ cs.map Prod.fst, out'.find key = out.find key := by
  intro cs
  induction cs with
  | nil =>
    intro out out' _ _ h _
    cases h
    exact ⟨by simp, fun _ _ => rfl⟩
  | cons c cs ih =>
    intro out out' hsettles hnodup h hfind
    obtain ⟨hc, hnodup⟩ := nodup_cons.mp hnodup
    obtain ⟨v, hv, h⟩ := bind_eq_ok.mp h
    have hne : ∀ c' ∈ cs, c'.1 ≠ c.1 := by
      intro c' hc' heq
      exact hc (heq ▸ mem_map_of_mem hc')
    obtain ⟨hall, hrest⟩ := ih (fun c' hc' => hsettles c' (mem_cons_of_mem _ hc')) hnodup h
      fun c' hc' => by
        rw [find_assign_of_ne (hne c' hc')]
        exact hfind c' (mem_cons_of_mem _ hc')
    have hself : out'.find c.1 = v := by grind [find_assign_self]
    refine ⟨?_, ?_⟩
    · intro c' hc'
      grind
    · intro key hkey
      rw [map_cons, mem_cons, not_or] at hkey
      rw [hrest key hkey.2, find_assign_of_ne hkey.1]

lemma applyChecks_of_settled :
    ∀ {cs : List (String × Check)}, (∀ c ∈ cs, c.2 (entry.find c.1) = .ok (entry.find c.1)) →
      applyChecks entry cs entry = .ok entry := by
  intro cs
  induction cs with
  | nil => intro _; rfl
  | cons c cs ih =>
    intro h
    have hassign : assign c.1 entry (entry.find c.1) = entry := by
      cases hv : entry.find c.1 with
      | none => rfl
      | some v => exact put_of_find hv
    refine bind_eq_ok.mpr ⟨_, h c mem_cons_self, ?_⟩
    rw [hassign]
    exact ih fun c' hc' => h c' (mem_cons_of_mem _ hc')

end Entry

section Validation

variable {py : Python} {index : ℕ}

lemma find_of_normalizeEntry {raw entry : Dict Json}
    (h : normalizeEntry py index (.obj raw) = .ok entry) :
    ∀ c ∈ Entry.checks py index, c.2 (raw.find c.1) = .ok (entry.find c.1) :=
  (Entry.find_of_applyChecks Entry.settles_checks (by simp [Entry.checks]) h fun _ _ => rfl).1

lemma normalizeEntry_of_ok {e : Json} {entry : Dict Json}
    (h : normalizeEntry py index e = .ok entry) :
    normalizeEntry py index (.obj entry) = .ok entry := by
  cases e with
  | obj items =>
    exact Entry.applyChecks_of_settled fun c hc =>
      (Entry.settles_checks c hc _ _ (find_of_normalizeEntry h c hc)).1
  | _ => cases h

lemma normalizeEntries_of_ok {es : List Json} {entries : List (Dict Json)}
    (h : normalizeEntries py index es = .ok entries) :
    normalizeEntries py index (entries.map .obj) = .ok entries := by
  induction es generalizing index entries with
  | nil =>
    cases h
    rfl
  | cons e es ih =>
    obtain ⟨entry, hentry, h⟩ := bind_eq_ok.mp h
    obtain ⟨rest, hrest, h⟩ := bind_eq_ok.mp h
    cases h
    exact bind_eq_ok.mpr ⟨entry, normalizeEntry_of_ok hentry, bind_eq_ok.mpr ⟨rest, ih hrest, rfl⟩⟩

end Validation

/-! ## Stored schedules -/

namespace Master

variable {py : Python}

structure Canonical (py : Python) (m : Master) : Prop where
  nonempty : m.entries ≠ []
  normal : normalizeEntries py 0 (m.entries.map .obj) = .ok m.entries
  parsed : ∃ es, ScheduleParser.fromEntries py m.entries = .ok es
  nodup : m.extra.keys.Nodup
  apart : ∀ key ∈ m.extra.keys, key ∉ reserved

variable {m : Master}

section

variable (h : m.Canonical py)
include h

lemma doc_eq : m.doc = [("name", .str m.name), ("repeat_mode", .str m.repeatMode),
      ("strategy", .str m.strategy.word)] ++ m.extra ++ [("entries", .arr (m.entries.map .obj))] := by
  have hapart : ∀ key ∈ reserved, key ∉ m.extra.keys := fun key hr hm => h.apart key hm hr
  have hbase : update [("name", .str m.name), ("repeat_mode", .str m.repeatMode),
      ("strategy", .str m.strategy.word)] m.extra =
        [("name", .str m.name), ("repeat_mode", .str m.repeatMode),
          ("strategy", .str m.strategy.word)] ++ m.extra := by
    apply update_of_nodup
    simp [h.nodup, hapart _ (show "name" ∈ reserved by decide),
      hapart _ (show "repeat_mode" ∈ reserved by decide),
      hapart _ (show "strategy" ∈ reserved by decide)]
  rw [doc, hbase]
  apply put_of_not_mem
  simp [hapart _ (show "entries" ∈ reserved by decide)]

lemma filter_doc : m.doc.filter (fun p => p.1 ∉ reserved) = m.extra := by
  have hextra : m.extra.filter (fun p => p.1 ∉ reserved) = m.extra := by
    rw [filter_eq_self]
    intro p hp
    simpa using h.apart p.1 (mem_map_of_mem hp)
  rw [doc_eq h, filter_append, filter_append, hextra]
  simp [reserved]

lemma store_doc : store m.doc m.strategy = m := by
  have hname : m.doc.find "name" = some (.str m.name) := by
    simp [doc_eq h, find_cons]
  have hmode : m.doc.find "repeat_mode" = some (.str m.repeatMode) := by
    simp [doc_eq h, find_cons]
  have hentries : m.doc.find "entries" = some (.arr (m.entries.map .obj)) :=
    find_put_self _ _ _
  have hextra : update [] (m.doc.filter fun p => p.1 ∉ reserved) = m.extra := by
    rw [filter_doc h, update_of_nodup (by simpa using h.nodup), nil_append]
  simp only [store, hname, hmode, hentries, hextra, textOr, entriesOf, filterMap_map]
  congr
  exact filterMap_some

lemma strategyOf_doc :
    strategyOf py m.doc = .ok (some m.strategy) := by simp [strategyOf, doc_eq h, find_cons]

lemma validate_doc : validateItems py m.doc = .ok m.doc := by
  have hentries : m.doc.find "entries" = some (.arr (m.entries.map .obj)) :=
    find_put_self _ _ _
  have hcanon : (m.doc.put "entries" (.arr (m.entries.map .obj))).erase "gen" = m.doc := by
    rw [put_of_find hentries]
    apply Dict.erase_of_not_mem
    have hgen : "gen" ∉ m.extra.keys := fun hm => h.apart "gen" hm (by decide)
    rw [doc_eq h]
    simp [hgen]
  have hname : checkText m.doc "name" "schedule name must be a string" = .ok () := by
    simp [checkText, doc_eq h, find_cons]
  have hmode : checkText m.doc "repeat_mode" "repeat_mode must be a string" = .ok () := by
    simp [checkText, doc_eq h, find_cons]
  obtain ⟨es, hes⟩ := h.parsed
  obtain ⟨e, rest, hcons⟩ := exists_cons_of_ne_nil h.nonempty
  have hnormal := h.normal
  rw [hcons, map_cons] at hnormal hentries hcanon
  rw [hcons] at hes
  rw [validateItems, hentries]
  refine bind_eq_ok.mpr ⟨_, hnormal, bind_eq_ok.mpr ⟨(), hname, bind_eq_ok.mpr ⟨(), hmode, ?_⟩⟩⟩
  refine bind_eq_ok.mpr ⟨_, strategyOf_doc h, bind_eq_ok.mpr ⟨es, by rw [hes]; rfl, ?_⟩⟩
  exact congrArg Except.ok hcanon

lemma set_doc : setMasterScheduleDoc py (.obj m.doc) none = .ok m := by
  refine bind_eq_ok.mpr ⟨m.doc, validate_doc h, bind_eq_ok.mpr ⟨_, strategyOf_doc h, ?_⟩⟩
  exact congrArg Except.ok (store_doc h)

end

lemma validateItems_cases {d canon : Dict Json} (h : validateItems py d = .ok canon) :
    ∃ e es entries, d.find "entries" = some (.arr (e :: es)) ∧
      normalizeEntries py 0 (e :: es) = .ok entries ∧
      checkText d "repeat_mode" "repeat_mode must be a string" = .ok () ∧
      (∃ parsed, ScheduleParser.fromEntries py entries = .ok parsed) ∧
      canon = (d.put "entries" (.arr (entries.map .obj))).erase "gen" := by
  unfold validateItems at h
  split at h
  · rename_i e es hfind
    obtain ⟨entries, hentries, h⟩ := bind_eq_ok.mp h
    obtain ⟨-, -, h⟩ := bind_eq_ok.mp h
    obtain ⟨_, hmode, h⟩ := bind_eq_ok.mp h
    obtain ⟨-, -, h⟩ := bind_eq_ok.mp h
    obtain ⟨parsed, hparsed, h⟩ := bind_eq_ok.mp h
    exact ⟨e, es, entries, hfind, hentries, hmode, ⟨parsed, Python.reraise_eq_ok hparsed⟩,
      (Except.ok.inj h).symm⟩
  · cases h

lemma entriesOf_canonical (entries : List (Dict Json)) (d : Dict Json) :
    entriesOf (((d.put "entries" (.arr (entries.map .obj))).erase "gen").find "entries") =
      entries := by
  rw [find_erase_of_ne (by decide), find_put_self, entriesOf, filterMap_map]
  exact filterMap_some

lemma canonical_of_set {d : Json} {strategy : Option Strategy}
    (h : setMasterScheduleDoc py d strategy = .ok m) : m.Canonical py := by
  obtain ⟨canon, hcanon, h⟩ := bind_eq_ok.mp h
  obtain ⟨own, -, h⟩ := bind_eq_ok.mp h
  cases h
  cases d with
  | obj items =>
    obtain ⟨e, es, entries, -, hentries, -, hparsed, rfl⟩ := validateItems_cases hcanon
    have hstored := entriesOf_canonical entries items
    refine ⟨?_, ?_, ?_, nodup_update nodup_nil, ?_⟩
    · rw [store, hstored]
      rintro rfl
      obtain ⟨entry, -, hentries⟩ := bind_eq_ok.mp hentries
      obtain ⟨rest, -, hentries⟩ := bind_eq_ok.mp hentries
      cases hentries
    · rw [store, hstored]
      exact normalizeEntries_of_ok hentries
    · rw [store, hstored]
      exact hparsed
    · intro key hkey
      rcases mem_keys_update.mp hkey with hnil | hkey
      · cases hnil
      · obtain ⟨p, hp, rfl⟩ := mem_map.mp hkey
        simpa using (mem_filter.mp hp).2
  | _ => cases hcanon

end Master

end HeimdallDaq.Federation
