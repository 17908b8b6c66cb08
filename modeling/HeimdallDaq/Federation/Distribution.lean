/-
  Federation/Distribution.lean --- the schedules of the members.

  The entries of the stored master schedule are dealt out to targets, in turn or by
  ranges of frequency, and each target gets a document of its own.
-/
import HeimdallDaq.Federation.MasterSchedule
import Mathlib.Data.Int.CardIntervalMod

namespace HeimdallDaq.Federation

open Foundation List

/-! ## Reading a document -/

namespace ScheduleParser

/-- `Schedule`, as `from_json` fills it. -/
structure Schedule where
  name : Json
  entries : List ScheduleEntry
  repeatMode : Json

variable (py : Python)

def fromElement : Json → Except PyError ScheduleEntry
  | .obj entry => fromEntry py entry
  | v => .error (.builtin .attribute v)

def fromItems (data : Dict Json) : Except PyError Schedule := do
  let elements ← ((data.find "entries").getD (.arr [])).elements
  let entries ← elements.mapM (fromElement py)
  pure { name := (data.find "name").getD (.str "json_schedule")
         entries := entries
         repeatMode := (data.find "repeat_mode").getD (.str "loop") }

def fromJson : Json → Except PyError Schedule
  | .obj data => fromItems py data
  | v => .error (.builtin .attribute v)

def intElements : Json → Json
  | .arr xs => .arr (xs.map fun x =>
    match py.int x with
    | .ok n => .int n
    | .error _ => x)
  | v => v

def ScheduleEntry.intGains (e : ScheduleEntry) : ScheduleEntry :=
  { e with gains := e.gains.map (intElements py) }

end ScheduleParser

open ScheduleParser

/-! ## Partitioning -/

section Partition

variable {ε : Type}

def dealFrom (keys : List String) : ℕ → List ε → Dict (List ε) → Dict (List ε)
  | _, [], parts => parts
  | i, entry :: entries, parts =>
    match keys[i % keys.length]? with
    | some key => dealFrom keys (i + 1) entries (parts.adjust key (· ++ [entry]))
    | none => parts

def partitionRoundRobin (keys : List String) (entries : List ε) : Dict (List ε) :=
  dealFrom keys 0 entries (Dict.update [] (keys.map fun key => (key, [])))

def partSize (base extra idx : ℕ) : ℕ := base + if idx < extra then 1 else 0

def cutFrom (ordered : List ε) (base extra : ℕ) :
    List String → ℕ → ℕ → Dict (List ε) → Dict (List ε)
  | [], _, _, parts => parts
  | key :: keys, idx, start, parts =>
    let size := partSize base extra idx
    cutFrom ordered base extra keys (idx + 1) (start + size)
      (parts.put key ((ordered.drop start).take size))

end Partition

variable (entry : Dict Json)

def frequencyOf : ℤ :=
  match entry.find "frequency" with
  | some (.int n) => n
  | _ => 0

def partitionRange (keys : List String) (entries : List (Dict Json)) : Dict (List (Dict Json)) :=
  let ordered := entries.mergeSort fun a b => decide (frequencyOf a ≤ frequencyOf b)
  cutFrom ordered (entries.length / keys.length) (entries.length % keys.length) keys 0 0 []

variable (m : Master)

def partitionSchedule (targets : List String) (strategy : Option Strategy) :
    Dict (List (Dict Json)) :=
  match targets with
  | [] => []
  | _ :: _ =>
    match strategy.getD m.strategy with
    | .range => partitionRange targets m.entries
    | .roundRobin => partitionRoundRobin targets m.entries

/-! ## Documents of the targets -/

def emitted (key : String) (value : Json) : Bool :=
  if key = "require_cal" then
    match value with
    | .bool false => true
    | _ => false
  else if key = "dwell_time_sec" ∨ key = "gains" then
    match value with
    | .null => false
    | _ => true
  else true

def entryOut : Dict Json := entry.filter fun p => emitted p.1 ((entry.find p.1).getD .null)

inductive Sched
  | entries (entries : List (Dict Json))
  | lists (frequencies gains dwellFrames : List Json)

def listEntries (py : Python) : List Json → List Json → List Json → Except PyError (List (Dict Json))
  | f :: fs, g :: gs, d :: ds => do
      let frequency ← py.int f
      let dwellFrames ← py.int d
      let gains ←
        match g with
        | .arr values => do
            let ns ← values.mapM py.int
            pure [("gains", Json.arr (ns.map .int))]
        | _ => pure []
      let rest ← listEntries py fs gs ds
      pure (([("frequency", .int frequency), ("dwell_frames", .int dwellFrames)] ++ gains) :: rest)
  | _, _, _ => .ok []

def Sched.entriesOut (py : Python) : Sched → Except PyError (List (Dict Json))
  | .entries es => .ok (es.map entryOut)
  | .lists fs gs ds => listEntries py fs gs ds

def buildScheduleJson (py : Python) (sched : Sched) (name : String) (gen : Option ℤ)
    (repeatMode : String) : Except PyError Json := do
  let entries ← sched.entriesOut py
  pure (.obj ([("name", .str name)]
    ++ (if repeatMode = "loop" then [] else [("repeat_mode", .str repeatMode)])
    ++ (gen.map fun g => ("gen", Json.int (g % 2 ^ 32))).toList
    ++ [("entries", .arr (entries.map .obj))]))

def targetDocument (py : Python) (m : Master) (sched : Sched) (nodeKey : String) (instanceId : ℤ)
    (extended : Bool) (gen : ℤ) : Except PyError (Json × Option ℤ) :=
  if extended then do
    let doc ← buildScheduleJson py sched (m.name ++ "@" ++ nodeKey) (some gen) m.repeatMode
    pure (doc, some gen)
  else do
    let doc ← buildScheduleJson py sched ("federation_inst" ++ toString instanceId) none m.repeatMode
    pure (doc, none)

/-! ## Every entry goes to one target -/

section Partition

variable {ε : Type}

def partOf (parts : Dict (List ε)) (key : String) : List ε := (parts.find key).getD []

variable {keys : List String} {key : String}

lemma perm_flatMap_of_append (hnodup : keys.Nodup)
    (hkey : key ∈ keys) {before after : String → List ε} {e : ε} (hself : after key = before key ++ [e])
    (hother : ∀ k, k ≠ key → after k = before k) :
    (keys.flatMap after).Perm (keys.flatMap before ++ [e]) := by
  induction keys with
  | nil => cases hkey
  | cons k rest ih =>
    obtain ⟨hk, hnodup⟩ := nodup_cons.mp hnodup
    rw [flatMap_cons, flatMap_cons]
    by_cases heq : k = key
    · subst heq
      have hrest : rest.flatMap after = rest.flatMap before := by
        refine flatMap_congr fun k' hk' => hother k' ?_
        rintro rfl
        exact hk hk'
      rw [hself, hrest, append_assoc, append_assoc]
      exact (perm_append_comm).append_left _
    · have hmem : key ∈ rest := (mem_cons.mp hkey).resolve_left (Ne.symm heq)
      rw [hother k heq, append_assoc]
      exact (ih hnodup hmem).append_left _

variable {parts : Dict (List ε)}

lemma partOf_adjust {e : ε} (hkey : key ∈ parts.keys) :
    partOf (parts.adjust key (· ++ [e])) key = partOf parts key ++ [e] := by
  obtain ⟨part, hpart⟩ := Dict.find_of_mem_keys hkey
  simp [partOf, Dict.find_adjust, hpart]

lemma dealFrom_spec (hnodup : keys.Nodup) (hne : keys ≠ []) :
    ∀ (i : ℕ) (entries : List ε) (parts : Dict (List ε)), parts.keys = keys →
      (dealFrom keys i entries parts).keys = keys ∧
        (keys.flatMap (partOf (dealFrom keys i entries parts))).Perm
          (keys.flatMap (partOf parts) ++ entries) := by
  intro i entries
  induction entries generalizing i with
  | nil =>
    intro parts hkeys
    exact ⟨hkeys, by rw [dealFrom, append_nil]⟩
  | cons e entries ih =>
    intro parts hkeys
    have hlt : i % keys.length < keys.length := Nat.mod_lt _ (length_pos_iff.mpr hne)
    have hmem : keys[i % keys.length] ∈ parts.keys := hkeys ▸ getElem_mem hlt
    have hstep := perm_flatMap_of_append hnodup (hkeys ▸ hmem) (partOf_adjust (e := e) hmem)
      fun k hk => by rw [partOf, Dict.find_adjust, if_neg hk, partOf]
    rw [dealFrom, getElem?_eq_getElem hlt]
    obtain ⟨hkeys', hperm⟩ := ih (i + 1) (parts.adjust keys[i % keys.length] (· ++ [e]))
      (by rw [Dict.keys_adjust, hkeys])
    refine ⟨hkeys', hperm.trans ?_⟩
    rw [append_cons]
    exact hstep.append_right _

lemma emptyParts (hnodup : keys.Nodup) :
    (Dict.update [] (keys.map fun key => (key, ([] : List ε)))).keys = keys ∧
      ∀ key, partOf (Dict.update [] (keys.map fun key => (key, ([] : List ε)))) key = [] := by
  have hkeys : Dict.keys (keys.map fun key => (key, ([] : List ε))) = keys := by
    simp [Dict.keys, Function.comp_def]
  rw [Dict.update_of_nodup (by rw [Dict.keys_nil, nil_append, hkeys]; exact hnodup), nil_append]
  refine ⟨hkeys, fun key => ?_⟩
  cases hfind : Dict.find key (keys.map fun key => (key, ([] : List ε))) with
  | none => rw [partOf, hfind]; rfl
  | some part =>
    obtain ⟨k, -, hk⟩ := mem_map.mp (Dict.mem_of_find hfind)
    cases hk
    rw [partOf, hfind]
    rfl

lemma partitionRoundRobin_spec (hnodup : keys.Nodup) (hne : keys ≠ [])
    (entries : List ε) :
    (partitionRoundRobin keys entries).keys = keys ∧
      (keys.flatMap (partOf (partitionRoundRobin keys entries))).Perm entries := by
  obtain ⟨hstart, hempty⟩ := emptyParts (ε := ε) hnodup
  obtain ⟨hkeys, hperm⟩ := dealFrom_spec hnodup hne 0 entries _ hstart
  rw [flatMap_eq_nil_iff.mpr fun key _ => hempty key] at hperm
  exact ⟨hkeys, hperm⟩

def everyNth (n j i : ℕ) (entries : List ε) : List ε :=
  ((entries.zipIdx i).filter fun p => decide (p.2 % n = j)).map Prod.fst

lemma partOf_dealFrom (hnodup : keys.Nodup) {j : ℕ} (hj : j < keys.length) :
    ∀ (i : ℕ) (entries : List ε) (parts : Dict (List ε)), parts.keys = keys →
      partOf (dealFrom keys i entries parts) keys[j] =
        partOf parts keys[j] ++ everyNth keys.length j i entries := by
  intro i entries
  induction entries generalizing i with
  | nil => exact fun parts _ => (append_nil _).symm
  | cons e entries ih =>
    intro parts hkeys
    have hlt : i % keys.length < keys.length := Nat.mod_lt _ (by omega)
    rw [dealFrom, getElem?_eq_getElem hlt, ih _ _ (by rw [Dict.keys_adjust, hkeys])]
    by_cases hij : i % keys.length = j
    · subst hij
      rw [partOf_adjust (hkeys ▸ getElem_mem hlt)]
      simp [everyNth]
    · have hne : keys[j] ≠ keys[i % keys.length] := fun heq =>
        hij ((hnodup.getElem_inj_iff).mp heq.symm)
      rw [partOf, Dict.find_adjust, if_neg hne, ← partOf]
      simp [everyNth, hij]

lemma partOf_roundRobin (hnodup : keys.Nodup) (entries : List ε) {j : ℕ}
    (hj : j < keys.length) :
    partOf (partitionRoundRobin keys entries) keys[j] = everyNth keys.length j 0 entries := by
  grind [emptyParts, partitionRoundRobin, partOf_dealFrom]

lemma length_everyNth {n j : ℕ} (hj : j < n) (entries : List ε) :
    (everyNth n j 0 entries).length = partSize (entries.length / n) (entries.length % n) j := by
  have hcount : (everyNth n j 0 entries).length = entries.length.count (· ≡ j [MOD n]) := by
    have hsnd := zipIdx_map_snd 0 entries
    rw [← range_eq_range'] at hsnd
    rw [everyNth, length_map, ← countP_eq_length_filter, Nat.count, ← hsnd, countP_map]
    grind [countP_congr, Nat.ModEq, Nat.mod_eq_of_lt]
  rw [hcount, Nat.count_modEq_card _ (by omega), Nat.mod_eq_of_lt hj, partSize]

def partSizes (base extra : ℕ) : ℕ → ℕ → ℕ
  | _, 0 => 0
  | idx, n + 1 => partSize base extra idx + partSizes base extra (idx + 1) n

lemma partSizes_eq (base extra idx n : ℕ) :
    partSizes base extra idx n = n * base + min (extra - idx) n := by
  induction n generalizing idx with
  | zero => simp [partSizes]
  | succ n ih => grind [partSizes, partSize]

lemma keys_put_cut
    (h : (parts.keys ++ key :: keys).Nodup) (part : List ε) :
    key ∉ parts.keys ∧ (parts.put key part).keys = parts.keys ++ [key] := by
  have hkey : key ∉ parts.keys := fun hmem =>
    (nodup_append.mp h).2.2 key hmem key mem_cons_self rfl
  refine ⟨hkey, ?_⟩
  rw [Dict.put_of_not_mem hkey, Dict.keys_append]
  rfl

variable (ordered : List ε)

lemma cutFrom_spec (base extra : ℕ) :
    ∀ (keys : List String) (idx start : ℕ) (parts : Dict (List ε)), (parts.keys ++ keys).Nodup →
      (cutFrom ordered base extra keys idx start parts).keys = parts.keys ++ keys ∧
        (∀ key ∈ parts.keys, Dict.find key (cutFrom ordered base extra keys idx start parts) =
          parts.find key) ∧
        keys.flatMap (partOf (cutFrom ordered base extra keys idx start parts)) =
          (ordered.drop start).take (partSizes base extra idx keys.length) := by
  intro keys
  induction keys with
  | nil =>
    intro idx start parts _
    exact ⟨(append_nil _).symm, fun _ _ => rfl, by simp [partSizes]⟩
  | cons key keys ih =>
    intro idx start parts hnodup
    obtain ⟨hkey, hput⟩ := keys_put_cut hnodup ((ordered.drop start).take (partSize base extra idx))
    obtain ⟨hkeys, hkept, hcut⟩ := ih (idx + 1) (start + partSize base extra idx)
      (parts.put key ((ordered.drop start).take (partSize base extra idx)))
      (by rw [hput, append_assoc]; exact hnodup)
    have hself : partOf (cutFrom ordered base extra (key :: keys) idx start parts) key =
        (ordered.drop start).take (partSize base extra idx) := by
      rw [partOf, cutFrom, hkept key (by rw [hput]; simp), Dict.find_put_self]
      rfl
    refine ⟨?_, ?_, ?_⟩
    · rw [cutFrom, hkeys, hput, append_assoc]
      rfl
    · intro k hk
      rw [cutFrom, hkept k (by rw [hput]; exact mem_append_left _ hk), Dict.find_put_of_ne]
      rintro rfl
      exact hkey hk
    · rw [flatMap_cons, hself]
      rw [cutFrom, hcut, length_cons, partSizes, take_add, drop_drop]

lemma partOf_cutFrom (base extra : ℕ) :
    ∀ (keys : List String) (idx start : ℕ) (parts : Dict (List ε)), (parts.keys ++ keys).Nodup →
      ∀ j (hj : j < keys.length), partOf (cutFrom ordered base extra keys idx start parts) keys[j] =
        (ordered.drop (start + partSizes base extra idx j)).take (partSize base extra (idx + j)) := by
  intro keys
  induction keys with
  | nil => exact fun _ _ _ _ j hj => absurd hj (Nat.not_lt_zero j)
  | cons key keys ih =>
    intro idx start parts hnodup j hj
    obtain ⟨-, hput⟩ := keys_put_cut hnodup ((ordered.drop start).take (partSize base extra idx))
    have hrest := hput ▸ append_cons _ _ _ ▸ hnodup
    cases j with
    | zero =>
      rw [getElem_cons_zero, cutFrom, partOf, (cutFrom_spec _ _ _ _ _ _ _ hrest).2.1 key
        (by rw [hput]; simp), Dict.find_put_self]
      simp [partSizes]
    | succ j => grind [cutFrom, partSizes]

lemma partSize_balanced (base extra : ℕ) {i j : ℕ} (hij : i ≤ j) :
    partSize base extra j ≤ partSize base extra i ∧
      partSize base extra i ≤ partSize base extra j + 1 := by
  unfold partSize
  split_ifs <;> omega

@[local grind]
def AllParts (P : ε → Prop) (parts : Dict (List ε)) : Prop := ∀ p ∈ parts, ∀ e ∈ p.2, P e

lemma sublist_dealFrom (keys : List String) {all : List ε} :
    ∀ (i : ℕ) (entries : List ε) (parts : Dict (List ε)),
      (∀ p ∈ parts, (p.2 ++ entries).Sublist all) →
      ∀ p ∈ dealFrom keys i entries parts, p.2.Sublist all := by
  intro i entries
  induction entries generalizing i with
  | nil =>
    intro parts hparts p hp
    simpa using hparts p hp
  | cons entry entries ih =>
    intro parts hparts
    unfold dealFrom
    split
    · refine ih (i + 1) _ ?_
      intro p hp
      obtain ⟨old, hold, rfl⟩ := mem_map.mp hp
      split_ifs
      · simpa using hparts old hold
      · exact ((sublist_cons_self entry entries).append_left old.2).trans (hparts old hold)
    · intro p hp
      exact (sublist_append_left p.2 (entry :: entries)).trans (hparts p hp)

lemma sublist_cutFrom (ordered : List ε) (base extra : ℕ) :
    ∀ (keys : List String) (idx start : ℕ) (parts : Dict (List ε)),
      (∀ p ∈ parts, p.2.Sublist ordered) →
      ∀ p ∈ cutFrom ordered base extra keys idx start parts, p.2.Sublist ordered := by
  intro keys
  induction keys with
  | nil => exact fun _ _ parts hparts => hparts
  | cons key keys ih =>
    intro idx start parts hparts
    refine ih _ _ _ ?_
    intro p hp
    rcases Dict.mem_put hp with rfl | hp
    · exact (take_sublist _ _).trans (drop_sublist _ _)
    · exact hparts p hp

end Partition

variable (entries : List (Dict Json))

@[local grind]
def byFrequency : List (Dict Json) :=
  entries.mergeSort fun a b => decide (frequencyOf a ≤ frequencyOf b)

lemma pairwise_byFrequency :
    (byFrequency entries).Pairwise fun a b => frequencyOf a ≤ frequencyOf b := by
  grind [pairwise_mergeSort]

lemma filter_byFrequency (f : ℤ) :
    (byFrequency entries).filter (fun e => decide (frequencyOf e = f)) =
      entries.filter fun e => decide (frequencyOf e = f) := by
  have hsame : (entries.filter fun e => decide (frequencyOf e = f)).Sublist (byFrequency entries) := by
    grind [sublist_mergeSort, filter_sublist, pairwise_of_forall_mem_list]
  have hfilter := hsame.filter fun e => decide (frequencyOf e = f)
  rw [filter_filter, funext fun e => Bool.and_self (decide (frequencyOf e = f))] at hfilter
  refine (hfilter.eq_of_length ?_).symm
  exact ((mergeSort_perm entries _).filter _).length_eq.symm

lemma partitionRange_spec {keys : List String} (hnodup : keys.Nodup) (hne : keys ≠ [])
    (entries : List (Dict Json)) :
    (partitionRange keys entries).keys = keys ∧
      keys.flatMap (partOf (partitionRange keys entries)) = byFrequency entries ∧
      ∀ j (hj : j < keys.length), (partOf (partitionRange keys entries) keys[j]).length =
        partSize (entries.length / keys.length) (entries.length % keys.length) j := by
  have hpos : 0 < keys.length := length_pos_iff.mpr hne
  have hlength : (byFrequency entries).length = entries.length := length_mergeSort entries
  have hsizes := partSizes_eq (entries.length / keys.length) (entries.length % keys.length) 0
  have hdiv := Nat.div_add_mod entries.length keys.length
  have hmod := Nat.mod_lt entries.length hpos
  obtain ⟨hkeys, -, hcut⟩ := cutFrom_spec (byFrequency entries)
    (entries.length / keys.length) (entries.length % keys.length) keys 0 0 [] hnodup
  refine ⟨hkeys, hcut.trans ?_, fun j hj => ?_⟩
  · grind
  · -- what is left from the part on is at least the part
    have hstep := hsizes (j + 1)
    have hle : (j + 1) * (entries.length / keys.length) ≤
        keys.length * (entries.length / keys.length) := Nat.mul_le_mul_right _ hj
    have hsucc : partSizes (entries.length / keys.length) (entries.length % keys.length) 0 (j + 1) =
        partSizes (entries.length / keys.length) (entries.length % keys.length) 0 j +
          partSize (entries.length / keys.length) (entries.length % keys.length) j := by
      rw [hsizes, hsizes, partSize, Nat.succ_mul]
      split_ifs <;> omega
    rw [partitionRange, ← byFrequency, partOf_cutFrom _ _ _ _ _ _ [] hnodup j hj, length_take,
      length_drop, hlength, Nat.zero_add, Nat.zero_add]
    omega

variable {targets : List String}

lemma partitionSchedule_spec (hnodup : targets.Nodup)
    (hne : targets ≠ []) (strategy : Option Strategy) :
    (partitionSchedule m targets strategy).keys = targets ∧
      (targets.flatMap (partOf (partitionSchedule m targets strategy))).Perm m.entries := by
  have hsorted : (byFrequency m.entries).Perm m.entries := mergeSort_perm _ _
  unfold partitionSchedule
  grind [partitionRange_spec, partitionRoundRobin_spec]

lemma length_partOf_partitionSchedule
    (hnodup : targets.Nodup) (strategy : Option Strategy) {j : ℕ} (hj : j < targets.length) :
    (partOf (partitionSchedule m targets strategy) targets[j]).length =
      partSize (m.entries.length / targets.length) (m.entries.length % targets.length) j := by
  have hne : targets ≠ [] := ne_nil_of_length_pos (by omega)
  obtain ⟨target, rest, rfl⟩ := exists_cons_of_ne_nil hne
  grind [partitionSchedule, partitionRange_spec, partOf_roundRobin, length_everyNth]

/-- Every entry goes to exactly one target, no target has two more than another and the larger
parts come first.  Dealing in turn gives a target the entries of its residue in their order;
ranges follow each other in the order of frequency, entries of one frequency in their order. -/
theorem partitionSchedule_exact (m : Master) {targets : List String} (hnodup : targets.Nodup)
    (hne : targets ≠ []) (strategy : Option Strategy) :
    (partitionSchedule m targets strategy).keys = targets ∧
      (targets.flatMap (partOf (partitionSchedule m targets strategy))).Perm m.entries ∧
      (∀ i j (hij : i ≤ j) (hj : j < targets.length),
        (partOf (partitionSchedule m targets strategy) targets[j]).length ≤
          (partOf (partitionSchedule m targets strategy) targets[i]).length ∧
        (partOf (partitionSchedule m targets strategy) targets[i]).length ≤
          (partOf (partitionSchedule m targets strategy) targets[j]).length + 1) ∧
      (strategy.getD m.strategy = .roundRobin → ∀ j (hj : j < targets.length),
        partOf (partitionSchedule m targets strategy) targets[j] =
          (m.entries.zipIdx.filter fun p => decide (p.2 % targets.length = j)).map Prod.fst) ∧
      (strategy.getD m.strategy = .range →
        (targets.flatMap (partOf (partitionSchedule m targets strategy))).Pairwise
          (fun a b => frequencyOf a ≤ frequencyOf b) ∧
        ∀ f, (targets.flatMap (partOf (partitionSchedule m targets strategy))).filter
            (fun e => decide (frequencyOf e = f)) =
          m.entries.filter fun e => decide (frequencyOf e = f)) := by
  obtain ⟨hkeys, hperm⟩ := partitionSchedule_spec m hnodup hne strategy
  refine ⟨hkeys, hperm, fun i j hij hj => ?_, fun hstrategy j hj => ?_, fun hstrategy => ?_⟩
  · rw [length_partOf_partitionSchedule m hnodup strategy hj,
      length_partOf_partitionSchedule m hnodup strategy (hij.trans_lt hj)]
    exact partSize_balanced _ _ hij
  all_goals obtain ⟨target, rest, rfl⟩ := exists_cons_of_ne_nil hne
  · simp only [partitionSchedule, hstrategy]
    exact partOf_roundRobin hnodup m.entries hj
  · simp only [partitionSchedule, hstrategy]
    rw [(partitionRange_spec hnodup hne m.entries).2.1]
    exact ⟨pairwise_byFrequency m.entries, filter_byFrequency m.entries⟩

@[local grind]
def tied : Master where
  name := "federation"
  repeatMode := "loop"
  entries := [[("frequency", .int 2)], [("frequency", .int 1), ("label", .str "first")],
    [("frequency", .int 1)]]
  strategy := .range
  extra := []

theorem partitionSchedule_exact_tied :
    (partOf (partitionSchedule tied ["a", "b"] none) "b").length ≤
        (partOf (partitionSchedule tied ["a", "b"] none) "a").length ∧
      ∀ f, (["a", "b"].flatMap (partOf (partitionSchedule tied ["a", "b"] none))).filter
          (fun e => decide (frequencyOf e = f)) =
        tied.entries.filter fun e => decide (frequencyOf e = f) := by
  obtain ⟨-, -, hloads, -, hrange⟩ := partitionSchedule_exact tied
    (by decide : ["a", "b"].Nodup) (by decide) none
  exact ⟨(hloads 0 1 (by decide) (by decide)).1, (hrange rfl).2⟩

lemma subperm_of_mem {m : Master} {strategy : Option Strategy} {p : String × List (Dict Json)}
    (h : p ∈ partitionSchedule m targets strategy) : p.2.Subperm m.entries := by
  unfold partitionSchedule at h
  split at h
  · cases h
  · split at h
    · have hsub := sublist_cutFrom _ _ _ _ _ _ [] nofun _ h
      exact hsub.subperm.trans (mergeSort_perm _ _).subperm
    · refine (sublist_dealFrom _ 0 m.entries _ ?_ _ h).subperm
      intro p hp
      rcases Dict.mem_update hp with hp | hp
      all_goals grind

lemma mem_of_partitionSchedule {m : Master} {strategy : Option Strategy}
    {target : String} {part : List (Dict Json)}
    (h : (partitionSchedule m targets strategy).find target = some part) :
    ∀ e ∈ part, e ∈ m.entries := by
  have hall : AllParts (· ∈ m.entries) (partitionSchedule m targets strategy) :=
    fun _ hp => (subperm_of_mem hp).subset
  exact hall _ (Dict.mem_of_find h)

/-! ## What a check does to what the parser reads -/

namespace Entry

variable {py : Python} {index : ℕ} {o v : Option Json}

lemma int_of_checkedInt {what : String} {w : Json} {n : ℤ} (h : checkedInt py what w = .ok n) :
    py.int w = .ok n := by
  unfold checkedInt at h
  split at h
  · cases h
  · exact Python.reraise_eq_ok h

lemma frequency_spec (h : frequency py index o = .ok v) :
    ∃ w n, o = some w ∧ py.int w = .ok n ∧ v = some (.int n) := by
  cases o with
  | none => cases h
  | some w =>
    obtain ⟨n, hn, h⟩ := bind_eq_ok.mp h
    split at h
    · exact ⟨w, n, rfl, int_of_checkedInt hn, (Except.ok.inj h).symm⟩
    · cases h

lemma dwellFrames_spec (h : dwellFrames py index o = .ok v) :
    ∃ n, py.int (o.getD (.int 100)) = .ok n ∧ py.int (v.getD (.int 100)) = .ok n := by
  cases o with
  | none =>
    cases h
    exact ⟨100, rfl, rfl⟩
  | some w =>
    obtain ⟨n, hn, h⟩ := bind_eq_ok.mp h
    split at h
    · cases h
    · cases h
      exact ⟨n, int_of_checkedInt hn, rfl⟩

lemma dwellTimeSec_spec (h : dwellTimeSec py index o = .ok v) :
    ∃ t, dwellTime py o = .ok t ∧ dwellTime py v = .ok t := by
  unfold dwellTimeSec at h
  split at h
  · cases h
    exact ⟨none, rfl, rfl⟩
  · cases h
    exact ⟨none, rfl, rfl⟩
  · rename_i w hnull
    obtain ⟨x, hx, h⟩ := bind_eq_ok.mp h
    split at h
    · cases h
      refine ⟨some x, ?_, rfl⟩
      rw [dwellTime, Python.reraise_eq_ok hx]
      · rfl
      · exact hnull
    · cases h

lemma requireCal_spec (h : requireCal index o = .ok v) :
    v = o ∧ ∀ w, o = some w → ∃ b, w = .bool b := by
  unfold requireCal at h
  grind

lemma intElements_of_checkedInts {what : String} {xs : List Json} {ns : List ℤ}
    (h : checkedInts py what xs = .ok ns) : intElements py (.arr xs) = .arr (ns.map .int) := by
  induction xs generalizing ns with
  | nil =>
    cases h
    rfl
  | cons x xs ih =>
    obtain ⟨n, hn, h⟩ := bind_eq_ok.mp h
    obtain ⟨rest, hrest, h⟩ := bind_eq_ok.mp h
    cases h
    grind [ScheduleParser.intElements, int_of_checkedInt]

lemma gains_spec (h : gains py index o = .ok v) :
    Json.given v = (Json.given o).map (intElements py) := by
  unfold gains at h
  split at h
  · cases h
    rfl
  · cases h
    rfl
  · rename_i g gs
    obtain ⟨ns, hns, h⟩ := bind_eq_ok.mp h
    cases h
    rw [Json.given, Json.given, Option.map_some, intElements_of_checkedInts hns]
    all_goals nofun
  · cases h

end Entry

section Reading

variable {py : Python}

/-- What each check made of its key. -/
@[local grind]
structure Normalizes (py : Python) (index : ℕ) (raw entry : Dict Json) : Prop where
  frequency : Entry.frequency py index (raw.find "frequency") = .ok (entry.find "frequency")
  gains : Entry.gains py index (raw.find "gains") = .ok (entry.find "gains")
  dwellFrames : Entry.dwellFrames py index (raw.find "dwell_frames") = .ok (entry.find "dwell_frames")
  dwellTimeSec :
    Entry.dwellTimeSec py index (raw.find "dwell_time_sec") = .ok (entry.find "dwell_time_sec")
  requireCal : Entry.requireCal index (raw.find "require_cal") = .ok (entry.find "require_cal")

variable {index : ℕ} {raw entry : Dict Json}

lemma normalizes_of_ok
    (h : normalizeEntry py index (.obj raw) = .ok entry) : Normalizes py index raw entry := by
  have hfind := find_of_normalizeEntry h
  simp only [Entry.checks, forall_mem_cons, not_mem_nil, false_implies, implies_true,
    and_true] at hfind
  grind

lemma fromEntry_eq_ok {d : Dict Json} {w : Json} {f n : ℤ} {t : Option PyFloat}
    (hw : d.find "frequency" = some w) (hf : py.int w = .ok f)
    (hn : py.int ((d.find "dwell_frames").getD (.int 100)) = .ok n)
    (ht : dwellTime py (d.find "dwell_time_sec") = .ok t) :
    fromEntry py d = .ok
      { frequency := f
        gains := Json.given (d.find "gains")
        dwellFrames := n
        requireCal := (d.find "require_cal").getD (.bool true)
        dwellTimeSec := t } := by
  rw [fromEntry, hw, hn, ht]
  simp only [hf]
  rfl

lemma fromEntry_of_normalizeEntry
    (h : normalizeEntry py index (.obj raw) = .ok entry) :
    ∃ r, fromEntry py raw = .ok r ∧ fromEntry py entry = .ok (r.intGains py) := by
  have hchecks := normalizes_of_ok h
  obtain ⟨w, f, hw, hf, hfreq⟩ := Entry.frequency_spec hchecks.frequency
  obtain ⟨n, hn, hn'⟩ := Entry.dwellFrames_spec hchecks.dwellFrames
  obtain ⟨t, ht, ht'⟩ := Entry.dwellTimeSec_spec hchecks.dwellTimeSec
  obtain ⟨hcal, -⟩ := Entry.requireCal_spec hchecks.requireCal
  have hgains := Entry.gains_spec hchecks.gains
  refine ⟨_, fromEntry_eq_ok hw hf hn ht, ?_⟩
  rw [fromEntry_eq_ok hfreq rfl hn' ht', hcal, hgains]
  rfl

lemma find_entryOut (key : String) (entry : Dict Json) : (entryOut entry).find key =
      if emitted key ((entry.find key).getD .null) then entry.find key else none :=
  Dict.find_filter (fun key => emitted key ((entry.find key).getD .null)) key entry

lemma fromEntry_entryOut {entry : Dict Json}
    (hcal : ∀ w, entry.find "require_cal" = some w → ∃ b, w = .bool b) :
    fromEntry py (entryOut entry) = fromEntry py entry := by
  have hfreq : (entryOut entry).find "frequency" = entry.find "frequency" := by
    simp [find_entryOut, emitted]
  have hframes : (entryOut entry).find "dwell_frames" = entry.find "dwell_frames" := by
    simp [find_entryOut, emitted]
  have hgains : Json.given ((entryOut entry).find "gains") = Json.given (entry.find "gains") := by
    rw [find_entryOut]
    rcases entry.find "gains" with _ | ⟨_ | _ | _ | _ | _ | _ | _⟩ <;> rfl
  have htime : dwellTime py ((entryOut entry).find "dwell_time_sec") =
      dwellTime py (entry.find "dwell_time_sec") := by
    rw [find_entryOut]
    rcases entry.find "dwell_time_sec" with _ | ⟨_ | _ | _ | _ | _ | _ | _⟩ <;> rfl
  have hrequire : ((entryOut entry).find "require_cal").getD (.bool true) =
      (entry.find "require_cal").getD (.bool true) := by
    rw [find_entryOut]
    cases hfind : entry.find "require_cal" with
    | none => rfl
    | some w =>
      obtain ⟨b, rfl⟩ := hcal w hfind
      cases b <;> rfl
  grind [ScheduleParser.fromEntry]

variable {es : List Json} {entries : List (Dict Json)}

section

variable (h : normalizeEntries py index es = .ok entries)
include h

lemma fromEntries_of_normalizeEntries :
    ∃ rs : List ScheduleEntry, es.mapM (fromElement py) = .ok rs ∧
      fromEntries py entries = .ok (rs.map (ScheduleEntry.intGains py)) := by
  induction es generalizing index entries with
  | nil =>
    cases h
    exact ⟨[], rfl, rfl⟩
  | cons e es ih =>
    obtain ⟨entry, hentry, h⟩ := bind_eq_ok.mp h
    obtain ⟨rest, hrest, h⟩ := bind_eq_ok.mp h
    cases h
    cases e with
    | obj raw =>
      obtain ⟨r, hr, hr'⟩ := fromEntry_of_normalizeEntry hentry
      obtain ⟨rs, hrs, hrs'⟩ := ih hrest
      refine ⟨r :: rs, ?_, ?_⟩
      · rw [mapM_cons]
        exact bind_eq_ok.mpr ⟨r, hr, bind_eq_ok.mpr ⟨rs, hrs, rfl⟩⟩
      · rw [fromEntries, mapM_cons]
        exact bind_eq_ok.mpr ⟨_, hr', bind_eq_ok.mpr ⟨_, hrs', rfl⟩⟩
    | _ => cases hentry

lemma normalizes_of_mem : ∀ entry ∈ entries, ∃ i raw, Normalizes py i raw entry := by
  induction es generalizing index entries with
  | nil =>
    cases h
    nofun
  | cons e es ih =>
    obtain ⟨entry, hentry, h⟩ := bind_eq_ok.mp h
    obtain ⟨rest, hrest, h⟩ := bind_eq_ok.mp h
    cases h
    rw [forall_mem_cons]
    refine ⟨?_, ih hrest⟩
    cases e with
    | obj raw => exact ⟨index, raw, normalizes_of_ok hentry⟩
    | _ => cases hentry

lemma requireCal_of_normalizeEntries :
    ∀ entry ∈ entries, ∀ w, entry.find "require_cal" = some w → ∃ b, w = .bool b := by
  grind [normalizes_of_mem, Entry.requireCal_spec]

end

variable {part : List (Dict Json)}

lemma mapM_entryOut
    (hcal : ∀ entry ∈ part, ∀ w, entry.find "require_cal" = some w → ∃ b, w = .bool b) :
    ((part.map entryOut).map Json.obj).mapM (fromElement py) = fromEntries py part := by
  induction part with
  | nil => rfl
  | cons entry part ih =>
    obtain ⟨hentry, hpart⟩ := forall_mem_cons.mp hcal
    grind [ScheduleParser.fromEntries, ScheduleParser.fromElement, fromEntry_entryOut]

variable {rs : List ScheduleEntry}

lemma fromItems_eq_ok {data : Dict Json} {xs : List Json}
    (hxs : data.find "entries" = some (.arr xs)) (hrs : xs.mapM (fromElement py) = .ok rs) :
    fromItems py data = .ok
      { name := (data.find "name").getD (.str "json_schedule")
        entries := rs
        repeatMode := (data.find "repeat_mode").getD (.str "loop") } := by
  rw [fromItems, hxs]
  exact bind_eq_ok.mpr ⟨xs, rfl, bind_eq_ok.mpr ⟨rs, hrs, rfl⟩⟩

lemma find_built (name mode : String) (gen : Option ℤ) (entries : Json) :
    let doc : Dict Json := [("name", .str name)]
      ++ (if mode = "loop" then [] else [("repeat_mode", .str mode)])
      ++ (gen.map fun g => ("gen", Json.int (g % 2 ^ 32))).toList ++ [("entries", entries)]
    doc.find "name" = some (.str name) ∧ doc.find "entries" = some entries ∧
      (doc.find "repeat_mode").getD (.str "loop") = .str mode := by
  by_cases hmode : mode = "loop"
  · cases gen <;> simp [hmode, Dict.find_cons]
  · cases gen <;> simp [hmode, Dict.find_cons]

lemma fromJson_targetDocument (m : Master) (nodeKey : String)
    (instanceId : ℤ) (extended : Bool) (gen : ℤ)
    (hcal : ∀ entry ∈ part, ∀ w, entry.find "require_cal" = some w → ∃ b, w = .bool b)
    (hread : fromEntries py part = .ok rs) :
    ∃ doc name, targetDocument py m (.entries part) nodeKey instanceId extended gen = .ok doc ∧
      fromJson py doc.1 = .ok
        { name := .str name, entries := rs, repeatMode := .str m.repeatMode } := by
  have hbuild : ∀ name gen, ∃ doc, buildScheduleJson py (.entries part) name gen m.repeatMode = .ok doc ∧
      fromJson py doc = .ok
        { name := .str name, entries := rs, repeatMode := .str m.repeatMode } := by
    intro name gen
    refine ⟨_, rfl, ?_⟩
    obtain ⟨hname, hentries, hmode⟩ := find_built name m.repeatMode gen
      (.arr ((part.map entryOut).map .obj))
    refine (fromItems_eq_ok hentries ((mapM_entryOut hcal).trans hread)).trans ?_
    rw [hname, hmode]
    rfl
  unfold targetDocument
  split_ifs
  · obtain ⟨doc, hdoc, hread⟩ := hbuild (m.name ++ "@" ++ nodeKey) (some gen)
    exact ⟨(doc, some gen), _, bind_eq_ok.mpr ⟨doc, hdoc, rfl⟩, hread⟩
  · obtain ⟨doc, hdoc, hread⟩ := hbuild ("federation_inst" ++ toString instanceId) none
    exact ⟨(doc, none), _, bind_eq_ok.mpr ⟨doc, hdoc, rfl⟩, hread⟩

lemma cases_of_validate {d : Json} {canon : Dict Json} (h : validateScheduleDoc py d = .ok canon)
    (strategy : Strategy) :
    ∃ (items : Dict Json) (es : List Json), d = .obj items ∧ items.find "entries" = some (.arr es) ∧
      normalizeEntries py 0 es = .ok (Master.store canon strategy).entries ∧
      (items.find "repeat_mode").getD (.str "loop") =
        .str (Master.store canon strategy).repeatMode := by
  cases d with
  | obj items =>
    obtain ⟨e, es, entries, hfind, hentries, hmode, -, rfl⟩ := Master.validateItems_cases h
    refine ⟨items, e :: es, rfl, hfind, ?_, ?_⟩
    · rw [Master.store, Master.entriesOf_canonical]
      exact hentries
    · have hkept : Dict.find "repeat_mode"
          (Dict.erase "gen" (Dict.put "entries" (.arr (entries.map .obj)) items)) =
            Dict.find "repeat_mode" items := by
        rw [Dict.find_erase_of_ne (by decide), Dict.find_put_of_ne _ _ (by decide)]
      rw [Master.store, hkept]
      unfold ScheduleDoc.checkText at hmode
      split at hmode
      · rename_i hnone
        rw [hnone]
        rfl
      · rename_i mode hsome
        rw [hsome]
        rfl
      · cases hmode
  | _ => cases h

end Reading

/-- The members together read what the master document says, up to integer gains, each its own
part in the order of the partition. -/
theorem distribution_preserves_entries {py : Python} {doc : Json} {chosen : Option Strategy}
    {m : Master} (hset : setMasterScheduleDoc py doc chosen = .ok m) {targets : List String}
    (hne : targets ≠ []) (hdistinct : targets.Nodup) (strategy : Option Strategy)
    (instanceId : String → ℤ) (extended : String → Bool) (gen : ℤ) :
    ∃ (master : Schedule) (sent : String → Schedule), fromJson py doc = .ok master ∧
      (∀ t ∈ targets, ∃ part document, (partitionSchedule m targets strategy).find t = some part ∧
        targetDocument py m (.entries part) t (instanceId t) (extended t) gen = .ok document ∧
        fromJson py document.1 = .ok (sent t) ∧
        fromEntries py part = .ok (sent t).entries ∧
        (sent t).repeatMode = master.repeatMode) ∧
      (targets.flatMap fun t => (sent t).entries).Perm
        (master.entries.map (ScheduleEntry.intGains py)) := by
  obtain ⟨canon, hcanon, hset⟩ := bind_eq_ok.mp hset
  obtain ⟨own, -, hset⟩ := bind_eq_ok.mp hset
  cases hset
  obtain ⟨items, es, rfl, hfind, hnormal, hmode⟩ := cases_of_validate hcanon
    ((chosen.or own).getD .roundRobin)
  generalize Master.store canon ((chosen.or own).getD .roundRobin) = m at hnormal hmode ⊢
  obtain ⟨rs, hrs, hstored⟩ := fromEntries_of_normalizeEntries hnormal
  have hcal := requireCal_of_normalizeEntries hnormal
  obtain ⟨hkeys, hperm⟩ := partitionSchedule_spec m hdistinct hne strategy
  -- what is read from an entry of the stored schedule
  obtain ⟨read, hread, hmap⟩ := exists_map_of_mapM ⟨0, none, 0, .null, none⟩ hstored
  have hpart : ∀ t ∈ targets, ∀ e ∈ partOf (partitionSchedule m targets strategy) t, e ∈ m.entries :=
    fun t ht e he => hperm.subset (mem_flatMap.mpr ⟨t, ht, he⟩)
  have hparts : ∀ t ∈ targets, fromEntries py (partOf (partitionSchedule m targets strategy) t) =
      .ok ((partOf (partitionSchedule m targets strategy) t).map read) := by
    intro t ht
    rw [fromEntries, mapM_eq_ok_iff, forall₂_map_right_iff, forall₂_same]
    exact fun e he => hread e (hpart t ht e he)
  choose! document name hdocument hfrom using fun t (ht : t ∈ targets) =>
    fromJson_targetDocument m t (instanceId t) (extended t) gen
      (fun e he => hcal e (hpart t ht e he)) (hparts t ht)
  refine ⟨_, fun t => ⟨.str (name t), (partOf (partitionSchedule m targets strategy) t).map read,
    .str m.repeatMode⟩, fromItems_eq_ok hfind hrs, ?_, ?_⟩
  · intro t ht
    obtain ⟨part, hfind⟩ := Dict.find_of_mem_keys (hkeys.symm ▸ ht)
    have hpartOf : partOf (partitionSchedule m targets strategy) t = part := by
      rw [partOf, hfind]
      rfl
    refine ⟨part, document t, hfind, ?_, ?_, ?_, ?_⟩
    · rw [← hpartOf]
      exact hdocument t ht
    · exact hfrom t ht
    · rw [← hpartOf]
      exact hparts t ht
    · exact hmode.symm
  · rw [← hmap, ← map_flatMap]
    exact hperm.map read

namespace TextGain

@[local grind]
def interpreter : Python where
  intOfText s := if s = "10" then some 10 else none
  floatOfText _ := none
  floatOfInt _ := none
  repr _ := ""
  errorText _ _ := ""
  isSpace _ := false
  lower := id

@[local grind]
def document : Json :=
  .obj [("entries", .arr [.obj [("frequency", .int 433000000), ("gains", .arr [.str "10"])]])]

def master : Master where
  name := "federation"
  repeatMode := "loop"
  entries := [[("frequency", .int 433000000), ("gains", .arr [.int 10])]]
  strategy := .roundRobin
  extra := []

lemma stored : setMasterScheduleDoc interpreter document none = .ok master := rfl

/-- The member gets an integer where the master document has a text; without targets nothing
is distributed. -/
theorem text_gain_converted : setMasterScheduleDoc interpreter document none = .ok master ∧
      (fromJson interpreter document).map (·.entries.map (·.gains)) =
        .ok [some (.arr [.str "10"])] ∧
      partitionSchedule master ["a:0"] none = [("a:0", master.entries)] ∧
      (targetDocument interpreter master (.entries master.entries) "a:0" 0 true 1 >>= fun doc =>
        (fromJson interpreter doc.1).map (·.entries.map (·.gains))) = .ok [some (.arr [.int 10])] ∧
      partitionSchedule master [] none = [] :=
  ⟨stored, rfl, rfl, rfl, rfl⟩

theorem distribution_preserves_entries_two : ∃ (read : Schedule) (sent : String → Schedule),
      fromJson interpreter document = .ok read ∧
      (∀ t ∈ ["a:0", "b:0"], ∃ part doc,
        (partitionSchedule master ["a:0", "b:0"] (some .range)).find t = some part ∧
        targetDocument interpreter master (.entries part) t 0 true 7 = .ok doc ∧
        fromJson interpreter doc.1 = .ok (sent t) ∧
        fromEntries interpreter part = .ok (sent t).entries ∧
        (sent t).repeatMode = read.repeatMode) ∧
      (["a:0", "b:0"].flatMap fun t => (sent t).entries).Perm
        (read.entries.map (ScheduleEntry.intGains interpreter)) :=
  distribution_preserves_entries stored (by decide) (by decide) (some .range) (fun _ => 0)
    (fun _ => true) 7

end TextGain

end HeimdallDaq.Federation
