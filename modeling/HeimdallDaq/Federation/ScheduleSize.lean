/-
  Federation/ScheduleSize.lean --- the size check of SCHEDULE SET.

  A member takes a document of at most `SCHB_LIMIT` bytes.
-/
import HeimdallDaq.Federation.Distribution
import HeimdallDaq.Federation.MemberIdentity
import HeimdallDaq.Foundation.JsonText

namespace HeimdallDaq.Federation

open Foundation List

/-! ## The check -/

@[local grind]
def schbLimit : ℕ := 262144

section

variable (py : Python) (m : Master)

def wholeScheduleBytes : Except PyError ℕ := do
  let doc ← buildScheduleJson py (.entries m.entries)
    (m.name ++ "@" ++ String.ofList (List.replicate 64 'x')) (some 0xFFFFFFFF) m.repeatMode
  pure (Json.size py doc)

/-- `target_document`.  A record kept from a legacy member has no generation, also when the
member has become an extended one. -/
def targetDocumentOf (sched : Sched) (nodeKey : String) (instanceId : ℤ)
    (extended : Bool) (gen : Option ℤ) : Except PyError (Json × Option ℤ) :=
  if extended then do
    let doc ← buildScheduleJson py sched (m.name ++ "@" ++ nodeKey) gen m.repeatMode
    pure (doc, gen)
  else do
    let doc ← buildScheduleJson py sched ("federation_inst" ++ toString instanceId) none
      m.repeatMode
    pure (doc, none)

lemma targetDocumentOf_some (sched : Sched) (nodeKey : String) (instanceId : ℤ)
    (extended : Bool) (gen : ℤ) :
    targetDocumentOf py m sched nodeKey instanceId extended (some gen) =
      targetDocument py m sched nodeKey instanceId extended gen := rfl

/-- `_schedule_set`, up to the schedule it stores.  A probe validates and measures the
document; what is stored is set from the probe's copy of it. -/
def scheduleSet (doc : Json) (strategy : Option Strategy) : Except PyError Master := do
  let probe ← setMasterScheduleDoc py doc strategy
  let nbytes ← wholeScheduleBytes py probe
  if schbLimit < nbytes then
    .error (.valueError ("schedule is " ++ toString nbytes ++ " bytes; the per-target limit is "
      ++ toString schbLimit ++ " (SCHB)"))
  else setMasterScheduleDoc py (.obj probe.doc) none

end

/-- Whatever the targets are, also if one comes twice, no entry is in a part more often than
in the stored schedule. -/
lemma subperm_of_partitionSchedule {m : Master} {targets : List String}
    {strategy : Option Strategy} {target : String} {part : List (Dict Json)}
    (h : (partitionSchedule m targets strategy).find target = some part) :
    part.Subperm m.entries := subperm_of_mem (Dict.mem_of_find h)

/-! ## The size of a document -/

namespace ScheduleSize

open Json (size escapedSize itemSize)

variable {py : Python}

@[local grind]
def genSize : Option ℤ → ℕ
  | none => 0
  | some g => (toString (g % 2 ^ 32)).length + 7

def modeSize (repeatMode : String) : ℕ :=
  if repeatMode = "loop" then 0 else escapedSize repeatMode + 17

def entriesSize (py : Python) (entries : List (Dict Json)) : ℕ :=
  size py (.arr (entries.map fun e => .obj (entryOut e)))

/-- A document of entries, and its size: the name, the repeat mode, the generation and the
entries, and what stands around them. -/
lemma buildScheduleJson_spec (py : Python) (entries : List (Dict Json)) (name : String)
    (gen : Option ℤ) (repeatMode : String) :
    ∃ doc, buildScheduleJson py (.entries entries) name gen repeatMode = .ok doc ∧ size py doc =
        escapedSize name + modeSize repeatMode + genSize gen + entriesSize py entries + 22 := by
  refine ⟨_, rfl, ?_⟩
  have hname : escapedSize "name" = 4 := by decide
  have hmode : escapedSize "repeat_mode" = 11 := by decide
  have hgen : escapedSize "gen" = 3 := by decide
  have hentries : escapedSize "entries" = 7 := by decide
  rw [Json.size_obj (by simp), map_map]
  simp only [map_append, sum_append, map_cons, map_nil, sum_cons,
    sum_nil, itemSize, Json.size_str, hname, hentries, entriesSize, Function.comp_def]
  have hmodes : ((if repeatMode = "loop" then []
      else [("repeat_mode", Json.str repeatMode)]).map (itemSize py)).sum =
        modeSize repeatMode := by
    unfold modeSize
    split_ifs
    · rfl
    · simp only [map_cons, map_nil, sum_cons, sum_nil, itemSize, Json.size_str, hmode]
      omega
  have hgens : ((gen.map fun g => ("gen", Json.int (g % 2 ^ 32))).toList.map (itemSize py)).sum =
      genSize gen := by
    cases gen with
    | none => rfl
    | some g =>
      simp only [Option.map_some, Option.toList_some, map_cons, map_nil,
        sum_cons, sum_nil, itemSize, Json.size_str, Json.size_int, hgen, genSize]
      omega
  rw [hmodes, hgens]
  omega

lemma escapedSize_named (name key : String) :
    escapedSize (name ++ "@" ++ key) = escapedSize name + 1 + escapedSize key := by
  have hat : escapedSize "@" = 1 := by decide
  rw [Json.escapedSize_append, Json.escapedSize_append, hat]

lemma wholeScheduleBytes_eq (m : Master) : wholeScheduleBytes py m =
      .ok (escapedSize m.name + modeSize m.repeatMode + entriesSize py m.entries + 104) := by
  obtain ⟨doc, hdoc, hsize⟩ := buildScheduleJson_spec py m.entries
    (m.name ++ "@" ++ String.ofList (replicate 64 'x')) (some 0xFFFFFFFF) m.repeatMode
  have hgen : genSize (some 0xFFFFFFFF) = 17 := by
    rw [genSize]
    decide
  rw [wholeScheduleBytes, hdoc]
  refine congrArg Except.ok ?_
  rw [hsize, escapedSize_named, Json.escapedSize_replicate (by decide), hgen]
  omega

@[local grind]
def ownSize (name nodeKey : String) (instanceId : ℤ) (extended : Bool) (gen : Option ℤ) : ℕ :=
  if extended then escapedSize name + escapedSize nodeKey + genSize gen + 1
  else (toString instanceId).length + 15

lemma targetDocumentOf_spec (py : Python) (m : Master) (entries : List (Dict Json))
    (nodeKey : String) (instanceId : ℤ) (extended : Bool) (gen : Option ℤ) :
    ∃ document, targetDocumentOf py m (.entries entries) nodeKey instanceId extended gen =
        .ok document ∧ size py document.1 = ownSize m.name nodeKey instanceId extended gen +
        modeSize m.repeatMode + entriesSize py entries + 22 := by
  unfold targetDocumentOf ownSize
  cases extended with
  | true =>
    obtain ⟨doc, hdoc, hsize⟩ := buildScheduleJson_spec py entries
      (m.name ++ "@" ++ nodeKey) gen m.repeatMode
    refine ⟨(doc, gen), by rw [if_pos rfl, hdoc]; rfl, ?_⟩
    rw [hsize, escapedSize_named, if_pos rfl]
    omega
  | false =>
    obtain ⟨doc, hdoc, hsize⟩ := buildScheduleJson_spec py entries
      ("federation_inst" ++ toString instanceId) none m.repeatMode
    have hinst : escapedSize "federation_inst" = 15 := by decide
    refine ⟨(doc, none), by rw [if_neg (by decide), hdoc]; rfl, ?_⟩
    rw [hsize, Json.escapedSize_append, hinst, Json.escapedSize_toString, genSize,
      if_neg (by decide)]
    omega

lemma entriesSize_le_of_subperm {part entries : List (Dict Json)} (h : part.Subperm entries) :
    entriesSize py part ≤ entriesSize py entries := by
  obtain ⟨kept, hperm, hsub⟩ := h
  exact Json.size_arr_le_of_subperm ⟨kept.map _, hperm.map _, hsub.map _⟩

lemma scheduleSet_eq_ok_iff {doc : Json} {strategy : Option Strategy} {m : Master} :
    scheduleSet py doc strategy = .ok m ↔ setMasterScheduleDoc py doc strategy = .ok m ∧
      escapedSize m.name + modeSize m.repeatMode + entriesSize py m.entries + 104 ≤ schbLimit := by
  constructor
  · intro h
    obtain ⟨probe, hprobe, h⟩ := bind_eq_ok.mp h
    grind [bind_eq_ok, wholeScheduleBytes_eq, Master.set_doc, Master.canonical_of_set]
  · rintro ⟨hset, hlimit⟩
    refine bind_eq_ok.mpr ⟨m, hset, bind_eq_ok.mpr ⟨_, wholeScheduleBytes_eq m, ?_⟩⟩
    rw [if_neg (Nat.not_lt.mpr hlimit)]
    exact Master.set_doc (Master.canonical_of_set hset)

/-! ## A schedule that fills the limit -/

variable (k : ℕ)

def longMode : String := String.ofList (List.replicate k 'a')

def paddedDocument : Json :=
  .obj [("name", .str ""), ("repeat_mode", .str (longMode k)),
    ("entries", .arr [.obj [("frequency", .int 1)]])]

def padded : Master where
  name := ""
  repeatMode := longMode k
  entries := [[("frequency", .int 1)]]
  strategy := .roundRobin
  extra := []

lemma set_padded : setMasterScheduleDoc py (paddedDocument k) none = .ok (padded k) := rfl

lemma partition_padded (nodeKey : String) :
    (partitionSchedule (padded k) [nodeKey] none).find nodeKey = some (padded k).entries := by
  simp [partitionSchedule, padded, partitionRoundRobin, dealFrom, Dict.update, Dict.put,
    Dict.adjust, Dict.find_cons]

lemma modeSize_longMode : modeSize (longMode k) = k + 17 := by
  have hne : longMode k ≠ "loop" := by
    intro h
    have hmem : 'l' ∈ (longMode k).toList := by
      rw [h]
      decide
    rw [longMode, String.toList_ofList] at hmem
    exact absurd (eq_of_mem_replicate hmem) (by decide)
  rw [modeSize, if_neg hne, longMode, Json.escapedSize_replicate (by decide)]

lemma entriesSize_padded : entriesSize py (padded k).entries = 17 := by
  have hfrequency : escapedSize "frequency" = 9 := by decide
  have hone : (Int.repr 1).length = 1 := by decide
  have hout : entryOut [("frequency", Json.int 1)] = [("frequency", Json.int 1)] := rfl
  simp [entriesSize, padded, hout, Json.size_arr, Json.size_obj, itemSize, Json.size_str,
    Json.size_int, hfrequency, hone]

lemma scheduleSet_padded {k : ℕ} (h : k + 138 ≤ schbLimit) :
    scheduleSet py (paddedDocument k) none = .ok (padded k) := by
  refine scheduleSet_eq_ok_iff.mpr ⟨set_padded k, ?_⟩
  have hname : escapedSize (padded k).name = 0 := rfl
  have hmode : modeSize (padded k).repeatMode = k + 17 := modeSize_longMode k
  rw [hname, hmode, entriesSize_padded]
  omega

lemma targetDocumentOf_padded (py : Python) (k : ℕ) (nodeKey : String) (instanceId : ℤ)
    (extended : Bool) (gen : Option ℤ) :
    ∃ document, targetDocumentOf py (padded k) (.entries (padded k).entries) nodeKey instanceId
        extended gen = .ok document ∧
      size py document.1 = ownSize "" nodeKey instanceId extended gen + k + 56 := by
  obtain ⟨document, hdocument, hsize⟩ := targetDocumentOf_spec py (padded k) (padded k).entries
    nodeKey instanceId extended gen
  grind [padded, modeSize_longMode, entriesSize_padded]

/-! ## Targets whose documents fit -/

section Own

variable (name nodeKey : String) (instanceId : ℤ) (extended : Bool) (gen : Option ℤ)

lemma ownSize_le : ownSize name nodeKey instanceId extended gen ≤
    escapedSize name + ownSize "" nodeKey instanceId extended gen := by
  have hempty : escapedSize "" = 0 := rfl
  unfold ownSize
  split_ifs <;> omega

lemma ownSize_empty_le_iff : ownSize "" nodeKey instanceId extended gen ≤ 82 ↔
    if extended then escapedSize nodeKey + genSize gen ≤ 81
    else (toString instanceId).length ≤ 67 := by
  have hempty : escapedSize "" = 0 := rfl
  unfold ownSize
  split_ifs <;> omega

end Own

lemma size_le_of_ownSize_le {doc : Json} {strategy override : Option Strategy} {m : Master}
    (hset : scheduleSet py doc strategy = .ok m) {targets : List String} {nodeKey : String}
    {part : List (Dict Json)}
    (hpart : (partitionSchedule m targets override).find nodeKey = some part)
    {instanceId : ℤ} {gen : Option ℤ} {extended : Bool} {document : Json × Option ℤ}
    (hdocument : targetDocumentOf py m (.entries part) nodeKey instanceId extended gen =
      .ok document) (hown : ownSize "" nodeKey instanceId extended gen ≤ 82) :
    size py document.1 ≤ schbLimit := by
  obtain ⟨-, hlimit⟩ := scheduleSet_eq_ok_iff.mp hset
  obtain ⟨document', hdocument', hsize⟩ :=
    targetDocumentOf_spec py m part nodeKey instanceId extended gen
  rw [hdocument] at hdocument'
  cases hdocument'
  have hentries : entriesSize py part ≤ entriesSize py m.entries :=
    entriesSize_le_of_subperm (subperm_of_partitionSchedule hpart)
  have hname := ownSize_le m.name nodeKey instanceId extended gen
  omega

/-- The documents of a target are within the limit, whatever schedule was set and however it
is partitioned, exactly when what is its own in them is no longer than what SCHEDULE SET
measures in its place. -/
theorem documents_fit_iff (py : Python) (nodeKey : String) (instanceId : ℤ) (extended : Bool)
    (gen : Option ℤ) : (∀ doc strategy m, scheduleSet py doc strategy = .ok m →
      ∀ targets override part, (partitionSchedule m targets override).find nodeKey = some part →
        ∀ document, targetDocumentOf py m (.entries part) nodeKey instanceId extended gen =
            .ok document → size py document.1 ≤ schbLimit) ↔
      if extended then escapedSize nodeKey + genSize gen ≤ 81
      else (toString instanceId).length ≤ 67 := by
  rw [← ownSize_empty_le_iff]
  constructor
  · intro h
    obtain ⟨document, hdocument, hsize⟩ :=
      targetDocumentOf_padded py 262006 nodeKey instanceId extended gen
    have hlimit := h _ _ _ (scheduleSet_padded (by decide)) _ _ _ (partition_padded 262006 nodeKey)
      document hdocument
    rw [hsize, schbLimit] at hlimit
    omega
  · intro hown doc strategy m hset targets override part hpart document hdocument
    exact size_le_of_ownSize_le hset hpart hdocument hown

def longKey : String := String.ofList (List.replicate 63 'a') ++ ".example.org:0"

/-- The member is taken and SCHEDULE SET takes the schedule; whatever its generation, the
document of the member is too long. -/
theorem long_host_too_large :
    (Membership.parseEntry Python.ascii { isLoopbackAddress := fun _ => false } longKey).map
        (·.nodeKey) = .ok longKey ∧
      scheduleSet Python.ascii (paddedDocument 262006) none = .ok (padded 262006) ∧
      (partitionSchedule (padded 262006) [longKey] none).find longKey =
        some (padded 262006).entries ∧
      ∀ gen : ℤ, ∃ document, targetDocument Python.ascii (padded 262006)
          (.entries (padded 262006).entries) longKey 0 true gen = .ok document ∧
        schbLimit < size Python.ascii document.1 := by
  refine ⟨rfl, scheduleSet_padded (by decide), partition_padded _ _, ?_⟩
  intro gen
  obtain ⟨document, hdocument, hsize⟩ :=
    targetDocumentOf_padded Python.ascii 262006 longKey 0 true (some gen)
  have hkey : escapedSize longKey = 77 := by decide +kernel
  rw [targetDocumentOf_some] at hdocument
  grind

end ScheduleSize

end HeimdallDaq.Federation
