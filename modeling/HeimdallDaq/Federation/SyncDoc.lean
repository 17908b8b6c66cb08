/-
  Federation/SyncDoc.lean --- the state document of a coordinator.

  `_sync_doc_locked` writes the replicated fields of a coordinator as one JSON object;
  `_apply_sync_doc` reads such an object back, on followers, in pull repair and at
  start.
-/
import HeimdallDaq.Federation.MasterSchedule
import HeimdallDaq.Federation.Membership
import HeimdallDaq.Foundation.Runs
import Mathlib.Data.Finset.Sort
import Mathlib.Data.String.Basic

namespace HeimdallDaq.Federation

open Foundation List Dict

/-! ## The replicated fields -/

/-- A desired-state record of `_assignments`. -/
structure Assignment where
  gen : Json
  entries : ℕ
  state : Json
  lastResult : Json
  desired : Json
  partition : List (Dict Json)
  attempts : Json
  lastFrameCount : Json

def desiredRecord (gen desired : Json) (partition : List (Dict Json)) (lastFrameCount : Json) :
    Assignment where
  gen := gen
  entries := partition.length
  state := .str "pending"
  lastResult := .null
  desired := desired
  partition := partition
  attempts := .int 0
  lastFrameCount := lastFrameCount

structure Replica where
  master : Option Master := none
  version : ℤ := 0
  syncTerm : ℤ := 0
  setAt : Json := .null
  rebalanceSeq : ℤ := 0
  issuedGens : List ℤ := []
  empty : List Json := []
  partitionedAt : Json := .null
  assignments : Dict Assignment := []
  runtime : Runtime := {}

/-- The `maxlen` of `_issued_gens`; irreducible, so that no unifier counts up to it. -/
@[irreducible] def issuedMax : ℕ := 4096

def lastGens (gens : List ℤ) : List ℤ := gens.drop (gens.length - issuedMax)

/-! ## Writing -/

namespace Assignment

def toJson (a : Assignment) : Json :=
  .obj [("gen", a.gen), ("entries", .int a.entries), ("state", a.state),
    ("last_result", a.lastResult), ("desired", a.desired),
    ("partition", .arr (a.partition.map .obj)), ("attempts", a.attempts),
    ("last_frame_count", a.lastFrameCount)]

end Assignment

def Runtime.doc (r : Runtime) : Dict Json :=
  [("added", .arr (r.added.map fun m => .str m.entry)),
    ("removed", .arr ((r.removed.sort (· ≤ ·)).map .str))]

namespace Replica

variable (s : Replica)

def scheduleJson : Json := (s.master.map fun m => Json.obj m.doc).getD .null

def assignmentsJson : Json := .obj (s.assignments.map fun p => (p.1, p.2.toJson))

def syncDoc : Dict Json :=
  [("term", .int s.syncTerm), ("version", .int s.version), ("schedule", s.scheduleJson),
    ("set_at", s.setAt), ("members_runtime", .obj s.runtime.doc),
    ("rebalance_seq", .int s.rebalanceSeq), ("assignments", s.assignmentsJson),
    ("issued_gens", .arr (s.issuedGens.map .int)), ("empty", .arr s.empty),
    ("partitioned_at", s.partitionedAt)]

end Replica

/-! ## Reading -/

namespace SyncDoc

variable (py : Python) (doc : Dict Json)

def get (key : String) (default : Json) : Json := (doc.find key).getD default

def list (message : String) : Json → Except PyError (List Json)
  | .arr xs => .ok xs
  | _ => .error (.valueError message)

def object (message : String) : Json → Except PyError (Dict Json)
  | .obj items => .ok items
  | _ => .error (.valueError message)

def ints : List Json → Except PyError (List ℤ)
  | [] => .ok []
  | g :: gs => do
      let n ← py.int g
      let ns ← ints gs
      pure (n :: ns)

def objects (message : String) : List Json → Except PyError (List (Dict Json))
  | [] => .ok []
  | .obj items :: rest => do
      let ds ← objects message rest
      pure (items :: ds)
  | _ :: _ => .error (.valueError message)

def assignment (key : String) (value : Json) : Except PyError Assignment := do
  let a ← object ("assignment '" ++ key ++ "' must be an object") value
  let message := "assignment '" ++ key ++ "' partition must be a list of objects"
  let elements ← list message (get a "partition" (.arr []))
  let partition ← objects message elements
  let base := desiredRecord (get a "gen" .null) (get a "desired" (.str "schedule")) partition
    (get a "last_frame_count" .null)
  pure { base with
    state := get a "state" (.str "unknown")
    attempts := get a "attempts" (.int 0)
    lastResult := get a "last_result" .null }

def assignments : List (String × Json) → Except PyError (List (String × Assignment))
  | [] => .ok []
  | (key, value) :: rest => do
      let a ← assignment key value
      let as ← assignments rest
      pure ((key, a) :: as)

/-- `sched_doc`, validated if it is true.  The strategy test that follows in the source
repeats one of the validation. -/
def schedule : Except PyError (Option Json) :=
  let sched := get doc "schedule" .null
  if sched.truthy then (validateScheduleDoc py sched).map fun _ => some sched else .ok none

/-- The locals of `_apply_sync_doc`. -/
structure Locals where
  version : ℤ
  term : ℤ
  rebalanceSeq : ℤ
  issued : List ℤ
  empty : List Json
  /-- `sched_doc`, if it is true -/
  schedule : Option Json
  recs : Dict Assignment
  added : List Json
  removed : Finset String

def parse : Except PyError Locals := do
  let version ← py.int (get doc "version" (.int 0))
  let term ← py.int (get doc "term" (.int 0))
  let rebalanceSeq ← py.int (get doc "rebalance_seq" (.int 0))
  let gens ← list "issued_gens must be a list" (get doc "issued_gens" (.arr []))
  let issued ← ints py gens
  let empty ← list "empty must be a list" (get doc "empty" (.arr []))
  let sched ← schedule py doc
  let items ← object "assignments must be an object" (Json.orEmpty (doc.find "assignments"))
  let recs ← assignments items
  let runtime ← object "members_runtime must be an object"
    (Json.orEmpty (doc.find "members_runtime"))
  let added ← list "members_runtime added/removed must be lists" (get runtime "added" (.arr []))
  let removed ← list "members_runtime added/removed must be lists" (get runtime "removed" (.arr []))
  pure { version := version
         term := term
         rebalanceSeq := rebalanceSeq
         issued := lastGens issued
         empty := empty
         schedule := sched
         recs := Dict.update [] recs
         added := added
         removed := (removed.map py.str).toFinset }

def lift {β : Type} : Except PyError β → EStateM PyError Replica β
  | .ok b => pure b
  | .error e => throw e

def commitMaster : Option Json → EStateM PyError Replica Unit
  | some sched => do
      let m ← lift (setMasterScheduleDoc py sched none)
      modify fun s => { s with master := some m }
  | none => modify fun s => { s with master := none }

def commit (rules : MemberRules) (doc : Dict Json) (p : Locals) : EStateM PyError Replica Unit := do
  -- a bad replicated member is ignored
  let added := p.added.filterMap fun entry => (parseMember py rules entry).toOption
  commitMaster py p.schedule
  modify fun s => { s with
    version := p.version
    syncTerm := p.term
    setAt := get doc "set_at" .null
    rebalanceSeq := p.rebalanceSeq
    issuedGens := p.issued
    empty := p.empty
    partitionedAt := get doc "partitioned_at" .null
    assignments := p.recs
    runtime := { added := added, removed := p.removed } }

end SyncDoc

def applySyncDoc (py : Python) (rules : MemberRules) : Json → EStateM PyError Replica Unit
  | .obj doc => do
      let p ← SyncDoc.lift (Python.reraise [.type, .key]
        (fun e => "bad sync document: " ++ e.text py) (SyncDoc.parse py doc))
      SyncDoc.commit py rules doc p
  | _ => throw (.valueError "sync document must be a JSON object")

/-! ## All or nothing -/

open SyncDoc

section Atomic

variable (py : Python) (rules : MemberRules)

def SyncDoc.masterOf : Option Json → Except PyError (Option Master)
  | some sched => (setMasterScheduleDoc py sched none).map some
  | none => .ok none

variable (doc : Dict Json) (p : SyncDoc.Locals)

def SyncDoc.installed (m : Option Master) : Replica where
  master := m
  version := p.version
  syncTerm := p.term
  setAt := get doc "set_at" .null
  rebalanceSeq := p.rebalanceSeq
  issuedGens := p.issued
  empty := p.empty
  partitionedAt := get doc "partitioned_at" .null
  assignments := p.recs
  runtime :=
    { added := p.added.filterMap fun entry => (parseMember py rules entry).toOption
      removed := p.removed }

lemma SyncDoc.commit_eq (s : Replica) : SyncDoc.commit py rules doc p s =
      match SyncDoc.masterOf py p.schedule with
      | .error e => .error e s
      | .ok m => .ok () (SyncDoc.installed py rules doc p m) := by
  unfold commit
  cases p.schedule with
  | none => rfl
  | some sched =>
    simp only [masterOf, commitMaster]
    cases setMasterScheduleDoc py sched none <;> rfl

lemma applySyncDoc_obj (s : Replica) : applySyncDoc py rules (.obj doc) s =
      match Python.reraise [.type, .key] (fun e => "bad sync document: " ++ e.text py)
          (SyncDoc.parse py doc) with
      | .error e => .error e s
      | .ok p =>
        match SyncDoc.masterOf py p.schedule with
        | .error e => .error e s
        | .ok m => .ok () (SyncDoc.installed py rules doc p m) := by
  rw [applySyncDoc]
  cases Python.reraise [.type, .key] (fun e => "bad sync document: " ++ e.text py)
      (parse py doc) with
  | error e => rfl
  | ok p => exact commit_eq py rules doc p s

lemma applySyncDoc_cases (doc : Json) : (∃ e, ∀ s, applySyncDoc py rules doc s = .error e s) ∨
      ∃ r, ∀ s, applySyncDoc py rules doc s = .ok () r := by
  cases doc with
  | obj items =>
    simp only [applySyncDoc_obj]
    cases Python.reraise [.type, .key] (fun e => "bad sync document: " ++ e.text py)
        (parse py items) with
    | error e => exact Or.inl ⟨e, fun s => rfl⟩
    | ok p =>
      dsimp only
      cases masterOf py p.schedule with
      | error e => exact .inl ⟨e, fun s => rfl⟩
      | ok m => exact .inr ⟨_, fun s => rfl⟩
  | _ => exact .inl ⟨_, fun s => rfl⟩

end Atomic

/-! ## Reading back -/

namespace SyncDoc

variable {py : Python}

@[simp] lemma ints_int (ns : List ℤ) : ints py (ns.map .int) = .ok ns := by
  induction ns with
  | nil => rfl
  | cons n ns ih => simp [ints, ih, bind, Except.bind, pure, Except.pure]

@[simp] lemma objects_obj (message : String) (ds : List (Dict Json)) :
    objects message (ds.map .obj) = .ok ds := by
  induction ds with
  | nil => rfl
  | cons d ds ih => simp [objects, ih, bind, Except.bind, pure, Except.pure]

lemma assignment_toJson (key : String) {a : Assignment} (h : a.entries = a.partition.length) :
    assignment key a.toJson = .ok a := by
  simp [assignment, Assignment.toJson, object, list, get, find_cons, desiredRecord, bind,
    Except.bind, pure, Except.pure, ← h]

lemma assignments_toJson {as : Dict Assignment}
    (h : ∀ p ∈ as, p.2.entries = p.2.partition.length) :
    assignments (as.map fun p => (p.1, p.2.toJson)) = .ok as := by
  induction as with
  | nil => rfl
  | cons p as ih =>
    have hp := assignment_toJson p.1 (h p mem_cons_self)
    have has := ih fun q hq => h q (mem_cons_of_mem _ hq)
    exact bind_eq_ok.mpr ⟨p.2, hp, bind_eq_ok.mpr ⟨as, has, rfl⟩⟩

@[simp] lemma orEmpty_obj (items : Dict Json) : Json.orEmpty (some (.obj items)) = .obj items := by
  cases items with
  | nil => rfl
  | cons p items => rfl

lemma lastGens_of_le {gens : List ℤ} (h : gens.length ≤ issuedMax) : lastGens gens = gens := by
  rw [lastGens, Nat.sub_eq_zero_of_le h, drop_zero]

end SyncDoc

namespace Replica

/-- What every reachable coordinator's fields satisfy. -/
@[local grind]
structure Sound (py : Python) (rules : MemberRules) (s : Replica) : Prop where
  master : ∀ m ∈ s.master, m.Canonical py
  issued : s.issuedGens.length ≤ issuedMax
  keys : s.assignments.keys.Nodup
  counts : ∀ p ∈ s.assignments, p.2.entries = p.2.partition.length
  added : ∀ m ∈ s.runtime.added, parseMember py rules (.str m.entry) = .ok m

variable {py : Python} {rules : MemberRules} {s : Replica}

/-- The document has the schedule and the pair of `s`. -/
structure ReadsSchedule (doc : Dict Json) (s : Replica) : Prop where
  term : SyncDoc.get doc "term" (.int 0) = .int s.syncTerm
  version : SyncDoc.get doc "version" (.int 0) = .int s.version
  schedule : SyncDoc.get doc "schedule" .null = s.scheduleJson
  setAt : SyncDoc.get doc "set_at" .null = s.setAt

def ReadsRuntime (doc : Dict Json) (s : Replica) : Prop :=
  ∃ items, Json.orEmpty (doc.find "members_runtime") = .obj items ∧
    SyncDoc.get items "added" (.arr []) = .arr (s.runtime.added.map fun m => .str m.entry) ∧
    SyncDoc.get items "removed" (.arr []) = .arr ((s.runtime.removed.sort (· ≤ ·)).map .str)

/-- The document has the assignments of `s`. -/
structure ReadsAssignments (doc : Dict Json) (s : Replica) : Prop where
  rebalanceSeq : SyncDoc.get doc "rebalance_seq" (.int 0) = .int s.rebalanceSeq
  assignments : Json.orEmpty (doc.find "assignments") = s.assignmentsJson
  issuedGens : SyncDoc.get doc "issued_gens" (.arr []) = .arr (s.issuedGens.map .int)
  empty : SyncDoc.get doc "empty" (.arr []) = .arr s.empty
  partitionedAt : SyncDoc.get doc "partitioned_at" .null = s.partitionedAt

/-- The document reads as `s`. -/
structure Reads (doc : Dict Json) (s : Replica) : Prop where
  schedule : ReadsSchedule doc s
  runtime : ReadsRuntime doc s
  assignments : ReadsAssignments doc s

variable {doc : Dict Json}

lemma readsRuntime_of_find
    (h : doc.find "members_runtime" = some (.obj s.runtime.doc)) : ReadsRuntime doc s := by
  refine ⟨s.runtime.doc, by rw [h, SyncDoc.orEmpty_obj], ?_, ?_⟩ <;>
    simp [SyncDoc.get, Runtime.doc, find_cons]

lemma reads_syncDoc (s : Replica) : Reads s.syncDoc s where
  schedule := by constructor <;> simp [SyncDoc.get, syncDoc, find_cons]
  runtime := readsRuntime_of_find (by simp [syncDoc, find_cons])
  assignments := by
    constructor <;> simp [SyncDoc.get, syncDoc, find_cons, assignmentsJson]

def locals (s : Replica) : SyncDoc.Locals where
  version := s.version
  term := s.syncTerm
  rebalanceSeq := s.rebalanceSeq
  issued := s.issuedGens
  empty := s.empty
  schedule := s.master.map fun m => .obj m.doc
  recs := s.assignments
  added := s.runtime.added.map fun m => .str m.entry
  removed := s.runtime.removed

lemma Sound.schedule (h : s.Sound py rules) (hread : ReadsSchedule doc s) :
    SyncDoc.schedule py doc = .ok s.locals.schedule := by
  rw [SyncDoc.schedule, hread.schedule]
  cases hm : s.master with
  | none => simp [scheduleJson, hm, locals, Json.truthy]
  | some m =>
    have hcanon := h.master m hm
    have htruthy : (Json.obj m.doc).truthy := by
      rw [Master.doc_eq hcanon]
      rfl
    have hvalid : validateScheduleDoc py (.obj m.doc) = .ok m.doc := Master.validate_doc hcanon
    simp [scheduleJson, hm, locals, htruthy, hvalid, Except.map]

lemma Sound.parse (h : s.Sound py rules) (hread : Reads doc s) :
    SyncDoc.parse py doc = .ok s.locals := by
  obtain ⟨items, hitems, hadded, hremoved⟩ := hread.runtime
  have hrecs := assignments_toJson h.counts
  have hkeys : update [] s.assignments = s.assignments := by
    rw [update_of_nodup (by simpa using h.keys), nil_append]
  have hissued := lastGens_of_le h.issued
  rw [SyncDoc.parse, h.schedule hread.schedule, hread.schedule.version, hread.schedule.term,
    hread.assignments.rebalanceSeq, hread.assignments.issuedGens, hread.assignments.empty,
    hread.assignments.assignments, hitems]
  simp [hadded, hremoved, list, object, assignmentsJson, hrecs, bind, Except.bind,
    pure, Except.pure, hkeys, hissued, locals, Function.comp_def]

lemma Sound.apply_of_reads (h : s.Sound py rules) (hread : Reads doc s)
    (s' : Replica) : applySyncDoc py rules (.obj doc) s' = .ok () s := by
  have hmaster : masterOf py s.locals.schedule = .ok s.master := by
    cases hm : s.master with
    | none => simp [locals, hm, masterOf]
    | some m =>
      simp [locals, hm, masterOf, Master.set_doc (h.master m hm), Except.map]
  have hadded : s.locals.added.filterMap (fun entry => (parseMember py rules entry).toOption) =
      s.runtime.added := by
    rw [locals, filterMap_map]
    calc s.runtime.added.filterMap _ = s.runtime.added.filterMap some :=
          filterMap_congr fun m hm => by simp [h.added m hm, Except.toOption]
      _ = s.runtime.added := filterMap_some
  rw [applySyncDoc_obj, h.parse hread]
  simp only [Python.reraise_ok, hmaster, installed, hadded, hread.schedule.setAt,
    hread.assignments.partitionedAt]
  simp [locals]

/-! ## Reachable states -/

structure Update where
  state : Option Json := none
  attempts : Option Json := none
  lastResult : Option Json := none
  lastFrameCount : Option Json := none

def Update.apply (u : Update) (a : Assignment) : Assignment :=
  { a with
    state := u.state.getD a.state
    attempts := u.attempts.getD a.attempts
    lastResult := u.lastResult.getD a.lastResult
    lastFrameCount := u.lastFrameCount.getD a.lastFrameCount }

structure Plan where
  key : String
  gen : Json
  desired : Json
  partition : List (Dict Json)
  result : Option (Json × Json)

/-- The sections that change replicated fields.  What they take from elsewhere (times, the
election term, members, generations, partitions, results) is given with them. -/
inductive Op
  /-- SCHEDULE SET; `fits` says whether the schedule is within the SCHB limit -/
  | set (doc : Json) (strategy : Option Strategy) (fits : Bool) (setAt : Json) (term : ℤ)
  | strategy (strategy : Strategy) (term : ℤ)
  | clear (members : List String) (term : ℤ)
  | update (updates : List (String × Update))
  | plan (gens : List ℤ)
  | rebalance (plans : List Plan) (empty : List String) (partitionedAt : Json) (term : ℤ)
  | memberAdd (entry : String) (term : ℤ)
  | memberRemove (key : String) (registered : Bool) (term : ℤ)
  | apply (doc : Json)

@[local grind]
def commitVersion (s : Replica) (term : ℤ) : Replica :=
  { s with version := s.version + 1, syncTerm := term }

def commitRuntime (s : Replica) (term : ℤ) : Except MemberError (Runtime × Bool) → Replica
  | .ok (r, true) => commitVersion { s with runtime := r } term
  | _ => s

def lastFrameCount (s : Replica) (key : String) : Json :=
  ((s.assignments.find key).map (·.lastFrameCount)).getD .null

def Plan.record (s : Replica) (p : Plan) : Assignment :=
  let base := desiredRecord p.gen p.desired p.partition (s.lastFrameCount p.key)
  match p.result with
  | some (result, state) => { base with lastResult := result, state := state }
  | none => base

section Sections

variable (py : Python) (rules : MemberRules) (static : List Member) (s : Replica)

def scheduleSet (doc : Json) (strategy : Option Strategy) (fits : Bool) (setAt : Json) (term : ℤ) :
    Replica :=
  match setMasterScheduleDoc py doc strategy with
  | .error _ => s
  | .ok probe =>
    if fits then
      match setMasterScheduleDoc py (.obj probe.doc) none with
      | .error _ => s
      | .ok m => commitVersion { s with master := some m, setAt := setAt } term
    else s

def scheduleStrategy (strategy : Strategy) (term : ℤ) : Replica :=
  commitVersion { s with master := s.master.map fun m => { m with strategy := strategy } } term

def scheduleClear (members : List String) (term : ℤ) : Replica :=
  commitVersion { s with
    master := none
    assignments := Dict.update s.assignments (members.map fun key =>
      (key, desiredRecord .null (.str "inactive") [] (s.lastFrameCount key)))
    empty := [] } term

def updateRecords (updates : List (String × Update)) (d : Dict Assignment) : Dict Assignment :=
  updates.foldl (fun d u => Dict.adjust u.1 u.2.apply d) d

def rebalance (plans : List Plan) (empty : List String) (partitionedAt : Json) (term : ℤ) :
    Replica :=
  commitVersion { s with
    assignments := Dict.update [] (plans.map fun p : Plan => (p.key, p.record s))
    empty := empty.map .str
    partitionedAt := partitionedAt } term

def memberAdd (entry : String) (term : ℤ) : Replica :=
  match parseMember py rules (.str entry) with
  | .ok m => s.commitRuntime term (s.runtime.memberAdd static m)
  | .error _ => s

def applied (doc : Json) : Replica :=
  match applySyncDoc py rules doc s with
  | .ok _ s' => s'
  | .error _ s' => s'

def step : Op → Replica
  | .set doc strategy fits setAt term => s.scheduleSet py doc strategy fits setAt term
  | .strategy strategy term => s.scheduleStrategy strategy term
  | .clear members term => s.scheduleClear members term
  | .update updates => { s with assignments := updateRecords updates s.assignments }
  | .plan gens =>
    { s with rebalanceSeq := s.rebalanceSeq + 1, issuedGens := lastGens (s.issuedGens ++ gens) }
  | .rebalance plans empty partitionedAt term => s.rebalance plans empty partitionedAt term
  | .memberAdd entry term => s.memberAdd py rules static entry term
  | .memberRemove key registered term =>
    s.commitRuntime term (s.runtime.memberRemove static registered (py.lower (py.strip key)))
  | .apply doc => s.applied py rules doc

end Sections

/-! ## Every reachable state is sound -/

lemma sound_initial : Sound py rules {} where
  master := by simp
  issued := by simp
  keys := by simp
  counts := by simp
  added := by simp

lemma Sound.commitRuntime (h : s.Sound py rules) {term : ℤ}
    {result : Except MemberError (Runtime × Bool)}
    (hadded : ∀ r changed, result = .ok (r, changed) →
      ∀ m ∈ r.added, parseMember py rules (.str m.entry) = .ok m) :
    (s.commitRuntime term result).Sound py rules := by
  unfold Replica.commitRuntime
  grind

lemma canonical_setStrategy {m : Master} (h : m.Canonical py) (strategy : Strategy) :
    Master.Canonical py { m with strategy := strategy } :=
  ⟨h.nonempty, h.normal, h.parsed, h.nodup, h.apart⟩

lemma length_lastGens (gens : List ℤ) : (lastGens gens).length ≤ issuedMax := by
  rw [lastGens, length_drop]
  omega

lemma entries_record (p : Plan) : (p.record s).entries = (p.record s).partition.length := by
  unfold Plan.record
  split <;> rfl

lemma updates_kept (updates : List (String × Update)) (d : Dict Assignment)
    (hcounts : ∀ p ∈ d, p.2.entries = p.2.partition.length) :
    (updateRecords updates d).keys = d.keys ∧
      ∀ p ∈ updateRecords updates d, p.2.entries = p.2.partition.length := by
  induction updates generalizing d with
  | nil => exact ⟨rfl, hcounts⟩
  | cons u rest ih =>
    have hstep : ∀ p ∈ adjust u.1 u.2.apply d, p.2.entries = p.2.partition.length := by
      intro p hp
      obtain ⟨q, hq, rfl⟩ := mem_map.mp hp
      split
      · exact hcounts q hq
      · exact hcounts q hq
    obtain ⟨hkeys, hrest⟩ := ih (adjust u.1 u.2.apply d) hstep
    exact ⟨hkeys.trans (keys_adjust _ _ _), hrest⟩

lemma entries_of_assignment {key : String} {value : Json} {a : Assignment}
    (h : SyncDoc.assignment key value = .ok a) : a.entries = a.partition.length := by
  obtain ⟨items, -, h⟩ := bind_eq_ok.mp h
  obtain ⟨elements, -, h⟩ := bind_eq_ok.mp h
  obtain ⟨partition, -, h⟩ := bind_eq_ok.mp h
  cases h
  rfl

lemma entries_of_assignments {items : List (String × Json)} {as : List (String × Assignment)}
    (h : SyncDoc.assignments items = .ok as) : ∀ p ∈ as, p.2.entries = p.2.partition.length := by
  induction items generalizing as with
  | nil =>
    cases h
    simp
  | cons item items ih =>
    obtain ⟨a, ha, h⟩ := bind_eq_ok.mp h
    obtain ⟨rest, hrest, h⟩ := bind_eq_ok.mp h
    cases h
    intro p hp
    rcases mem_cons.mp hp with rfl | hp
    · exact entries_of_assignment ha
    · exact ih hrest p hp

lemma parse_sound {p : SyncDoc.Locals} (h : SyncDoc.parse py doc = .ok p) :
    p.issued.length ≤ issuedMax ∧ p.recs.keys.Nodup ∧
      ∀ q ∈ p.recs, q.2.entries = q.2.partition.length := by
  unfold parse at h
  obtain ⟨version, -, h⟩ := bind_eq_ok.mp h
  obtain ⟨term, -, h⟩ := bind_eq_ok.mp h
  obtain ⟨seq, -, h⟩ := bind_eq_ok.mp h
  obtain ⟨gens, -, h⟩ := bind_eq_ok.mp h
  obtain ⟨issued, -, h⟩ := bind_eq_ok.mp h
  obtain ⟨empty, -, h⟩ := bind_eq_ok.mp h
  obtain ⟨canon, -, h⟩ := bind_eq_ok.mp h
  obtain ⟨items, -, h⟩ := bind_eq_ok.mp h
  obtain ⟨recs, hrecs, h⟩ := bind_eq_ok.mp h
  obtain ⟨runtime, -, h⟩ := bind_eq_ok.mp h
  obtain ⟨added, -, h⟩ := bind_eq_ok.mp h
  obtain ⟨removed, -, h⟩ := bind_eq_ok.mp h
  cases h
  refine ⟨length_lastGens issued, nodup_update nodup_nil, ?_⟩
  intro q hq
  rcases mem_update hq with hq | hq
  · cases hq
  · exact entries_of_assignments hrecs q hq

lemma canonical_of_masterOf {sched : Option Json} {m : Master}
    (h : SyncDoc.masterOf py sched = .ok (some m)) : m.Canonical py := by
  cases sched with
  | none => cases h
  | some d =>
    cases hset : setMasterScheduleDoc py d none with
    | error e => simp [masterOf, hset, Except.map] at h
    | ok m' =>
      simp only [masterOf, hset, Except.map, Except.ok.injEq, Option.some.injEq] at h
      exact h ▸ Master.canonical_of_set hset

lemma ok_of_toOption {β : Type} {x : Except PyError β} {b : β} (h : x.toOption = some b) :
    x = .ok b := by
  cases x with
  | ok b' => exact congrArg Except.ok (Option.some.inj h)
  | error e => cases h

lemma Sound.applied (h : s.Sound py rules) (doc : Json) :
    (s.applied py rules doc).Sound py rules := by
  cases doc with
  | obj items =>
    rw [Replica.applied, applySyncDoc_obj]
    cases hp : Python.reraise [.type, .key] (fun e => "bad sync document: " ++ e.text py)
        (SyncDoc.parse py items) with
    | error e => exact h
    | ok p =>
      obtain ⟨hissued, hkeys, hcounts⟩ := parse_sound (Python.reraise_eq_ok hp)
      dsimp only
      cases hm : SyncDoc.masterOf py p.schedule with
      | error e => exact h
      | ok m =>
        refine ⟨?_, hissued, hkeys, hcounts, ?_⟩
        · rintro m' rfl
          exact canonical_of_masterOf hm
        · intro m' hm'
          obtain ⟨entry, -, hentry⟩ := mem_filterMap.mp hm'
          exact parseMember_entry (ok_of_toOption hentry)
  | _ => exact h

lemma Sound.scheduleSet (h : s.Sound py rules) (doc : Json) (strategy : Option Strategy)
    (fits : Bool) (setAt : Json) (term : ℤ) :
    (s.scheduleSet py doc strategy fits setAt term).Sound py rules := by
  grind [scheduleSet, Master.canonical_of_set]

lemma Sound.scheduleStrategy (h : s.Sound py rules) (strategy : Strategy) (term : ℤ) :
    (s.scheduleStrategy strategy term).Sound py rules := by
  refine ⟨?_, h.issued, h.keys, h.counts, h.added⟩
  intro m hm
  obtain ⟨m', hm', rfl⟩ := Option.map_eq_some_iff.mp hm
  exact canonical_setStrategy (h.master m' hm') strategy

lemma Sound.scheduleClear (h : s.Sound py rules) (members : List String) (term : ℤ) :
    (s.scheduleClear members term).Sound py rules := by
  refine ⟨fun m hm => (by cases hm), h.issued, nodup_update h.keys, ?_, h.added⟩
  intro p hp
  rcases mem_update hp with hp | hp
  · exact h.counts p hp
  · obtain ⟨key, -, rfl⟩ := mem_map.mp hp
    rfl

lemma Sound.rebalance (h : s.Sound py rules) (plans : List Plan) (empty : List String)
    (partitionedAt : Json) (term : ℤ) :
    (s.rebalance plans empty partitionedAt term).Sound py rules := by
  refine ⟨h.master, h.issued, nodup_update nodup_nil, ?_, h.added⟩
  intro p hp
  rcases mem_update hp with hp | hp
  · cases hp
  · obtain ⟨plan, -, rfl⟩ := mem_map.mp hp
    exact entries_record plan

variable (static : List Member)

lemma Sound.memberAdd (h : s.Sound py rules) (entry : String) (term : ℤ) :
    (s.memberAdd py rules static entry term).Sound py rules := by
  grind [memberAdd, Sound.commitRuntime, Runtime.mem_added_of_memberAdd, parseMember_entry]

lemma Sound.step (h : s.Sound py rules) (op : Op) : (s.step py rules static op).Sound py rules := by
  cases op with
  | set doc strategy fits setAt term => exact h.scheduleSet doc strategy fits setAt term
  | strategy strategy term => exact h.scheduleStrategy strategy term
  | clear members term => exact h.scheduleClear members term
  | update updates =>
    obtain ⟨hkeys, hcounts⟩ := updates_kept updates s.assignments h.counts
    exact ⟨h.master, h.issued, hkeys ▸ h.keys, hcounts, h.added⟩
  | plan gens => exact ⟨h.master, length_lastGens _, h.keys, h.counts, h.added⟩
  | rebalance plans empty partitionedAt term => exact h.rebalance plans empty partitionedAt term
  | memberAdd entry term => exact h.memberAdd static entry term
  | memberRemove key registered term =>
    exact h.commitRuntime fun r changed hr x hx =>
      h.added x (Runtime.mem_added_of_memberRemove hr x hx)
  | apply doc => exact h.applied doc

/-- For every document, `_apply_sync_doc` raises and leaves the state as it is or installs a
state that depends on the document alone; and the document of every reachable state
installs that state on any coordinator with the same settings. -/
theorem syncDoc_installs (py : Python) (rules : MemberRules) (static : List Member) :
    (∀ doc, (∃ e, ∀ s, applySyncDoc py rules doc s = .error e s) ∨
      ∃ r, ∀ s, applySyncDoc py rules doc s = .ok () r) ∧ ∀ (ops : List Op) (s' : Replica),
      applySyncDoc py rules (.obj (run (step py rules static) {} ops).syncDoc) s' =
        .ok () (run (step py rules static) {} ops) := by
  refine ⟨applySyncDoc_cases py rules, fun ops s' => ?_⟩
  have hstep : ∀ s op, Sound py rules s → Sound py rules (step py rules static s op) :=
    fun _ op h => h.step static op
  exact (run_of_step _ hstep ops {} sound_initial).apply_of_reads (reads_syncDoc _) s'

end Replica

end HeimdallDaq.Federation
