/-
  Federation/Persistence.lean --- the three state files of a coordinator.

  `_persist` writes the state document as three files, each replaced atomically, one
  after the other; the pair `(term, version)` stands in the first.
-/
import HeimdallDaq.Federation.SyncDoc

namespace HeimdallDaq.Federation

open Foundation Dict

/-! ## Files -/

namespace Replica

variable (s : Replica)

def masterFile : Dict Json :=
  [("term", .int s.syncTerm), ("version", .int s.version), ("set_at", s.setAt),
    ("schedule", s.scheduleJson)]

def assignmentsFile : Dict Json :=
  [("rebalance_seq", .int s.rebalanceSeq), ("assignments", s.assignmentsJson),
    ("issued_gens", .arr (s.issuedGens.map .int)), ("empty", .arr s.empty),
    ("partitioned_at", s.partitionedAt)]

end Replica

/-- The files of `state_dir`, as far as they exist. -/
structure Files where
  master : Option (Dict Json) := none
  members : Option (Dict Json) := none
  assignments : Option (Dict Json) := none

namespace Files

def persist (s : Replica) (n : ℕ) (f : Files) : Files where
  master := if 1 ≤ n then some s.masterFile else f.master
  members := if 2 ≤ n then some s.runtime.doc else f.members
  assignments := if 3 ≤ n then some s.assignmentsFile else f.assignments

def memberItems (f : Files) : Dict Json :=
  (f.members.map fun part => [("members_runtime", Json.obj part)]).getD []

def doc (f : Files) : Dict Json :=
  Dict.update (Dict.update (Dict.update [] (f.master.getD [])) f.memberItems)
    (f.assignments.getD [])

def load (py : Python) (rules : MemberRules) (f : Files) : Replica :=
  if f.doc.isEmpty then {}
  else Replica.applied py rules {}
    (.obj ((f.doc.setDefault "term" (.int 0)).setDefault "version" (.int 0)))

end Files

/-! ## What the files hold -/

/-- Each file was written from `s`, or is missing and its part of `s` is initial. -/
structure Files.Hold (f : Files) (s : Replica) : Prop where
  master : f.master = some s.masterFile ∨
    (f.master = none ∧ s.syncTerm = 0 ∧ s.version = 0 ∧ s.setAt = .null ∧ s.master = none)
  members : f.members = some s.runtime.doc ∨ (f.members = none ∧ s.runtime = {})
  assignments : f.assignments = some s.assignmentsFile ∨
    (f.assignments = none ∧ s.rebalanceSeq = 0 ∧ s.assignments = [] ∧ s.issuedGens = [] ∧
      s.empty = [] ∧ s.partitionedAt = .null)

open Replica

namespace Files

variable {f : Files} {s : Replica}

lemma Hold.find_doc (h : f.Hold s) (key : String) :
    f.doc.find key = ((f.assignments.getD []).find key).or
      ((f.memberItems.find key).or ((f.master.getD []).find key)) := by
  have hmaster : (f.master.getD []).keys.Nodup := by
    rcases h.master with hm | ⟨hm, -⟩ <;> simp [hm, masterFile]
  have hmembers : f.memberItems.keys.Nodup := by
    rcases h.members with hm | ⟨hm, -⟩ <;> simp [memberItems, hm]
  have hassignments : (f.assignments.getD []).keys.Nodup := by
    rcases h.assignments with hm | ⟨hm, -⟩ <;> simp [hm, assignmentsFile]
  rw [doc, find_update hassignments, find_update hmembers, find_update hmaster]
  simp

variable {key : String}

lemma Hold.find_assignments (h : f.Hold s)
    (hkey : key ∉ ["rebalance_seq", "assignments", "issued_gens", "empty", "partitioned_at"]) :
    (f.assignments.getD []).find key = none := by
  refine find_eq_none_of_not_mem ?_
  rcases h.assignments with hm | ⟨hm, -⟩
  · rw [hm]
    exact hkey
  · simp [hm]

lemma Hold.find_memberItems (h : f.Hold s) (hkey : key ≠ "members_runtime") :
    f.memberItems.find key = none := by
  rcases h.members with hm | ⟨hm, -⟩
  · simp [memberItems, hm, find_cons, hkey.symm]
  · simp [memberItems, hm]

lemma Hold.find_master (h : f.Hold s) (hkey : key ∉ ["term", "version", "set_at", "schedule"]) :
    (f.master.getD []).find key = none := by
  refine find_eq_none_of_not_mem ?_
  rcases h.master with hm | ⟨hm, -⟩
  · rw [hm]
    exact hkey
  · simp [hm]

lemma Hold.readsSchedule (h : f.Hold s) : Replica.ReadsSchedule f.doc s := by
  have hfind : ∀ key ∈ ["term", "version", "set_at", "schedule"],
      f.doc.find key = (f.master.getD []).find key := by
    intro key hkey
    have hA : key ∉ ["rebalance_seq", "assignments", "issued_gens", "empty", "partitioned_at"] := by
      revert key
      decide
    have hM : key ≠ "members_runtime" := by
      revert key
      decide
    rw [h.find_doc, h.find_assignments hA, h.find_memberItems hM]
    rfl
  rcases h.master with hm | ⟨hm, hterm, hversion, hset, hmaster⟩
  · constructor <;> rw [SyncDoc.get, hfind _ (by decide), hm] <;> simp [masterFile, find_cons]
  · constructor <;> rw [SyncDoc.get, hfind _ (by decide), hm] <;>
      simp [scheduleJson, hterm, hversion, hset, hmaster]

lemma Hold.readsRuntime (h : f.Hold s) : Replica.ReadsRuntime f.doc s := by
  have hfind : f.doc.find "members_runtime" = f.memberItems.find "members_runtime" := by
    rw [h.find_doc, h.find_assignments (by decide), h.find_master (by decide)]
    simp
  rcases h.members with hm | ⟨hm, hruntime⟩
  · refine readsRuntime_of_find ?_
    rw [hfind]
    simp [memberItems, hm, find_cons]
  · refine ⟨[], ?_, ?_, ?_⟩
    · simp [hfind, memberItems, hm, Json.orEmpty]
    · simp [SyncDoc.get, hruntime]
    · simp [SyncDoc.get, hruntime]

lemma Hold.readsAssignments (h : f.Hold s) : Replica.ReadsAssignments f.doc s := by
  have hfind : ∀ key ∈ ["rebalance_seq", "assignments", "issued_gens", "empty", "partitioned_at"],
      f.doc.find key = (f.assignments.getD []).find key := by
    intro key hkey
    have hS : key ∉ ["term", "version", "set_at", "schedule"] := by
      revert key
      decide
    have hM : key ≠ "members_runtime" := by
      revert key
      decide
    rw [h.find_doc, h.find_master hS, h.find_memberItems hM]
    simp
  rcases h.assignments with hm | ⟨hm, hseq, hass, hgens, hempty, hpart⟩
  · constructor <;> first | rw [SyncDoc.get, hfind _ (by decide), hm] | rw [hfind _ (by decide), hm]
    all_goals simp [assignmentsFile, assignmentsJson, find_cons]
  · constructor <;> first | rw [SyncDoc.get, hfind _ (by decide), hm] | rw [hfind _ (by decide), hm]
    all_goals simp [Json.orEmpty, assignmentsJson, hseq, hass, hgens, hempty, hpart]

lemma Hold.reads (h : f.Hold s) : Replica.Reads f.doc s :=
  ⟨h.readsSchedule, h.readsRuntime, h.readsAssignments⟩

lemma reads_setDefault {doc : Dict Json} (key : String) (hkey : key ∈ ["term", "version"])
    (h : Replica.Reads doc s) : Replica.Reads (doc.setDefault key (.int 0)) s := by
  have hget : ∀ k, SyncDoc.get (doc.setDefault key (.int 0)) k (.int 0) =
      SyncDoc.get doc k (.int 0) := by
    intro k
    by_cases hk : k = key
    · simp [SyncDoc.get, hk, find_setDefault_self]
    · simp [SyncDoc.get, find_setDefault_of_ne _ _ hk]
  have hfind : ∀ k ∉ ["term", "version"], (doc.setDefault key (.int 0)).find k = doc.find k := by
    intro k hk
    refine find_setDefault_of_ne _ _ ?_
    rintro rfl
    exact hk hkey
  have hkeep : ∀ k ∉ ["term", "version"], ∀ default,
      SyncDoc.get (doc.setDefault key (.int 0)) k default = SyncDoc.get doc k default := by
    intro k hk default
    rw [SyncDoc.get, hfind k hk, SyncDoc.get]
  obtain ⟨items, hitems, hadded, hremoved⟩ := h.runtime
  refine ⟨⟨?_, ?_, ?_, ?_⟩, ⟨items, ?_, hadded, hremoved⟩, ⟨?_, ?_, ?_, ?_, ?_⟩⟩
  · rw [hget, h.schedule.term]
  · rw [hget, h.schedule.version]
  · rw [hkeep _ (by decide), h.schedule.schedule]
  · rw [hkeep _ (by decide), h.schedule.setAt]
  · rw [hfind _ (by decide), hitems]
  · rw [hget, h.assignments.rebalanceSeq]
  · rw [hfind _ (by decide), h.assignments.assignments]
  · rw [hkeep _ (by decide), h.assignments.issuedGens]
  · rw [hkeep _ (by decide), h.assignments.empty]
  · rw [hkeep _ (by decide), h.assignments.partitionedAt]

lemma hold_initial : Hold {} {} where
  master := .inr ⟨rfl, rfl, rfl, rfl, rfl⟩
  members := .inr ⟨rfl, rfl⟩
  assignments := .inr ⟨rfl, rfl, rfl, rfl, rfl, rfl⟩

section Load

variable {py : Python} {rules : MemberRules}

lemma Hold.eq_initial (h : f.Hold s) (hs : s.Sound py rules) (hdoc : f.doc = []) : s = {} := by
  have hread : Replica.Reads [] s := hdoc ▸ h.reads
  have hsame : applySyncDoc py rules (.obj []) {} = .ok () s := hs.apply_of_reads hread {}
  have hinitial : applySyncDoc py rules (.obj []) {} = .ok () {} :=
    sound_initial.apply_of_reads hold_initial.reads {}
  exact (EStateM.Result.ok.inj (hsame.symm.trans hinitial)).2

lemma Hold.load (h : f.Hold s) (hs : s.Sound py rules) : f.load py rules = s := by
  unfold Files.load
  split
  · rename_i hdoc
    exact (h.eq_initial hs (List.isEmpty_iff.mp hdoc)).symm
  · have hread := reads_setDefault "version" (by decide)
      (reads_setDefault "term" (by decide) h.reads)
    rw [applied, hs.apply_of_reads hread]

end Load

end Files

/-! ## Torn states -/

inductive Part
  | master
  | members
  | assignments
  deriving DecidableEq

def Part.position : Part → ℕ
  | .master => 1
  | .members => 2
  | .assignments => 3

namespace Replica

/-- Two states agree on what one file says of the pair, the schedule, the runtime members,
the assignments and the issued generations. -/
def Agree (c r : Replica) : Part → Prop
  | .master => c.syncTerm = r.syncTerm ∧ c.version = r.version ∧ c.master = r.master
  | .members => c.runtime = r.runtime
  | .assignments => c.assignments = r.assignments ∧ c.issuedGens = r.issuedGens

def Carries (c r : Replica) : Prop := ∀ part, Agree c r part

lemma agree_refl (c : Replica) (part : Part) : Agree c c part := by
  cases part <;> simp [Agree]

lemma Agree.symm {c r : Replica} {part : Part} (h : Agree c r part) : Agree r c part := by
  cases part with
  | master => exact ⟨h.1.symm, h.2.1.symm, h.2.2.symm⟩
  | members => exact Eq.symm h
  | assignments => exact ⟨h.1.symm, h.2.symm⟩

lemma Agree.trans {c r t : Replica} {part : Part} (h : Agree c r part) (h' : Agree r t part) :
    Agree c t part := by
  cases part with
  | master => exact ⟨h.1.trans h'.1, h.2.1.trans h'.2.1, h.2.2.trans h'.2.2⟩
  | members => exact Eq.trans h h'
  | assignments => exact ⟨h.1.trans h'.1, h.2.trans h'.2⟩

def torn (n : ℕ) (new old : Replica) : Replica where
  master := if 1 ≤ n then new.master else old.master
  version := if 1 ≤ n then new.version else old.version
  syncTerm := if 1 ≤ n then new.syncTerm else old.syncTerm
  setAt := if 1 ≤ n then new.setAt else old.setAt
  runtime := if 2 ≤ n then new.runtime else old.runtime
  rebalanceSeq := if 3 ≤ n then new.rebalanceSeq else old.rebalanceSeq
  issuedGens := if 3 ≤ n then new.issuedGens else old.issuedGens
  empty := if 3 ≤ n then new.empty else old.empty
  partitionedAt := if 3 ≤ n then new.partitionedAt else old.partitionedAt
  assignments := if 3 ≤ n then new.assignments else old.assignments

variable {n : ℕ} {new old : Replica} {part : Part}

lemma agree_torn_of_le (h : part.position ≤ n) : Agree new (torn n new old) part := by
  cases part <;> simp_all [Agree, torn, Part.position]

lemma agree_torn_of_lt (h : n < part.position) : Agree old (torn n new old) part := by
  have hle : ¬ part.position ≤ n := Nat.not_le.mpr h
  cases part <;> simp_all [Agree, torn, Part.position]

lemma torn_zero (new old : Replica) : torn 0 new old = old := rfl

lemma torn_three (new old : Replica) : torn 3 new old = new := rfl

lemma Sound.torn {py : Python} {rules : MemberRules} (hnew : new.Sound py rules)
    (hold : old.Sound py rules) : (torn n new old).Sound py rules := by
  obtain ⟨hmaster, hissued, hkeys, hcounts, hadded⟩ := hnew
  obtain ⟨hmaster', hissued', hkeys', hcounts', hadded'⟩ := hold
  constructor <;> dsimp only [Replica.torn] <;> split <;> assumption

end Replica

lemma Files.Hold.persist {f : Files} {old : Replica} (h : f.Hold old) (new : Replica) (n : ℕ) :
    (f.persist new n).Hold (Replica.torn n new old) where
  master := by
    unfold Files.persist torn masterFile scheduleJson
    by_cases hn : 1 ≤ n
    · simp [hn]
    · simp only [hn, ↓reduceIte]
      exact h.master
  members := by
    unfold Files.persist torn
    by_cases hn : 2 ≤ n
    · simp [hn]
    · simpa [hn] using h.members
  assignments := by
    unfold Files.persist torn assignmentsFile assignmentsJson
    by_cases hn : 3 ≤ n
    · simp [hn]
    · simp only [hn, ↓reduceIte]
      exact h.assignments

/-! ## Runs with crashes -/

/-- A coordinator with its files, and two records of the run: the state the files were last
written from or read as, and the states that were committed. -/
structure Coordinator where
  memory : Replica := {}
  files : Files := {}
  last : Replica := {}
  committed : List Replica := [{}]

inductive Event
  | finish (op : Replica.Op)
  /-- a section runs, the process dies after `n` replacements of its `_persist`, and another
  process loads the files -/
  | crash (op : Replica.Op) (n : ℕ)

open Coordinator

namespace Coordinator

variable (py : Python) (rules : MemberRules) (static : List Member)

def persists (s : Replica) : Replica.Op → Bool
  | .plan _ => false
  | .update _ => true
  | .apply doc =>
    match applySyncDoc py rules doc s with
    | .ok _ _ => true
    | .error _ _ => false
  | op => (s.step py rules static op).version ≠ s.version

variable (w : Coordinator)

def written (op : Replica.Op) (n : ℕ) : ℕ := if persists py rules static w.memory op then n else 0

def next (op : Replica.Op) : Replica := w.memory.step py rules static op

def commit (op : Replica.Op) : List Replica :=
  if persists py rules static w.memory op then w.next py rules static op :: w.committed
  else w.committed

def step : Event → Coordinator
  | .finish op =>
    let new := w.next py rules static op
    { memory := new
      files := w.files.persist new (w.written py rules static op 3)
      last := if persists py rules static w.memory op then new else w.last
      committed := w.commit py rules static op }
  | .crash op n =>
    let new := w.next py rules static op
    let files := w.files.persist new (w.written py rules static op n)
    { memory := files.load py rules
      files := files
      last := files.load py rules
      committed := w.commit py rules static op }

def Whole : Event → Prop
  | .finish _ => True
  | .crash op n =>
    (∀ part : Part, part.position ≤ w.written py rules static op n →
      Replica.Agree w.last (w.next py rules static op) part) ∨
    ∀ part : Part, w.written py rules static op n < part.position →
      Replica.Agree w.last (w.next py rules static op) part

structure Stored (w : Coordinator) : Prop where
  memory : w.memory.Sound py rules
  last : w.last.Sound py rules
  files : w.files.Hold w.last

variable {py rules static} {w : Coordinator}

lemma stored_initial : Stored py rules {} :=
  ⟨sound_initial, sound_initial, Files.hold_initial⟩

lemma Stored.torn (h : w.Stored py rules) (op : Replica.Op) (n : ℕ) :
    (w.files.persist (w.next py rules static op) n).load py rules =
      Replica.torn n (w.next py rules static op) w.last :=
  (h.files.persist _ n).load ((h.memory.step static op).torn h.last)

lemma Stored.step (h : w.Stored py rules) (e : Event) :
    (w.step py rules static e).Stored py rules := by
  cases e with
  | finish op =>
    have hnew : (w.next py rules static op).Sound py rules := h.memory.step static op
    have hfiles := h.files.persist (w.next py rules static op) (w.written py rules static op 3)
    cases hp : persists py rules static w.memory op with
    | true =>
      rw [written, if_pos hp, torn_three] at hfiles
      simp only [Coordinator.step, written, hp, ↓reduceIte]
      exact ⟨hnew, hnew, hfiles⟩
    | false =>
      rw [written, if_neg (Bool.not_eq_true _ ▸ hp), torn_zero] at hfiles
      simp only [Coordinator.step, written, hp, Bool.false_eq_true, ↓reduceIte]
      exact ⟨hnew, h.last, hfiles⟩
  | crash op n =>
    have hsound : (Replica.torn (w.written py rules static op n) (w.next py rules static op)
        w.last).Sound py rules := .torn (h.memory.step static op) h.last
    simp only [Coordinator.step, h.torn]
    exact ⟨hsound, hsound, h.files.persist _ _⟩

/-- The state rebuilt after a crash has the parts of one of the two states the files were
written from exactly if the crash left them whole. -/
lemma Stored.carries_iff (h : w.Stored py rules) (op : Replica.Op) (n : ℕ) :
    (∃ c ∈ [w.last, w.next py rules static op],
      Replica.Carries c (w.step py rules static (.crash op n)).memory) ↔
      w.Whole py rules static (.crash op n) := by
  simp only [Coordinator.step, h.torn, List.mem_cons, List.not_mem_nil, or_false, exists_eq_or_imp,
    exists_eq_left]
  constructor
  · rintro (hlast | hnew)
    · exact Or.inl fun part hpart => (hlast part).trans (agree_torn_of_le hpart).symm
    · exact Or.inr fun part hpart => (agree_torn_of_lt hpart).trans (hnew part).symm
  · rintro (hle | hlt)
    · refine .inl fun part => ?_
      rcases Nat.lt_or_ge (w.written py rules static op n) part.position with hpart | hpart
      · exact agree_torn_of_lt hpart
      · exact (hle part hpart).trans (agree_torn_of_le hpart)
    · refine .inr fun part => ?_
      rcases Nat.lt_or_ge (w.written py rules static op n) part.position with hpart | hpart
      · exact (hlt part hpart).symm.trans (agree_torn_of_lt hpart)
      · exact agree_torn_of_le hpart

def Recorded (w : Coordinator) : Prop := ∃ c ∈ w.committed, Replica.Carries c w.last

lemma mem_commit {c : Replica} (h : c ∈ w.committed) (op : Replica.Op) :
    c ∈ w.commit py rules static op := by
  unfold commit
  split
  · exact List.mem_cons_of_mem _ h
  · exact h

lemma Recorded.step (h : w.Recorded) (hstored : w.Stored py rules) {e : Event}
    (hwhole : w.Whole py rules static e) : (w.step py rules static e).Recorded := by
  obtain ⟨c, hc, hcarries⟩ := h
  cases e with
  | finish op =>
    by_cases hp : persists py rules static w.memory op = true
    · refine ⟨w.next py rules static op, ?_, ?_⟩
      · simp [Coordinator.step, commit, hp]
      · simp only [Coordinator.step, hp, ↓reduceIte]
        exact agree_refl _
    · refine ⟨c, mem_commit hc op, ?_⟩
      simpa [Coordinator.step, hp] using hcarries
  | crash op n =>
    by_cases hp : persists py rules static w.memory op = true
    · obtain ⟨d, hd, hd'⟩ := (hstored.carries_iff op n).mpr hwhole
      rcases List.mem_pair.mp hd with rfl | rfl
      · exact ⟨c, mem_commit hc op, fun part => (hcarries part).trans (hd' part)⟩
      · exact ⟨_, by simp [Coordinator.step, commit, hp], hd'⟩
    · refine ⟨c, mem_commit hc op, ?_⟩
      -- nothing was replaced
      have hzero : w.written py rules static op n = 0 := if_neg hp
      simpa only [Coordinator.step, hstored.torn, hzero, torn_zero] using hcarries

/-- At every point of every run, a crash gives a restart the schedule, members, assignments and
generations of the state whose pair it has exactly if it left the files whole; and after a run
whose crashes all did, a restart has the parts of a state committed under its pair. -/
theorem rebuilt_carries_iff (py : Python) (rules : MemberRules) (static : List Member)
    (events : List Event) (op : Replica.Op) (n : ℕ) :
    let w := run (step py rules static) {} events
    ((∃ c ∈ [w.last, w.next py rules static op],
        Replica.Carries c (w.step py rules static (.crash op n)).memory) ↔
      w.Whole py rules static (.crash op n)) ∧
    (Along (step py rules static) (Whole py rules static) {} (events ++ [.crash op n]) →
      ∃ c ∈ (w.step py rules static (.crash op n)).committed,
        Replica.Carries c (w.step py rules static (.crash op n)).memory) := by
  intro w
  have hkeep : ∀ v e, Stored py rules v → Stored py rules (v.step py rules static e) :=
    fun _ e h => h.step e
  have hstored : w.Stored py rules := run_of_step _ hkeep events {} stored_initial
  refine ⟨hstored.carries_iff op n, fun hwhole => ?_⟩
  have hstep : ∀ v e, Stored py rules v ∧ v.Recorded → v.Whole py rules static e →
      Stored py rules (v.step py rules static e) ∧ (v.step py rules static e).Recorded :=
    fun v e h he => ⟨hkeep v e h.1, h.2.step h.1 he⟩
  have hinitial : Recorded {} := ⟨{}, List.mem_cons_self, agree_refl _⟩
  have hrecorded := (run_invariant _ hstep _ _ ⟨stored_initial, hinitial⟩ hwhole).2
  rw [run_append] at hrecorded
  -- after a crash memory is the last state
  exact hrecorded

end Coordinator

namespace Lone

def interpreter : Python where
  intOfText := fun _ => none
  floatOfText := fun _ => none
  floatOfInt := fun _ => none
  repr := fun _ => ""
  errorText := fun _ _ => ""
  isSpace := fun _ => false
  lower := id

def rules : MemberRules := ⟨100, true, fun _ => false⟩

def host : Member where
  entry := "hosta:0"
  host := "hosta"
  instanceId := 0
  nodeKey := "hosta:0"
  nodeId := none
  portStride := 100
  ports := computePorts 0 100

def removal : Replica.Op := .memberRemove "hosta:0" false 1

/-- The removal is committed as version 1 of term 1; the process dies after the first
replacement, and the restart has that pair without the removal. -/
theorem removal_lost :
    let new := Coordinator.next interpreter rules [host] {} removal
    let rebuilt := (Coordinator.step interpreter rules [host] {} (.crash removal 1)).memory
    new.syncTerm = 1 ∧ new.version = 1 ∧ new.runtime.removed = {"hosta:0"} ∧
      rebuilt.syncTerm = 1 ∧ rebuilt.version = 1 ∧ rebuilt.runtime.removed = ∅ := by
  decide

/-- A crash after the last replacement loses nothing. -/
theorem rebuilt_carries_iff_finished :
    let w := Coordinator.step interpreter rules [host] {} (.crash removal 3)
    ∃ c ∈ w.committed, Replica.Carries c w.memory := by
  refine (rebuilt_carries_iff interpreter rules [host] [] removal 3).2 ⟨?_, trivial⟩
  have hwritten : written interpreter rules [host] {} removal 3 = 3 := by decide
  refine .inr fun part hpart => ?_
  rw [hwritten] at hpart
  cases part <;> exact absurd hpart (by decide)

end Lone

end HeimdallDaq.Federation
