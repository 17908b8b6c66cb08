/-
  HwController/Fencing.lean --- the fence of the control port.

  A handshake that names the cluster raises `max_term_seen` to its term and writes the
  fence file before the connection can submit anything, so no connection holds a term
  above the fence.
-/
import HeimdallDaq.HwController.Requests

namespace HeimdallDaq.HwController

open Foundation List World

def executedTerms (trace : List Event) : List ℕ :=
  trace.filterMap fun e =>
    match e with
    | .executed _ _ term _ _ => if term = 0 then none else some term
    | _ => none

def Action.Named {M : ℕ} : Action M → Prop
  | .xack _ _ clusterId => clusterId ≠ ""
  | _ => True

namespace World

variable {M : ℕ} (cfg : Config)

def fileTerm (w : World M) : ℕ := w.fenceFile.getD 0

/-- The invariant of the fence. -/
@[local grind]
structure Fenced (w : World M) : Prop where
  file_le : w.fileTerm ≤ w.maxTermSeen
  file_eq : w.fenceLock = none → w.fileTerm = w.maxTermSeen
  conn_le : ∀ c s, w.conns c = some s → s.term ≤ w.maxTermSeen
  req_le : ∀ id r, w.reqs id = some r → r.term ≤ w.maxTermSeen
  executed_le : ∀ t ∈ executedTerms w.trace, t ≤ w.fileTerm
  sorted : (executedTerms w.trace).Pairwise (· ≥ ·)
  known : ∀ id r, w.reqs id = some r → id < w.nextId
  running_lt : ∀ id todo, w.main = .running id todo → id < w.nextId
  passed : ∀ id todo r, w.main = .running id todo → w.reqs id = some r →
    r.term ≤ w.fileTerm ∧ (r.term ≠ 0 → ∀ t ∈ executedTerms w.trace, t ≤ r.term)

structure Carries (w w' : World M) : Prop where
  max : w'.maxTermSeen = w.maxTermSeen
  file : w'.fenceFile = w.fenceFile
  lock : w'.fenceLock = w.fenceLock
  conns : w'.conns = w.conns
  nextId : w'.nextId = w.nextId
  reqs : ∀ id r', w'.reqs id = some r' → ∃ r, w.reqs id = some r ∧ r.term = r'.term
  executed : executedTerms w'.trace = executedTerms w.trace
  main : ∀ id todo, w'.main = .running id todo → w.main = .running id todo

lemma Carries.refl (w : World M) : w.Carries w :=
  ⟨rfl, rfl, rfl, rfl, rfl, fun _ r hr => ⟨r, hr, rfl⟩, rfl, fun _ _ h => h⟩

variable {w w' : World M}

lemma carries_of_eq (hmax : w'.maxTermSeen = w.maxTermSeen)
    (hfile : w'.fenceFile = w.fenceFile) (hlock : w'.fenceLock = w.fenceLock)
    (hconns : w'.conns = w.conns) (hnext : w'.nextId = w.nextId) (hreqs : w'.reqs = w.reqs)
    (hexec : executedTerms w'.trace = executedTerms w.trace)
    (hmain : ∀ id todo, w'.main = .running id todo → w.main = .running id todo) : w.Carries w' :=
  ⟨hmax, hfile, hlock, hconns, hnext, fun _ r hr => ⟨r, hreqs ▸ hr, rfl⟩, hexec, hmain⟩

variable {id : ℕ}

lemma carries_setReq {r r' : CtrRequest} {p : MainPoint}
    (hr : w.reqs id = some r) (hterm : r'.term = r.term)
    (hp : ∀ i todo, p = .running i todo → w.main = .running i todo) :
    w.Carries ((w.setReq id r').setMain p) := by
  refine ⟨rfl, rfl, rfl, rfl, rfl, ?_, rfl, hp⟩
  simp [setReq, setMain, Function.update_apply]
  grind

lemma Fenced.carries (h : w.Fenced) (hc : w.Carries w') : w'.Fenced := by
  obtain ⟨⟩ := h
  obtain ⟨⟩ := hc
  constructor <;> simp_all [fileTerm] <;> grind

/-! ## Steps that leave the fence alone -/

lemma answer_carries (hc : w.Carries w') (id : ℕ) (reply : Reply) :
    w.Carries (w'.answer id reply) :=
  ⟨hc.max, hc.file, hc.lock, hc.conns, hc.nextId, hc.reqs, hc.executed, hc.main⟩

lemma setServer_carries (hc : w.Carries w') (id : ℕ) (p : ServerPoint) :
    w.Carries (w'.setServer id p) :=
  ⟨hc.max, hc.file, hc.lock, hc.conns, hc.nextId, hc.reqs, hc.executed, hc.main⟩

variable {r : CtrRequest}

lemma cancel_carries (w : World M) (hr : w.reqs id = some r) : w.Carries (w.cancel id r) := by
  have hcancel : w.Carries (w.setReq id { r with state := .cancelled }) :=
    carries_setReq (p := w.main) hr rfl fun _ _ h => h
  unfold cancel
  grind [Carries.refl, answer_carries, setServer_carries]

lemma serverStep_carries (w : World M) (act : Action M)
    (hr : w.reqs id = some r) : w.Carries (w.serverStep act id r) := by
  have hput : w.Carries ({ w with queue := w.queue ++ [id] }.setServer id .waiting) :=
    carries_of_eq rfl rfl rfl rfl rfl rfl rfl fun _ _ h => h
  unfold serverStep
  grind [Carries.refl, answer_carries, setServer_carries, cancel_carries]

lemma setMain_carries (w : World M) {p : MainPoint} (hp : ∀ id todo, p ≠ .running id todo) :
    w.Carries (w.setMain p) :=
  carries_of_eq rfl rfl rfl rfl rfl rfl rfl fun id todo h => absurd h (hp id todo)

lemma look_carries (w : World M) (id : ℕ) (todo : List ℕ) (r : CtrRequest) :
    w.Carries (w.look cfg id todo r) := by
  grind [setMain, carries_of_eq, look]

lemma tryStart_carries (w : World M) (todo : List ℕ)
    (hr : w.reqs id = some r) : w.Carries (w.tryStart id todo r) := by
  unfold tryStart
  split
  · refine carries_setReq hr rfl fun i rest h => ?_
    split at h <;> simp at h
  · exact w.setMain_carries (by simp)

/-! ## The fence -/

variable {cfg}

namespace Fenced

lemma boot (hwc : Hwc M) (fenceFile : Option ℕ) : Fenced (World.boot hwc fenceFile 0 []) := by
  constructor <;> simp [World.boot, executedTerms, fileTerm]

section

variable (h : Fenced w)
include h

lemma restart (hwc : Hwc M) : Fenced (World.boot hwc w.fenceFile w.nextId w.trace) := by
  obtain ⟨⟩ := h
  constructor <;> simp_all [World.boot, fileTerm]

lemma setConn (conn : ℕ) {c : ConnState} (hterm : c.term ≤ w.maxTermSeen) :
    Fenced (w.setConn conn c) := by
  obtain ⟨⟩ := h
  constructor <;> simp [World.setConn, fileTerm, Function.update_apply] at * <;> grind

lemma handleXack (conn term : ℕ) {clusterId : String} (hnamed : clusterId ≠ "") :
    Fenced (w.handleXack cfg conn term clusterId) := by
  obtain ⟨⟩ := h
  unfold World.handleXack
  split
  · constructor <;> assumption
  · split_ifs <;> constructor <;> simp [World.setConn, fileTerm, Function.update_apply] at * <;> grind

lemma persistFence (conn : ℕ) : Fenced (w.persistFence conn) := by
  obtain ⟨⟩ := h
  unfold World.persistFence
  split <;> constructor <;> grind [fileTerm]

lemma submit (conn : ℕ) (command : Command) (alwaysJson : Bool) :
    Fenced (w.submit conn command alwaysJson) := by
  unfold World.submit
  split
  · exact h
  · split
    · exact h
    · obtain ⟨⟩ := h
      constructor <;> simp [setReq, setServer, fileTerm, Function.update_apply] at * <;> grind

lemma checkFence {id : ℕ} (todo : List ℕ) {r : CtrRequest}
    (hr : w.reqs id = some r) : Fenced (w.checkFence id todo r) := by
  unfold World.checkFence
  split
  · exact h
  · split
    · exact h.carries (carries_of_eq rfl rfl rfl rfl rfl rfl rfl (by simp [setMain]))
    · obtain ⟨⟩ := h
      constructor <;> simp [setMain, isStale, fileTerm] at * <;> grind

lemma execute {id : ℕ} {todo : List ℕ} {r : CtrRequest}
    (hmain : w.main = .running id todo) (hr : w.reqs id = some r) (v : Verdicts) :
    Fenced (w.execute cfg id todo r v) := by
  obtain ⟨hfile, hall⟩ := h.passed id todo r hmain hr
  have htrace : executedTerms (w.execute cfg id todo r v).trace =
      (if r.term = 0 then [] else [r.term]) ++ executedTerms w.trace := by
    simp only [World.execute, note, World.setMain, executedTerms, filterMap_cons]
    split_ifs <;> rfl
  obtain ⟨⟩ := h
  constructor <;> simp [World.execute, note, World.setMain, fileTerm] at * <;> grind

lemma mainStep (v : Verdicts) (payload : String) : Fenced (w.mainStep cfg v payload) := by
  have hreq : ∀ {id : ℕ} {f : CtrRequest → World M},
      (∀ r, w.reqs id = some r → Fenced (f r)) → Fenced (w.withReq id f) := withReq_of h
  unfold World.mainStep
  split
  · exact h
  · split
    · exact h.carries (w.setMain_carries (by simp))
    · exact h.carries (carries_of_eq rfl rfl rfl rfl rfl rfl rfl (by simp [setMain]))
  · exact h.carries (carries_of_eq rfl rfl rfl rfl rfl rfl rfl (by simp [setMain]))
  · rename_i id todo hmain
    exact hreq fun r _ => h.carries (w.look_carries cfg id todo r)
  · rename_i id todo hmain
    exact hreq fun r hr => h.carries (w.tryStart_carries todo hr)
  · rename_i id todo hmain
    refine hreq fun r hr => h.carries ?_
    have hstored : w.Carries ((w.setReq id { r with replyPayload := some payload }).setMain
        (.finishing id (.ran (some true, .ok)) todo)) := carries_setReq hr rfl (by simp)
    exact ⟨hstored.max, hstored.file, hstored.lock, hstored.conns, hstored.nextId, hstored.reqs,
      hstored.executed, hstored.main⟩
  · rename_i id todo hmain
    exact hreq fun r hr => h.checkFence todo hr
  · rename_i id todo hmain
    exact hreq fun r hr => h.execute hmain hr v
  · rename_i id fin todo hmain
    exact hreq fun r hr => h.carries (carries_setReq hr rfl (by simp))
  · rename_i id todo hmain
    exact hreq fun r hr => h.carries (carries_setReq hr rfl (by simp))

lemma step {act : Action M} (hnamed : act.Named) : Fenced (w.step cfg act) := by
  have hserver : ∀ {id : ℕ} {a : Action M}, Fenced (w.withReq id fun r => w.serverStep a id r) := by
    intro id a
    refine withReq_of h fun r hr => ?_
    exact h.carries (w.serverStep_carries a hr)
  cases act with
  | connect conn => grind [step, h.setConn conn (c := {}) (Nat.zero_le _)]
  | xack conn term clusterId => exact h.handleXack conn term hnamed
  | persistFence conn => exact h.persistFence conn
  | submit conn command alwaysJson => exact h.submit conn command alwaysJson
  | put id => exact hserver
  | full id => exact hserver
  | timeout id => exact hserver
  | cancel id => exact hserver
  | wake id => exact hserver
  | frame hdr inp => grind [carries, carries_of_eq, step]
  | drain allow => grind [setMain, carries, carries_of_eq, step]
  | main v payload => exact h.mainStep v payload
  | restart hwc => exact h.restart hwc

end

end Fenced

/-! ## Runs -/

/-- A restart finds no handshake between its raise of the fence and the write of the
file: every write of the fence succeeds. -/
def Written (w : World M) : Action M → Prop
  | .restart _ => w.fenceLock = none
  | _ => True

lemma mainStep_max (w : World M) (v : Verdicts) (payload : String) :
    (w.mainStep cfg v payload).maxTermSeen = w.maxTermSeen := by
  unfold mainStep withReq
  grind [look, tryStart, serve, checkFence, execute, finish, setMain, setReq, note]

lemma le_handleXack_max (w : World M) (cfg : Config) (conn term : ℕ) (clusterId : String) :
    w.maxTermSeen ≤ (w.handleXack cfg conn term clusterId).maxTermSeen := by
  grind [handleXack, setConn]

lemma Fenced.max_le_step (h : w.Fenced) (cfg : Config) {act : Action M}
    (hwritten : w.Written act) : w.maxTermSeen ≤ (w.step cfg act).maxTermSeen := by
  have hfile := h.file_eq
  have hserver : ∀ {id : ℕ} {a : Action M},
      w.maxTermSeen ≤ (w.withReq id fun r => w.serverStep a id r).maxTermSeen := by
    intro id a
    refine withReq_of (P := fun w' => w.maxTermSeen ≤ w'.maxTermSeen) le_rfl fun r hr => ?_
    exact (w.serverStep_carries a hr).max.ge
  cases act <;> first
    | exact hserver
    | simp only [World.step]; grind [le_handleXack_max, mainStep_max, World.persistFence,
        World.submit, World.setConn, setReq, setServer, setMain, Written, World.boot, fileTerm]

variable {actions : List (Action M)}

lemma fenced_run (h : w.Fenced)
    (hnamed : ∀ a ∈ actions, a.Named) : (run (step cfg) w actions).Fenced := by
  induction actions generalizing w with
  | nil => exact h
  | cons a rest ih =>
    obtain ⟨ha, hrest⟩ := forall_mem_cons.mp hnamed
    exact ih (h.step ha) hrest

lemma Fenced.max_le_run (h : w.Fenced)
    (hnamed : ∀ a ∈ actions, a.Named) (hwritten : Along (World.step cfg) Written w actions) :
    w.maxTermSeen ≤ (Foundation.run (World.step cfg) w actions).maxTermSeen := by
  induction actions generalizing w with
  | nil => exact le_rfl
  | cons a rest ih =>
    obtain ⟨ha, hrest⟩ := forall_mem_cons.mp hnamed
    obtain ⟨hwa, hwrest⟩ := hwritten
    exact (h.max_le_step cfg hwa).trans (ih (h.step ha) hrest hwrest)

variable (cfg)

/-- In every run whose handshakes name a cluster, the non-zero connection terms of
the executed requests never decrease, and `max_term_seen` never decreases when every
write of the fence succeeds; both hold across restarts. -/
theorem executed_terms_ordered (hwc : Hwc M) (fenceFile : Option ℕ)
    (first second : List (Action M)) (hnamed : ∀ a ∈ first ++ second, a.Named) :
    let start : World M := boot hwc fenceFile 0 []
    let w := run (step cfg) start first
    let w' := run (step cfg) start (first ++ second)
    (executedTerms w'.trace).Pairwise (· ≥ ·) ∧
      (Along (step cfg) Written start (first ++ second) → w.maxTermSeen ≤ w'.maxTermSeen) := by
  intro start w w'
  obtain ⟨hfirst, hsecond⟩ := forall_mem_append.mp hnamed
  grind [Fenced.boot, fenced_run, run_append, Fenced.max_le_run, along_append]

/-- No executed request has a term above the fence file, wherever a restart cuts in. -/
theorem executed_terms_persisted (hwc : Hwc M) (fenceFile : Option ℕ)
    (hnamed : ∀ a ∈ actions, a.Named) :
    let w := run (step cfg) (boot hwc fenceFile 0 []) actions
    ∀ t ∈ executedTerms w.trace, t ≤ w.fileTerm :=
  (fenced_run (.boot hwc fenceFile) hnamed).executed_le

def handshake (conn term : ℕ) : List (Action 1) :=
  [.connect conn, .xack conn term "default", .persistFence conn]

def agcRequest (conn id : ℕ) : List (Action 1) :=
  [.submit conn .agc true, .put id, .drain true] ++ List.replicate 9 (.main {} "")

theorem executed_terms_persisted_five :
    let w := run (step {}) (boot oneChannel none 0 []) (handshake 0 5 ++ agcRequest 0 0)
    executedTerms w.trace = [5] ∧ ∀ t ∈ executedTerms w.trace, t ≤ w.fileTerm :=
  ⟨by decide, executed_terms_persisted {} oneChannel none (by
    simp [handshake, agcRequest, Action.Named])⟩

/-- Term 5 is executed, after a restart term 3 is refused and term 7 executed. -/
theorem executed_terms_ordered_restarted :
    let start : World 1 := boot oneChannel none 0 []
    let first := handshake 0 5 ++ agcRequest 0 0
    let second := .restart oneChannel :: handshake 0 3 ++ agcRequest 0 1 ++ handshake 1 7 ++
      agcRequest 1 2
    let w := run (step {}) start first
    let w' := run (step {}) start (first ++ second)
    executedTerms w'.trace = [7, 5] ∧ [7, 5].Pairwise (· ≥ ·) ∧ w.maxTermSeen ≤ w'.maxTermSeen := by
  intro start first second w w'
  have hnamed : ∀ a ∈ first ++ second, a.Named := by
    simp [first, second, handshake, agcRequest, Action.Named]
  have hterms : executedTerms w'.trace = [7, 5] := by decide
  have hwritten : Along (step {}) Written start (first ++ second) := by
    simp only [Along, first, second, handshake, agcRequest, cons_append, nil_append,
      append_assoc, replicate, Written, true_and, and_true]
    decide
  obtain ⟨hsorted, hmax⟩ := executed_terms_ordered {} oneChannel none first second hnamed
  exact ⟨hterms, hterms ▸ hsorted, hmax hwritten⟩

end World

end HeimdallDaq.HwController
