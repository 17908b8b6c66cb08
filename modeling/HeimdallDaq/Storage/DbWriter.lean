/-
  Storage/DbWriter.lean --- the write queue of the database and its shutdown.

  The `put_*` methods of `DAQDatabase` put records in a bounded queue.
-/
import HeimdallDaq.Foundation.Runs
import Mathlib.Data.List.Perm.Subperm
import Mathlib.Data.Rat.Defs

namespace HeimdallDaq.Storage

open Foundation

inductive WriterAt
  /-- before `while not self._closed` -/
  | test
  /-- in `get` -/
  | getting
  /-- behind `get`, before the batch is looked at -/
  | got
  | leaving
  | ended
  deriving DecidableEq

structure Settings where
  writeBatchSize : ℕ := 50
  writeFlushIntervalSec : ℚ := 1

def queueMax : ℕ := 10000

/-- The database with its writer and its producers.  `accepted` and `flushed` are the
records that were put in the queue and passed to `_flush_batch`, in this order. -/
structure Database (α : Type) where
  queue : List α := []
  closed : Bool := false
  writer : WriterAt := .test
  batch : List α := []
  lastFlush : ℚ
  /-- a producer that has passed the test of `_closed` with a record -/
  pending : ℕ → Option α := fun _ => none
  accepted : List α := []
  flushed : List α := []

inductive Action (α : Type)
  /-- a producer calls a `put_*` method -/
  | put (producer : ℕ) (record : α)
  /-- it goes on to `_enqueue` -/
  | enqueue (producer : ℕ)
  | close
  | write (now : ℚ)

namespace Database

variable {α : Type} (cfg : Settings) (db : Database α) (producer : ℕ)

@[local grind]
def put (record : α) : Database α :=
  if db.closed then db
  else { db with pending := Function.update db.pending producer (some record) }

@[local grind]
def enqueue : Database α :=
  match db.pending producer with
  | none => db
  | some record =>
    let db := { db with pending := Function.update db.pending producer none }
    if db.queue.length < queueMax then
      { db with queue := db.queue ++ [record], accepted := db.accepted ++ [record] }
    else db

def close : Database α := { db with closed := true }

@[local grind]
def get : Database α :=
  match db.queue with
  | [] => { db with writer := .got }
  | record :: rest => { db with queue := rest, batch := db.batch ++ [record], writer := .got }

@[local grind]
def flushBatch : Database α := { db with flushed := db.flushed ++ db.batch, batch := [] }

def due (now : ℚ) : Bool :=
  decide (cfg.writeBatchSize ≤ db.batch.length) ||
    (decide (cfg.writeFlushIntervalSec ≤ now - db.lastFlush) && !db.batch.isEmpty)

/-- A step of `_writer_loop`.  The hourly rotation deletes old records from the
databases and touches nothing here. -/
@[local grind]
def write (now : ℚ) : Database α :=
  match db.writer with
  | .test => { db with writer := if db.closed then .leaving else .getting }
  | .getting => db.get
  | .got =>
    if db.due cfg now then { db.flushBatch with lastFlush := now, writer := .test }
    else { db with writer := .test }
  | .leaving => { db.flushBatch with writer := .ended }
  | .ended => db

@[local grind]
def step : Action α → Database α
  | .put producer record => db.put producer record
  | .enqueue producer => db.enqueue producer
  | .close => db.close
  | .write now => db.write cfg now

/-- The records as they lie between the producers and `_flush_batch`: what the writer has
taken, and the queue. -/
@[local grind]
def taken : List α := db.flushed ++ db.batch

/-- What a step of a producer or of `close` does to the records. -/
@[local grind]
structure Joins (late : List α) (db db' : Database α) : Prop where
  taken : db'.taken = db.taken
  queue : db'.queue = db.queue ++ late
  accepted : db'.accepted = db.accepted ++ late

lemma Joins.refl : Joins [] db db := ⟨rfl, by simp, by simp⟩

lemma put_joins (record : α) : Joins [] db (db.put producer record) := by
  unfold put
  split
  · exact Joins.refl db
  · exact ⟨rfl, by simp, by simp⟩

lemma enqueue_joins : ∃ late, Joins late db (db.enqueue producer) := by
  unfold enqueue
  split
  · exact ⟨[], Joins.refl db⟩
  · next record _ =>
      simp only
      split
      · exact ⟨[record], rfl, rfl, rfl⟩
      · exact ⟨[], rfl, by simp, by simp⟩

/-! ## Runs -/

@[local grind]
def Whole : Prop := db.taken ++ db.queue = db.accepted

variable {db} in
lemma Whole.joins {db' : Database α} {late : List α} (h : db.Whole) (hjoins : Joins late db db') :
    db'.Whole := by grind

variable {now : ℚ}

lemma whole_write (h : db.Whole) : (db.write cfg now).Whole := by grind

variable (action : Action α)

lemma whole_step (h : db.Whole) : (db.step cfg action).Whole := by
  cases action with
  | put producer record => exact h.joins (db.put_joins producer record)
  | enqueue producer =>
    obtain ⟨late, hjoins⟩ := db.enqueue_joins producer
    exact h.joins hjoins
  | close => exact h
  | write now => exact db.whole_write cfg h

@[local grind]
def Emptied : Prop := db.writer = .ended → db.batch = []

lemma emptied_write (h : db.Emptied) : (db.write cfg now).Emptied := by grind

lemma emptied_step (h : db.Emptied) : (db.step cfg action).Emptied := by
  cases action with
  | put producer record => grind
  | enqueue producer => grind
  | close => exact h
  | write now => exact db.emptied_write cfg h

def start (α : Type) (now : ℚ) : Database α := { lastFlush := now }

lemma whole_run (now : ℚ) (actions : List (Action α)) :
    (run (step cfg) (start α now) actions).Whole :=
  run_of_step (step cfg) (fun s a h => s.whole_step cfg a h) actions (start α now) rfl

lemma emptied_run (now : ℚ) (actions : List (Action α)) :
    (run (step cfg) (start α now) actions).Emptied :=
  run_of_step (step cfg) (fun s a h => s.emptied_step cfg a h) actions (start α now) nofun

@[local grind]
structure Bounded : Prop where
  queue : db.queue.length ≤ queueMax
  batch : db.batch.length + (if db.writer = .got then 0 else 1) ≤ max cfg.writeBatchSize 1

lemma bounded_step (h : db.Bounded cfg) : (db.step cfg action).Bounded cfg := by
  cases action with
  | close => exact ⟨h.queue, h.batch⟩
  | write now =>
    obtain ⟨hqueue, hbatch⟩ := h
    unfold step write
    cases hw : db.writer <;> constructor <;> grind [due]
  | _ => grind

/-- In every run the accepted records are, in their order, flushed, in the batch or in the
queue, which keep their bounds. -/
theorem records_in_order (now : ℚ) (actions : List (Action α)) :
    let db := run (step cfg) (start α now) actions
    db.flushed ++ db.batch ++ db.queue = db.accepted ∧ db.queue.length ≤ queueMax ∧
      db.batch.length ≤ max cfg.writeBatchSize 1 := by
  have h := run_of_step (step cfg) (fun s a h => s.bounded_step cfg a h) actions (start α now)
    ⟨Nat.zero_le _, Nat.le_max_right ..⟩
  exact ⟨whole_run cfg now actions, h.queue, Nat.le_of_add_right_le h.batch⟩

/-! ## After `close` -/

def grace : ℕ := if db.writer = .getting then 1 else 0

/-- What has happened since the database was closed: a `get` under way has not ended yet,
or the writer has taken what it still takes. -/
@[local grind]
structure Since (atClose db : Database α) : Prop where
  closed : db.closed = true
  accepted : atClose.accepted <+: db.accepted
  progress : (db.writer = .getting ∧ atClose.grace = 1 ∧ db.taken = atClose.taken ∧
      atClose.queue <+: db.queue) ∨
    (db.writer ≠ .getting ∧
      atClose.taken.length + min atClose.grace atClose.queue.length ≤ db.taken.length ∧
      db.taken.length ≤ atClose.taken.length + atClose.grace)

lemma since_close : Since db db.close where
  closed := rfl
  accepted := List.prefix_rfl
  progress := by
    by_cases hget : db.writer = .getting
    · exact .inl ⟨hget, if_pos hget, rfl, List.prefix_rfl⟩
    · have hgrace : db.grace = 0 := if_neg hget
      refine .inr ⟨hget, ?_, ?_⟩
      · rw [hgrace, Nat.zero_min]
        exact le_refl _
      · rw [hgrace]
        exact le_refl _

variable {db} in
lemma since_write {atClose : Database α} (h : Since atClose db) :
    Since atClose (db.write cfg now) := by grind

lemma since_step {atClose : Database α} (h : Since atClose db) :
    Since atClose (db.step cfg action) := by
  cases action with
  | put producer record => grind
  | enqueue producer => grind
  | close => exact ⟨rfl, h.accepted, h.progress⟩
  | write now => exact db.since_write cfg h

@[local grind]
def rank : WriterAt → ℕ
  | .getting => 4
  | .got => 3
  | .test => 2
  | .leaving => 1
  | .ended => 0

variable (actions : List (Action α))

@[local grind]
def writes : ℕ :=
  actions.countP fun
    | .write _ => true
    | _ => false

lemma rank_write (now : ℚ) (h : db.closed) :
    rank (db.write cfg now).writer = rank db.writer - 1 ∧ (db.write cfg now).closed := by
  grind

lemma rank_step (h : db.closed) :
    rank (db.step cfg action).writer = rank db.writer - writes [action] ∧
      (db.step cfg action).closed := by
  cases action with
  | put producer record => grind
  | enqueue producer => grind
  | close => exact ⟨rfl, rfl⟩
  | write now => exact db.rank_write cfg now h

lemma rank_run : ∀ db : Database α, db.closed →
      rank (run (step cfg) db actions).writer = rank db.writer - writes actions := by
  induction actions with
  | nil => intro db _; rfl
  | cons action rest ih =>
    grind [rank_step, run_cons]

lemma ended_of_writes {actions : List (Action α)} (h : 4 ≤ writes actions) :
    (run (step cfg) db.close actions).writer = .ended := by
  have hrank := rank_run cfg actions db.close rfl
  have hle : rank db.close.writer ≤ 4 := by cases db.close.writer <;> decide
  have hzero : rank (run (step cfg) db.close actions).writer = 0 := by omega
  generalize (run (step cfg) db.close actions).writer = w at hzero ⊢
  cases w <;> first | rfl | cases hzero

/-- A run that closes the database, up to that point and from there on.  When the writer
has ended, every record accepted before has been passed to `_flush_batch` if and only if
`close` found the queue empty, or one record in it and the writer in `get`. -/
theorem flushed_at_end_iff (now : ℚ) (before after : List (Action α))
    (hend : (run (step cfg) (run (step cfg) (start α now) before).close after).writer = .ended) :
    (run (step cfg) (start α now) before).accepted.Subperm
        (run (step cfg) (run (step cfg) (start α now) before).close after).flushed ↔
      (run (step cfg) (start α now) before).queue.length ≤
        (run (step cfg) (start α now) before).grace := by
  have hemptied := emptied_run cfg now (before ++ .close :: after)
  have hwhole' := whole_run cfg now (before ++ .close :: after)
  rw [run_append, run_cons] at hemptied hwhole'
  have hwhole := whole_run cfg now before
  generalize run (step cfg) (start α now) before = atClose at *
  have hsince := run_of_step (step cfg) (fun s a h => s.since_step cfg a h) after atClose.close
    atClose.since_close
  change Whole (run (step cfg) atClose.close after) at hwhole'
  change Emptied (run (step cfg) atClose.close after) at hemptied
  generalize run (step cfg) atClose.close after = db at *
  have htaken : db.taken = db.flushed := by rw [taken, hemptied hend, List.append_nil]
  have hlength : atClose.accepted.length = atClose.taken.length + atClose.queue.length := by
    rw [← hwhole, List.length_append]
  obtain ⟨hget, -⟩ | ⟨-, hlow, hhigh⟩ := hsince.progress
  · rw [hend] at hget
    cases hget
  rw [htaken] at hlow hhigh
  constructor
  · intro hall
    have hle := hall.length_le
    omega
  · intro hqueue
    have hle : atClose.accepted.length ≤ db.flushed.length := by
      rw [Nat.min_eq_right hqueue] at hlow
      omega
    have hflushed : db.flushed <+: db.accepted := by
      rw [← hwhole', htaken]
      exact List.prefix_append _ _
    exact (List.prefix_of_prefix_length_le hsince.accepted hflushed hle).sublist.subperm

/-- A record the writer waits for in `get` when the database is closed. -/
theorem flushed_at_end_waiting : [7].Subperm (run (step {}) (run (step {}) (start ℕ 0)
      [.write 0, .put 0 7, .enqueue 0]).close [.write 0, .write 0, .write 0, .write 0]).flushed :=
  (flushed_at_end_iff {} 0 [.write 0, .put 0 7, .enqueue 0] [.write 0, .write 0, .write 0, .write 0]
    (ended_of_writes _ _ (by decide))).mpr (by decide)

/-- Two records are in the queue when the database is closed: the writer ends without a
look at them. -/
theorem queue_lost :
    let atClose := run (step {}) (start ℕ 0) [.put 0 7, .enqueue 0, .put 1 8, .enqueue 1]
    let final := run (step {}) atClose.close [.write 0, .write 0, .write 0, .write 0]
    atClose.accepted = [7, 8] ∧ final.writer = .ended ∧ final.flushed = [] ∧
      final.queue = [7, 8] := by decide

end Database

end HeimdallDaq.Storage
