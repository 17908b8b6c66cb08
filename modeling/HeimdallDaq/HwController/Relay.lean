/-
  HwController/Relay.lean --- the event and recalibration relay to delay_sync.

  hw_controller leaves its last 32 events and its last recalibration request in two
  files; delay_sync reads them when it polls and knows by (epoch, seq) and (epoch, gen)
  what it has seen.
-/
import HeimdallDaq.Foundation.Runs
import Mathlib.Data.List.Range

namespace HeimdallDaq.HwController.Relay

open Foundation List

def Before (a b : ℕ × ℕ) : Prop := a.1 < b.1 ∨ a.1 = b.1 ∧ a.2 < b.2

instance decidableBefore (a b : ℕ × ℕ) : Decidable (Before a b) :=
  inferInstanceAs (Decidable (_ ∨ _))

/-- The relay document, with its events under their `seq`. -/
structure Doc where
  epoch : ℕ
  seq : ℕ
  events : List ℕ

structure HwcStateWatcher where
  lastEpoch : Option ℕ
  lastSeq : ℤ
deriving DecidableEq

def newEventsSince (doc : Option Doc) (w : HwcStateWatcher) : List ℕ × HwcStateWatcher :=
  match doc with
  | none => ([], w)
  | some d =>
    let other := w.lastEpoch ≠ some d.epoch
    let fresh := if other then d.events else d.events.filter fun k => w.lastSeq < (k : ℤ)
    let newLast := if other then -1 else w.lastSeq
    (fresh, ⟨some d.epoch, fresh.foldl (fun (m : ℤ) (k : ℕ) => max m k) newLast⟩)

/-- What the two processes do; a read that is not `readable` gives no document. -/
inductive Action
  | restart
  | emit
  | write
  | construct (readable : Bool)
  | poll (readable : Bool)
  | requestRecal (written : Bool)
  | constructRecal (readable : Bool)
  | pollRecal (readable : Bool)

/-- The events' side. `emitted` and `reported` are the histories since the watcher was
constructed, `polled` the document that its last successful poll read. -/
structure Events where
  epoch : ℕ := 0
  relaySeq : ℕ := 0
  relayEvents : List ℕ := []
  file : Option Doc := none
  watcher : Option HwcStateWatcher := none
  emitted : List (ℕ × ℕ) := []
  reported : List (ℕ × ℕ) := []
  polled : Option Doc := none

def push (ring : List ℕ) (k : ℕ) : List ℕ := (ring ++ [k]).drop ((ring ++ [k]).length - 32)

def Events.poll (s : Events) (d : Doc) (w : HwcStateWatcher) : Events :=
  let r := newEventsSince (some d) w
  { s with watcher := some r.2, polled := some d,
           reported := s.reported ++ r.1.map (Prod.mk d.epoch) }

@[local grind]
def Events.step (s : Events) : Action → Events
  | .restart => { s with epoch := s.epoch + 1, relaySeq := 0, relayEvents := [] }
  | .emit =>
    { s with relaySeq := s.relaySeq + 1, relayEvents := push s.relayEvents s.relaySeq,
             emitted := s.emitted ++ [(s.epoch, s.relaySeq)] }
  | .write => { s with file := some ⟨s.epoch, s.relaySeq, s.relayEvents⟩ }
  | .construct readable =>
    { s with watcher := some (newEventsSince (if readable then s.file else none) ⟨none, -1⟩).2,
             emitted := [], reported := [], polled := none }
  | .poll true =>
    match s.file, s.watcher with
    | some d, some w => s.poll d w
    | _, _ => s
  | _ => s

/-- Each event once and in the order of its `seq`; what was emitted since the
construction and is counted by a document that a poll read has been reported. -/
def Events.Relayed (s : Events) : Prop :=
  s.reported.Pairwise Before ∧
    ∀ d ∈ s.polled, ∀ ev ∈ s.emitted, Before ev (d.epoch, d.seq) → ev ∈ s.reported

instance decidableRelayed (s : Events) : Decidable s.Relayed := inferInstanceAs (Decidable (_ ∧ _))

/-- A process ends after a poll that knows all its events, and a document that is read
has at most 32 events that are new to the watcher. -/
def Events.Orderly (s : Events) : Action → Prop
  | .restart => ∀ w ∈ s.watcher, s.relaySeq = 0 ∨
      (w.lastEpoch = some s.epoch ∧ w.lastSeq + 1 = s.relaySeq)
  | .poll true => ∀ d ∈ s.file, ∀ w ∈ s.watcher,
      (d.seq : ℤ) ≤ (if w.lastEpoch = some d.epoch then w.lastSeq + 1 else 0) + 32
  | _ => True

instance decidableEventsOrderly (s : Events) (a : Action) : Decidable (s.Orderly a) := by
  unfold Events.Orderly
  split <;> infer_instance

structure RecalWatcher where
  lastEpoch : Option ℕ
  lastGen : ℤ

/-- The requests' side: the file holds (epoch, gen). `written` and `acted` are the
histories since the construction, `polled` what the last successful poll read. -/
structure Recal where
  epoch : ℕ := 0
  recalGeneration : ℕ := 0
  file : Option (ℕ × ℕ) := none
  watcher : Option RecalWatcher := none
  written : List (ℕ × ℕ) := []
  acted : List (ℕ × ℕ) := []
  polled : Option (ℕ × ℕ) := none

def Recal.poll (s : Recal) (q : ℕ × ℕ) (w : RecalWatcher) : Recal :=
  if w.lastEpoch ≠ some q.1 ∨ w.lastGen < q.2 then
    { s with watcher := some ⟨some q.1, q.2⟩, acted := s.acted ++ [q], polled := some q }
  else { s with polled := some q }

@[local grind]
def Recal.step (s : Recal) : Action → Recal
  | .restart => { s with epoch := s.epoch + 1, recalGeneration := 0 }
  | .requestRecal written =>
    let q := (s.epoch, s.recalGeneration + 1)
    if written then
      { s with recalGeneration := s.recalGeneration + 1, file := some q, written := s.written ++ [q] }
    else { s with recalGeneration := s.recalGeneration + 1 }
  | .constructRecal readable =>
    let baseline : RecalWatcher := match if readable then s.file else none with
      | none => ⟨none, -1⟩
      | some q => ⟨some q.1, q.2⟩
    { s with watcher := some baseline, written := [], acted := [], polled := none }
  | .pollRecal true =>
    match s.file, s.watcher with
    | some q, some w => s.poll q w
    | _, _ => s
  | _ => s

/-- Each request is acted on once, none from before the construction, and the one that a
poll finds in the file, if it came after, has been acted on. -/
def Recal.Answered (s : Recal) : Prop :=
  s.acted.Pairwise Before ∧ (∀ q ∈ s.acted, q ∈ s.written) ∧
    ∀ q ∈ s.polled, q ∈ s.written → q ∈ s.acted

instance decidableAnswered (s : Recal) : Decidable s.Answered := inferInstanceAs (Decidable (_ ∧ _))

def Recal.Orderly (s : Recal) : Action → Prop
  | .constructRecal readable => readable ∨ s.file = none
  | _ => True

instance decidableRecalOrderly (s : Recal) (a : Action) : Decidable (s.Orderly a) := by
  unfold Recal.Orderly
  split <;> infer_instance

structure HwcStateWatcher.Knows (s : Events) (w : HwcStateWatcher) : Prop where
  start : -1 ≤ w.lastSeq
  file : ∀ e, w.lastEpoch = some e → ∃ d ∈ s.file, e < d.epoch ∨ e = d.epoch ∧ w.lastSeq + 1 ≤ d.seq
  reported : ∀ r ∈ s.reported, ∃ e, w.lastEpoch = some e ∧
    (r.1 < e ∨ r.1 = e ∧ (r.2 : ℤ) ≤ w.lastSeq)
  polled : ∀ d ∈ s.polled, w.lastEpoch = some d.epoch ∧ w.lastSeq + 1 = d.seq ∧ d.epoch ≤ s.epoch
  complete : ∀ ev ∈ s.emitted, w.lastEpoch = some ev.1 → (ev.2 : ℤ) ≤ w.lastSeq → ev ∈ s.reported

def window (n : ℕ) : List ℕ := List.range' (n - 32) (min n 32)

structure Events.Ok (s : Events) : Prop where
  ring : s.relayEvents = window s.relaySeq
  file : ∀ d ∈ s.file, d.events = window d.seq ∧
    (d.epoch < s.epoch ∨ d.epoch = s.epoch ∧ d.seq ≤ s.relaySeq)
  sorted : s.reported.Pairwise Before
  emitted : ∀ ev ∈ s.emitted, Before ev (s.epoch, s.relaySeq)
  past : s.watcher.isSome → ∀ ev ∈ s.emitted, ev.1 < s.epoch → ev ∈ s.reported
  polled : s.watcher = none → s.polled = none ∧ s.reported = []
  knows : ∀ w ∈ s.watcher, w.Knows s

lemma push_window (n : ℕ) : push (window n) n = window (n + 1) := by
  have hring : window n ++ [n] = range' (n - 32) (min n 32 + 1) := by
    rw [range'_1_concat, window]
    congr 2
    omega
  rw [push, hring, drop_range', length_range', window]
  congr 1 <;> omega

lemma mem_window {n k : ℕ} : k ∈ window n ↔ k < n ∧ n ≤ k + 32 := by
  rw [window, mem_range'_1]
  omega

lemma foldl_max_eq {n : ℤ} : ∀ (l : List ℕ) (b : ℤ), (∀ k ∈ l, (k : ℤ) ≤ n) → b ≤ n →
    (b = n ∨ ∃ k ∈ l, (k : ℤ) = n) → l.foldl (fun (m : ℤ) (k : ℕ) => max m k) b = n := by
  intro l
  induction l with
  | nil => grind
  | cons a l ih =>
    intro b hl hb hn
    exact ih (max b a) (by grind) (by grind) (by grind)

/-- After a read the watcher knows exactly the events that the document counts. -/
lemma newEventsSince_spec {d : Doc} {w : HwcStateWatcher} (hd : d.events = window d.seq)
    (hlast : w.lastEpoch = some d.epoch → w.lastSeq + 1 ≤ d.seq) (hstart : -1 ≤ w.lastSeq) :
    (newEventsSince (some d) w).2 = ⟨some d.epoch, d.seq - 1⟩ ∧
      (newEventsSince (some d) w).1 = (window d.seq).filter fun (k : ℕ) =>
        (if w.lastEpoch = some d.epoch then w.lastSeq else -1) < (k : ℤ) := by
  have hfresh : (newEventsSince (some d) w).1 = (window d.seq).filter fun (k : ℕ) =>
      (if w.lastEpoch = some d.epoch then w.lastSeq else -1) < (k : ℤ) := by
    by_cases h : w.lastEpoch = some d.epoch
    · simp [newEventsSince, h, hd]
    · simp only [newEventsSince, h, hd, ne_eq, not_false_eq_true, if_true, if_false]
      exact (filter_eq_self.2 fun k _ => by simp; omega).symm
  refine ⟨?_, hfresh⟩
  have hmem (k : ℕ) := @mem_window d.seq k
  have hmax := foldl_max_eq (n := d.seq - 1) (newEventsSince (some d) w).1
    (if w.lastEpoch = some d.epoch then w.lastSeq else -1)
    (by rw [hfresh]; grind) (by grind) (by
      rw [hfresh]
      by_cases hnew : (if w.lastEpoch = some d.epoch then w.lastSeq else -1) = d.seq - 1
      · exact .inl hnew
      · exact .inr ⟨d.seq - 1, by grind, by grind⟩)
  simpa [newEventsSince] using hmax

namespace Events

attribute [local grind] Before

variable {s : Events} {d : Doc} {w : HwcStateWatcher}

lemma Ok.poll (h : s.Ok) (hf : s.file = some d) (hw : s.watcher = some w)
    (hnew : (d.seq : ℤ) ≤ (if w.lastEpoch = some d.epoch then w.lastSeq + 1 else 0) + 32) :
    (s.poll d w).Ok := by
  obtain ⟨hevents, hnow⟩ := h.file d hf
  have hk := h.knows w hw
  have hlast : w.lastEpoch = some d.epoch → w.lastSeq + 1 ≤ d.seq := fun he => by
    have := hk.file _ he
    grind
  obtain ⟨hwatch, hfresh⟩ := newEventsSince_spec hevents hlast hk.start
  have hmem (k : ℕ) := @mem_window d.seq k
  have hsorted : ((newEventsSince (some d) w).1.map (Prod.mk d.epoch)).Pairwise Before := by
    rw [hfresh, pairwise_map]
    exact (List.Pairwise.filter _ pairwise_lt_range').imp fun hlt => .inr ⟨rfl, hlt⟩
  have hreported : (s.poll d w).reported.Pairwise Before := by
    refine pairwise_append.2 ⟨h.sorted, hsorted, fun r hr ev hev => ?_⟩
    obtain ⟨e, he, hle⟩ := hk.reported r hr
    have := hk.file e he
    rw [hfresh] at hev
    grind
  refine { h with
    sorted := hreported
    past := fun _ ev hev hlt => mem_append_left _ (h.past (by simp [hw]) ev hev hlt)
    polled := nofun
    knows := fun w' hw' => ?_ }
  cases hw'
  simp only [Events.poll] at *
  rw [hwatch]
  constructor
  · grind
  · grind
  · intro r hr
    refine ⟨d.epoch, rfl, ?_⟩
    obtain hr | hr := mem_append.1 hr
    · obtain ⟨e, he, hle⟩ := hk.reported r hr
      have := hk.file e he
      grind
    · rw [hfresh] at hr
      grind
  · grind
  · intro ev hev he hle
    have hc := hk.complete ev hev
    rw [hfresh]
    grind

lemma Ok.construct (h : s.Ok) (readable : Bool) : (s.step (.construct readable)).Ok := by
  refine { h with
    sorted := .nil, emitted := nofun, past := nofun, polled := nofun, knows := fun w hw => ?_ }
  cases hw
  cases hfile : (if readable = true then s.file else none) with
  | none => exact ⟨by simp [newEventsSince], nofun, nofun, nofun, nofun⟩
  | some d =>
    have hd : s.file = some d := by grind
    rw [(newEventsSince_spec (h.file d hd).1 (by simp) (by simp)).1]
    exact ⟨by grind, fun e he => ⟨d, hd, by grind⟩, nofun, nofun, nofun⟩

/-- The writer's steps, which leave the watcher and its reports alone. -/
lemma Ok.of_writer {s' : Events} (h : s.Ok) (hw : s'.watcher = s.watcher)
    (hr : s'.reported = s.reported) (hp : s'.polled = s.polled)
    (hring : s'.relayEvents = window s'.relaySeq)
    (hfile : ∀ d ∈ s'.file, d.events = window d.seq ∧
      (d.epoch < s'.epoch ∨ d.epoch = s'.epoch ∧ d.seq ≤ s'.relaySeq))
    (hemitted : ∀ ev ∈ s'.emitted, Before ev (s'.epoch, s'.relaySeq))
    (hgrow : ∀ d ∈ s.file, ∃ d' ∈ s'.file, d.epoch < d'.epoch ∨ d.epoch = d'.epoch ∧ d.seq ≤ d'.seq)
    (hepoch : s.epoch ≤ s'.epoch)
    (hpast : s'.watcher.isSome → ∀ ev ∈ s'.emitted, ev.1 < s'.epoch → ev ∈ s'.reported)
    (hnew : ∀ ev ∈ s'.emitted, ev ∈ s.emitted ∨ ev = (s.epoch, s.relaySeq)) : s'.Ok where
  ring := hring
  file := hfile
  sorted := hr ▸ h.sorted
  emitted := hemitted
  past := hpast
  polled := by rw [hw, hr, hp]; exact h.polled
  knows w hw' := by
    have hk := h.knows w (hw ▸ hw')
    have hf := h.file
    refine ⟨hk.start, fun e he => ?_, by rw [hr]; exact hk.reported, ?_, fun ev hev he hle => ?_⟩
    · obtain ⟨d, hd, hle⟩ := hk.file e he
      obtain ⟨d', hd', hle'⟩ := hgrow d hd
      exact ⟨d', hd', by grind⟩
    · rw [hp]
      intro d hd
      have := hk.polled d hd
      grind
    · have hc := hk.complete ev
      have := hk.file ev.1 he
      grind

lemma step_ok (a : Action) (h : s.Ok) (ha : s.Orderly a) : (s.step a).Ok := by
  have hring := h.ring
  have hemitted := h.emitted
  have hpast := h.past
  have hfile := h.file
  match a with
  | .restart =>
    refine h.of_writer rfl rfl rfl ?_ ?_ ?_ ?_ ?_ ?_ ?_
    · rfl
    · grind
    · grind
    · grind
    · grind
    · intro hw ev hev hlt
      obtain ⟨w, hw⟩ := Option.isSome_iff_exists.1 hw
      have hdone := ha w hw
      have hc := (h.knows w hw).complete ev hev
      have hb := hemitted ev hev
      have hp := hpast (by simp_all [Events.step]) ev hev
      grind
    · grind
  | .emit =>
    refine h.of_writer rfl rfl rfl ?_ ?_ ?_ ?_ ?_ ?_ ?_
    · simp only [Events.step, hring, push_window]
    all_goals grind
  | .write =>
    refine h.of_writer rfl rfl rfl hring ?_ hemitted (fun d hd => ⟨_, rfl, (hfile d hd).2⟩) le_rfl
      hpast fun _ => .inl
    grind
  | .construct readable => exact h.construct readable
  | .poll true =>
    simp only [Events.step]
    split
    next d w hf hw => exact h.poll hf hw (ha d hf w hw)
    next => exact h
  | .poll false | .requestRecal _ | .constructRecal _ | .pollRecal _ => exact h

lemma Ok.relayed (h : s.Ok) : s.Relayed := by
  refine ⟨h.sorted, fun d hd ev hev hb => ?_⟩
  cases hw : s.watcher with
  | none => simp [(h.polled hw).1] at hd
  | some w =>
    have hk := (h.knows w hw).polled d hd
    have hc := (h.knows w hw).complete ev hev
    have hp := h.past (by simp [hw]) ev hev
    grind

lemma init_ok : Ok {} where
  ring := rfl
  file := nofun
  sorted := .nil
  emitted := nofun
  past := nofun
  polled _ := ⟨rfl, rfl⟩
  knows := nofun

end Events

structure RecalWatcher.Knows (s : Recal) (w : RecalWatcher) : Prop where
  file : ∀ e, w.lastEpoch = some e → ∃ q ∈ s.file, e < q.1 ∨ e = q.1 ∧ w.lastGen ≤ q.2
  acted : ∀ a ∈ s.acted, ∃ e, w.lastEpoch = some e ∧ (a.1 < e ∨ a.1 = e ∧ (a.2 : ℤ) ≤ w.lastGen)
  current : ∀ q ∈ s.file, q ∈ s.written ∨ (w.lastEpoch = some q.1 ∧ (q.2 : ℤ) = w.lastGen)
  newest : ∀ q ∈ s.written, w.lastEpoch = some q.1 → (q.2 : ℤ) = w.lastGen → q ∈ s.acted

structure Recal.Ok (s : Recal) : Prop where
  file : ∀ q ∈ s.file, ¬ Before (s.epoch, s.recalGeneration) q
  polled : ∀ q ∈ s.polled, ¬ Before (s.epoch, s.recalGeneration) q
  answered : s.Answered
  idle : s.watcher = none → s.acted = [] ∧ s.polled = none
  knows : ∀ w ∈ s.watcher, w.Knows s

namespace Recal

attribute [local grind] Before

variable {s : Recal}

lemma Ok.poll (h : s.Ok) {q : ℕ × ℕ} {w : RecalWatcher} (hf : s.file = some q)
    (hw : s.watcher = some w) : (s.poll q w).Ok := by
  obtain ⟨hsorted, hacted, hpolled⟩ := h.answered
  have hk := h.knows w hw
  have hfile := hk.file
  have hseen := hk.acted
  have hcur := hk.current q hf
  have hnew := hk.newest
  have hnow : ∀ p ∈ some q, ¬ Before (s.epoch, s.recalGeneration) p := hf ▸ h.file
  unfold Recal.poll
  split_ifs with hact
  · have hlater : ∀ a ∈ s.acted, Before a q := fun a ha => by
      obtain ⟨e, he, hle⟩ := hseen a ha
      have := hfile e he
      grind
    refine ⟨h.file, hnow, ⟨?_, ?_, ?_⟩, nofun, fun w' hw' => ?_⟩
    · exact pairwise_append.2 ⟨hsorted, by simp, by simpa using hlater⟩
    · grind
    · grind
    · cases hw'
      constructor <;> grind
  · have hsame : w.lastEpoch = some q.1 ∧ (q.2 : ℤ) = w.lastGen := by
      have := hfile q.1
      grind
    exact ⟨h.file, hnow, ⟨hsorted, hacted, by grind⟩, by simp [hw], fun w' hw' => by
      obtain rfl : w' = w := by grind
      exact ⟨hfile, hseen, hk.current, hnew⟩⟩

lemma step_ok (a : Action) (h : s.Ok) (ha : s.Orderly a) : (s.step a).Ok := by
  obtain ⟨hsorted, hacted, hpolled⟩ := h.answered
  have hfile := h.file
  have hnow := h.polled
  have hidle := h.idle
  match a with
  | .restart | .requestRecal false =>
    exact ⟨by grind, by grind, h.answered, hidle,
      fun w hw => { h.knows w hw with }⟩
  | .requestRecal true =>
    refine ⟨?_, ?_, ⟨hsorted, ?_, ?_⟩, hidle, fun w hw => ?_⟩
    rotate_right
    · obtain ⟨hf, hseen, hcur, hnew⟩ := h.knows w hw
      refine ⟨fun e he => ⟨_, rfl, ?_⟩, hseen, ?_, ?_⟩
      · have := hf e he
        grind
      all_goals grind
    all_goals grind
  | .constructRecal readable =>
    refine ⟨hfile, nofun, ⟨.nil, nofun, nofun⟩, nofun, fun w hw => ?_⟩
    cases hw
    refine ⟨fun e he => ?_, nofun, fun q hq => .inr ?_, nofun⟩
    · cases hq : s.file <;> grind
    · have hq : s.file = some q := hq
      have hreadable : readable := by simpa [Orderly, hq] using ha
      simp [hq, hreadable]
  | .pollRecal true =>
    simp only [Recal.step]
    split
    next q w hf hw => exact h.poll hf hw
    next => exact h
  | .pollRecal false | .emit | .write | .construct _ | .poll _ => exact h

lemma init_ok : Ok {} := ⟨nofun, nofun, ⟨.nil, nofun, nofun⟩, fun _ => ⟨rfl, rfl⟩, nofun⟩

end Recal

/-- In every run in which no process ends before its events were read, no document has
more than 32 new events and the request file can be read at the construction, the
watchers report every event and act on the newest request, each once and in order. -/
theorem relay_reports_once (actions : List Action)
    (he : Along Events.step Events.Orderly {} actions)
    (hr : Along Recal.step Recal.Orderly {} actions) :
    (run Events.step {} actions).Relayed ∧ (run Recal.step {} actions).Answered := by
  have hevents (s : Events) (a : Action) (h : s.Ok) (ha : s.Orderly a) := Events.step_ok a h ha
  have hrecal (s : Recal) (a : Action) (h : s.Ok) (ha : s.Orderly a) := Recal.step_ok a h ha
  exact ⟨(run_invariant _ hevents actions _ Events.init_ok he).relayed,
    (run_invariant _ hrecal actions _ Recal.init_ok hr).answered⟩

theorem relay_reports_once_restart :
    (run Events.step {} [.emit, .construct true, .write, .poll true, .restart, .emit, .write,
      .poll true]).Relayed ∧ (run Recal.step {} [.emit, .construct true, .write, .poll true,
      .restart, .emit, .write, .poll true]).Answered :=
  relay_reports_once _ (by decide) (by decide)

/-- A restart replaces the document before it was read; a request file that could not be
read at the construction is acted on later. -/
theorem event_lost_and_old_request_acted :
    ¬ (run Events.step {} [.construct true, .emit, .write, .restart, .write, .poll true]).Relayed ∧
      ¬ (run Recal.step {} [.requestRecal true, .constructRecal false, .pollRecal true]).Answered := by
  decide

end HeimdallDaq.HwController.Relay
