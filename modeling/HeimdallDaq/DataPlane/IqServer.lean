/-
  DataPlane/IqServer.lean --- the multi-client dispatch of iq_server.

  One action is one critical section of one thread, so that every interleaving of the
  main thread, the accept thread and the sender threads is a list of actions.
-/
import HeimdallDaq.Foundation.Runs
import Mathlib.Data.Finset.Card

namespace HeimdallDaq.DataPlane.IqServer

open Foundation

variable {φ : Type}

/-- Where a sender thread stands: at the head of its loop, between reading `srv->frame`
and taking the lock again, or returned (also: never created). -/
inductive Sender (φ : Type)
  | parked
  | sending (frame : φ)
  | gone

/-- `iq_session`. `since` and `given` are the history of the session: how many frames
were dispatched before it was accepted, and the frames its thread read. -/
structure Session (φ : Type) where
  used : Bool := false
  busy : Bool := false
  failed : Bool := false
  sender : Sender φ := .gone
  since : ℕ := 0
  given : List φ := []

/-- Where the main thread stands. `awaiting` and `draining` are the two waits of
`multi_dispatch_frame`, `returned` is the return from it, before the buffer is released. -/
inductive Main
  | waiting
  | reading
  | awaiting
  | draining
  | returned
  | joiningAccept
  | reaping (slot : ℕ)
  | joining (slot : ℕ)
  | ended

inductive Accept
  | checking
  | polling
  | gone

/-- `iq_multi_server` with the positions of its threads; `dispatched` is the history of
the frames handed over. -/
structure Server (φ : Type) where
  stop : Bool := false
  sigExitFlag : Bool := false
  nUsed : ℕ := 0
  frame : φ
  sessions : ℕ → Session φ := fun _ => {}
  main : Main := .waiting
  accept : Accept := .checking
  dispatched : List φ := []

/-- What `transport_get_read_buf` hands to `serve_multi`. -/
inductive Input (φ : Type)
  | finished
  | badSyncWord
  | frame (f : φ)

inductive Action (φ : Type)
  | signal
  | wake
  | read (input : Input φ)
  | await (expired : Bool)
  | drain
  | release
  | joinAccept
  | reap
  | join
  | session (slot : ℕ) (ok : Bool)
  | checkSlot
  | acceptClient (accepted created : Bool)

def Main.dispatching : Main → Bool
  | .awaiting | .draining => true
  | _ => false

def Main.stopping : Main → Bool
  | .joiningAccept | .reaping _ | .joining _ | .ended => true
  | _ => false

def Session.pending (frame : φ) (ses : Session φ) : List φ :=
  match ses.sender with
  | .parked => if ses.busy then [frame] else []
  | _ => []

variable (maxClients : ℕ)

namespace Server

def anySession (p : Session φ → Bool) (s : Server φ) : Bool :=
  (List.range maxClients).any fun i => p (s.sessions i)

def activeSessions (s : Server φ) : Bool :=
  s.anySession maxClients fun ses => ses.used && !ses.failed

def busySessions (s : Server φ) : Bool := s.anySession maxClients fun ses => ses.used && ses.busy

def setSession (i : ℕ) (ses : Session φ) (s : Server φ) : Server φ :=
  { s with sessions := fun k => if k = i then ses else s.sessions k }

def mapSessions (f : Session φ → Session φ) (s : Server φ) : Server φ :=
  { s with sessions := fun k => if k < maxClients then f (s.sessions k) else s.sessions k }

def stopServing (s : Server φ) : Server φ := { s with stop := true, main := .joiningAccept }

def handOver (f : φ) (s : Server φ) : Server φ :=
  { s.mapSessions maxClients fun ses =>
      if ses.used && !ses.failed then { ses with busy := true } else ses with
    frame := f, dispatched := s.dispatched ++ [f], main := .awaiting }

def closeAll (s : Server φ) : Server φ :=
  { s.mapSessions maxClients fun ses =>
      if ses.used then { ses with failed := true } else ses with main := .reaping 0 }

def closeStragglers (s : Server φ) : Server φ :=
  { s.mapSessions maxClients fun ses =>
      if ses.used && ses.busy then { ses with failed := true } else ses with
    main := if s.busySessions maxClients then .draining else .returned }

/-- `iq_session_thread`: one passage through its critical section; `ok` is the result of
`send_iq_frame` and `recv_iq_ack`. -/
def sessionStep (i : ℕ) (ok : Bool) (s : Server φ) : Server φ :=
  let ses := s.sessions i
  match ses.sender with
  | .gone => s
  | .parked =>
    if s.stop || ses.failed then s.setSession i { ses with busy := false, sender := .gone }
    else if ses.busy then
      s.setSession i { ses with sender := .sending s.frame, given := ses.given ++ [s.frame] }
    else s
  | .sending _ =>
    s.setSession i { ses with busy := false, failed := ses.failed || !ok, sender := .parked }

def addSession (created : Bool) (s : Server φ) : Server φ :=
  match (List.range maxClients).find? fun i => !(s.sessions i).used with
  | none => s
  | some i =>
    if s.stop then s
    else if created then
      { s.setSession i { used := true, sender := .parked, since := s.dispatched.length } with
        nUsed := s.nUsed + 1 }
    else s.setSession i {}

def reapStep (i : ℕ) (s : Server φ) : Server φ :=
  let ses := s.sessions i
  if i < maxClients then
    if ses.used && (ses.failed || s.stop) then
      { s.setSession i { ses with failed := true } with main := .joining i }
    else { s with main := .reaping (i + 1) }
  else { s with main := if s.stop then .ended else .waiting }

def joinStep (i : ℕ) (s : Server φ) : Server φ :=
  match (s.sessions i).sender with
  | .gone =>
    { s.setSession i { s.sessions i with used := false } with
      nUsed := s.nUsed - 1, main := .reaping (i + 1) }
  | _ => s

end Server

open Server

def step (s : Server φ) (a : Action φ) : Server φ :=
  match a, s.main, s.accept with
  | .signal, _, _ => { s with sigExitFlag := true }
  | .wake, .waiting, _ =>
    if s.sigExitFlag then s.stopServing
    else if s.activeSessions maxClients then { s with main := .reading } else s
  | .read .finished, .reading, _ => s.stopServing
  | .read .badSyncWord, .reading, _ => s.closeAll maxClients
  | .read (.frame f), .reading, _ => s.handOver maxClients f
  | .await expired, .awaiting, _ =>
    if s.sigExitFlag || !s.busySessions maxClients || expired then s.closeStragglers maxClients
    else s
  | .drain, .draining, _ =>
    if s.busySessions maxClients then s else { s with main := .returned }
  | .release, .returned, _ => { s with main := .reaping 0 }
  | .joinAccept, .joiningAccept, .gone => { s with main := .reaping 0 }
  | .reap, .reaping i, _ => s.reapStep maxClients i
  | .join, .joining i, _ => s.joinStep i
  | .session i ok, _, _ => s.sessionStep i ok
  | .checkSlot, _, .checking =>
    if s.stop then { s with accept := .gone }
    else if maxClients ≤ s.nUsed then s else { s with accept := .polling }
  | .acceptClient accepted created, _, .polling =>
    { if accepted then s.addSession maxClients created else s with accept := .checking }
  | _, _, _ => s

def usedSlots (s : Server φ) : Finset ℕ :=
  (Finset.range maxClients).filter fun i => (s.sessions i).used

@[local grind]
structure Session.Ok (s : Server φ) (ses : Session φ) : Prop where
  free : ses.used = false → ses.sender = .gone
  alive : ses.used → ses.failed = false → s.stop = false → ses.sender ≠ .gone
  sending : ∀ f, ses.sender = .sending f → ses.busy = true
  busy : ses.busy → ses.sender ≠ .gone ∧ s.main.dispatching = true
  since_le : ses.since ≤ s.dispatched.length
  given : ses.used → ses.failed = false →
    ses.given ++ ses.pending s.frame = s.dispatched.drop ses.since

@[local grind]
structure Server.Ok (s : Server φ) : Prop where
  sessions : ∀ i, (s.sessions i).Ok s
  below : ∀ i, (s.sessions i).used → i < maxClients
  counted : s.nUsed = (usedSlots maxClients s).card
  stopped : s.stop → s.main.stopping = true
  joined : ∀ i, s.main = .joining i → (s.sessions i).used

section Steps

variable {maxClients} {s s' : Server φ} {ses : Session φ} {i : ℕ}

attribute [local grind] Main.dispatching Main.stopping Session.pending setSession mapSessions
  stopServing handOver closeAll closeStragglers sessionStep reapStep joinStep

@[local grind =]
lemma mem_usedSlots : i ∈ usedSlots maxClients s ↔ i < maxClients ∧ (s.sessions i).used := by
  simp [usedSlots]

lemma usedSlots_congr (h : ∀ k, (s'.sessions k).used = (s.sessions k).used) :
    usedSlots maxClients s' = usedSlots maxClients s := Finset.filter_congr fun k _ => by rw [h k]

lemma busy_eq_false_of_idle (h : s.Ok maxClients) (hb : s.busySessions maxClients = false)
    (i : ℕ) : (s.sessions i).busy = false := by
  have hi := h.sessions i
  have hlt := h.below i
  have hnone : ∀ k < maxClients, (s.sessions k).used → (s.sessions k).busy = false := by
    simpa [busySessions, anySession] using hb
  grind

lemma stopping_eq_false_of_dispatching (h : s.main.dispatching) : s.main.stopping = false := by
  cases hm : s.main <;> simp_all [Main.dispatching, Main.stopping]

section

variable (h : s.Ok maxClients)
include h

lemma Server.Ok.of_used (hs : ∀ k, (s'.sessions k).Ok s')
    (hused : ∀ k, (s'.sessions k).used = (s.sessions k).used) (hn : s'.nUsed = s.nUsed)
    (hstop : s'.stop → s'.main.stopping)
    (hjoin : ∀ k, s'.main = .joining k → (s.sessions k).used) : s'.Ok maxClients where
  sessions := hs
  below k hk := h.below k ((hused k).symm.trans hk)
  counted := by rw [hn, h.counted, usedSlots_congr hused]
  stopped := hstop
  joined k hk := (hused k).trans (hjoin k hk)

lemma handOver_ok (hm : s.main = .reading) (f : φ) : (s.handOver maxClients f).Ok maxClients := by
  refine h.of_used (fun k => ?_) ?_ rfl ?_ ?_
  · have hk := h.sessions k
    have hlt := h.below k
    have hstop := h.stopped
    have hdrop : (s.dispatched ++ [f]).drop (s.sessions k).since = _ :=
      List.drop_append_of_le_length hk.since_le
    have hlen : (s.dispatched ++ [f]).length = s.dispatched.length + 1 := by simp
    cases hsend : (s.sessions k).sender <;> constructor <;> grind
  all_goals grind

lemma closeAll_ok (hm : s.main = .reading) : (s.closeAll maxClients).Ok maxClients := by
  refine h.of_used (fun k => ?_) ?_ rfl ?_ ?_
  · have hk := h.sessions k
    constructor <;> grind
  all_goals grind

lemma closeStragglers_ok (hm : s.main = .awaiting) :
    (s.closeStragglers maxClients).Ok maxClients := by
  refine h.of_used (fun k => ?_) ?_ rfl ?_ ?_
  · have hk := h.sessions k
    have hidle := busy_eq_false_of_idle h
    constructor <;> grind
  all_goals grind

lemma sessionStep_ok (i : ℕ) (ok : Bool) : (s.sessionStep i ok).Ok maxClients := by
  have hi := h.sessions i
  have hstop := h.stopped
  refine h.of_used (fun k => ?_) ?_ ?_ ?_ ?_
  · have hk := h.sessions k
    have hbusy := stopping_eq_false_of_dispatching (s := s)
    constructor <;> grind
  all_goals grind

lemma reapStep_ok (hm : s.main = .reaping i) : (s.reapStep maxClients i).Ok maxClients := by
  refine h.of_used (fun k => ?_) ?_ ?_ ?_ ?_
  · have hk := h.sessions k
    constructor <;> grind
  all_goals grind

lemma joinStep_ok (hm : s.main = .joining i) : (s.joinStep i).Ok maxClients := by
  have hi := h.joined i hm
  cases hsend : (s.sessions i).sender with
  | gone =>
    have hslots : usedSlots maxClients (s.joinStep i) = (usedSlots maxClients s).erase i := by
      ext k
      grind
    constructor
    · intro k
      have hk := h.sessions k
      constructor <;> grind
    · grind
    · rw [hslots, Finset.card_erase_of_mem (by grind), ← h.counted]
      grind
    all_goals grind
  | parked => simpa [joinStep, hsend] using h
  | sending f => simpa [joinStep, hsend] using h

lemma addSession_ok (created : Bool) : (s.addSession maxClients created).Ok maxClients := by
  unfold addSession
  split
  · exact h
  next i hfind =>
    have hfree : (s.sessions i).used = false := by simpa using List.find?_some hfind
    have hlt : i < maxClients := List.mem_range.1 (List.mem_of_find?_eq_some hfind)
    split_ifs with hstop hc
    · exact h
    · have hslots (ses : Session φ) (hu : ses.used) :
          usedSlots maxClients (s.setSession i ses) = insert i (usedSlots maxClients s) := by
        ext k
        grind
      constructor
      · intro k
        have hk := h.sessions k
        constructor <;> grind
      · grind
      · have hcard := Finset.card_insert_of_notMem (s := usedSlots maxClients s) (a := i) (by grind)
        rw [← h.counted] at hcard
        exact hcard.symm.trans (congrArg Finset.card (hslots _ rfl).symm)
      all_goals grind
    · refine h.of_used (fun k => ?_) ?_ rfl ?_ ?_
      · have hk := h.sessions k
        constructor <;> grind
      all_goals grind

/-- A step of a thread's position only; leaving the dispatch takes an idle server. -/
lemma Server.Ok.move {m : Main} {acc : Accept} {stop sig : Bool}
    (hidle : m.dispatching = s.main.dispatching ∨ s.busySessions maxClients = false)
    (hstop : stop → m.stopping) (hkeep : stop = false → s.stop = false)
    (hjoin : ∀ k, m = .joining k → s.main = .joining k) :
    Server.Ok maxClients { s with main := m, accept := acc, stop := stop, sigExitFlag := sig } := by
  refine h.of_used (fun k => ?_) (fun _ => rfl) rfl hstop fun k hk => h.joined k (hjoin k hk)
  have hk := h.sessions k
  have hbusy := busy_eq_false_of_idle h
  constructor <;> grind

end

lemma step_ok (a : Action φ) (h : s.Ok maxClients) : (step maxClients s a).Ok maxClients := by
  have hstop := h.stopped
  unfold step
  split
  · exact h.move (.inl rfl) hstop id fun _ => id
  next hm =>
    split_ifs
    · exact h.move (.inl (by simp [hm, Main.dispatching])) (fun _ => rfl) nofun nofun
    · exact h.move (.inl (by simp [hm, Main.dispatching])) (by grind) id nofun
    · exact h
  next hm => exact h.move (.inl (by simp [hm, Main.dispatching])) (fun _ => rfl) nofun nofun
  next hm => exact closeAll_ok h hm
  next f hm => exact handOver_ok h hm f
  next expired hm =>
    split_ifs
    · exact closeStragglers_ok h hm
    · exact h
  next hm =>
    split_ifs with hb
    · exact h
    · exact h.move (.inr (by simpa using hb)) (by grind) id nofun
  next hm => exact h.move (.inl (by simp [hm, Main.dispatching])) (fun _ => rfl) id nofun
  next hm _ => exact h.move (.inl (by simp [hm, Main.dispatching])) (fun _ => rfl) id nofun
  next i hm => exact reapStep_ok h hm
  next i hm => exact joinStep_ok h hm
  next i ok => exact sessionStep_ok h i ok
  next =>
    split_ifs
    · exact h.move (.inl rfl) hstop id fun _ => id
    · exact h
    · exact h.move (.inl rfl) hstop id fun _ => id
  next accepted created _ =>
    cases accepted with
    | true =>
      have hadd := addSession_ok h created
      exact hadd.move (.inl rfl) hadd.stopped id fun _ => id
    | false => exact h.move (.inl rfl) hstop id fun _ => id
  · exact h

end Steps

lemma init_ok (blank : φ) : Server.Ok maxClients { frame := blank } where
  sessions _ := { free _ := rfl, alive := nofun, sending := nofun, busy := nofun,
                  since_le := le_rfl, given := nofun }
  below := nofun
  counted := by simp [usedSlots]
  stopped := nofun
  joined := nofun

/-- In every interleaving, `multi_dispatch_frame` returns with no thread between its read
of the frame and the end of its busy mark, at most `max_clients` slots are in use, and a
live session was given the frames dispatched since its acceptance, each once and in
order, save for the one that waits for its thread while a dispatch goes on. -/
theorem dispatch_gives_every_frame (blank : φ) (actions : List (Action φ)) :
    let s := run (step maxClients) { frame := blank } actions
    (s.main = .returned → ∀ i, (s.sessions i).busy = false ∧
      ∀ f, (s.sessions i).sender ≠ .sending f) ∧
    (s.nUsed = (usedSlots maxClients s).card ∧ s.nUsed ≤ maxClients ∧
      ∀ i, (s.sessions i).used → i < maxClients) ∧
    ∀ i, (s.sessions i).used → (s.sessions i).failed = false →
      (s.sessions i).given ++ (s.sessions i).pending s.frame =
        s.dispatched.drop (s.sessions i).since ∧
      (s.main.dispatching = false → (s.sessions i).pending s.frame = []) := by
  intro s
  have hstep (s : Server φ) (a : Action φ) (h : s.Ok maxClients) := step_ok a h
  have h : s.Ok maxClients := run_of_step _ hstep actions _ (init_ok maxClients blank)
  have hidle (hm : s.main.dispatching = false) (i : ℕ) : (s.sessions i).busy = false := by
    have hbusy := (h.sessions i).busy
    grind
  refine ⟨fun hm i => ?_, ⟨h.counted, ?_, h.below⟩, fun i hu hf => ⟨(h.sessions i).given hu hf, ?_⟩⟩
  · have hb := hidle (by rw [hm]; rfl) i
    exact ⟨hb, fun f hf => by simp [(h.sessions i).sending f hf] at hb⟩
  · rw [h.counted]
    exact (Finset.card_filter_le _ _).trans (by simp)
  · intro hm
    unfold Session.pending
    split <;> simp [hidle hm i]

end HeimdallDaq.DataPlane.IqServer
