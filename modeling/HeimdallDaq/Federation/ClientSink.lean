/-
  Federation/ClientSink.lean --- one output client of the IQ router.

  Producers offer frames to a bounded queue; the sender takes them and writes each in
  pieces, outside the lock.
-/
import HeimdallDaq.Foundation.Runs
import Mathlib.Data.List.Basic

namespace HeimdallDaq.Federation.IqRouter

open Foundation
open scoped List

structure Packet where
  header : List UInt8
  payload : List UInt8
  deriving DecidableEq

def Packet.bytes (p : Packet) : List UInt8 := p.header ++ p.payload

inductive DropPolicy
  | disconnect
  | oldest
  | newest
  deriving DecidableEq

structure SinkConfig where
  queueFrames : ℕ
  queueFrames_pos : 0 < queueFrames
  dropPolicy : DropPolicy
  stallLimit : ℕ

inductive EvictReason
  | queueFull
  | slowConsumer
  | partialFrame
  | sendTimeout
  deriving DecidableEq

/-- Where the sender stands: `writing` before the test of `closed`, `sending` before the write
and `failing` before `_fail`, with the parts that are left and the bytes sent. -/
inductive Sender
  | ready
  | polling
  | dead
  | writing (p : Packet) (parts : List (List UInt8)) (sent : ℕ)
  | sending (p : Packet) (part : List UInt8) (parts : List (List UInt8)) (sent : ℕ)
  | failing (p : Packet) (reason : Option EvictReason) (sent : ℕ)
  | done (p : Packet)
  | ended (p : Option Packet)
  deriving DecidableEq

/-- The client.  `offered`, `sent`, `dropped` and `wire` record what happened. -/
structure Sink where
  queue : List Packet := []
  closed : Bool := false
  evictReason : Option EvictReason := none
  sentFrames : ℕ := 0
  sentBytes : ℕ := 0
  droppedFrames : ℕ := 0
  overflows : ℕ := 0
  consecutiveDrops : ℕ := 0
  sender : Sender := .ready
  offered : List Packet := []
  sent : List Packet := []
  dropped : List Packet := []
  wire : List UInt8 := []

namespace Sink

def evict (s : Sink) (reason : EvictReason) : Sink :=
  if s.closed then s
  else
    { s with
      closed := true
      evictReason := some reason
      droppedFrames := s.droppedFrames + s.queue.length
      dropped := s.dropped ++ s.queue
      queue := [] }

def countDrop (cfg : SinkConfig) (s : Sink) (p : Packet) : Sink :=
  let s := { s with
    droppedFrames := s.droppedFrames + 1
    consecutiveDrops := s.consecutiveDrops + 1
    dropped := s.dropped ++ [p] }
  if 0 < cfg.stallLimit ∧ cfg.stallLimit ≤ s.consecutiveDrops then s.evict .slowConsumer else s

def offer (cfg : SinkConfig) (s : Sink) (p : Packet) : Sink :=
  if s.closed then s
  else
    let s := { s with offered := s.offered ++ [p] }
    if cfg.queueFrames ≤ s.queue.length then
      let s := { s with overflows := s.overflows + 1 }
      match cfg.dropPolicy, s.queue with
      | .disconnect, _ => s.evict .queueFull
      | .oldest, oldest :: queue => { s with queue := queue ++ [p] }.countDrop cfg oldest
      | _, _ => s.countDrop cfg p
    else { s with queue := s.queue ++ [p] }

def stop (s : Sink) : Sink := { s with closed := true, queue := [] }

def fail (s : Sink) (reason : Option EvictReason) (sent : ℕ) : Sink :=
  if s.closed then s
  else if 0 < sent then s.evict .partialFrame
  else match reason with
    | some reason => s.evict reason
    | none => { s with closed := true }

end Sink

/-- What the socket answers: it takes `n + 1` bytes, or as many as there are; it takes none, with
time left or not; or it fails. -/
inductive Reply
  | took (n : ℕ)
  | blocked
  | late
  | error
  deriving DecidableEq

namespace Sink

def advance (s : Sink) (reply : Reply) : Sink :=
  match s.sender with
  | .ready =>
    if s.closed then { s with sender := .ended none }
    else match s.queue with
      | [] => { s with sender := .polling }
      | p :: queue => { s with queue := queue, sender := .writing p [p.header, p.payload] 0 }
  | .polling => { s with sender := if reply = .error then .dead else .ready }
  | .dead => { s with closed := true, sender := .ended none }
  | .writing p [] _ => { s with sender := .done p }
  | .writing p ([] :: parts) sent => { s with sender := .writing p parts sent }
  | .writing p (part :: parts) sent =>
    { s with sender := if s.closed then .ended (some p) else .sending p part parts sent }
  | .sending p part parts sent =>
    match reply with
    | .took n =>
      { s with
        sender := .writing p (part.drop (n + 1) :: parts) (sent + (part.take (n + 1)).length)
        wire := s.wire ++ part.take (n + 1) }
    | .blocked => { s with sender := .writing p (part :: parts) sent }
    | .late => { s with sender := .failing p (some .sendTimeout) sent }
    | .error => { s with sender := .failing p none sent }
  | .failing p reason sent => { s.fail reason sent with sender := .ended (some p) }
  | .done p =>
    { s with
      sentFrames := s.sentFrames + 1
      sentBytes := s.sentBytes + p.bytes.length
      consecutiveDrops := 0
      sender := .ready
      sent := s.sent ++ [p] }
  | .ended _ => s

inductive Op
  | offer (p : Packet)
  | stop
  | advance (reply : Reply)

def step (cfg : SinkConfig) (s : Sink) : Op → Sink
  | .offer p => s.offer cfg p
  | .stop => s.stop
  | .advance reply => s.advance reply

end Sink

namespace Sender

def frame : Sender → Option Packet
  | .ready | .polling | .dead => none
  | .writing p _ _ | .sending p _ _ _ | .failing p _ _ | .done p => some p
  | .ended p => p

def left : Sender → Bool
  | .failing _ _ _ | .ended _ => true
  | _ => false

def Wrote : Sender → List UInt8 → Prop
  | .ready, cut | .polling, cut | .dead, cut | .ended none, cut => cut = []
  | .writing p parts _, cut => cut ++ parts.flatten = p.bytes
  | .sending p part parts _, cut => part ≠ [] ∧ cut ++ (part :: parts).flatten = p.bytes
  | .failing p _ _, cut | .ended (some p), cut => ∃ rest, rest ≠ [] ∧ cut ++ rest = p.bytes
  | .done p, cut => cut = p.bytes

end Sender

lemma Sender.Wrote.of_frame {sender : Sender} {cut : List UInt8} (h : sender.Wrote cut) :
    cut = [] ∨ ∃ p, sender.frame = some p ∧ cut <+: p.bytes := by
  cases sender with
  | ready | polling | dead => exact .inl h
  | writing p parts sent => exact .inr ⟨p, rfl, _, h⟩
  | sending p part parts sent => exact .inr ⟨p, rfl, _, h.2⟩
  | failing p reason sent => exact .inr ⟨p, rfl, _, h.choose_spec.2⟩
  | done p => exact .inr ⟨p, rfl, [], by rw [List.append_nil]; exact h⟩
  | ended p =>
    cases p with
    | none => exact .inl h
    | some p => exact .inr ⟨p, rfl, _, h.choose_spec.2⟩

namespace Sink

structure Framed (cfg : SinkConfig) (s : Sink) : Prop where
  bounded : s.queue.length ≤ cfg.queueFrames
  ended : ∀ p, s.sender = .ended p → s.closed = true
  order : (s.sent ++ s.sender.frame.toList ++ s.queue).Sublist s.offered
  wire : ∃ cut, s.wire = s.sent.flatMap Packet.bytes ++ cut ∧ s.sender.Wrote cut
  sentFrames : s.sentFrames = s.sent.length
  droppedFrames : s.droppedFrames = s.dropped.length
  account : s.closed = false →
    s.offered.Perm (s.sent ++ s.sender.frame.toList ++ s.queue ++ s.dropped)

variable {cfg : SinkConfig} {s : Sink}

lemma Framed.close (h : Framed cfg s) {t : Sink} (hclosed : t.closed)
    (hqueue : t.queue.Sublist s.queue) (hsender : t.sender = s.sender)
    (hoffered : t.offered = s.offered) (hsent : t.sent = s.sent) (hwire : t.wire = s.wire)
    (hframes : t.sentFrames = s.sentFrames) (hdropped : t.droppedFrames = t.dropped.length) :
    Framed cfg t where
  bounded := Nat.le_trans hqueue.length_le h.bounded
  ended _ _ := hclosed
  order := by
    rw [hsent, hsender, hoffered]
    exact (hqueue.append_left _).trans h.order
  wire := by rw [hwire, hsent, hsender]; exact h.wire
  sentFrames := by rw [hframes, hsent, h.sentFrames]
  droppedFrames := hdropped
  account hopen := absurd (hclosed.symm.trans hopen) (by simp)

lemma Framed.evict (h : Framed cfg s) (reason : EvictReason) : Framed cfg (s.evict reason) := by
  unfold Sink.evict
  split_ifs
  · exact h
  · exact h.close rfl (List.nil_sublist _) rfl rfl rfl rfl rfl (by simp [h.droppedFrames])

lemma Framed.fail (h : Framed cfg s) (reason : Option EvictReason) (sent : ℕ) :
    Framed cfg (s.fail reason sent) := by
  unfold Sink.fail
  split_ifs
  · exact h
  · exact h.evict _
  · cases reason with
    | some reason => exact h.evict _
    | none => exact h.close rfl (.refl _) rfl rfl rfl rfl rfl h.droppedFrames

lemma closed_fail (s : Sink) (reason : Option EvictReason) (sent : ℕ) :
    (s.fail reason sent).closed := by
  unfold fail evict
  grind

lemma sender_fail (s : Sink) (reason : Option EvictReason) (sent : ℕ) :
    (s.fail reason sent).sender = s.sender := by
  unfold fail evict
  grind

lemma Framed.countDrop (h : Framed cfg s) (hopen : s.closed = false) {p x : Packet}
    {queue : List Packet} (hlength : queue.length ≤ cfg.queueFrames)
    (hqueue : queue.Sublist (s.queue ++ [p])) (hperm : (s.queue ++ [p]).Perm (queue ++ [x])) (n : ℕ) :
    Framed cfg (Sink.countDrop cfg
      { s with offered := s.offered ++ [p], overflows := n, queue := queue } x) := by
  have hcounted : Framed cfg
      { s with
        offered := s.offered ++ [p]
        overflows := n
        queue := queue
        droppedFrames := s.droppedFrames + 1
        consecutiveDrops := s.consecutiveDrops + 1
        dropped := s.dropped ++ [x] } := by
    refine ⟨hlength, h.ended, ?_, h.wire, h.sentFrames, by simp [h.droppedFrames], fun _ => ?_⟩
    · exact (hqueue.append_left _).trans
        (List.append_assoc .. ▸ h.order.append (.refl [p]))
    · calc s.offered ++ [p]
        _ ~ s.sent ++ s.sender.frame.toList ++ s.queue ++ s.dropped ++ [p] :=
          (h.account hopen).append_right _
        _ ~ s.sent ++ s.sender.frame.toList ++ (s.queue ++ [p]) ++ s.dropped := by
          grind
        _ ~ s.sent ++ s.sender.frame.toList ++ (queue ++ [x]) ++ s.dropped :=
          (hperm.append_left _).append_right _
        _ ~ s.sent ++ s.sender.frame.toList ++ queue ++ (s.dropped ++ [x]) := by
          grind
  unfold Sink.countDrop
  dsimp only
  split_ifs
  · exact hcounted.evict _
  · exact hcounted

lemma Framed.offer (h : Framed cfg s) (p : Packet) : Framed cfg (s.offer cfg p) := by
  unfold Sink.offer
  split_ifs with hclosed
  · exact h
  rw [Bool.not_eq_true] at hclosed
  dsimp only
  split_ifs with hfull
  · have hdisconnect (n : ℕ) : Framed cfg
        (Sink.evict { s with offered := s.offered ++ [p], overflows := n } .queueFull) := by
      simp only [Sink.evict, hclosed]
      refine ⟨Nat.zero_le _, fun _ _ => rfl, ?_, h.wire, h.sentFrames, by simp [h.droppedFrames],
        nofun⟩
      exact ((List.nil_sublist s.queue).append_left _).trans
        (h.order.trans (List.sublist_append_left ..))
    have hnewest (n : ℕ) := h.countDrop hclosed h.bounded (List.sublist_append_left _ [p])
      (List.Perm.refl _) n
    split
    · exact hdisconnect _
    next oldest queue _ hqueue =>
      have hbounded := h.bounded
      rw [hqueue] at hbounded
      refine h.countDrop hclosed (by simpa using hbounded) ?_ ?_ _
      · rw [hqueue]
        exact List.sublist_cons_self ..
      · rw [hqueue]
        exact @List.perm_append_comm _ [oldest] (queue ++ [p])
    · exact hnewest _
  · refine ⟨?_, h.ended, ?_, h.wire, h.sentFrames, h.droppedFrames, fun hopen => ?_⟩
    · simp only [List.length_append, List.length_singleton]
      omega
    · exact List.append_assoc .. ▸ h.order.append (.refl [p])
    · refine ((h.account hopen).append_right [p]).trans ?_
      grind

lemma Framed.become (h : Framed cfg s) {sender : Sender} (hframe : sender.frame = s.sender.frame)
    (hwrote : ∀ cut, s.sender.Wrote cut → sender.Wrote cut)
    (hended : ∀ p, sender = .ended p → s.closed) :
    Framed cfg { s with sender := sender } :=
  { h with
    ended := hended
    order := hframe ▸ h.order
    wire := h.wire.imp fun cut hcut => hcut.imp_right (hwrote cut)
    account := hframe ▸ h.account }

lemma Framed.advance (h : Framed cfg s) (reply : Reply) : Framed cfg (s.advance reply) := by
  unfold Sink.advance
  split
  next hsender =>
    split_ifs with hclosed
    · exact h.become (by rw [hsender]; rfl) (by rw [hsender]; exact fun _ => id) fun _ _ => hclosed
    split
    · exact h.become (by rw [hsender]; rfl) (by rw [hsender]; exact fun _ => id) nofun
    next p queue hqueue =>
      have hbounded := h.bounded
      have horder := h.order
      have haccount := h.account
      obtain ⟨cut, hwire, hcut⟩ := h.wire
      rw [hsender] at hcut
      rw [hsender, hqueue] at horder haccount
      rw [hqueue] at hbounded
      refine { h with
        bounded := Nat.le_of_succ_le hbounded
        ended := nofun
        order := ?_
        wire := ⟨cut, hwire, ?_⟩
        account := fun hopen => ?_ }
      · simpa [Sender.frame] using horder
      · rw [show cut = [] from hcut]
        simp [Sender.Wrote, Packet.bytes]
      · simpa [Sender.frame] using haccount hopen
  next hsender =>
    split_ifs
    all_goals exact h.become (by rw [hsender]; rfl) (by rw [hsender]; exact fun _ => id) nofun
  next hsender =>
    have hclose : Framed cfg { s with closed := true } :=
      h.close rfl (.refl _) rfl rfl rfl rfl rfl h.droppedFrames
    exact hclose.become (by rw [hsender]; rfl) (by rw [hsender]; exact fun _ => id) fun _ _ => rfl
  next p sent hsender =>
    refine h.become (by rw [hsender]; rfl) (fun cut hcut => ?_) nofun
    rw [hsender] at hcut
    simpa [Sender.Wrote] using hcut
  next p parts sent hsender =>
    refine h.become (by rw [hsender]; rfl) (fun cut hcut => ?_) nofun
    rw [hsender] at hcut
    simpa [Sender.Wrote] using hcut
  next p part parts sent hpart hsender =>
    have hne : part ≠ [] := hpart
    split_ifs with hclosed
    · refine h.become (by rw [hsender]; rfl) (fun cut hcut => ?_) fun _ _ => hclosed
      rw [hsender] at hcut
      exact ⟨(part :: parts).flatten, by simp [hne], hcut⟩
    · refine h.become (by rw [hsender]; rfl) (fun cut hcut => ?_) nofun
      rw [hsender] at hcut
      exact ⟨hne, hcut⟩
  next p part parts sent hsender =>
    have hleft : ∀ cut, s.sender.Wrote cut → ∃ rest, rest ≠ [] ∧ cut ++ rest = p.bytes := by
      intro cut hcut
      rw [hsender] at hcut
      exact ⟨(part :: parts).flatten, by simp [hcut.1], hcut.2⟩
    split
    next n =>
      obtain ⟨cut, hwire, hcut⟩ := h.wire
      rw [hsender] at hcut
      refine { h with
        ended := nofun
        order := ?_
        wire := ⟨cut ++ part.take (n + 1), by rw [hwire, List.append_assoc], ?_⟩
        account := ?_ }
      · simpa [hsender, Sender.frame] using h.order
      · refine Eq.trans ?_ hcut.2
        rw [List.flatten_cons, List.flatten_cons, List.append_assoc,
          ← List.append_assoc (part.take _), List.take_append_drop]
      · simpa [hsender, Sender.frame] using h.account
    · refine h.become (by rw [hsender]; rfl) (fun cut hcut => ?_) nofun
      rw [hsender] at hcut
      exact hcut.2
    · exact h.become (by rw [hsender]; rfl) hleft nofun
    · exact h.become (by rw [hsender]; rfl) hleft nofun
  next p reason sent hsender =>
    have hfail := h.fail reason sent
    refine hfail.become ?_ (fun cut hcut => ?_) fun _ _ => closed_fail ..
    · rw [sender_fail, hsender]
      rfl
    · rw [sender_fail, hsender] at hcut
      exact hcut
  next p hsender =>
    obtain ⟨cut, hwire, hcut⟩ := h.wire
    rw [hsender] at hcut
    refine { h with
      ended := nofun
      order := ?_
      wire := ⟨[], ?_, rfl⟩
      sentFrames := by simp [h.sentFrames]
      account := ?_ }
    · simpa [hsender, Sender.frame] using h.order
    · rw [hwire, show cut = p.bytes from hcut]
      simp
    · simpa [hsender, Sender.frame] using h.account
  next => exact h

lemma Framed.step (h : Framed cfg s) (op : Op) : Framed cfg (s.step cfg op) := by
  cases op with
  | offer p => exact h.offer p
  | stop => exact h.close rfl (List.nil_sublist _) rfl rfl rfl rfl rfl h.droppedFrames
  | advance reply => exact h.advance reply

lemma wire_offer (p : Packet) : (s.offer cfg p).wire = s.wire ∧
    (s.offer cfg p).sender = s.sender := by
  unfold offer countDrop evict
  grind

lemma wire_step_of_left (hleft : s.sender.left) (op : Op) :
    (s.step cfg op).wire = s.wire ∧ (s.step cfg op).sender.left := by
  cases op with
  | offer p =>
    obtain ⟨hwire, hsender⟩ := @wire_offer cfg s p
    exact ⟨hwire, hsender ▸ hleft⟩
  | stop => exact ⟨rfl, hleft⟩
  | advance reply =>
    unfold Sink.step advance fail evict
    grind [Sender.left]

lemma wire_run_of_left (hleft : s.sender.left) (ops : List Op) :
    (run (step cfg) s ops).wire = s.wire :=
  have hstep : ∀ t op, t.wire = s.wire ∧ t.sender.left →
      (step cfg t op).wire = s.wire ∧ (step cfg t op).sender.left := fun _ op ht =>
    ⟨(wire_step_of_left ht.2 op).1.trans ht.1, (wire_step_of_left ht.2 op).2⟩
  (run_of_step _ hstep ops s ⟨rfl, hleft⟩).1

/-- However the threads interleave and whatever the socket answers: what is written is whole
frames in the order of the offers and then a part of at most one more, which the sender is still
writing or after which nothing follows; the queue keeps its bound; and as long as the client is
open each frame offered is sent, in transmission, queued or counted as dropped. -/
theorem client_stream (cfg : SinkConfig) (ops : List Op) :
    (∃ whole cut, (run (step cfg) {} ops).wire = whole.flatMap Packet.bytes ++ cut ∧
        (cut = [] ∧ whole <+ (run (step cfg) {} ops).offered ∨
          ∃ p, whole ++ [p] <+ (run (step cfg) {} ops).offered ∧ cut <+: p.bytes ∧ cut ≠ p.bytes ∧
            ((run (step cfg) {} ops).sender.frame = some p ∧
                (run (step cfg) {} ops).sender.left = false ∨
              ∀ more, (run (step cfg) {} (ops ++ more)).wire = (run (step cfg) {} ops).wire))) ∧
      (run (step cfg) {} ops).queue.length ≤ cfg.queueFrames ∧
      (run (step cfg) {} ops).sentFrames = (run (step cfg) {} ops).sent.length ∧
      (run (step cfg) {} ops).droppedFrames = (run (step cfg) {} ops).dropped.length ∧
      ((run (step cfg) {} ops).closed = false → (run (step cfg) {} ops).offered ~
          (run (step cfg) {} ops).sent ++ (run (step cfg) {} ops).sender.frame.toList ++
            (run (step cfg) {} ops).queue ++ (run (step cfg) {} ops).dropped) := by
  have h : Framed cfg (run (step cfg) {} ops) :=
    run_of_step _ (fun _ op h => h.step op) ops _
      (by constructor <;> simp [Sender.frame, Sender.Wrote])
  refine ⟨?_, h.bounded, h.sentFrames, h.droppedFrames, h.account⟩
  have hfrozen (hleft : (run (step cfg) {} ops).sender.left) (more : List Op) :
      (run (step cfg) {} (ops ++ more)).wire = (run (step cfg) {} ops).wire := by
    rw [run_append]
    exact wire_run_of_left hleft more
  obtain ⟨cut, hwire, hwrote⟩ := h.wire
  have horder := (List.sublist_append_left ..).trans h.order
  rcases hwrote.of_frame with rfl | ⟨p, hframe, hlead⟩
  · exact ⟨_, [], hwire, .inl ⟨rfl, (List.sublist_append_left ..).trans horder⟩⟩
  rw [hframe, Option.toList_some] at horder
  by_cases hcut : cut = p.bytes
  · exact ⟨_ ++ [p], [], by rw [hwire, hcut]; simp, .inl ⟨rfl, horder⟩⟩
  refine ⟨_, cut, hwire, .inr ⟨p, horder, hlead, hcut, ?_⟩⟩
  cases hleft : (run (step cfg) {} ops).sender.left with
  | false => exact .inl ⟨hframe, rfl⟩
  | true => exact .inr (hfrozen hleft)

end Sink

end HeimdallDaq.Federation.IqRouter
