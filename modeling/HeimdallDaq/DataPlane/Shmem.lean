/-
  DataPlane/Shmem.lean --- the shared-memory double buffer.

  Two segments, A and B, and two control FIFOs of one-byte signals.
-/
import HeimdallDaq.Foundation.Runs
import Mathlib

namespace HeimdallDaq.DataPlane.Shmem

open Foundation List Function

local instance neZero2 : NeZero 2 := ⟨by decide⟩

/-! ## The two sides -/

inductive Signal
  | initReady
  | aBuffReady
  | bBuffReady
  | terminate
  deriving DecidableEq

def Signal.ready : Fin 2 → Signal
  | 0 => .aBuffReady
  | 1 => .bBuffReady

def Signal.buffer? : Signal → Option (Fin 2)
  | .aBuffReady => some 0
  | .bBuffReady => some 1
  | _ => none

inductive Producer
  | idle
  /-- `wait_buff_free` returned this buffer -/
  | granted (b : Fin 2)
  /-- between the two halves of `send_ctr_buff_ready` -/
  | announcing (b : Fin 2)
  | done
  | failed
  deriving DecidableEq

inductive Consumer
  | opening
  | idle
  | processing (b : Fin 2)
  | done
  | failed
  deriving DecidableEq

structure Mode where
  /-- `outShmemIface` instead of sh_mem_util.c -/
  python : Bool
  dropMode : Bool

/-- The two buffers with contents of type `C`, the FIFOs and both sides. -/
structure Link (C : Type) where
  buffers : Fin 2 → C
  fw : List Signal := [.initReady]
  bw : List Signal := []
  bufferFree : Fin 2 → Bool := fun _ => true
  droppedFrameCntr : ℕ := 0
  producer : Producer := .idle
  consumer : Consumer := .opening
  out : Fin 2 → Bool := fun _ => false
  submitted : List C := []
  received : List C := []

inductive Action (C : Type)
  | waitBuffFree
  | write (f : C → C)
  /-- the next half of `send_ctr_buff_ready` -/
  | sendCtrBuffReady
  | sendCtrTerminate
  | waitBuffReady
  | sendCtrBuffFree

namespace Link

variable {C : Type} (mode : Mode)

/-- `wait_buff_free`.  Without a signal, drop mode counts a dropped frame and
blocking mode waits.  A signal that is none of the two is an error of the C side;
the Python side reports a dropped frame. -/
def waitBuffFree (l : Link C) : Link C :=
  if l.bufferFree 0 then { l with producer := .granted 0 }
  else if l.bufferFree 1 then { l with producer := .granted 1 }
  else
    match l.bw with
    | [] => if mode.dropMode then { l with droppedFrameCntr := l.droppedFrameCntr + 1 } else l
    | signal :: rest =>
      match signal.buffer? with
      | some b =>
        { l with
          bw := rest
          bufferFree := Function.update l.bufferFree b true
          producer := .granted b }
      | none => { l with bw := rest, producer := if mode.python then .idle else .failed }

def announce (b : Fin 2) (l : Link C) : Link C :=
  { l with
    fw := l.fw ++ [Signal.ready b]
    out := Function.update l.out b true
    submitted := l.submitted ++ [l.buffers b] }

def clearFree (b : Fin 2) (l : Link C) : Link C :=
  { l with bufferFree := Function.update l.bufferFree b false }

/-- `send_ctr_buff_ready`: C clears the flag and writes the byte, Python writes the
byte and clears the flag. -/
def sendCtrBuffReady (l : Link C) : Link C :=
  match l.producer with
  | .granted b =>
    { (if mode.python then l.announce b else l.clearFree b) with producer := .announcing b }
  | .announcing b =>
    { (if mode.python then l.clearFree b else l.announce b) with producer := .idle }
  | _ => l

variable (l : Link C)

def waitBuffReady : Link C :=
  match l.fw with
  | [] => l
  | signal :: rest =>
    match signal with
    | .terminate => { l with fw := rest, consumer := .done }
    | .initReady => { l with fw := rest, consumer := .failed }
    | .aBuffReady =>
      { l with fw := rest, consumer := .processing 0, received := l.received ++ [l.buffers 0] }
    | .bBuffReady =>
      { l with fw := rest, consumer := .processing 1, received := l.received ++ [l.buffers 1] }

def waitInitReady : Link C :=
  match l.fw with
  | [] => l
  | signal :: rest =>
    { l with fw := rest, consumer := if signal = .initReady then .idle else .failed }

def step (l : Link C) : Action C → Link C
  | .waitBuffFree => if l.producer = .idle then l.waitBuffFree mode else l
  | .write f =>
    match l.producer with
    | .granted b => { l with buffers := Function.update l.buffers b (f (l.buffers b)) }
    | _ => l
  | .sendCtrBuffReady => l.sendCtrBuffReady mode
  | .sendCtrTerminate =>
    if l.producer = .idle then { l with fw := l.fw ++ [.terminate], producer := .done } else l
  | .waitBuffReady =>
    match l.consumer with
    | .opening => l.waitInitReady
    | .idle => l.waitBuffReady
    | _ => l
  | .sendCtrBuffFree =>
    match l.consumer with
    | .processing b =>
      { l with
        bw := l.bw ++ [Signal.ready b]
        out := Function.update l.out b false
        consumer := .idle }
    | _ => l

/-! ## Where a buffer is -/

def queued : List (Fin 2) := l.fw.filterMap Signal.buffer?

def held : List (Fin 2) :=
  match l.consumer with
  | .processing b => [b]
  | _ => []

def returned : List (Fin 2) := l.bw.filterMap Signal.buffer?

/-- The producer may fill the buffer.  Inside `send_ctr_buff_ready` the flag lies:
C has cleared it before the announcement, Python clears it after. -/
def owned (l : Link C) (b : Fin 2) : Bool :=
  if l.producer = .announcing b then !mode.python else l.bufferFree b

def opened : List Signal := if l.consumer = .opening then [.initReady] else []

def closing : List Signal :=
  if l.producer = .done then (if l.consumer = .done then [] else [.terminate]) else []

/-- Each buffer is in one place, and the announced frames are intact. -/
@[local grind]
structure Inv (mode : Mode) (l : Link C) : Prop where
  place : ∀ b, l.queued.count b + l.held.count b + l.returned.count b +
    (if l.owned mode b then 1 else 0) = 1
  granted : ∀ b, l.producer = .granted b → l.bufferFree b = true
  cleared : ∀ b, l.producer = .announcing b → mode.python = false → l.bufferFree b = false
  out : ∀ b, l.out b ↔ b ∈ l.queued ∨ b ∈ l.held
  frames : l.submitted = l.received ++ l.queued.map l.buffers
  current : ∀ b, l.consumer = .processing b → l.received.getLast? = some (l.buffers b)
  forward : l.fw = l.opened ++ (l.queued.map Signal.ready ++ l.closing)
  backward : l.bw = l.returned.map Signal.ready
  sound : l.producer ≠ .failed ∧ l.consumer ≠ .failed
  ends : l.consumer = .done → l.producer = .done ∧ l.fw = []

end Link

/-! ## What a step does -/

@[simp] lemma buffer?_ready (b : Fin 2) : (Signal.ready b).buffer? = some b := by
  revert b
  decide

@[simp] lemma buffer?_initReady : Signal.initReady.buffer? = none := rfl

@[simp] lemma buffer?_terminate : Signal.terminate.buffer? = none := rfl

variable {C : Type}

/-- The changes a step can make, with what it found. -/
@[local grind]
inductive Changes (mode : Mode) (l : Link C) : Link C → Prop
  | nothing : Changes mode l l
  | grant (b : Fin 2) (hidle : l.producer = .idle) (hfree : l.bufferFree b) :
      Changes mode l { l with producer := .granted b }
  | drop : Changes mode l { l with droppedFrameCntr := l.droppedFrameCntr + 1 }
  | reclaim (b : Fin 2) (rest : List Signal) (hidle : l.producer = .idle)
      (hbw : l.bw = Signal.ready b :: rest) :
      Changes mode l { l with
        bw := rest
        bufferFree := Function.update l.bufferFree b true
        producer := .granted b }
  | write (b : Fin 2) (x : C) (hgranted : l.producer = .granted b) :
      Changes mode l { l with buffers := Function.update l.buffers b x }
  | announce (b : Fin 2) (next : Producer)
      (hnext : if mode.python then l.producer = .granted b ∧ next = .announcing b
        else l.producer = .announcing b ∧ next = .idle) :
      Changes mode l { l.announce b with producer := next }
  | clear (b : Fin 2) (next : Producer)
      (hnext : if mode.python then l.producer = .announcing b ∧ next = .idle
        else l.producer = .granted b ∧ next = .announcing b) :
      Changes mode l { l.clearFree b with producer := next }
  | terminate (hidle : l.producer = .idle) :
      Changes mode l { l with fw := l.fw ++ [.terminate], producer := .done }
  | opens (rest : List Signal) (hopening : l.consumer = .opening)
      (hfw : l.fw = .initReady :: rest) : Changes mode l { l with fw := rest, consumer := .idle }
  | take (b : Fin 2) (rest : List Signal) (hidle : l.consumer = .idle)
      (hfw : l.fw = Signal.ready b :: rest) :
      Changes mode l { l with
        fw := rest
        consumer := .processing b
        received := l.received ++ [l.buffers b] }
  | ends (rest : List Signal) (hidle : l.consumer = .idle) (hfw : l.fw = .terminate :: rest) :
      Changes mode l { l with fw := rest, consumer := .done }
  | handBack (b : Fin 2) (hprocessing : l.consumer = .processing b) :
      Changes mode l { l with
        bw := l.bw ++ [Signal.ready b]
        out := Function.update l.out b false
        consumer := .idle }

open Link

open Signal

section Steps

variable {mode : Mode} {l : Link C}

lemma changes_waitBuffFree (h : l.Inv mode) (hidle : l.producer = .idle) :
    Changes mode l (l.waitBuffFree mode) := by
  unfold waitBuffFree
  split
  · exact .grant 0 hidle ‹_›
  split
  · exact .grant 1 hidle ‹_›
  have hbw := h.backward
  split
  · split
    · exact .drop
    · exact .nothing
  · rename_i signal rest hcons
    rw [hcons] at hbw
    cases hreturned : l.returned with
    | nil => rw [hreturned] at hbw; cases hbw
    | cons b bs =>
      rw [hreturned, map_cons, List.cons.injEq] at hbw
      obtain ⟨rfl, -⟩ := hbw
      rw [buffer?_ready]
      exact .reclaim b rest hidle hcons

lemma changes_sendCtrBuffReady : Changes mode l (l.sendCtrBuffReady mode) := by
  grind [sendCtrBuffReady]

lemma Link.closing_eq_nil (hp : l.producer ≠ .done) : l.closing = [] := if_neg hp

lemma Link.closing_eq (hc : l.consumer ≠ .done) :
    l.closing = if l.producer = .done then [.terminate] else [] := by rw [closing, if_neg hc]

lemma changes_waitBuffReady (h : l.Inv mode) : Changes mode l (l.step mode .waitBuffReady) := by
  have hfw := h.forward
  simp only [step]
  split
  · grind [opened, waitInitReady]
  · rename_i hidle
    rw [opened, if_neg (by simp [hidle]), nil_append] at hfw
    unfold waitBuffReady
    cases hqueued : l.queued with
    | cons b bs =>
      rw [hqueued, map_cons, cons_append] at hfw
      rw [hfw]
      match b with
      | 0 => exact .take 0 _ hidle hfw
      | 1 => exact .take 1 _ hidle hfw
    | nil =>
      rw [hqueued, map_nil, nil_append, closing_eq (by simp [hidle])] at hfw
      split at hfw <;> rw [hfw]
      · exact .ends _ hidle hfw
      · exact .nothing
  · exact .nothing

lemma changes_step (h : l.Inv mode) (a : Action C) : Changes mode l (l.step mode a) := by
  cases a with
  | waitBuffFree => grind [step, changes_waitBuffFree]
  | write f => grind [step]
  | sendCtrBuffReady => exact changes_sendCtrBuffReady
  | sendCtrTerminate => grind [step]
  | waitBuffReady => exact changes_waitBuffReady h
  | sendCtrBuffFree => grind [step]

variable {b : Fin 2}

lemma Link.Inv.owned_apart (h : l.Inv mode) (hown : l.owned mode b) :
    b ∉ l.queued ∧ b ∉ l.held ∧ b ∉ l.returned := by
  have hplace := h.place b
  grind

lemma Link.owned_eq_free (hp : ∀ b, l.producer ≠ .announcing b) (b : Fin 2) :
    l.owned mode b = l.bufferFree b := if_neg (hp b)

lemma Link.Inv.owned_of_granted (h : l.Inv mode) (hgranted : l.producer = .granted b) :
    l.owned mode b := by
  rw [owned_eq_free (by rw [hgranted]; nofun)]
  exact h.granted b hgranted

lemma Link.Inv.consumer_ne_done (h : l.Inv mode) (hp : l.producer ≠ .done) : l.consumer ≠ .done :=
  fun hdone => hp (h.ends hdone).1

-- Where a buffer is depends on few fields; most steps leave them as they are.
attribute [local simp] Link.queued Link.held Link.returned Link.owned Link.opened Link.closing
  Link.announce Link.clearFree List.filterMap_cons Function.update_apply

lemma inv_grant (h : l.Inv mode) (hidle : l.producer = .idle)
    (hfree : l.bufferFree b) : ({ l with producer := .granted b } : Link C).Inv mode :=
  { h with
    place := by simpa [hidle] using h.place
    granted := by simp [hfree]
    cleared := nofun
    forward := by simpa [hidle] using h.forward
    sound := ⟨nofun, h.sound.2⟩
    ends := by simpa [hidle] using h.ends }

variable {rest : List Signal}

lemma inv_reclaim (h : l.Inv mode) (hidle : l.producer = .idle)
    (hbw : l.bw = Signal.ready b :: rest) :
    ({ l with
        bw := rest
        bufferFree := update l.bufferFree b true
        producer := .granted b } : Link C).Inv mode :=
  { h with
    place := by
      intro b'
      have hplace := h.place b'
      simp only [returned, hbw, filterMap_cons, buffer?_ready, count_cons, owned, hidle] at hplace
      grind [owned, held, queued, returned]
    granted := by simp
    cleared := nofun
    forward := by simpa [hidle] using h.forward
    backward := by simpa [hbw] using h.backward
    sound := ⟨nofun, h.sound.2⟩
    ends := by simpa [hidle] using h.ends }

lemma inv_write (h : l.Inv mode) (x : C) (hgranted : l.producer = .granted b) :
    ({ l with buffers := update l.buffers b x } : Link C).Inv mode :=
  have hapart := h.owned_apart (h.owned_of_granted hgranted)
  { h with
    frames := by
      have hsame : l.queued.map (update l.buffers b x) = l.queued.map l.buffers := by
        refine map_congr_left fun b' hb' => update_of_ne ?_ ..
        rintro rfl
        exact hapart.1 hb'
      exact h.frames.trans (by rw [← hsame]; rfl)
    current := by
      intro b' hb'
      have hne : b' ≠ b := by
        rintro rfl
        exact hapart.2.1 (by simp [show l.consumer = _ from hb'])
      exact (h.current b' hb').trans (by simp [hne]) }

variable {next : Producer}

section

variable (h : l.Inv mode)
include h

lemma inv_announce (hown : l.owned mode b)
    (hnotDone : l.producer ≠ .done) (hnext : next = .idle ∨ next = .announcing b)
    (hcleared : next = .announcing b → mode.python)
    (howned : ∀ b', ({ l.announce b with producer := next } : Link C).owned mode b' =
      if b' = b then false else l.owned mode b') :
    ({ l.announce b with producer := next } : Link C).Inv mode := by
  have hqueued : ({ l.announce b with producer := next } : Link C).queued = l.queued ++ [b] := by
    simp [announce]
  have hnextDone : next ≠ .done := by rcases hnext with rfl | rfl <;> nofun
  exact
    { h with
      place := by
        intro b'
        have hplace := h.place b'
        rw [hqueued, howned, count_append, count_singleton]
        show l.queued.count b' + _ + l.held.count b' + l.returned.count b' + _ = 1
        grind
      granted := by rcases hnext with rfl | rfl <;> nofun
      cleared := by grind
      out := by
        intro b'
        rw [hqueued]
        show update l.out b true b' = true ↔ b' ∈ l.queued ++ [b] ∨ b' ∈ l.held
        grind [h.out b']
      frames := by
        rw [hqueued]
        show l.submitted ++ [l.buffers b] = l.received ++ (l.queued ++ [b]).map l.buffers
        simp only [h.frames, map_append, append_assoc, map_cons, map_nil]
      forward := by
        have hfw := h.forward
        rw [closing_eq_nil hnotDone, append_nil] at hfw
        rw [closing_eq_nil hnextDone, hqueued, append_nil, map_append]
        show l.fw ++ [ready b] = l.opened ++ (l.queued.map ready ++ [ready b])
        rw [hfw, append_assoc]
      sound := ⟨by rcases hnext with rfl | rfl <;> nofun, h.sound.2⟩
      ends := fun hdone => absurd hdone (h.consumer_ne_done hnotDone) }

lemma inv_clear (hnotDone : l.producer ≠ .done)
    (hnext : next = .idle ∨ next = .announcing b)
    (howned : ∀ b', ({ l.clearFree b with producer := next } : Link C).owned mode b' =
      l.owned mode b') :
    ({ l.clearFree b with producer := next } : Link C).Inv mode :=
  have hnextDone : next ≠ .done := by rcases hnext with rfl | rfl <;> nofun
  { h with
    place := by
      intro b'
      rw [howned]
      exact h.place b'
    granted := by rcases hnext with rfl | rfl <;> nofun
    cleared := by rcases hnext with rfl | rfl <;> simp
    forward := by
      have hfw := h.forward
      rw [closing_eq_nil hnotDone] at hfw
      rw [closing_eq_nil hnextDone]
      exact hfw
    sound := ⟨by rcases hnext with rfl | rfl <;> nofun, h.sound.2⟩
    ends := fun hdone => absurd hdone (h.consumer_ne_done hnotDone) }

lemma inv_terminate (hidle : l.producer = .idle) :
    ({ l with fw := l.fw ++ [.terminate], producer := .done } : Link C).Inv mode :=
  have hopen : l.consumer ≠ .done := h.consumer_ne_done (by simp [hidle])
  { h with
    place := by simpa [hidle] using h.place
    granted := nofun
    cleared := nofun
    out := by simpa using h.out
    frames := by simpa using h.frames
    forward := by
      have hfw := h.forward
      simp [hidle, hopen] at hfw ⊢
      rw [← append_assoc, ← hfw]
    sound := ⟨nofun, h.sound.2⟩
    ends := fun hdone => absurd hdone hopen }

lemma Link.Inv.passSignal {next : Consumer}
    (hqueued : rest.filterMap Signal.buffer? = l.queued) (hheld : l.held = [])
    (hnext : next = .idle ∨ next = .done)
    (hforward : rest = l.queued.map Signal.ready ++
      ({ l with fw := rest, consumer := next } : Link C).closing)
    (hends : next = .done → l.producer = .done ∧ rest = []) :
    ({ l with fw := rest, consumer := next } : Link C).Inv mode := by
  have hqueued' : ({ l with fw := rest, consumer := next } : Link C).queued = l.queued := hqueued
  have hheld' : ({ l with fw := rest, consumer := next } : Link C).held = l.held := by
    rw [hheld]
    rcases hnext with rfl | rfl <;> rfl
  have hopened : ({ l with fw := rest, consumer := next } : Link C).opened = [] := by
    rcases hnext with rfl | rfl <;> rfl
  exact
    { h with
      place := fun b => by rw [hqueued', hheld']; exact h.place b
      out := fun b => by rw [hqueued', hheld']; exact h.out b
      frames := by rw [hqueued']; exact h.frames
      current := by rcases hnext with rfl | rfl <;> nofun
      forward := by rw [hqueued', hopened]; exact hforward
      sound := ⟨h.sound.1, by rcases hnext with rfl | rfl <;> nofun⟩
      ends := hends }

lemma inv_opens (hopening : l.consumer = .opening)
    (hfw : l.fw = .initReady :: rest) :
    ({ l with fw := rest, consumer := .idle } : Link C).Inv mode := by
  refine h.passSignal (by simp [hfw]) (by simp [hopening]) (.inl rfl) ?_ nofun
  simpa [hopening, hfw] using h.forward

lemma inv_take (hidle : l.consumer = .idle)
    (hfw : l.fw = Signal.ready b :: rest) :
    ({ l with
        fw := rest
        consumer := .processing b
        received := l.received ++ [l.buffers b] } : Link C).Inv mode := by
  have hqueued : l.queued = b :: rest.filterMap buffer? := by
    simp [hfw]
  have hheld : l.held = [] := by simp [hidle]
  exact
    { h with
      place := by
        intro b'
        have hplace := h.place b'
        rw [hqueued, hheld, count_cons, count_nil] at hplace
        show (rest.filterMap buffer?).count b' + [b].count b' + l.returned.count b' +
          (if l.owned mode b' then 1 else 0) = 1
        grind
      out := by
        intro b'
        have hout := h.out b'
        rw [hqueued, hheld] at hout
        show l.out b' = true ↔ b' ∈ rest.filterMap buffer? ∨ b' ∈ [b]
        grind
      frames := by simpa [hfw] using h.frames
      current := by simp
      forward := by simpa [hidle, hfw] using h.forward
      sound := ⟨h.sound.1, nofun⟩
      ends := nofun }

lemma inv_ends (hidle : l.consumer = .idle)
    (hfw : l.fw = .terminate :: rest) :
    ({ l with fw := rest, consumer := .done } : Link C).Inv mode := by
  have hqueued : rest.filterMap buffer? = l.queued := by
    simp [hfw]
  -- TERMINATE is the last signal, and only a producer that is done has sent it
  have hlast : rest = [] ∧ l.producer = .done := by
    have hforward := h.forward
    rw [opened, if_neg (by simp [hidle]), hfw, nil_append] at hforward
    cases hq : l.queued with
    | cons b bs =>
      rw [hq, map_cons, cons_append, List.cons.injEq] at hforward
      simpa using congrArg buffer? hforward.1
    | nil =>
      rw [hq, closing_eq (by simp [hidle])] at hforward
      grind
  refine h.passSignal hqueued (by simp [hidle]) (.inr rfl) ?_ fun _ => ⟨hlast.2, hlast.1⟩
  rw [← hqueued, hlast.1, closing, if_pos hlast.2]
  rfl

lemma inv_handBack (hprocessing : l.consumer = .processing b) : ({ l with
        bw := l.bw ++ [ready b]
        out := update l.out b false
        consumer := .idle } : Link C).Inv mode := by
  have hheld : l.held = [b] := by simp [hprocessing]
  have hreturned : (l.bw ++ [ready b]).filterMap buffer? = l.returned ++ [b] := by
    simp
  have hnotQueued : b ∉ l.queued := by
    have hplace := h.place b
    grind
  exact
    { h with
      place := by
        intro b'
        have hplace := h.place b'
        rw [hheld] at hplace
        show l.queued.count b' + [].count b' + ((l.bw ++ [ready b]).filterMap buffer?).count b' +
            (if l.owned mode b' then 1 else 0) = 1
        grind
      out := by
        intro b'
        have hout := h.out b'
        rw [hheld] at hout
        show update l.out b false b' = true ↔ b' ∈ l.queued ∨ b' ∈ []
        grind
      current := nofun
      forward := by simpa [hprocessing] using h.forward
      backward := by simpa using h.backward
      sound := ⟨h.sound.1, nofun⟩
      ends := nofun }

lemma inv_of_changes {l' : Link C} (hchange : Changes mode l l') : l'.Inv mode := by
  cases hchange with
  | nothing => exact h
  | grant b hidle hfree => exact inv_grant h hidle hfree
  | drop => exact { h with }
  | reclaim b rest hidle hbw => exact inv_reclaim h hidle hbw
  | write b x hgranted => exact inv_write h x hgranted
  | announce b next hnext =>
    have hown : l.owned mode b := by grind [owned, h.granted b]
    have hcleared := h.cleared b
    grind [inv_announce, owned, announce]
  | clear b next hnext =>
    have hgranted := h.granted b
    refine inv_clear h (by grind) (by grind) fun b' => ?_
    simp only [owned, clearFree, update_apply]
    grind
  | terminate hidle => exact inv_terminate h hidle
  | opens rest hopening hfw => exact inv_opens h hopening hfw
  | take b rest hidle hfw => exact inv_take h hidle hfw
  | ends rest hidle hfw => exact inv_ends h hidle hfw
  | handBack b hprocessing => exact inv_handBack h hprocessing

lemma inv_step (a : Action C) : (l.step mode a).Inv mode := inv_of_changes h (changes_step h a)

end

lemma inv_start (mode : Mode) (buffers : Fin 2 → C) :
    ({ buffers := buffers } : Link C).Inv mode := by constructor <;> simp

/-! ## Runs -/

lemma Link.Inv.out_of_granted (h : l.Inv mode) (hgranted : l.producer = .granted b) :
    l.out b = false := by grind [h.owned_apart (h.owned_of_granted hgranted), h.out b]

lemma buffers_of_out (h : l.Inv mode) {l' : Link C} (hchange : Changes mode l l')
    (hout : l.out b) : l'.buffers b = l.buffers b := by
  cases hchange with
  | write b' x hgranted => grind [Link.Inv.out_of_granted]
  | _ => rfl

/-- The consumer hands back what it holds, then takes over and hands back buffers as
long as there are any. -/
def drain (C : Type) (n : ℕ) : List (Action C) :=
  .sendCtrBuffFree :: (List.replicate n [.waitBuffReady, .sendCtrBuffFree]).flatten

lemma submitted_consumer (l : Link C) : (l.step mode .waitBuffReady).submitted = l.submitted ∧
      (l.step mode .sendCtrBuffFree).submitted = l.submitted := by
  grind [step, waitBuffReady, waitInitReady]

lemma fw_sendCtrBuffFree (mode : Mode) (l : Link C) :
    (l.step mode .sendCtrBuffFree).fw = l.fw ∧ (l.step mode .sendCtrBuffFree).held = [] := by
  unfold held
  simp only [step]
  grind

lemma fw_waitBuffReady (h : l.Inv mode) (hheld : l.held = []) :
    (l.step mode .waitBuffReady).fw = l.fw.tail := by
  have hends := h.ends
  have hsound := h.sound.2
  cases hfw : l.fw <;> cases hc : l.consumer <;>
    simp_all [step, waitBuffReady, waitInitReady] <;> split <;> rfl

lemma received_takes (n : ℕ) : ∀ {l : Link C}, l.Inv mode → l.held = [] → l.fw.length ≤ n →
      (run (Link.step mode) l
        (List.replicate n [.waitBuffReady, .sendCtrBuffFree]).flatten).received = l.submitted := by
  induction n with
  | zero =>
    intro l h _ hlen
    have hempty : l.queued = [] := by
      rw [queued, length_eq_zero_iff.mp (Nat.le_zero.mp hlen), filterMap_nil]
    rw [h.frames, hempty, map_nil, append_nil]
    rfl
  | succ n ih =>
    intro l h hheld hlen
    rw [replicate_succ, flatten_cons, run_append]
    have h₁ := inv_step h .waitBuffReady
    have h₂ := inv_step h₁ .sendCtrBuffFree
    obtain ⟨hfw, hheld'⟩ := fw_sendCtrBuffFree mode (l.step mode .waitBuffReady)
    have hlen' : ((l.step mode .waitBuffReady).step mode .sendCtrBuffFree).fw.length ≤ n := by
      rw [hfw, fw_waitBuffReady h hheld, length_tail]
      omega
    refine (ih h₂ hheld' hlen').trans ?_
    rw [(submitted_consumer _).2, (submitted_consumer _).1]

lemma received_drain (h : l.Inv mode) :
    (run (Link.step mode) l (drain C l.fw.length)).received = l.submitted := by
  obtain ⟨hfw, hheld⟩ := fw_sendCtrBuffFree mode l
  have htakes := received_takes l.fw.length (inv_step h .sendCtrBuffFree) hheld
    (Nat.le_of_eq (congrArg length hfw))
  rw [(submitted_consumer l).2] at htakes
  exact htakes

end Steps

/-- In every interleaving, for both producers and in both modes: the producer is never
in a position to write a buffer that was announced and not handed back, and no step
changes one; the frames received so far are the first of those submitted, in order and
with the content they had when they were announced, and the others wait untouched in
their buffers; the buffer being processed still holds what was received; and a
consumer that goes on receives all of them. -/
theorem frames_received_once_in_order (mode : Mode) (buffers : Fin 2 → C)
    (actions : List (Action C)) :
    let l := run (Link.step mode) { buffers := buffers } actions
    (∀ b, l.producer = .granted b → l.out b = false) ∧
      (∀ a b, l.out b → (l.step mode a).buffers b = l.buffers b) ∧
      l.submitted = l.received ++ l.queued.map l.buffers ∧
      (∀ b, l.consumer = .processing b → l.received.getLast? = some (l.buffers b)) ∧
      (run (Link.step mode) l (drain C l.fw.length)).received = l.submitted := by
  intro l
  have hstep : ∀ (l : Link C) a, l.Inv mode → (l.step mode a).Inv mode := fun _ a hl => inv_step hl a
  have h : l.Inv mode := run_of_step (step mode) hstep actions _ (inv_start mode buffers)
  exact ⟨fun _ => h.out_of_granted, fun a _ => buffers_of_out h (changes_step h a), h.frames, h.current,
    received_drain h⟩

end HeimdallDaq.DataPlane.Shmem
