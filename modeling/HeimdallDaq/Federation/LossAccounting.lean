/-
  Federation/LossAccounting.lean --- the frame counters of a source of the IQ router.

  The router sees the CPI counter of a source modulo `2^32` and takes the distance to
  the counter before it modulo `2^32`.
-/
import HeimdallDaq.Foundation.Runs
import Mathlib.Algebra.Order.Ring.Rat

namespace HeimdallDaq.Federation.IqRouter

open Foundation

inductive Kind
  | iqserver
  | router
  deriving DecidableEq

/-- The fields of `_Source` that `_account` reads and sets for the continuity of the frames. -/
structure Source where
  kind : Kind
  crc : Option ℕ
  framesReceived : ℕ := 0
  bytesReceived : ℕ := 0
  framesLost : ℕ := 0
  cpiGaps : ℕ := 0
  restarts : ℕ := 0
  overruns : ℕ := 0
  lastCpiIndex : Option ℕ := none
  gapBaselineValid : Bool := false
  lastOverrunCnt : Option ℕ := none
  lastRxMono : Option ℚ := none
  unitIdSeen : Option ℕ := none
  nodeIdCrc32 : ℕ := 0
  lastGapLog : Option ℚ := none

structure Header where
  unitId : ℕ
  cpiIndex : ℕ
  nodeIdCrc32 : ℕ
  bufferOverrunCnt : ℕ

def gapLogIntervalSec : ℚ := 10

namespace Source

def tracksContinuity (src : Source) : Bool := !(src.kind == .router && src.crc.isNone)

def gapLogDue (src : Source) (rxMono : ℚ) : Bool :=
  match src.lastGapLog with
  | none => true
  | some t => decide (gapLogIntervalSec ≤ rxMono - t)

def delta (cpi last : ℕ) : ℕ := (((cpi : ℤ) - last) % 2 ^ 32).toNat

def countStep (src : Source) (cpi last : ℕ) (rxMono : ℚ) : Source × Option (ℕ × ℕ) :=
  if 2 ^ 31 ≤ delta cpi last then ({ src with restarts := src.restarts + 1 }, none)
  else if 1 < delta cpi last ∧ src.gapBaselineValid = true then
    let counted := { src with
      framesLost := src.framesLost + (delta cpi last - 1)
      cpiGaps := src.cpiGaps + 1 }
    if src.gapLogDue rxMono then ({ counted with lastGapLog := some rxMono }, some (last, cpi))
    else (counted, none)
  else (src, none)

def newOverruns (src : Source) (cnt : ℕ) : ℕ :=
  match src.lastOverrunCnt with
  | none => 0
  | some last => cnt - last

def account (src : Source) (hdr : Header) (nbytes : ℕ) (rxMono : ℚ) : Source × Option (ℕ × ℕ) :=
  let src := { src with
    framesReceived := src.framesReceived + 1
    bytesReceived := src.bytesReceived + nbytes
    lastRxMono := some rxMono
    unitIdSeen := some hdr.unitId
    nodeIdCrc32 := hdr.nodeIdCrc32 }
  let cpi := hdr.cpiIndex % 2 ^ 32
  if src.tracksContinuity then
    let (src, gap) :=
      match src.lastCpiIndex with
      | none => (src, none)
      | some last => src.countStep cpi last rxMono
    let overrun := hdr.bufferOverrunCnt % 2 ^ 32
    ({ src with
        lastCpiIndex := some cpi
        gapBaselineValid := true
        overruns := src.overruns + src.newOverruns overrun
        lastOverrunCnt := some overrun }, gap)
  else ({ src with lastCpiIndex := some cpi }, none)

end Source

/-- What happens to a source: a frame with its true counter arrives, or the reader idles while
nobody is connected. -/
inductive Event
  | frame (counter unitId nodeIdCrc32 bufferOverrunCnt nbytes : ℕ) (rxMono : ℚ)
  | idle

namespace Event

def counter? : Event → Option ℕ
  | frame counter .. => some counter
  | idle => none

def step (src : Source) : Event → Source
  | frame counter unitId nodeIdCrc32 overruns nbytes rxMono =>
    (src.account ⟨unitId, counter % 2 ^ 32, nodeIdCrc32, overruns⟩ nbytes rxMono).1
  | idle => { src with gapBaselineValid := false }

def Based (src : Source) : Event → Prop
  | frame .. => src.lastCpiIndex = none ∨ src.gapBaselineValid = true
  | idle => True

end Event

/-- The source has seen the counters from `first` to `latest`. -/
structure Counted (first latest : ℕ) (src : Source) : Prop where
  lastCpiIndex : src.lastCpiIndex = some (latest % 2 ^ 32)
  total : src.framesReceived + src.framesLost + first = latest + 1
  restarts : src.restarts = 0
  tracked : src.gapBaselineValid → src.tracksContinuity

lemma delta_of_step {latest next : ℕ} (hlt : latest < next) (hstep : next < latest + 2 ^ 31) :
    Source.delta (next % 2 ^ 32) (latest % 2 ^ 32) = next - latest := by
  unfold Source.delta
  omega

lemma counted_first (kind : Kind) (crc : Option ℕ) (first unitId node overruns nbytes : ℕ)
    (rxMono : ℚ) :
    Counted first first
      (Event.step { kind, crc } (.frame first unitId node overruns nbytes rxMono)) := by
  have hfirst : first % 2 ^ 32 % 2 ^ 32 = first % 2 ^ 32 := Nat.mod_mod _ _
  cases htrack : ({ kind, crc } : Source).tracksContinuity with
  | true =>
    simp only [Source.tracksContinuity] at htrack
    simp only [Event.step, Source.account, Source.tracksContinuity, htrack, if_true, hfirst]
    exact ⟨rfl, Nat.add_comm _ _, rfl, fun _ => htrack⟩
  | false =>
    simp only [Source.tracksContinuity] at htrack
    simp only [Event.step, Source.account, Source.tracksContinuity, htrack, Bool.false_eq_true,
      if_false, hfirst]
    exact ⟨rfl, Nat.add_comm _ _, rfl, nofun⟩

lemma Counted.frame {first latest next : ℕ} {src : Source} (h : Counted first latest src)
    (hlt : latest < next) (hstep : next < latest + 2 ^ 31) (hbased : src.gapBaselineValid)
    (unitId crc overruns nbytes : ℕ) (rxMono : ℚ) :
    Counted first next (Event.step src (.frame next unitId crc overruns nbytes rxMono)) := by
  have htrack := h.tracked hbased
  have htotal := h.total
  have hsmall : ¬2 ^ 31 ≤ next - latest := by omega
  simp only [Source.tracksContinuity] at htrack
  simp only [Event.step, Source.account, Source.tracksContinuity, htrack, if_true, h.lastCpiIndex,
    Source.countStep, delta_of_step hlt hstep, if_neg hsmall, hbased, and_true, Nat.mod_mod]
  split_ifs with hgap hlog
  · exact ⟨rfl, by simp only; omega, h.restarts, fun _ => htrack⟩
  · exact ⟨rfl, by simp only; omega, h.restarts, fun _ => htrack⟩
  · exact ⟨rfl, by simp only; omega, h.restarts, fun _ => htrack⟩

def Rises (latest next : ℕ) : Prop := latest < next ∧ next < latest + 2 ^ 31

instance (latest next : ℕ) : Decidable (Rises latest next) := inferInstanceAs (Decidable (_ ∧ _))

lemma counted_run {first : ℕ} : ∀ (events : List Event) (latest : ℕ) (src : Source),
    Counted first latest src → (latest :: events.filterMap Event.counter?).IsChain Rises →
      Along Event.step Event.Based src events →
      Counted first ((latest :: events.filterMap Event.counter?).getLast (by simp))
        (run Event.step src events) := by
  intro events
  induction events with
  | nil => exact fun _ _ h _ _ => h
  | cons event events ih =>
    rintro latest src h hrises ⟨hbased, hrest⟩
    cases event with
    | idle => exact ih latest _ ⟨h.lastCpiIndex, h.total, h.restarts, nofun⟩ hrises hrest
    | frame next unitId crc overruns nbytes rxMono =>
      obtain ⟨⟨hlt, hstep⟩, hrises⟩ := List.isChain_cons_cons.mp hrises
      have hvalid := hbased.resolve_left (by rw [h.lastCpiIndex]; simp)
      exact ih next _ (h.frame hlt hstep hvalid unitId crc overruns nbytes rxMono) hrises hrest

/-- From a new source on, whatever the wraps of the counter: the frames received and the frames
lost are all the frames from the first counter to the latest one, and nothing is a restart. -/
theorem loss_accounting (kind : Kind) (crc : Option ℕ) (events : List Event)
    (hne : events.filterMap Event.counter? ≠ [])
    (hrises : (events.filterMap Event.counter?).IsChain Rises)
    (hbased : Along Event.step Event.Based { kind, crc } events) :
    (run Event.step { kind, crc } events).framesReceived +
          (run Event.step { kind, crc } events).framesLost +
        (events.filterMap Event.counter?).head hne =
      (events.filterMap Event.counter?).getLast hne + 1 ∧
      (run Event.step { kind, crc } events).restarts = 0 := by
  -- idle periods before the first frame change nothing
  induction events with
  | nil => exact absurd rfl hne
  | cons event events ih =>
    obtain ⟨-, hrest⟩ := hbased
    cases event with
    | idle => exact ih hne hrises hrest
    | frame first unitId node overruns nbytes rxMono =>
      have hfirst := counted_first kind crc first unitId node overruns nbytes rxMono
      have hcounted := counted_run events first _ hfirst hrises hrest
      exact ⟨hcounted.total, hcounted.restarts⟩

def wrapping : List Event :=
  [.frame (2 ^ 32 - 1) 0 0 0 0 0, .frame (2 ^ 32 + 1) 0 0 0 0 1, .frame (2 ^ 32 + 2) 0 0 0 0 2]

theorem loss_accounting_wrapping :
    (run Event.step { kind := .iqserver, crc := none } wrapping).framesReceived +
        (run Event.step { kind := .iqserver, crc := none } wrapping).framesLost + (2 ^ 32 - 1) =
      2 ^ 32 + 2 + 1 ∧
      (run Event.step { kind := .iqserver, crc := none } wrapping).restarts = 0 :=
  loss_accounting .iqserver none wrapping (by decide) (by decide)
    ⟨.inl rfl, .inr rfl, .inr rfl, trivial⟩

end HeimdallDaq.Federation.IqRouter
