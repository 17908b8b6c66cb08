/-
  HwController/BurstTransparency.lean --- GAIN and AGC across noise bursts.

  During a burst the gains and the AGC belong to the calibration; a command only updates
  the values the end of the burst restores.
-/
import HeimdallDaq.HwController.Fsm

namespace HeimdallDaq.HwController

open List

/-- A `GAIN` payload with a gain of the tuner for each of `M` channels. -/
structure AcceptedGain (M : ℕ) where
  params : List ℤ
  indices : Fin M → GainIndex
  params_eq : ∀ m : Fin M, params[m.val]? = some (validGains (indices m))

/-- The two commands; a `GAIN` comes with what the recalibration relay answers, which
matters with `recal_on_gain_change`. -/
inductive UserCommand (M : ℕ)
  | gain (g : AcceptedGain M) (relayError : Option String)
  | agc

/-- A command outside bursts, or a whole burst with the header it starts on and the
commands that fall inside. -/
inductive Segment (M : ℕ)
  | command (c : UserCommand M)
  | burst (hdr : IqHeader M) (inside : List (UserCommand M))

@[local grind]
def commands {M : ℕ} : List (Segment M) → List (UserCommand M)
  | [] => []
  | .command c :: rest => c :: commands rest
  | .burst _ inside :: rest => inside ++ commands rest

namespace Hwc

variable {M : ℕ} (cfg : Config)

def obey (h : Hwc M) : UserCommand M → Hwc M
  | .gain g relayError =>
    (h.handleControlReqest cfg { relayError := relayError } .wire (.gain g.params)).1
  | .agc => (h.handleControlReqest cfg {} .wire .agc).1

def execute (h : Hwc M) (cs : List (UserCommand M)) : Hwc M := cs.foldl (obey cfg) h

def beginBurst (hdr : IqHeader M) (h : Hwc M) : Hwc M :=
  controlNoiseSource cfg true { h with iqHeader := hdr }

@[local grind]
def executeSegments : List (Segment M) → Hwc M → Hwc M
  | [], h => h
  | .command c :: rest, h => executeSegments rest (h.obey cfg c)
  | .burst hdr inside :: rest, h =>
    executeSegments rest (controlNoiseSource cfg false ((h.beginBurst cfg hdr).execute cfg inside))

def handled : Hwc M → List (UserCommand M) → List (Hwc M × UserCommand M)
  | _, [] => []
  | h, c :: rest => (h, c) :: handled (h.obey cfg c) rest

@[local grind]
def handledSegments : List (Segment M) → Hwc M → List (Hwc M × UserCommand M)
  | [], _ => []
  | .command c :: rest, h => (h, c) :: handledSegments rest (h.obey cfg c)
  | .burst hdr inside :: rest, h =>
    handled cfg (h.beginBurst cfg hdr) inside ++ handledSegments rest
        (controlNoiseSource cfg false ((h.beginBurst cfg hdr).execute cfg inside))

/-! ## Gains -/

def unified (gains : Fin M → GainIndex) : Fin M → GainIndex :=
  if cfg.unifiedGainControl then fun _ => minGain gains else gains

lemma minGain_const (m : Fin M) (c : GainIndex) : minGain (fun _ : Fin M => c) = c := by
  have hreplicate : ∀ n, (replicate (n + 1) c).foldr min (Fin.last 28) = c := by
    intro n
    induction n with
    | zero => exact min_eq_left (Fin.le_last c)
    | succ n ih =>
      rw [replicate_succ, foldr_cons, ih, min_self]
  obtain ⟨n, rfl⟩ := Nat.exists_eq_succ_of_ne_zero (Nat.ne_zero_of_lt m.isLt)
  have hconst : ofFn (fun _ : Fin (n + 1) => c) = replicate (n + 1) c :=
    eq_replicate_iff.mpr ⟨length_ofFn, fun x hx => by
      obtain ⟨_, rfl⟩ := mem_ofFn.mp hx
      rfl⟩
  rw [minGain, hconst]
  exact hreplicate n

lemma unified_unified (gains : Fin M → GainIndex) :
    unified cfg (unified cfg gains) = unified cfg gains := by
  unfold unified
  split
  · funext m
    exact minGain_const m _
  · rfl

lemma gainIndex_validGains (i : GainIndex) : gainIndex (validGains i) = some i := by
  revert i
  decide

lemma storeGains_accepted (g : AcceptedGain M) (gains : Fin M → GainIndex) :
    storeGains (.arr (g.params.map .int)) (List.finRange M) gains = (g.indices, .stored) := by
  have hloop : ∀ (channels : List (Fin M)) (gains : Fin M → GainIndex),
      storeGains (.arr (g.params.map .int)) channels gains =
        (fun m => if m ∈ channels then g.indices m else gains m, .stored) := by
    intro channels
    induction channels with
    | nil =>
      intro gains
      simp [storeGains]
    | cons m rest ih =>
      intro gains
      have hitem : Foundation.Json.item m.val (.arr (g.params.map .int)) =
          .ok (.int (validGains (g.indices m))) := by
        simp [Foundation.Json.item, g.params_eq m]
      grind [storeGains, gainIndexOf, gainIndex_validGains]
  rw [hloop]
  simp

/-! ## What a command leaves -/

def Shows (h : Hwc M) (gains : Fin M → GainIndex) (agc : Bool) : Prop :=
  h.noiseSourceState = false ∧ h.gains = gains ∧ h.agc = agc

def Stores (h : Hwc M) (gains : Fin M → GainIndex) (agc : Bool) : Prop :=
  h.noiseSourceState ∧ h.lastGains = gains ∧ h.lastAgc = agc

variable {h : Hwc M} {gains : Fin M → GainIndex} {agcOn : Bool}

lemma Shows.gain (hs : h.Shows gains agcOn) (g : AcceptedGain M) (relayError : Option String) :
    (h.obey cfg (.gain g relayError)).Shows (unified cfg g.indices) false := by
  show (h.handleGain cfg _ .wire (.arr (g.params.map .int))).1.Shows _ _
  unfold handleGain
  rw [if_neg (by rw [hs.1]; nofun), storeGains_accepted]
  simp only [if_true]
  split
  · exact ⟨hs.1, rfl, rfl⟩
  · exact ⟨hs.1, rfl, rfl⟩

lemma Shows.agc (hs : h.Shows gains agcOn) : (h.obey cfg .agc).Shows gains true := by
  show (h.handleAgc _ .wire).1.Shows _ _
  unfold handleAgc
  rw [if_neg (by rw [hs.1]; nofun)]
  exact ⟨hs.1, hs.2.1, rfl⟩

lemma Stores.gain (hs : h.Stores gains agcOn) (g : AcceptedGain M) (relayError : Option String) :
    (h.obey cfg (.gain g relayError)).Stores g.indices agcOn := by
  show (h.handleGain cfg _ .wire (.arr (g.params.map .int))).1.Stores _ _
  unfold handleGain
  rw [if_pos hs.1, storeGains_accepted]
  exact ⟨hs.1, rfl, hs.2.2⟩

lemma Stores.agc (hs : h.Stores gains agcOn) : (h.obey cfg .agc).Stores gains true := by
  show (h.handleAgc _ .wire).1.Stores _ _
  unfold handleAgc
  rw [if_pos hs.1]
  exact ⟨hs.1, hs.2.1, rfl⟩

lemma Shows.beginBurst (hs : h.Shows gains agcOn) (hdr : IqHeader M) :
    (h.beginBurst cfg hdr).Stores gains agcOn := ⟨rfl, hs.2.1, hs.2.2⟩

lemma Stores.endBurst (hs : h.Stores gains agcOn) :
    (controlNoiseSource cfg false h).Shows (unified cfg gains) agcOn := by
  obtain ⟨-, rfl, rfl⟩ := hs
  unfold controlNoiseSource enableAgc
  rw [if_neg nofun]
  simp only
  split
  · exact ⟨rfl, rfl, rfl⟩
  · exact ⟨rfl, rfl, rfl⟩

/-! ## Whole sequences -/

@[local grind]
def asked : UserCommand M → Bool
  | .gain _ _ => false
  | .agc => true

variable (x : Hwc M × UserCommand M)

@[local grind]
def left : Bool :=
  match x.2 with
  | .gain _ _ => x.1.noiseSourceState && x.1.lastAgc
  | .agc => true

@[local grind]
def gainsAfter (gains : Fin M → GainIndex) (cs : List (UserCommand M)) : Fin M → GainIndex :=
  cs.foldl
    (fun gains c =>
      match c with
      | .gain g _ => unified cfg g.indices
      | .agc => gains)
    gains

@[local grind]
def storedAfter (gains : Fin M → GainIndex) (cs : List (UserCommand M)) : Fin M → GainIndex :=
  cs.foldl
    (fun gains c =>
      match c with
      | .gain g _ => g.indices
      | .agc => gains)
    gains

variable (cs : List (UserCommand M))

lemma unified_storedAfter :
    ∀ gains, unified cfg (storedAfter gains cs) = gainsAfter cfg (unified cfg gains) cs := by
  induction cs with
  | nil => exact fun _ => rfl
  | cons c rest ih => grind

lemma gainsAfter_unified : ∀ gains, unified cfg gains = gains →
      unified cfg (gainsAfter cfg gains cs) = gainsAfter cfg gains cs := by
  induction cs with
  | nil => exact fun _ hgains => hgains
  | cons c rest ih =>
    intro gains hgains
    cases c with
    | gain g relayError => exact ih _ (unified_unified cfg g.indices)
    | agc => exact ih gains hgains

lemma Shows.execute : ∀ {h : Hwc M} {gains agcOn}, h.Shows gains agcOn →
      (h.execute cfg cs).Shows (gainsAfter cfg gains cs) (cs.foldl (fun _ c => asked c) agcOn) := by
  induction cs with
  | nil => exact fun hs => hs
  | cons c rest ih =>
    intro h gains agcOn hs
    cases c with
    | gain g relayError => exact ih (hs.gain cfg g relayError)
    | agc => exact ih (hs.agc cfg)

lemma Stores.execute : ∀ {h : Hwc M} {gains agcOn}, h.Stores gains agcOn →
      (h.execute cfg cs).Stores (storedAfter gains cs)
        ((handled cfg h cs).foldl (fun _ x => left x) agcOn) := by
  induction cs with
  | nil => exact fun hs => hs
  | cons c rest ih =>
    intro h gains agcOn hs
    cases c with
    | gain g relayError =>
      have hleft : left (h, .gain g relayError) = agcOn := by
        rw [left, hs.1, hs.2.2, Bool.true_and]
      have hrest := ih (hs.gain cfg g relayError)
      rw [← hleft] at hrest
      exact hrest
    | agc => exact ih (hs.agc cfg)

variable (segs : List (Segment M))

lemma Shows.executeSegments :
    ∀ {h : Hwc M} {gains agcOn}, unified cfg gains = gains → h.Shows gains agcOn →
      (h.executeSegments cfg segs).Shows (gainsAfter cfg gains (commands segs))
        ((h.handledSegments cfg segs).foldl (fun _ x => left x) agcOn) := by
  induction segs with
  | nil => exact fun _ hs => hs
  | cons seg rest ih =>
    intro h gains agcOn hgains hs
    cases seg with
    | command c =>
      cases c with
      | gain g relayError =>
        have hleft : left (h, .gain g relayError) = false := by
          rw [left, hs.1, Bool.false_and]
        grind [unified_unified, Shows.gain]
      | agc => exact ih hgains (hs.agc cfg)
    | burst hdr inside =>
      have hinside := (Stores.execute cfg inside (hs.beginBurst cfg hdr)).endBurst cfg
      grind [unified_storedAfter, gainsAfter_unified]

lemma foldl_eq_getLast? {α β : Type} (f : α → β) (xs : List α) :
    ∀ b, xs.foldl (fun _ x => f x) b = (xs.getLast?.map f).getD b := by
  induction xs with
  | nil => exact fun _ => rfl
  | cons x rest ih =>
    intro b
    rw [foldl_cons, ih, getLast?_cons]
    cases rest.getLast? <;> rfl

lemma handled_commands : ∀ h : Hwc M, (h.handled cfg cs).map Prod.snd = cs := by
  induction cs with
  | nil => exact fun _ => rfl
  | cons c rest ih =>
    intro h
    rw [handled, map_cons, ih]

lemma handledSegments_commands :
    ∀ h : Hwc M, (h.handledSegments cfg segs).map Prod.snd = commands segs := by
  induction segs with
  | nil => exact fun _ => rfl
  | cons seg rest ih =>
    intro h
    cases seg with
    | command c => rw [handledSegments, map_cons, ih, commands]
    | burst hdr inside =>
      rw [handledSegments, map_append, handled_commands, ih, commands]

/-- A `GAIN` inside a burst that began with the AGC on, or in which the AGC was asked
for. -/
@[local grind]
def HeldUnderAgc : Prop :=
  (∃ g relayError, x.2 = .gain g relayError) ∧ x.1.noiseSourceState ∧ x.1.lastAgc

lemma left_eq_asked_iff : left x = asked x.2 ↔ ¬ HeldUnderAgc x := by
  grind

end Hwc

/-- From a state outside bursts, with gains as `_change_gains` leaves them, the bursts
make no difference to the gains, and none to the AGC exactly when the last command is
not a `GAIN` held by a burst while the stored AGC state is on. -/
theorem bursts_transparent_iff {M : ℕ} (cfg : Config) (h : Hwc M) (segs : List (Segment M))
    (hnoise : h.noiseSourceState = false) (hunified : Hwc.unified cfg h.gains = h.gains) :
    ((h.executeSegments cfg segs).gains = (h.execute cfg (commands segs)).gains ∧
        (h.executeSegments cfg segs).agc = (h.execute cfg (commands segs)).agc) ↔
      ∀ x ∈ (h.handledSegments cfg segs).getLast?, ¬ Hwc.HeldUnderAgc x := by
  have hshows : h.Shows h.gains h.agc := ⟨hnoise, rfl, rfl⟩
  obtain ⟨-, hgains, hagc⟩ := Hwc.Shows.executeSegments cfg segs hunified hshows
  obtain ⟨-, hgains', hagc'⟩ := Hwc.Shows.execute cfg (commands segs) hshows
  have hlast : (commands segs).getLast? = (h.handledSegments cfg segs).getLast?.map Prod.snd := by
    rw [← Hwc.handledSegments_commands cfg segs h, getLast?_map]
  rw [Hwc.foldl_eq_getLast?] at hagc hagc'
  grind [Hwc.left_eq_asked_iff]

def nine : AcceptedGain 1 := ⟨[9], fun _ => 1, by decide⟩

theorem bursts_transparent_iff_agc_inside :
    ((oneChannel.executeSegments {} [.burst oneChannel.iqHeader [.gain nine none, .agc]]).gains =
          (oneChannel.execute {} [.gain nine none, .agc]).gains ∧
        (oneChannel.executeSegments {} [.burst oneChannel.iqHeader [.gain nine none, .agc]]).agc =
          (oneChannel.execute {} [.gain nine none, .agc]).agc) ↔
      ∀ x ∈ (oneChannel.handledSegments {} [.burst oneChannel.iqHeader [.gain nine none, .agc]]).getLast?,
        ¬ Hwc.HeldUnderAgc x :=
  bursts_transparent_iff {} oneChannel [.burst oneChannel.iqHeader [.gain nine none, .agc]] rfl
    (funext fun m => Hwc.minGain_const m 0)

/-- AGC, then a burst with a GAIN inside: the AGC is on afterwards, and off without
the burst. -/
theorem agc_survives_gain_in_burst :
    (oneChannel.executeSegments {} [.command .agc, .burst oneChannel.iqHeader [.gain nine none]]).agc ∧
      (oneChannel.execute {} [.agc, .gain nine none]).agc = false := by decide

end HeimdallDaq.HwController
