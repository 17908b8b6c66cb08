/-
  HwController/Orientation.lean --- the antenna orientation controller.

  `tick` moves the rotator only when the header of its frame permits it; the commands
  move it at once.
-/
import HeimdallDaq.Foundation.Runs
import Mathlib

namespace HeimdallDaq.HwController.Orientation

open Foundation List

/-- The header fields `tick` reads, with the objective `_read_objective` takes from it. -/
structure Header (K : Type) where
  noiseSourceState : ℕ
  syncState : ℤ
  frameType : ℕ
  objective : Option K

/-- `ScanGrid`, with the points it yields. -/
structure ScanGrid (β : Type) where
  points : List β
  dwellFrames : ℤ

structure Config (β K : Type) where
  clampBearing : β → β
  applyBoresight : β → β
  park : β
  settleFrames : ℤ
  homeOnStart : Bool
  /-- `bearing_mode == "fixed"` -/
  fixed : Bool
  minSyncState : ℤ
  enScan : Bool
  scan : ScanGrid β
  zero : K
  add : K → K → K
  div : K → ℕ → K

/-- `STATE_*`. -/
inductive State
  | idle
  | slewing
  | settled
  | scanning
  deriving DecidableEq

/-- The controller, with the calls of `backend.move_to` and the header before each. -/
structure Controller (β K : Type) where
  state : State := .idle
  cmd : β
  settleCounter : ℕ := 0
  scanPoints : List β := []
  scanIndex : ℕ := 0
  scanDwellCounter : ℕ := 0
  scanSettleCounter : ℕ := 0
  scanObjSum : K
  scanObjCount : ℕ := 0
  scanBestObj : Option K := none
  scanBestBearing : Option β := none
  /-- `dwell_frames` of `_scan_grid` -/
  dwellFrames : ℤ := 0
  autoScanStarted : Bool := false
  lastHeader : Option (Header K) := none
  moves : List (β × Option (Header K)) := []

/-- What `tick` reports. -/
inductive Event (β K : Type)
  | settled (bearing : β)
  | scanPeak (bearing : β) (objective : Option K)

/-- The end of a tick; an `IndexError` leaves the changes made before it. -/
structure Ticked (β K : Type) where
  controller : Controller β K
  event : Option (Event β K) := none
  raised : Bool := false

/-- A frame with the answer of `backend.is_moving()` to it. -/
structure Frame (K : Type) where
  header : Header K
  moving : Bool

variable {β K : Type} [LinearOrder K] (cfg : Config β K)

namespace Controller

variable (c : Controller β K)

def setBearing (b : β) : Controller β K :=
  { c with
    cmd := cfg.clampBearing b
    moves := c.moves ++ [(cfg.applyBoresight (cfg.clampBearing b), c.lastHeader)]
    state := .slewing
    settleCounter := 0 }

def resetScanPointState : Controller β K :=
  { c with scanDwellCounter := 0, scanSettleCounter := 0, scanObjSum := cfg.zero, scanObjCount := 0 }

def startScan (grid : ScanGrid β) : Controller β K :=
  let c := { c with dwellFrames := grid.dwellFrames, scanPoints := grid.points }
  match grid.points with
  | [] => c
  | p :: _ =>
    { ({ c.resetScanPointState cfg with
          scanIndex := 0, scanBestObj := none, scanBestBearing := none }.setBearing cfg p) with
      state := .scanning }

def stop : Controller β K := { c with state := .settled, scanPoints := [] }

def home (origin : β) : Controller β K :=
  { c with cmd := origin, state := .slewing, settleCounter := 0 }

def openBackend (origin : β) : Controller β K :=
  let c := if cfg.homeOnStart then c.home origin else c
  if cfg.fixed then c.setBearing cfg cfg.park else c

def canMove (h : Header K) : Bool :=
  h.noiseSourceState != 1 && decide (cfg.minSyncState ≤ h.syncState)

def nextPoint : Ticked β K :=
  let c := { c.resetScanPointState cfg with scanIndex := c.scanIndex + 1 }
  match c.scanPoints[c.scanIndex]? with
  | some p => ⟨{ c.setBearing cfg p with state := .scanning }, none, false⟩
  | none =>
    let best := c.scanBestBearing.getD c.cmd
    ⟨c.setBearing cfg best, some (.scanPeak best c.scanBestObj), false⟩

def finishPoint : Ticked β K :=
  if 0 < c.scanObjCount then
    let pointMean := cfg.div c.scanObjSum c.scanObjCount
    match c.scanPoints[c.scanIndex]? with
    | none => ⟨c, none, true⟩
    | some bearing =>
      if c.scanBestObj.all (· < pointMean) then
        { c with scanBestObj := some pointMean, scanBestBearing := some bearing }.nextPoint cfg
      else c.nextPoint cfg
  else c.nextPoint cfg

def dwell (objective : Option K) : Controller β K :=
  let c := { c with scanDwellCounter := c.scanDwellCounter + 1 }
  match objective with
  | some obj =>
    { c with scanObjSum := cfg.add c.scanObjSum obj, scanObjCount := c.scanObjCount + 1 }
  | none => c

def checkDwell : Ticked β K :=
  if c.dwellFrames ≤ c.scanDwellCounter then c.finishPoint cfg else ⟨c, none, false⟩

def scanFrame (h : Header K) : Ticked β K :=
  if h.frameType = 0 then
    if c.scanSettleCounter < cfg.settleFrames then
      ⟨{ c with scanSettleCounter := c.scanSettleCounter + 1 }, none, false⟩
    else (c.dwell cfg h.objective).checkDwell cfg
  else c.checkDwell cfg

def settleFrame (h : Header K) : Ticked β K :=
  let c := if h.frameType = 0 then { c with settleCounter := c.settleCounter + 1 } else c
  if cfg.settleFrames ≤ c.settleCounter then
    ⟨{ c with state := .settled, settleCounter := 0 }, some (.settled c.cmd), false⟩
  else ⟨c, none, false⟩

def autoScan (h : Header K) : Controller β K :=
  if cfg.enScan ∧ c.autoScanStarted = false ∧ (c.state = .idle ∨ c.state = .settled) ∧
      canMove cfg h then
    { c with autoScanStarted := true }.startScan cfg cfg.scan
  else c

def receive (h : Header K) : Controller β K := { c with lastHeader := some h }.autoScan cfg h

def tick (t : Frame K) : Ticked β K :=
  let c := c.receive cfg t.header
  if (c.state = .slewing ∨ c.state = .scanning) ∧ canMove cfg t.header ∧ t.moving = false then
    if c.state = .slewing then c.settleFrame cfg t.header else c.scanFrame cfg t.header
  else ⟨c, none, false⟩

end Controller

inductive Call (β K : Type)
  | setBearing (b : β)
  | park
  | startScan (grid : ScanGrid β)
  | stop
  | openBackend (origin : β)
  | tick (t : Frame K)

def step (c : Controller β K) : Call β K → Controller β K
  | .setBearing b => c.setBearing cfg b
  | .park => c.setBearing cfg cfg.park
  | .startScan grid => c.startScan cfg grid
  | .stop => c.stop
  | .openBackend origin => c.openBackend cfg origin
  | .tick t => (c.tick cfg t).controller

def start : Controller β K := { cmd := cfg.park, scanObjSum := cfg.zero }

/-! ## Motion and calibration -/

@[local grind]
def Calm (h : Option (Header K)) : Prop :=
  ∃ x, h = some x ∧ x.noiseSourceState = 0 ∧ cfg.minSyncState ≤ x.syncState

def Call.Moves : Call β K → Prop
  | .setBearing _ | .park => True
  | .startScan grid => grid.points ≠ []
  | .openBackend _ => cfg.fixed = true
  | .stop | .tick _ => False

@[local grind]
def Considerate (c : Controller β K) (a : Call β K) : Prop :=
  (a.Moves cfg → Calm cfg c.lastHeader) ∧ ∀ t, a = .tick t → t.header.noiseSourceState ≤ 1

namespace Controller

variable (c : Controller β K) (h : Header K)

def MovesOn (d : Controller β K) : Prop := ∀ m ∈ d.moves, m ∈ c.moves ∨ m.2 = c.lastHeader

section

omit [LinearOrder K]

lemma nextPoint_movesOn : c.MovesOn (c.nextPoint cfg).controller := by
  unfold nextPoint setBearing resetScanPointState MovesOn
  grind

lemma settleFrame_moves : (c.settleFrame cfg h).controller.moves = c.moves := by
  simp only [settleFrame]
  split_ifs <;> rfl

lemma receive_moves : (c.receive cfg h).lastHeader = some h ∧
    ∀ m ∈ (c.receive cfg h).moves, m ∈ c.moves ∨ m.2 = some h ∧ canMove cfg h := by
  unfold receive autoScan startScan setBearing resetScanPointState
  grind

end

lemma checkDwell_movesOn : c.MovesOn (c.checkDwell cfg).controller := by
  have hnext := nextPoint_movesOn cfg
  unfold MovesOn checkDwell finishPoint at *
  grind

lemma scanFrame_movesOn : c.MovesOn (c.scanFrame cfg h).controller := by
  have hdwell : (c.dwell cfg h.objective).lastHeader = c.lastHeader ∧
      (c.dwell cfg h.objective).moves = c.moves := by
    cases h.objective <;> exact ⟨rfl, rfl⟩
  have hcheck := checkDwell_movesOn cfg
  unfold MovesOn scanFrame at *
  grind

lemma tick_moves (t : Frame K) : ∀ m ∈ (c.tick cfg t).controller.moves,
    m ∈ c.moves ∨ m.2 = some t.header ∧ canMove cfg t.header := by
  obtain ⟨hlast, hmoves⟩ := receive_moves cfg c t.header
  have hscan := scanFrame_movesOn cfg (c.receive cfg t.header) t.header
  simp only [tick, MovesOn, hlast] at hscan ⊢
  grind [settleFrame_moves]

end Controller

def MovedCalmly (c : Controller β K) : Prop := ∀ m ∈ c.moves, Calm cfg m.2

lemma step_movedCalmly {c : Controller β K} (h : MovedCalmly cfg c) (a : Call β K)
    (ha : Considerate cfg c a) : MovedCalmly cfg (step cfg c a) := by
  cases a with
  | tick t =>
    intro m hm
    rcases c.tick_moves cfg t m hm with hold | ⟨hheader, hmove⟩
    · exact h m hold
    · have hnoise := ha.2 t rfl
      simp only [Controller.canMove, Bool.and_eq_true, bne_iff_ne, decide_eq_true_eq] at hmove
      grind
  | _ =>
    grind [MovedCalmly, step, Call.Moves, Controller.startScan, Controller.openBackend, Controller.home, Controller.stop, Controller.setBearing, Controller.resetScanPointState]

/-- When the commands that move the rotator come outside calibration, it is moved outside
calibration only. -/
theorem moves_outside_calibration (calls : List (Call β K))
    (h : Along (step cfg) (Considerate cfg) (start cfg) calls) :
    MovedCalmly cfg (run (step cfg) (start cfg) calls) := by
  have hstep (c : Controller β K) a (hc : MovedCalmly cfg c) := step_movedCalmly cfg hc a
  exact run_invariant (step cfg) hstep calls (start cfg) nofun h

def twoPoints : Config ℕ ℕ where
  clampBearing := id
  applyBoresight := id
  park := 0
  settleFrames := 1
  homeOnStart := false
  fixed := false
  minSyncState := 5
  enScan := false
  scan := ⟨[10, 20], 1⟩
  zero := 0
  add := (· + ·)
  div := (· / ·)

def calmFrame : Frame ℕ := ⟨⟨0, 6, 0, some 3⟩, false⟩

theorem moves_outside_calibration_parked :
    MovedCalmly twoPoints (run (step twoPoints) (start twoPoints) [.tick calmFrame, .park]) :=
  moves_outside_calibration twoPoints [.tick calmFrame, .park]
    ⟨⟨nofun, by rintro _ ⟨⟩; decide⟩, ⟨fun _ => ⟨_, rfl, rfl, by decide⟩, nofun⟩, trivial⟩

theorem parked_in_calibration : ¬MovedCalmly twoPoints
    (run (step twoPoints) (start twoPoints) [.tick ⟨⟨1, 6, 0, none⟩, false⟩, .park]) := by
  intro h
  obtain ⟨x, hx, hnoise, -⟩ := h _ (mem_singleton_self _)
  cases hx
  cases hnoise

/-! ## Scans -/

@[local grind]
def Frame.arrived (t : Frame K) : Bool :=
  t.header.frameType == 0 && Controller.canMove cfg t.header && !t.moving

@[local grind]
def visitLength (grid : ScanGrid β) : ℕ := cfg.settleFrames.toNat + grid.dwellFrames.toNat

def mean (objs : List (Option K)) : Option K :=
  if objs.reduceOption.length = 0 then none
  else some (cfg.div (objs.reduceOption.foldl cfg.add cfg.zero) objs.reduceOption.length)

def visitMean (visit : List (Option K)) : Option K := mean cfg (visit.drop cfg.settleFrames.toNat)

@[local grind]
def FirstMax (points : List β) (means : List (Option K)) (m : K) (b : β) : Prop :=
  ∃ i : ℕ, means[i]? = some (some m) ∧ points[i]? = some b ∧
    ∀ (j : ℕ) x, means[j]? = some (some x) → x ≤ m ∧ (j < i → x < m)

def IsPeak (points : List β) (means : List (Option K)) (best : β) : Prop :=
  (∃ m, FirstMax points means m best) ∨
    (∀ x ∈ means, x = none) ∧ ∃ p, points.getLast? = some p ∧ best = cfg.clampBearing p

def setPoints (bs : List β) : List β := bs.map fun b => cfg.applyBoresight (cfg.clampBearing b)

@[local grind]
def Controller.setPoints (c : Controller β K) : List β := c.moves.map Prod.fst

/-- What a scan has done after frames with these objectives: every visited point had its
frames, and the points were visited in order; at the end the peak is commanded. -/
@[local grind]
def Scanned (grid : ScanGrid β) (before after : Controller β K) (objs : List (Option K)) : Prop :=
  ∃ (visits : List (List (Option K))) (rest : List (Option K)), objs = visits.flatten ++ rest ∧
    (∀ v ∈ visits, v.length = visitLength cfg grid) ∧
    (after.state = .scanning ∧ rest.length < visitLength cfg grid ∧
        visits.length < grid.points.length ∧
        after.setPoints = before.setPoints ++ setPoints cfg (grid.points.take (visits.length + 1)) ∨
      after.state = .slewing ∧ rest = [] ∧ visits.length = grid.points.length ∧
        ∃ best, IsPeak cfg grid.points (visits.map (visitMean cfg)) best ∧
          after.setPoints = before.setPoints ++ setPoints cfg (grid.points ++ [best]))

@[local grind]
def Best (points : List β) (means : List (Option K)) (c : Controller β K) : Prop :=
  (c.scanBestObj = none ∧ c.scanBestBearing = none ∧ ∀ x ∈ means, x = none) ∨
    ∃ m b, c.scanBestObj = some m ∧ c.scanBestBearing = some b ∧ FirstMax points means m b

/-- A scan at its point number `visits.length`, with the frames `rest` seen there. -/
@[local grind]
structure Progress (grid : ScanGrid β) (sent : List β) (visits : List (List (Option K)))
    (rest : List (Option K)) (c : Controller β K) : Prop where
  state : c.state = .scanning
  points : c.scanPoints = grid.points
  dwellFrames : c.dwellFrames = grid.dwellFrames
  index : c.scanIndex = visits.length
  inside : visits.length < grid.points.length
  settle : c.scanSettleCounter = min rest.length cfg.settleFrames.toNat
  dwell : c.scanDwellCounter = rest.length - cfg.settleFrames.toNat
  sum : c.scanObjSum = (rest.drop cfg.settleFrames.toNat).reduceOption.foldl cfg.add cfg.zero
  count : c.scanObjCount = (rest.drop cfg.settleFrames.toNat).reduceOption.length
  moves : c.setPoints = sent ++ setPoints cfg (grid.points.take (visits.length + 1))
  cmd : ∃ p, grid.points[visits.length]? = some p ∧ c.cmd = cfg.clampBearing p

section

variable {grid : ScanGrid β} {sent : List β} {visits : List (List (Option K))}
  {rest : List (Option K)} {c : Controller β K} {points : List β} {means : List (Option K)}
  {m : K} {b : β}

lemma firstMax_push_lt (hb : points[means.length]? = some b)
    (hlt : ∀ x y, x ∈ means → x = some y → y < m) : FirstMax points (means ++ [some m]) m b := by
  grind

/-- The comparison of the mean of a point with the best one. -/
lemma Best.push (h : Best points means c) (hb : points[means.length]? = some b) :
    Best points (means ++ [some m]) (if c.scanBestObj.all (· < m) then
      { c with scanBestObj := some m, scanBestBearing := some b } else c) := by
  rcases h with ⟨hobj, -, hnone⟩ | ⟨x, y, hobj, hbearing, hmax⟩
  all_goals grind [firstMax_push_lt]

section

omit [LinearOrder K]

lemma Progress.settled (h : Progress cfg grid sent visits rest c)
    (hlt : rest.length < cfg.settleFrames.toNat) (o : Option K) :
    Progress cfg grid sent visits (rest ++ [o])
      { c with scanSettleCounter := c.scanSettleCounter + 1 } := by
  grind [drop_of_length_le]

lemma Progress.dwelt (h : Progress cfg grid sent visits rest c)
    (hge : cfg.settleFrames.toNat ≤ rest.length) (o : Option K) :
    Progress cfg grid sent visits (rest ++ [o]) (c.dwell cfg o) := by
  have hdrop : (rest ++ [o]).drop cfg.settleFrames.toNat =
      rest.drop cfg.settleFrames.toNat ++ [o] := drop_append_of_le_length hge
  have hsettle := h.settle
  have hdwell := h.dwell
  have hsum := h.sum
  have hcount := h.count
  cases o <;> exact { h with
    settle := by grind [Controller.dwell]
    dwell := by grind [Controller.dwell]
    sum := by rw [hdrop]; simp [reduceOption_append, ← hsum, Controller.dwell]
    count := by rw [hdrop]; simp [reduceOption_append, ← hcount, Controller.dwell] }

lemma setPoints_append (bs ds : List β) :
    setPoints cfg (bs ++ ds) = setPoints cfg bs ++ setPoints cfg ds := map_append

lemma setBearing_setPoints (c : Controller β K) (b : β) :
    (c.setBearing cfg b).setPoints = c.setPoints ++ setPoints cfg [b] := map_append

end

/-- The scan is over. -/
@[local grind]
structure Ended (grid : ScanGrid β) (sent : List β) (visits : List (List (Option K)))
    (c : Controller β K) : Prop where
  state : c.state = .slewing
  visited : visits.length = grid.points.length
  peak : ∃ best, IsPeak cfg grid.points (visits.map (visitMean cfg)) best ∧
    c.setPoints = sent ++ setPoints cfg (grid.points ++ [best])

lemma Progress.next (h : Progress cfg grid sent visits rest c) {visit : List (Option K)}
    (hbest : Best grid.points ((visits ++ [visit]).map (visitMean cfg)) c) :
    (c.nextPoint cfg).raised = false ∧
      (Progress cfg grid sent (visits ++ [visit]) [] (c.nextPoint cfg).controller ∧
          Best grid.points ((visits ++ [visit]).map (visitMean cfg)) (c.nextPoint cfg).controller ∨
        Ended cfg grid sent (visits ++ [visit]) (c.nextPoint cfg).controller) := by
  obtain ⟨p, hp, hcmd⟩ := h.cmd
  have hpoint : (c.resetScanPointState cfg).scanPoints[c.scanIndex + 1]? =
      grid.points[visits.length + 1]? := by rw [← h.points, ← h.index]; rfl
  have htake : grid.points.take (visits.length + 1 + 1) =
      grid.points.take (visits.length + 1) ++ grid.points[visits.length + 1]?.toList :=
    take_add_one
  cases hnext : grid.points[visits.length + 1]? with
  | some q =>
    simp only [Controller.nextPoint, hpoint, hnext, true_and]
    have hlt := (List.getElem?_eq_some_iff.mp hnext).1
    have hmoves := setBearing_setPoints cfg c q
    rw [h.moves, append_assoc, ← setPoints_append] at hmoves
    refine .inl ⟨{ h with
      state := rfl
      index := by simp [h.index, Controller.setBearing]
      inside := by simpa using hlt
      settle := by simp [Controller.setBearing, Controller.resetScanPointState]
      dwell := by simp [Controller.setBearing, Controller.resetScanPointState]
      sum := by simp [Controller.setBearing, Controller.resetScanPointState]
      count := by simp [Controller.setBearing, Controller.resetScanPointState]
      moves := by rw [length_append, length_singleton, htake, hnext]; exact hmoves
      cmd := ⟨q, by simpa using hnext, rfl⟩ }, hbest⟩
  | none =>
    have hlength : visits.length + 1 = grid.points.length :=
      le_antisymm h.inside (getElem?_eq_none_iff.mp hnext)
    simp only [Controller.nextPoint, hpoint, hnext, true_and]
    refine .inr ⟨rfl, by simpa using hlength, c.scanBestBearing.getD c.cmd, ?_, ?_⟩
    · rcases hbest with ⟨-, hbearing, hnone⟩ | ⟨m, b, -, hbearing, hmax⟩
      · refine .inr ⟨hnone, p, ?_, by rw [hbearing, Option.getD_none, hcmd]⟩
        rw [getLast?_eq_getElem?, ← hlength, Nat.add_sub_cancel, hp]
      · exact .inl ⟨m, by rwa [hbearing]⟩
    · have hmoves := setBearing_setPoints cfg c (c.scanBestBearing.getD c.cmd)
      rw [h.moves, append_assoc, ← setPoints_append, hlength, take_length] at hmoves
      exact hmoves

lemma Progress.finish (h : Progress cfg grid sent visits rest c)
    (hbest : Best grid.points (visits.map (visitMean cfg)) c) :
    (c.finishPoint cfg).raised = false ∧
      (Progress cfg grid sent (visits ++ [rest]) [] (c.finishPoint cfg).controller ∧
          Best grid.points ((visits ++ [rest]).map (visitMean cfg)) (c.finishPoint cfg).controller ∨
        Ended cfg grid sent (visits ++ [rest]) (c.finishPoint cfg).controller) := by
  obtain ⟨p, hp, -⟩ := h.cmd
  have hmap : (visits ++ [rest]).map (visitMean cfg) = visits.map (visitMean cfg) ++
      [if c.scanObjCount = 0 then none else some (cfg.div c.scanObjSum c.scanObjCount)] := by
    rw [map_append, map_singleton, visitMean, mean, h.sum, h.count]
  unfold Controller.finishPoint
  split
  case isFalse hzero => grind [Progress.next]
  case isTrue hpos =>
    have hnew := hbest.push (m := cfg.div c.scanObjSum c.scanObjCount) (b := p) (by simpa using hp)
    rw [if_neg (by omega)] at hmap
    rw [← hmap] at hnew
    have hat : c.scanPoints[c.scanIndex]? = some p := by rw [h.points, h.index, hp]
    simp only [hat]
    split
    case isTrue hlt =>
      rw [if_pos hlt] at hnew
      have hmid : Progress cfg grid sent visits rest { c with
        scanBestObj := some (cfg.div c.scanObjSum c.scanObjCount), scanBestBearing := some p } :=
        { h with }
      exact hmid.next cfg hnew
    grind [Progress.next]

@[local grind]
def Underway (grid : ScanGrid β) (sent : List β) (objs : List (Option K)) (c : Controller β K) :
    Prop :=
  ∃ visits rest, objs = visits.flatten ++ rest ∧ (∀ v ∈ visits, v.length = visitLength cfg grid) ∧
    (Progress cfg grid sent visits rest c ∧ rest.length < visitLength cfg grid ∧
        Best grid.points (visits.map (visitMean cfg)) c ∨ rest = [] ∧ Ended cfg grid sent visits c)

lemma Progress.checkDwell (h : Progress cfg grid sent visits rest c)
    (hbest : Best grid.points (visits.map (visitMean cfg)) c)
    (hvisits : ∀ v ∈ visits, v.length = visitLength cfg grid)
    (hrest : rest.length ≤ visitLength cfg grid)
    (hdwell : 1 ≤ grid.dwellFrames) :
    (c.checkDwell cfg).raised = false ∧
      Underway cfg grid sent (visits.flatten ++ rest) (c.checkDwell cfg).controller := by
  have hcounter := h.dwell
  have hframes := h.dwellFrames
  unfold visitLength at hrest hvisits
  unfold Controller.checkDwell
  split
  case isFalse hlt => grind
  case isTrue hge =>
    obtain ⟨hraised, hnext⟩ := h.finish cfg hbest
    have hlength : rest.length = visitLength cfg grid := by unfold visitLength; omega
    refine ⟨hraised, visits ++ [rest], [], by simp, by grind, ?_⟩
    grind

lemma Underway.tick {objs : List (Option K)} (h : Underway cfg grid sent objs c)
    (hscanning : c.state = .scanning) (hdwell : 1 ≤ grid.dwellFrames) (t : Frame K) :
    Underway cfg grid sent (objs ++ if t.arrived cfg then [t.header.objective] else [])
      (c.tick cfg t).controller := by
  obtain ⟨visits, rest, rfl, hvisits, ⟨hp, hrest, hbest⟩ | ⟨-, hended⟩⟩ := h
  case inr => exact absurd (hscanning.symm.trans hended.state) (by decide)
  obtain ⟨d, hd⟩ : ∃ d, c.receive cfg t.header = d := ⟨_, rfl⟩
  have hsame : d = { c with lastHeader := some t.header } := by
    simp [← hd, Controller.receive, Controller.autoScan, hscanning]
  have hp' : Progress cfg grid sent visits rest d := hsame ▸ { hp with }
  have hbest' : Best grid.points (visits.map (visitMean cfg)) d := hsame ▸ hbest
  have hstate := hp'.state
  have hsettle := hp'.settle
  have hidle : Underway cfg grid sent (visits.flatten ++ rest) d :=
    ⟨visits, rest, rfl, hvisits, .inl ⟨hp', hrest, hbest'⟩⟩
  simp only [Controller.tick, hd, hstate, reduceCtorEq, false_or, true_and, if_false]
  by_cases hmove : Controller.canMove cfg t.header ∧ t.moving = false
  case neg => grind
  rw [if_pos hmove]
  unfold Controller.scanFrame
  by_cases hdata : t.header.frameType = 0
  case neg => grind [Progress.checkDwell]
  rw [if_pos hdata, if_pos (by simp [Frame.arrived, hdata, hmove]), append_assoc]
  unfold visitLength at hrest
  split
  case isTrue hlt =>
    refine ⟨visits, _, rfl, hvisits, .inl ⟨hp'.settled cfg (by omega) _, ?_, hbest'⟩⟩
    simp only [length_append, length_singleton, visitLength]
    omega
  case isFalse hge =>
    refine ((hp'.dwelt cfg (by omega) _).checkDwell cfg ?_ hvisits ?_ hdwell).2
    · cases t.header.objective <;> exact hbest'
    · simp only [length_append, length_singleton, visitLength]
      omega

lemma underway_startScan (hdwell : 1 ≤ grid.dwellFrames) (hpoints : grid.points ≠ []) :
    Underway cfg grid c.setPoints [] (c.startScan cfg grid) := by
  obtain ⟨p, ps, hgrid⟩ := exists_cons_of_ne_nil hpoints
  refine ⟨[], [], rfl, nofun, .inl ⟨?_, by simp [visitLength]; omega, ?_⟩⟩
  · simp only [Controller.startScan, hgrid]
    constructor <;>
      simp [hgrid, Controller.setBearing, Controller.resetScanPointState, Controller.setPoints,
        setPoints]
  · simp only [Controller.startScan, hgrid]
    exact .inl ⟨rfl, rfl, nofun⟩

lemma Underway.run (hdwell : 1 ≤ grid.dwellFrames) : ∀ (ts : List (Frame K)) {c : Controller β K}
    {objs : List (Option K)}, Underway cfg grid sent objs c →
    Along (fun c t => (Controller.tick cfg c t).controller) (fun c _ => c.state = .scanning) c ts →
    Underway cfg grid sent
      (objs ++ (ts.filter (Frame.arrived cfg)).map (·.header.objective))
      (Foundation.run (fun c t => (Controller.tick cfg c t).controller) c ts) := by
  intro ts
  induction ts with
  | nil => intro c objs h _; simpa using h
  | cons t ts ih =>
    intro c objs h hscan
    have hsplit : ((t :: ts).filter (Frame.arrived cfg)).map (·.header.objective) =
        (if t.arrived cfg then [t.header.objective] else []) ++
          (ts.filter (Frame.arrived cfg)).map (·.header.objective) := by
      by_cases ht : t.arrived cfg = true <;> simp [ht]
    rw [hsplit, ← append_assoc]
    exact ih (h.tick cfg hscan.1 hdwell t) hscan.2

lemma Underway.scanned {before : Controller β K} {objs : List (Option K)}
    (h : Underway cfg grid before.setPoints objs c) : Scanned cfg grid before c objs := by
  obtain ⟨visits, rest, hobjs, hvisits, ⟨hp, hrest, -⟩ | ⟨hrest, hended⟩⟩ := h
  all_goals grind

def Controller.Pointed (c : Controller β K) : Prop :=
  c.state = .scanning → c.scanIndex < c.scanPoints.length

open Controller in
lemma scanFrame_pointed (h : c.Pointed) (hs : c.state = .scanning) (x : Header K) :
    (c.scanFrame cfg x).raised = false ∧ (c.scanFrame cfg x).controller.Pointed := by
  have hnext (d : Controller β K) :
      (d.nextPoint cfg).raised = false ∧ (d.nextPoint cfg).controller.Pointed := by
    unfold nextPoint setBearing resetScanPointState Controller.Pointed
    grind
  have hcheck (d : Controller β K) (hd : d.scanIndex < d.scanPoints.length) :
      (d.checkDwell cfg).raised = false ∧ (d.checkDwell cfg).controller.Pointed := by
    unfold checkDwell finishPoint
    grind [Controller.Pointed]
  have hdwell (o : Option K) : (c.dwell cfg o).scanIndex = c.scanIndex ∧
      (c.dwell cfg o).scanPoints = c.scanPoints := by
    cases o <;> exact ⟨rfl, rfl⟩
  have hpoint := h hs
  unfold scanFrame
  grind [Controller.Pointed]

end

open Controller in
lemma tick_pointed {c : Controller β K} (h : c.Pointed) (t : Frame K) :
    (c.tick cfg t).raised = false ∧ (c.tick cfg t).controller.Pointed := by
  grind [Controller.receive, Controller.Pointed, Controller.autoScan, Controller.startScan, Controller.setBearing, Controller.resetScanPointState, Controller.settleFrame, scanFrame_pointed, Controller.tick]

@[local grind]
def KeepsGrid (c : Controller β K) (a : Call β K) : Prop :=
  ∀ grid, a = .startScan grid → grid.points = [] → c.state ≠ .scanning

lemma step_pointed {c : Controller β K} (h : c.Pointed) (a : Call β K) (ha : KeepsGrid c a) :
    (step cfg c a).Pointed := by
  cases a with
  | tick t => exact (tick_pointed cfg h t).2
  | startScan grid =>
    grind [step, Controller.startScan, Controller.Pointed, Controller.setBearing, Controller.resetScanPointState]
  | _ =>
    grind [step, Controller.Pointed, Controller.setBearing, Controller.stop, Controller.openBackend, Controller.home]

/-- While no empty grid replaces the grid of a running scan, `tick` does not raise; and a
scan of a grid, from any state and for as long as nothing but frames comes, visits the
points in order and ends at the first of the largest means. -/
theorem scan_and_peak : (∀ calls, Along (step cfg) KeepsGrid (start cfg) calls → ∀ t,
      ((run (step cfg) (start cfg) calls).tick cfg t).raised = false) ∧
    ∀ (c : Controller β K) (grid : ScanGrid β) (ts : List (Frame K)), grid.points ≠ [] →
      1 ≤ grid.dwellFrames →
      Along (fun c t => (Controller.tick cfg c t).controller) (fun c _ => c.state = .scanning)
        (c.startScan cfg grid) ts →
      Scanned cfg grid c
        (run (fun c t => (Controller.tick cfg c t).controller) (c.startScan cfg grid) ts)
        ((ts.filter (Frame.arrived cfg)).map (·.header.objective)) := by
  refine ⟨fun calls hcalls t => ?_, fun c grid ts hpoints hdwell hscan => ?_⟩
  · have hstep (c : Controller β K) a (hc : c.Pointed) := step_pointed cfg hc a
    have hstart : (start cfg).Pointed := by simp [Controller.Pointed, start]
    exact (tick_pointed cfg (run_invariant (step cfg) hstep calls _ hstart hcalls) t).1
  · have hrun := (underway_startScan cfg hdwell hpoints).run cfg hdwell ts hscan
    exact hrun.scanned cfg

theorem scan_and_peak_twoPoints :
    ((run (step twoPoints) (start twoPoints) []).tick twoPoints calmFrame).raised = false ∧
      Scanned twoPoints twoPoints.scan (start twoPoints)
        (run (fun c t => (Controller.tick twoPoints c t).controller)
          ((start twoPoints).startScan twoPoints twoPoints.scan) (List.replicate 4 calmFrame))
        (((List.replicate 4 calmFrame).filter (Frame.arrived twoPoints)).map
          (·.header.objective)) :=
  ⟨(scan_and_peak twoPoints).1 [] trivial calmFrame,
    (scan_and_peak twoPoints).2 (start twoPoints) twoPoints.scan _ (by decide) (by decide)
      (by decide)⟩

/-- An empty grid arrives during a scan: the second frame at the point raises. -/
theorem scan_raises : ((run (step twoPoints) (start twoPoints)
    [.startScan twoPoints.scan, .startScan ⟨[], 1⟩, .tick calmFrame]).tick twoPoints
      calmFrame).raised := by decide

end HeimdallDaq.HwController.Orientation
