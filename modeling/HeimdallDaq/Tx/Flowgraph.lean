/-
  Tx/Flowgraph.lean --- guards of generated flowgraphs and the bursts of a session.

  A generated TX script adopts the arm record of the arming process with
  `flowgraph_guard` and has every waveform authorized by `check_waveform`.
-/
import HeimdallDaq.Tx.Bursts

namespace HeimdallDaq.Tx.Flowgraph

open Foundation

/-! ## Adopting a record -/

def fsRelTol : ℚ := 1 / 10 ^ 6

/-- The arguments of `flowgraph_guard` and what it reads. -/
structure Adoption where
  /-- `cfg.tx_enabled()` -/
  enabled : Bool := true
  chains : List ℕ
  /-- `fs_hz`; `none` if it is not a finite number -/
  fsHz : Option ℚ
  /-- `cfg.rf.sample_rate_hz` -/
  sampleRateHz : ℚ
  /-- `config_fingerprint(cfg)` -/
  fingerprint : String
  /-- the hashes of the two files; `none` if a file cannot be read -/
  flowgraphSha256 : Option String
  waveformSha256 : Option String
  nBursts : Option ℤ := none
  /-- the wall clock, before and in `_adopt` -/
  wall : ℚ
  adoptWall : ℚ
  /-- `_model_fp` of the new controller -/
  modelFp : Option String
  clock : ℚ
  duty : DutyCycleMeter PermitId

inductive Phase
  | idle
  /-- inside `check_waveform` -/
  | checking (samples : Samples) (offsetS : ℚ)
  | crashed
  deriving DecidableEq

/-- `FlowgraphGuard`, with the controller of its process. -/
structure Guard where
  record : ArmRecord
  chains : List ℕ
  fsHz : ℚ
  controller : Sys
  burstsChecked : ℕ := 0
  phase : Phase := .idle

section

variable (cfg : Setup)

/-- `remaining` of `_adopt`: by the wall clock, and capped so that a wall clock that is
put back cannot lengthen the session. -/
def remaining (rec : ArmRecord) (wall : ℚ) : ℚ :=
  min (min (rec.expiresUnix - wall) cfg.armTimeoutS) (rec.armedUnix + cfg.maxArmTotalS - wall)

variable (a : Adoption)

def adopted (rec : ArmRecord) : Sys where
  clock := a.clock
  state := .armed
  armRecord := some rec
  mode := some rec.mode
  armedMono := a.clock - max 0 (a.adoptWall - rec.armedUnix)
  expiryMono := a.clock + remaining cfg rec a.adoptWall
  lastHb := some a.clock
  fpChecked := some a.clock
  adopted := true
  duty := a.duty
  disk := some rec

def adopt (rec : ArmRecord) : Except Code Sys :=
  if !a.enabled then .error .txDisabled
  else if a.modelFp ≠ some rec.fingerprint then .error .configChanged
  else if ¬0 < rec.expiresUnix - rec.armedUnix ∨
      cfg.maxArmTotalS + 1 / 10 ^ 6 < rec.expiresUnix - rec.armedUnix then .error .armTotal
  else if ¬0 < remaining cfg rec a.adoptWall then .error .armExpired
  else .ok (adopted cfg a rec)

def Adoption.rateOk : Bool :=
  a.fsHz.any fun fs => decide (|fs - a.sampleRateHz| ≤ fsRelTol * a.sampleRateHz)

def hashOk (recorded : String) (hash : Option String) : Bool :=
  decide (recorded ≠ "" ∧ hash = some recorded)

def flowgraphGuard (disk : Option ArmRecord) : Except Code Guard :=
  if !a.enabled then .error .txDisabled
  else if !a.rateOk then .error .shape
  else
    match disk with
    | none => .error .notArmed
    | some rec =>
      if a.fingerprint ≠ rec.fingerprint then .error .configChanged
      else if !(hashOk rec.flowgraphSha256 a.flowgraphSha256) then .error .digest
      else if !(hashOk rec.waveformSha256 a.waveformSha256) then .error .digest
      else if ¬a.wall < rec.expiresUnix then .error .armExpired
      else if rec.maxBursts ≤ 0 ∨ a.nBursts.any fun n => decide (rec.maxBursts < n) then
        .error .armTotal
      else do
        let controller ← adopt cfg a rec
        .ok { record := rec, chains := a.chains, fsHz := a.fsHz.getD 0, controller }

/-! ## Checking a waveform -/

def Guard.request (g : Guard) (samples : Samples) (offsetS : ℚ) : BurstRequest where
  samples := samples
  chains := g.chains
  fsHz := g.fsHz
  timed := false
  flowgraph := true
  atOffsetS := offsetS

variable (me : Thread)

def checkWaveform (g : Guard) (samples : Samples) (offsetS : ℚ) : Proc PermitId :=
  if g.record.maxBursts ≤ 0 ∨ g.record.maxBursts ≤ g.burstsChecked then
    .throw (.refusal .armTotal)
  else do
    heartbeat
    poll cfg me none
    let pid ← authorizeBurst cfg me (g.request samples offsetS)
    let permit := Handle.issued pid (cfg.toComplex64 samples)
    consume cfg me permit
    burstComplete cfg me permit
      { acked := false, sentSamples := (g.request samples offsetS).nSamp }
    .ret pid

/-! ## The scripts of one session -/

structure World where
  guards : ℕ → Option Guard := fun _ => none
  authorized : ℕ := 0

inductive Action
  | adopt (i : ℕ) (a : Adoption)
  /-- `check_waveform` is called … -/
  | check (i : ℕ) (samples : Samples) (offsetS : ℚ)
  /-- … and ends; `env` is what the other threads and processes do to the controller and
  to the record file before each of its steps -/
  | finish (i : ℕ) (env : List (Sys × Unit → Sys × Unit)) (answers : List Answer)
  | crash (i : ℕ)

def World.put (w : World) (i : ℕ) (g : Guard) : World :=
  { w with guards := Function.update w.guards i (some g) }

def watch : Watch Sys Cmd Unit where
  apply := Cmd.apply
  obs _ _ _ := ()

def World.finish (w : World) (i : ℕ) (g : Guard) : Outcome Stop PermitId × (Sys × Unit) → World
  | (.returned _, z) =>
    { w.put i { g with controller := z.1, burstsChecked := g.burstsChecked + 1, phase := .idle } with
      authorized := w.authorized + 1 }
  | (.threw _, z) => w.put i { g with controller := z.1, phase := .idle }
  | (.hung, _) => w

variable (rec : ArmRecord)

def step (w : World) : Action → World
  | .adopt i a =>
    match w.guards i, flowgraphGuard cfg a (some rec) with
    | none, .ok g => w.put i g
    | _, _ => w
  | .check i samples offsetS =>
    match w.guards i with
    | some g => if g.phase = .idle then w.put i { g with phase := .checking samples offsetS } else w
    | none => w
  | .finish i env answers =>
    match w.guards i with
    | some g =>
      match g.phase with
      | .checking samples offsetS => w.finish i g
          ((checkWaveform cfg me g samples offsetS).exec watch env answers (g.controller, ()))
      | .idle | .crashed => w
    | none => w
  | .crash i =>
    match w.guards i with
    | some g => w.put i { g with phase := .crashed }
    | none => w

/-! ## One guard -/

variable {cfg me rec} {g : Guard}

lemma flowgraphGuard_ok {a : Adoption} (h : flowgraphGuard cfg a (some rec) = .ok g) :
    g.record = rec ∧ g.burstsChecked = 0 ∧ g.phase = .idle := by
  unfold flowgraphGuard at h
  split_ifs at h
  simp only [] at h
  split_ifs at h
  cases hadopt : adopt cfg a rec with
  | error code =>
    rw [hadopt] at h
    cases h
  | ok controller =>
    rw [hadopt] at h
    cases h
    exact ⟨rfl, rfl, rfl⟩

lemma checked_lt_of_returned {samples : Samples} {offsetS : ℚ}
    {env : List (Sys × Unit → Sys × Unit)} {answers : List Answer} {x z : Sys × Unit} {pid : PermitId}
    (h : (checkWaveform cfg me g samples offsetS).exec watch env answers x = (.returned pid, z)) :
    (g.burstsChecked : ℤ) < g.record.maxBursts := by
  unfold checkWaveform at h
  by_cases hspent : g.record.maxBursts ≤ 0 ∨ g.record.maxBursts ≤ g.burstsChecked
  · rw [if_pos hspent] at h
    cases h
  · exact not_le.mp fun hle => hspent (.inr hle)

/-- What a step can do: at most one guard changes. -/
inductive Changes (rec : ArmRecord) (w : World) : Action → World → Prop
  | nothing {act : Action} : Changes rec w act w
  | adopts {i : ℕ} {a : Adoption} {g : Guard} (hfree : w.guards i = none) (hrec : g.record = rec)
      (hnew : g.burstsChecked = 0) (hidle : g.phase = .idle) : Changes rec w (.adopt i a) (w.put i g)
  | begins {i : ℕ} {samples : Samples} {offsetS : ℚ} {g : Guard} (hg : w.guards i = some g) :
      Changes rec w (.check i samples offsetS) (w.put i { g with phase := .checking samples offsetS })
  | authorizes {i : ℕ} {env : List (Sys × Unit → Sys × Unit)} {answers : List Answer} {g : Guard}
      {samples : Samples} {offsetS : ℚ} {controller : Sys} (hg : w.guards i = some g)
      (hphase : g.phase = .checking samples offsetS) (hlt : (g.burstsChecked : ℤ) < g.record.maxBursts) :
      Changes rec w (.finish i env answers)
        { w.put i { g with controller, burstsChecked := g.burstsChecked + 1, phase := .idle } with
          authorized := w.authorized + 1 }
  | refuses {i : ℕ} {env : List (Sys × Unit → Sys × Unit)} {answers : List Answer} {g : Guard}
      {controller : Sys} (hg : w.guards i = some g) :
      Changes rec w (.finish i env answers) (w.put i { g with controller, phase := .idle })
  | crashes {i : ℕ} {g : Guard} (hg : w.guards i = some g) :
      Changes rec w (.crash i) (w.put i { g with phase := .crashed })

lemma step_changes (w : World) (act : Action) : Changes rec w act (step cfg me rec w act) := by
  cases act with
  | adopt i a =>
    simp only [step]
    split
    · rename_i g hfree hok
      obtain ⟨hrec, hnew, hidle⟩ := flowgraphGuard_ok hok
      exact .adopts hfree hrec hnew hidle
    · exact .nothing
  | check i samples offsetS =>
    cases hg : w.guards i with
    | none => simpa only [step, hg] using .nothing
    | some g =>
      simp only [step, hg]
      split_ifs
      · exact .begins hg
      · exact .nothing
  | finish i env answers =>
    cases hg : w.guards i with
    | none => simpa only [step, hg] using .nothing
    | some g =>
      simp only [step, hg]
      split
      · rename_i samples offsetS hphase
        unfold World.finish
        split
        · rename_i hexec
          exact .authorizes hg hphase (checked_lt_of_returned hexec)
        · exact .refuses hg
        · exact .nothing
      · exact .nothing
      · exact .nothing
  | crash i =>
    cases hg : w.guards i with
    | none => simpa only [step, hg] using .nothing
    | some g => simpa only [step, hg] using .crashes hg

/-! ## The session -/

@[local grind]
def checked (g : Option Guard) : ℕ := (g.map (·.burstsChecked)).getD 0

@[local grind]
def Engaged (g : Option Guard) : Prop :=
  0 < checked g ∨ ∃ samples offsetS, g.map (·.phase) = some (.checking samples offsetS)

def Alone (w : World) : Action → Prop
  | .check i _ _ => ∀ j, j ≠ i → ¬Engaged (w.guards j)
  | _ => True

/-- One guard has authorized all the waveforms, and is within the bursts of the record. -/
@[local grind]
structure Owned (rec : ArmRecord) (w : World) (i : ℕ) : Prop where
  others : ∀ j, j ≠ i → ¬Engaged (w.guards j)
  total : w.authorized = checked (w.guards i)
  within : (checked (w.guards i) : ℤ) ≤ max rec.maxBursts 0

/-- Every guard has adopted `rec`, and one of them owns the session. -/
structure Budgeted (rec : ArmRecord) (w : World) : Prop where
  record : ∀ i g, w.guards i = some g → g.record = rec
  owned : ∃ i, Owned rec w i

lemma put_self (w : World) (i : ℕ) (g : Guard) : (w.put i g).guards i = some g :=
  Function.update_self ..

lemma put_of_ne (w : World) {i j : ℕ} (g : Guard) (h : j ≠ i) :
    (w.put i g).guards j = w.guards j := Function.update_of_ne h ..

variable {w : World}

lemma Owned.put {i k : ℕ} (h : Owned rec w k) (hchecked : g.burstsChecked = checked (w.guards i))
    (hengaged : Engaged (some g) → Engaged (w.guards i)) : Owned rec (w.put i g) k := by
  have hsame : ∀ j, checked ((w.put i g).guards j) = checked (w.guards j) := by
    intro j
    by_cases hj : j = i
    · subst hj
      rw [put_self]
      exact hchecked
    · rw [put_of_ne w g hj]
  refine ⟨fun j hj => ?_, (hsame k).symm ▸ h.total, (hsame k).symm ▸ h.within⟩
  by_cases hji : j = i
  · subst hji
    rw [put_self]
    exact fun hg => h.others j hj (hengaged hg)
  · rw [put_of_ne w g hji]
    exact h.others j hj

lemma Owned.moves {i k : ℕ} (h : Owned rec w k)
    (halone : ∀ j, j ≠ i → ¬Engaged (w.guards j)) : Owned rec w i := by grind

variable {i : ℕ}

lemma Owned.put_self (h : Owned rec w i)
    (hchecked : g.burstsChecked = checked (w.guards i)) : Owned rec (w.put i g) i := by
  grind [World.put, put_self, put_of_ne]

lemma Owned.authorizes (h : Owned rec w i)
    (hchecked : g.burstsChecked = checked (w.guards i) + 1)
    (hlt : (checked (w.guards i) : ℤ) < rec.maxBursts) :
    Owned rec { w.put i g with authorized := w.authorized + 1 } i := by
  have hnow : checked ((w.put i g).guards i) = checked (w.guards i) + 1 := by
    rw [Flowgraph.put_self]
    exact hchecked
  grind [put_of_ne]

lemma record_put (h : ∀ j g', w.guards j = some g' → g'.record = rec)
    (hg : g.record = rec) : ∀ j g', (w.put i g).guards j = some g' → g'.record = rec := by
  grind [put_self, put_of_ne]

lemma Engaged.of_not_checking {g g' : Guard} (h : Engaged (some g'))
    (hphase : ∀ samples offsetS, g'.phase ≠ .checking samples offsetS)
    (hchecked : g'.burstsChecked = g.burstsChecked) : Engaged (some g) := by grind

lemma Budgeted.changes {w w' : World} {act : Action} (h : Budgeted rec w)
    (hchanges : Changes rec w act w') (halone : Alone w act) : Budgeted rec w' := by
  obtain ⟨hrecord, k, howned⟩ := h
  cases hchanges with
  | nothing => exact ⟨hrecord, k, howned⟩
  | @adopts i a g hfree hrec hnew hidle =>
    refine ⟨record_put hrecord hrec, k, howned.put (by simp [hfree, hnew, checked]) fun hg => ?_⟩
    simp [Engaged, checked, hnew, hidle] at hg
  | @begins i samples offsetS g hg =>
    refine ⟨record_put hrecord (hrecord i g hg), i, (howned.moves halone).put_self ?_⟩
    simp [hg, checked]
  | @authorizes i env answers g samples offsetS controller hg hphase hlt =>
    -- it was checking, so the session is its own
    have hi : i = k := by grind
    subst hi
    refine ⟨record_put hrecord (hrecord i g hg), i, howned.authorizes (by simp [hg, checked]) ?_⟩
    rw [hrecord i g hg] at hlt
    simpa [hg, checked] using hlt
  | @refuses i env answers g controller hg =>
    refine ⟨record_put hrecord (hrecord i g hg), k, howned.put (by simp [hg, checked]) fun h => ?_⟩
    rw [hg]
    exact h.of_not_checking (fun _ _ => Phase.noConfusion) rfl
  | @crashes i g hg =>
    refine ⟨record_put hrecord (hrecord i g hg), k, howned.put (by simp [hg, checked]) fun h => ?_⟩
    rw [hg]
    exact h.of_not_checking (fun _ _ => Phase.noConfusion) rfl

/-! ## One script -/

def Action.guard : Action → ℕ
  | .adopt i _ | .check i _ _ | .finish i _ _ | .crash i => i

lemma Changes.guards_of_ne {w w' : World} {act : Action} (h : Changes rec w act w') {j : ℕ}
    (hj : j ≠ act.guard) : w'.guards j = w.guards j := by
  cases h with
  | nothing => rfl
  | adopts => exact put_of_ne w _ hj
  | begins => exact put_of_ne w _ hj
  | authorizes => exact put_of_ne w _ hj
  | refuses => exact put_of_ne w _ hj
  | crashes => exact put_of_ne w _ hj

lemma along_of_one_guard (i : ℕ) : ∀ (actions : List Action) (w : World),
    (∀ j, j ≠ i → w.guards j = none) → (∀ act ∈ actions, act.guard = i) →
      Along (step cfg me rec) Alone w actions := by
  intro actions
  induction actions with
  | nil => intro w _ _; exact trivial
  | cons act rest ih =>
    intro w hothers hact
    have hguard : act.guard = i := hact act List.mem_cons_self
    refine ⟨?_, ih _ (fun j hj => ?_) fun a ha => hact a (List.mem_cons_of_mem _ ha)⟩
    · cases act with
      | check k samples offsetS =>
        intro j hj
        rw [hothers j (hguard ▸ hj)]
        simp [Engaged, checked]
      | adopt => exact trivial
      | finish => exact trivial
      | crash => exact trivial
    · rw [(step_changes w act).guards_of_ne (hguard ▸ hj)]
      exact hothers j hj

end

/-! ## The bursts of a session -/

/-- In every run of the scripts of a session in which each check begins while no other
guard of the record has authorized a waveform or is checking one, the guards authorize at
most as many waveforms as the record names; a negative number names none. -/
theorem authorized_le_maxBursts (cfg : Setup) (me : Thread) (rec : ArmRecord)
    (actions : List Action) (h : Along (step cfg me rec) Alone {} actions) :
    ((run (step cfg me rec) {} actions).authorized : ℤ) ≤ max rec.maxBursts 0 := by
  have hstep : ∀ w act, Budgeted rec w → Alone w act → Budgeted rec (step cfg me rec w act) :=
    fun w act hw halone => hw.changes (step_changes w act) halone
  have hstart : Budgeted rec {} := by
    refine ⟨fun _ _ h => (by cases h), 0, fun j _ h => ?_, rfl, le_max_right _ _⟩
    simp [Engaged, checked] at h
  obtain ⟨_, i, howned⟩ := run_invariant (step cfg me rec) hstep actions {} hstart h
  rw [howned.total]
  exact howned.within

namespace Script

def setup : Setup :=
  { bench with hasRf := false, hasBackend := false, hasTimeNow := false, hasTxFreq := false }

def session : ArmRecord where
  objId := 0
  sessionId := 0
  mode := .dummyLoad
  fcHz := 0
  armedUnix := 0
  expiresUnix := 60
  fingerprint := "config"
  flowgraphSha256 := "flowgraph"
  waveformSha256 := "waveform"
  maxBursts := 1

def adoption : Adoption where
  chains := [0]
  fsHz := some 1000
  sampleRateHz := 1000
  fingerprint := "config"
  flowgraphSha256 := some "flowgraph"
  waveformSha256 := some "waveform"
  nBursts := some 1
  wall := 1
  adoptWall := 1
  modelFp := some "config"
  clock := 0
  duty := bench.idle.duty

def transmit (i : ℕ) : List Action :=
  [.adopt i adoption, .check i [[(1 / 2, 0)]] 0,
    .finish i [] (List.replicate 8 { fingerprint := some "config" })]

theorem authorized_le_maxBursts_transmit :
    (run (step setup 0 session) {} (transmit 0)).authorized = 1 ∧
    ((run (step setup 0 session) {} (transmit 0)).authorized : ℤ) ≤ max session.maxBursts 0 :=
  ⟨by decide +kernel, authorized_le_maxBursts setup 0 session _
    (along_of_one_guard 0 _ _ (fun _ _ => rfl) (by simp [transmit, Action.guard]))⟩

/-- Two scripts that run one after another each have a waveform authorized, under a record
for one burst that is still there, unchanged. -/
theorem authorized_twice : session.maxBursts = 1 ∧
    (run (step setup 0 session) {} (transmit 0 ++ transmit 1)).authorized = 2 ∧
    ((run (step setup 0 session) {} (transmit 0 ++ transmit 1)).guards 1).map (·.controller.disk) =
      some (some session) := by
  refine ⟨rfl, ?_, ?_⟩
  · decide +kernel
  · decide +kernel

end Script

end HeimdallDaq.Tx.Flowgraph
