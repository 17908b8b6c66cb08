/-
  Tx/PaOff.lean --- the amplifiers after a trip.

  PA on tests the state of the controller and then writes the lines; `RfControl` has no
  lock, and a trip waits for none that the two steps would hold.
-/
import HeimdallDaq.Tx.Parties
import HeimdallDaq.Tx.Switching

namespace HeimdallDaq.Tx.PaOff

open Foundation
open Tx.Switching (Switch drive_line_of_ne drive_line_false drive_line_done)
open Prog (does forEach)

def RfCall : Op → Prop
  | .paEnable _ _ _ | .sequenceToTx _ | .sequenceToRx => True
  | _ => False

instance (op : Op) : Decidable (RfCall op) := by
  cases op <;> unfold RfCall <;> infer_instance

/-! ## What is remembered of a run -/

structure Mon where
  window : Bool := false
  failed : ℕ → Bool := fun _ => true
  quiet : Bool := false

variable (t : Party) (c : Cmd)

@[grind]
def windowAfter (s : Sys) (window : Bool) : Bool :=
  match c with
  | .look .permitState => window || (decide (t = .operator) && s.state.isLive)
  | .note .permitDone => window && decide (t ≠ .operator)
  | _ => window

@[grind]
def failedAfter (failed : ℕ → Bool) : ℕ → Bool :=
  match t, c with
  | .handler i, .note .paOffBegin => Function.update failed i false
  | .handler i, .front (.line .paOff _ _ r) =>
    if r = .done then failed else Function.update failed i true
  | _, _ => failed

@[grind]
def quietAfter (m : Mon) : Bool :=
  match t, c with
  | .handler i, .note .shutdownReturned => m.quiet || !m.failed i
  | _, _ => m.quiet

def see (s : Sys) (m : Mon) : Mon where
  window := windowAfter t c s m.window
  failed := failedAfter t c m.failed
  quiet := quietAfter t c m

def watch : Watch Sys (Party × Cmd) Mon where
  apply c := c.2.apply
  obs c := see c.1 c.2

/-- The interleavings considered: no handler begins to switch the lines off between a test
that found the state live and the last write it allows. -/
def Outside (x : Sys × Mon) : Prop := t ≠ .operator → c = .note .paOffBegin → x.2.window = false

instance (t : Party) (c : Cmd) (x : Sys × Mon) : Decidable (Outside t c x) :=
  inferInstanceAs (Decidable (_ → _ → _))

/-! ## What the parties owe each other -/

variable (cfg : Setup)

@[grind]
def OwnLines : Prop := ∀ n, some n ∈ cfg.paLines → ¬Switch cfg n ∧ cfg.lnaLine ≠ some n

@[grind]
def Low (n : ℕ) (x : Sys × Mon) : Prop := x.1.front.drive n = .manual false

@[grind]
def AllLow (x : Sys × Mon) : Prop := ∀ n, some n ∈ cfg.paLines → Low n x

@[grind]
def Down (x : Sys × Mon) : Prop := x.1.state.isLive = false

@[grind]
def Settled (x : Sys × Mon) : Prop := Down x ∧ x.2.window = false

/-- A command does not make the state live, switches a PA line on only for the operator
whose test has passed, and ends the shutdown of a handler with the lines off, if its
writes succeeded. -/
@[grind]
structure Dutiful (cfg : Setup) (t : Party) (c : Cmd) (x : Sys × Mon) : Prop where
  down : Down x → (c.apply x.1).state.isLive = false
  low : ∀ n, some n ∈ cfg.paLines → x.2.window = false → Low n x →
    (c.apply x.1).front.drive n = .manual false
  returned : ∀ i, t = .handler i → c = .note .shutdownReturned → x.2.failed i = false →
    Settled x ∧ AllLow cfg x

/-- What a party can count on while others run. -/
@[grind]
structure Counts (cfg : Setup) (u : Party) (x y : Sys × Mon) : Prop where
  down : Down x → Down y
  settled : Settled x → Settled y
  low : ∀ n, some n ∈ cfg.paLines → Settled x → Low n x → Low n y
  failed : ∀ i, u = .handler i → y.2.failed i = x.2.failed i
  window : u = .operator → y.2.window = x.2.window

@[grind =]
lemma step_eq (x : Sys × Mon) : watch.step (t, c) x = (c.apply x.1, see t c x.1 x.2) := rfl

attribute [grind] see

variable {t : Party} {c : Cmd} {x : Sys × Mon}

lemma Settled.step (hx : Settled x)
    (hdown : (c.apply x.1).state.isLive = false) : Settled (watch.step (t, c) x) := by
  have hwindow : windowAfter t c x.1 x.2.window = false := by
    unfold windowAfter
    grind
  exact ⟨hdown, hwindow⟩

lemma failedAfter_of_ne {i : ℕ} (h : t ≠ .handler i) (c : Cmd)
    (failed : ℕ → Bool) : failedAfter t c failed i = failed i := by
  unfold failedAfter
  split <;> grind

lemma windowAfter_of_ne (h : t ≠ .operator) (c : Cmd) (s : Sys) (window : Bool) :
    windowAfter t c s window = window := by
  unfold windowAfter
  grind

lemma Dutiful.counts {cfg : Setup} {t u : Party} (htu : t ≠ u)
    (h : Dutiful cfg t c x) : Counts cfg u x (watch.step (t, c) x) where
  down := h.down
  settled hx := hx.step (h.down hx.1)
  low n hn hx hlow := h.low n hn hx.2 hlow
  failed _ hu := failedAfter_of_ne (hu ▸ htu) c x.2.failed
  window hu := windowAfter_of_ne (hu ▸ htu) c x.1 x.2.window

def team : Team Party Sys (Party × Cmd) Mon where
  toWatch := watch
  admits _ c x := Outside c.1 c.2 x
  rely := Counts cfg
  guar t c x := c.1 = t ∧ Dutiful cfg t c.2 x
  rely_refl _ _ := ⟨id, id, fun _ _ _ => id, fun _ _ => rfl, fun _ => rfl⟩
  rely_trans _ _ _ _ hxy hyz :=
    ⟨hyz.down ∘ hxy.down, hyz.settled ∘ hxy.settled,
      fun n hn hx hlow => hyz.low n hn (hxy.settled hx) (hxy.low n hn hx hlow),
      fun i hi => (hyz.failed i hi).trans (hxy.failed i hi),
      fun hu => (hyz.window hu).trans (hxy.window hu)⟩
  rely_of_guar := by
    rintro t u ⟨_, c⟩ x htu - ⟨rfl, h⟩
    exact h.counts htu

instance (cfg : Setup) (t : Party) (c : Party × Cmd) (x : Sys × Mon) :
    Decidable ((team cfg).admits t c x) := inferInstanceAs (Decidable (Outside c.1 c.2 x))

abbrev ctx (t : Party) : Context Sys Cmd Mon := ((team cfg).ctx t).comap (Prod.mk t)

/-! ## Commands -/

section Commands

variable {cfg : Setup}

@[grind]
def Sinks : Cmd → Prop
  | .setState st _ => st.isLive = false
  | _ => True

lemma down_of_sinks (h : Sinks c) (hx : Down x) : (c.apply x.1).state.isLive = false := by
  cases c <;> grind [Cmd.apply]

variable {n : ℕ}

lemma low_ungated (hown : OwnLines cfg) {fc : FrontCmd} (hfc : fc.Ungated cfg)
    (hn : some n ∈ cfg.paLines) {f : FrontEnd} (hlow : f.drive n = .manual false) :
    (fc.apply f).drive n = .manual false := by
  cases fc <;> grind [drive_line_false, drive_line_of_ne, FrontCmd.apply]

lemma low_lines (hown : OwnLines cfg) (hc : c.Lines cfg) (hn : some n ∈ cfg.paLines)
    (hlow : Low n x) : (c.apply x.1).front.drive n = .manual false := by
  cases hc <;> grind [low_ungated, Cmd.apply]

@[grind]
def Handling (cfg : Setup) (c : Cmd) : Prop := c.Closing cfg ∨ c.Shutting cfg

lemma sinks_lines (hc : c.Lines cfg) : Sinks c := by grind

lemma Handling.sinks (hc : Handling cfg c) : Sinks c := by grind [TxState.isLive]

lemma Handling.low (hown : OwnLines cfg) (hc : Handling cfg c)
    (hn : some n ∈ cfg.paLines) (hlow : Low n x) : (c.apply x.1).front.drive n = .manual false := by
  rcases hc with hc | hc <;> cases hc <;> grind [low_lines, Cmd.apply]

@[grind]
def Handled (cfg : Setup) (c : Cmd) : Prop := Handling cfg c ∧ c ≠ .note .paOffBegin

@[grind ←]
lemma handled_lines (hc : c.Lines cfg) : Handled cfg c := by grind

end Commands

/-! ## Handlers -/

section Handlers

variable {cfg : Setup} {i : ℕ}

@[grind]
def Lowered (i : ℕ) (done : List Line) (x : Sys × Mon) : Prop :=
  Settled x ∧ (x.2.failed i = false → ∀ n, some n ∈ done → Low n x)

@[grind]
def Kept (cfg : Setup) (i : ℕ) (x : Sys × Mon) : Prop :=
  x.2.failed i = false → Settled x ∧ AllLow cfg x

lemma stable_kept : (ctx cfg (.handler i)).Stable (Kept cfg i) := by
  intro x y hx hrely
  have hrely : Counts cfg (.handler i) x y := hrely
  grind

lemma stable_down : (ctx cfg (.handler i)).Stable Down := fun _ _ hx hrely => hrely.down hx

variable {done : List Line}

lemma stable_lowered (hdone : ∀ ln ∈ done, ln ∈ cfg.paLines) :
    (ctx cfg (.handler i)).Stable (Lowered i done) := by
  intro x y hx hrely
  have hrely : Counts cfg (.handler i) x y := hrely
  grind

lemma failed_of_failedAfter (hbegin : c ≠ .note .paOffBegin) {failed : ℕ → Bool}
    (h : failedAfter (.handler i) c failed i = false) : failed i = false := by
  cases c with
  | note point =>
    cases point with
    | paOffBegin => exact absurd rfl hbegin
    | _ => exact h
  | front fc =>
    cases fc with
    | line use n value r =>
      cases use with
      | paOff =>
        simp only [failedAfter] at h
        split at h
        · exact h
        · rw [Function.update_self] at h
          cases h
      | _ => exact h
    | _ => exact h
  | _ => exact h

lemma kept_handled (hown : OwnLines cfg) (hc : Handled cfg c) {x : Sys × Mon}
    (hx : Kept cfg i x) :
    (ctx cfg (.handler i)).guar c x ∧ Kept cfg i ((ctx cfg (.handler i)).step c x) := by
  refine ⟨⟨rfl, down_of_sinks hc.1.sinks, fun n hn _ => hc.1.low hown hn, ?_⟩, ?_⟩
  · rintro j ⟨⟩ - hfailed
    exact hx hfailed
  · intro hfailed
    obtain ⟨hsettled, hlow⟩ := hx (failed_of_failedAfter hc.2 hfailed)
    exact ⟨hsettled.step (down_of_sinks hc.1.sinks hsettled.1),
      fun n hn => hc.1.low hown hn (hlow n hn)⟩

variable {α : Type} {p : Proc α}

@[grind ←]
lemma keeps_handled (hown : OwnLines cfg) (hp : Only (Handled cfg) p) :
    Keeps (ctx cfg (.handler i)) (Kept cfg i) p :=
  Keeps.of_only stable_kept (fun _ hc _ hx _ => kept_handled hown hc hx) hp

@[grind ←]
lemma keeps_lines (hown : OwnLines cfg) (hp : Only (Cmd.Lines cfg) p) :
    Keeps (ctx cfg (.handler i)) (Kept cfg i) p :=
  keeps_handled hown (hp.mono fun _ hc => handled_lines hc)

section

variable (hown : OwnLines cfg) (hdone : ∀ ln ∈ done, ln ∈ cfg.paLines)
include hown hdone

lemma lowered_lines (hc : c.Lines cfg) {x : Sys × Mon}
    (hx : Lowered i done x) :
    (ctx cfg (.handler i)).guar c x ∧ Lowered i done ((ctx cfg (.handler i)).step c x) := by
  have hsinks : Sinks c := sinks_lines hc
  refine ⟨⟨rfl, down_of_sinks hsinks, fun n hn _ => low_lines hown hc hn, by grind⟩,
    hx.1.step (down_of_sinks hsinks hx.1.1), fun hfailed n hn => ?_⟩
  exact low_lines hown hc (hdone _ hn) (hx.2 (failed_of_failedAfter (handled_lines hc).2 hfailed) n hn)

lemma keeps_lowered
    (hp : Only (Cmd.Lines cfg) p) : Keeps (ctx cfg (.handler i)) (Lowered i done) p :=
  Keeps.of_only (stable_lowered hdone) (fun _ hc _ hx _ => lowered_lines hown hdone hc hx) hp

lemma paOff_write (ln : Line) :
    Triple (ctx cfg (.handler i)) (Lowered i done) (write .paOff ln false)
      (fun _ => Lowered i (ln :: done)) (fun _ => Lowered i (ln :: done)) := by
  cases ln with
  | none =>
    refine .ret fun x hx => ⟨hx.1, fun hfailed n hn => hx.2 hfailed n ?_⟩
    exact List.mem_of_ne_of_mem (by simp) hn
  | some m =>
    refine .ask fun a => .act (stable_lowered hdone) fun y hy _ => ?_
    have hc : Cmd.Lines cfg (.front (.line .paOff m false a.write)) := .front _ (.inl rfl)
    obtain ⟨hguar, hsettled, hlow⟩ := lowered_lines hown hdone hc hy
    refine ⟨hguar, ?_⟩
    have hafter : Lowered i (some m :: done)
        ((ctx cfg (.handler i)).step (.front (.line .paOff m false a.write)) y) := by
      refine ⟨hsettled, fun hfailed n hn => ?_⟩
      rcases List.mem_cons.mp hn with hn | hn
      · cases hn
        cases hwrite : a.write with
        | done => exact drive_line_done y.1.front .paOff m
        | raised | raisedLate =>
          -- the monitor has seen the exception
          simp [ctx, team, Team.ctx, Context.comap, Watch.step, watch, see, failedAfter,
            hwrite] at hfailed
      · exact hlow hfailed n hn
    revert hafter
    cases a.write <;> exact id

end

lemma chainsOn_filter_ne_nil {ln : Line} (hln : ln ∈ cfg.paLines) :
    ((cfg.chainsOn ln).filter fun c => decide (c ∈ cfg.chains)) ≠ [] := by
  obtain ⟨c, hc, hget⟩ := List.getElem_of_mem hln
  exact List.ne_nil_of_mem (a := c) (by grind [Switching.mem_chainsOn, Setup.chains, Setup.nTx])

lemma calm_setPas (cs : List ℕ) (on : Bool) :
    Calm (forEach cs fun c => front (.setPa c on) : Proc Unit) := by grind

@[grind ←]
lemma calm_paOffLine (target : List ℕ) (ln : Line) : Calm (paOffLine cfg target ln) := by
  refine Calm.ite (fun _ => Calm.ret false) fun _ => (Calm.reads _ _).bind fun othersOn => ?_
  refine Calm.ite (fun _ => (calm_setPas _ false).bind fun _ => Calm.ret false) fun _ => ?_
  refine (Calm.catching (fun _ => Calm.ret false) _).bind fun ok => ?_
  grind

lemma paOffLine_lowers (hown : OwnLines cfg)
    (hdone : ∀ ln ∈ done, ln ∈ cfg.paLines) {ln : Line} (hln : ln ∈ cfg.paLines) :
    Triple (ctx cfg (.handler i)) (Lowered i done) (paOffLine cfg cfg.chains ln)
      (fun _ => Lowered i (ln :: done)) (fun _ => Lowered i (ln :: done)) := by
  have hdone' : ∀ ln' ∈ ln :: done, ln' ∈ cfg.paLines := by grind
  have hset : ∀ cs on, Keeps (ctx cfg (.handler i)) (Lowered i (ln :: done))
      (forEach cs fun c => front (.setPa c on)) :=
    fun cs on => keeps_lowered hown hdone' (only_setPas cfg cs on)
  refine .ite (fun hnone => absurd hnone (chainsOn_filter_ne_nil hln)) fun _ => ?_
  -- no chain of the line is outside the target
  refine .bind (Q := fun othersOn x => Lowered i done x ∧ othersOn = false) ?_
    fun othersOn => .given fun hothers => ?_
  · refine .reads (stable_lowered hdone) fun y hy _ => ?_
    grind [lowered_lines, Setup.chainsOn, Setup.chains]
  · rw [hothers]
    have hwrite := (paOff_write (i := i) hown hdone ln).bind fun _ =>
      hset ((cfg.chainsOn ln).filter fun c => decide (c ∈ cfg.chains)) false
    refine .bind (Q := fun _ => Lowered i (ln :: done)) ?_ fun ok => ?_
    · exact (Triple.succeeds hwrite).mono (fun _ h => h) (by grind) fun _ _ h => h
    · refine .ite (fun _ => .ret fun _ h => h) fun _ => ?_
      exact (hset _ true).bind fun _ => Triple.ret fun _ h => h

lemma paOffLines_lowers (hown : OwnLines cfg) :
    ∀ (lines done : List Line), (∀ ln ∈ lines, ln ∈ cfg.paLines) → (∀ ln ∈ done, ln ∈ cfg.paLines) →
      Triple (ctx cfg (.handler i)) (Lowered i done) (paOffLines cfg cfg.chains lines)
        (fun _ => Lowered i (lines.reverse ++ done)) (fun _ => Kept cfg i) := by
  intro lines
  induction lines with
  | nil => exact fun done _ _ => .ret fun _ h => h
  | cons ln rest ih =>
    intro done hlines hdone
    have hhead := paOffLine_lowers (i := i) hown hdone (hlines ln List.mem_cons_self)
    refine .bind (.of_calm (calm_paOffLine cfg.chains ln) hhead) fun failed => ?_
    exact .bind (ih (ln :: done) (by grind) (by grind)) fun _ => .ret (by simp)

lemma paOff_kept (hown : OwnLines cfg) (me : Thread) :
    Triple (ctx cfg (.handler i)) (Lowered i []) (paOff cfg me cfg.chains)
      (fun _ => Kept cfg i) (fun _ => Kept cfg i) := by
  have hlines : Triple (ctx cfg (.handler i)) (Lowered i []) (paOffLines cfg cfg.chains cfg.lines)
      (fun _ => Kept cfg i) (fun _ => Kept cfg i) :=
    (paOffLines_lowers hown cfg.lines [] (by simp [Setup.lines]) nofun).mono (fun _ h => h)
      (by grind [Setup.lines, List.mem_eraseDups]) fun _ _ h => h
  refine hlines.bind fun errors => (?_ : Keeps _ _ _)
  grind

lemma shutdownLines_kept (hown : OwnLines cfg) (me : Thread) :
    Triple (ctx cfg (.handler i)) Down (shutdownLines cfg me)
      (fun _ => Kept cfg i) (fun _ => Kept cfg i) := by
  refine .bind (Q := fun _ => Lowered i []) ?_ fun _ => ?_
  · refine .does stable_down fun y hy hadm => ?_
    have hwindow : y.2.window = false := hadm (by simp) rfl
    exact ⟨⟨rfl, fun h => h, fun n _ _ h => h, nofun⟩, ⟨hy, hwindow⟩, nofun⟩
  refine .bind
    (.catching (paOff_kept hown me) fun _ => .ret fun _ h => h) fun _ => (?_ : Keeps _ _ _)
  grind

@[grind]
def Marked (cfg : Setup) (i : ℕ) (x : Sys × Mon) : Prop := Kept cfg i x ∧ Down x

lemma stable_marked : (ctx cfg (.handler i)).Stable (Marked cfg i) := by
  exact fun x y hx hrely => ⟨stable_kept x y hx.1 hrely, hrely.down hx.2⟩

@[grind ←]
lemma marked_handled (hown : OwnLines cfg) (hp : Only (Handled cfg) p) :
    Keeps (ctx cfg (.handler i)) (Marked cfg i) p := by
  refine .of_only stable_marked (fun c hc x hx _ => ?_) hp
  obtain ⟨hguar, hkept⟩ := kept_handled hown hc hx.1
  exact ⟨hguar, hkept, down_of_sinks hc.1.sinks hx.2⟩

lemma markState_marked (hown : OwnLines cfg) (fault : Bool) :
    Triple (ctx cfg (.handler i)) (Kept cfg i) (markState fault) (fun _ => Marked cfg i)
      (fun _ => Kept cfg i) := by
  refine .bind (Q := fun _ => Kept cfg i) (by grind : Keeps _ _ _) fun latched => ?_
  refine .bind (Q := fun disabled x => Kept cfg i x ∧ (disabled = true → Down x)) ?_
    fun disabled => ?_
  · refine .reads stable_kept fun y hy _ => ?_
    obtain ⟨hguar, hkept⟩ := kept_handled hown ⟨.inr .markDisabled, by simp⟩ hy
    refine ⟨hguar, hkept, fun hstate => ?_⟩
    show y.1.state.isLive = false
    rw [of_decide_eq_true hstate]
    rfl
  · refine .ite (fun hdis => .ret (by grind)) fun _ => ?_
    refine .pre (P := Kept cfg i) (.does stable_kept fun y hy _ => ?_) fun x hx => hx.1
    obtain ⟨hguar, hkept⟩ := kept_handled hown ⟨.inr (.mark latched), by simp⟩ hy
    exact ⟨hguar, hkept, by cases latched <;> rfl⟩

lemma mark_marked (hown : OwnLines cfg) (fault : Bool) :
    Triple (ctx cfg (.handler i)) (Kept cfg i) (mark fault) (fun _ => Marked cfg i)
      (fun _ => Kept cfg i) := by
  refine (markState_marked hown fault).bind fun _ =>
    (marked_handled hown ?_).mono (fun _ h => h) (fun _ _ h => h) fun _ _ h => h.1
  repeat' (with_reducible refine .bind ?_ fun _ => ?_)
  all_goals grind

@[grind ←]
lemma safeShutdown_kept (hown : OwnLines cfg) (me : Thread) (fault : Bool) :
    Keeps (ctx cfg (.handler i)) (Kept cfg i) (safeShutdown cfg me fault) := by
  unfold safeShutdown
  refine .bind (by grind) fun _ => .bind (by grind) fun session => ?_
  refine Triple.bind (mark_marked hown fault) fun _ => Triple.bind (Q := fun _ => Kept cfg i) ?_
    fun _ => (?_ : Keeps _ _ _)
  · refine Triple.ite (fun _ => (shutdownLines_kept hown me).pre fun _ h => h.2) fun _ => ?_
    exact .ret fun _ h => h.1
  · grind

lemma trip_kept (hown : OwnLines cfg) (me : Thread) (code : Code) :
    Keeps (ctx cfg (.handler i)) (Kept cfg i) (trip cfg me code) := by
  unfold trip
  repeat' first | (with_reducible refine .bind ?_ fun _ => ?_) | split
  all_goals grind [tripLatch]

end Handlers

/-! ## The operator -/

section Operator

variable {cfg : Setup}

@[grind]
def Shut (x : Sys × Mon) : Prop := x.2.window = false

@[grind]
def Open (x : Sys × Mon) : Prop := x.2.window

lemma stable_shut : (ctx cfg .operator).Stable Shut :=
  fun _ _ hx hrely => (hrely.window rfl).trans hx

lemma stable_open : (ctx cfg .operator).Stable Open :=
  fun _ _ hx hrely => (hrely.window rfl).trans hx

lemma guar_handling (hown : OwnLines cfg) {c : Cmd} (hc : Handling cfg c) (x : Sys × Mon) :
    (ctx cfg .operator).guar c x :=
  ⟨rfl, down_of_sinks hc.sinks, fun _ hn _ => hc.low hown hn, fun _ h => by cases h⟩

lemma shut_handling {c : Cmd} (hc : Handling cfg c) {x : Sys × Mon} (hx : Shut x) :
    Shut ((ctx cfg .operator).step c x) := by
  have hclosed : x.2.window = false := hx
  show windowAfter .operator c x.1 x.2.window = false
  grind

variable {α : Type} {p : Proc α}

@[grind ←]
lemma keeps_shut (hown : OwnLines cfg) (hp : Only (Handling cfg) p) :
    Keeps (ctx cfg .operator) Shut p :=
  Keeps.of_only stable_shut (fun _ hc x hx _ => ⟨guar_handling hown hc x, shut_handling hc hx⟩) hp

@[grind ←]
lemma lines_shut (hown : OwnLines cfg) (hp : Only (Cmd.Lines cfg) p) :
    Keeps (ctx cfg .operator) Shut p := keeps_shut hown (hp.mono fun _ hc => .inl (.lines hc))

lemma closingKept_shut (hown : OwnLines cfg) : ClosingKept cfg (ctx cfg .operator) Shut where
  stable := stable_shut
  step c hc x hx _ :=
    have hhandling : Handling cfg c := .inl hc
    ⟨guar_handling hown hhandling x, shut_handling hhandling hx⟩
  markState fault := keeps_shut hown ((shutting_markState cfg fault).mono fun _ hc => .inr hc)

@[grind ←]
lemma refuseSequence_shut (hown : OwnLines cfg) (me : Thread) :
    Keeps (ctx cfg .operator) Shut (refuseSequence (α := α) cfg me) := by
  have hlatch : Keeps (ctx cfg .operator) Shut (does (.setState .fault .latch) : Proc Unit) :=
    keeps_shut hown (.does (.inr .latch))
  have htrip := (closingKept_shut hown).trip hlatch me .sequence
  grind [refuseSequence]

lemma guar_look (site : Site) (x : Sys × Mon) : (ctx cfg .operator).guar (.look site) x :=
  ⟨rfl, id, fun _ _ _ h => h, fun _ h => by cases h⟩

lemma open_look (site : Site) {x : Sys × Mon} (hx : Open x) :
    Open ((ctx cfg .operator).step (.look site) x) := by
  cases site with
  | permitState => exact Bool.or_eq_true_iff.mpr (.inl hx)
  | _ => exact hx

@[grind ←]
lemma reading_open (hp : Only Cmd.Reading p) : Keeps (ctx cfg .operator) Open p := by
  refine .of_only stable_open (fun c hc x hx _ => ?_) hp
  cases hc with
  | look site => exact ⟨guar_look site x, open_look site hx⟩

lemma permitActive_open (c : Credential) :
    Triple (ctx cfg .operator) (fun _ => True) (permitActive cfg c)
      (fun active x => active = true → Open x) (fun _ _ => True) := by
  have hstable : (ctx cfg .operator).Stable fun _ => True := fun _ _ _ _ => trivial
  refine .bind (Q := fun live x => live = true → Open x) ?_ fun live => ?_
  · refine .reads hstable fun y _ _ => ⟨guar_look _ y, fun hlive => ?_⟩
    show (y.2.window || (decide (Party.operator = .operator) && y.1.state.isLive)) = true
    simp [hlive]
  refine .bind (Q := fun armed x => armed = true → Open x) ?_ fun armed => ?_
  · refine .ite (fun hlive => ?_) fun _ => .ret fun _ _ h => by cases h
    exact (reading_open (reading_look _)).mono (fun _ h => h hlive) (fun _ _ h _ => h)
      fun _ _ _ => trivial
  · refine .ite (fun harmed => ?_) fun _ => .ret fun _ _ h => by cases h
    have hopen : ∀ {p : Proc Bool}, Only Cmd.Reading p → Triple (ctx cfg .operator)
        (fun x => armed = true → Open x) p (fun active x => active = true → Open x)
        fun _ _ => True :=
      fun hp => (reading_open hp).mono (fun _ h => h harmed) (fun _ _ h _ => h) fun _ _ _ => trivial
    grind

variable {E : Stop → Sys × Mon → Prop}

lemma authorized_open (chans : List ℕ) (c : Option Credential) :
    Triple (ctx cfg .operator) (fun _ => True) (authorized cfg chans c)
      (fun ok x => ok = true → Open x) E := by
  have hfalse : ∀ {P : Sys × Mon → Prop} {E : Stop → Sys × Mon → Prop},
      Triple (ctx cfg .operator) P (.ret false : Proc Bool)
        (fun ok x => ok = true → Open x) E :=
    Triple.ret fun _ _ h => by cases h
  refine .ite (fun _ => ?_) fun _ => hfalse
  refine .catching (E := fun _ _ => True) ?_ fun _ => hfalse
  cases c with
  | some cred =>
    refine (permitActive_open cred).bind fun active => ?_
    refine .ite (fun hactive => ?_) fun _ => hfalse
    have hchains : Triple (ctx cfg .operator) (fun x => active = true → Open x)
        (credentialChains cred) (fun _ => Open) fun _ _ => True :=
      (reading_open (reading_credentialChains cred)).mono (fun _ h => h hactive)
        (fun _ _ h => h) fun _ _ _ => trivial
    exact hchains.bind fun covered => .ret fun _ h _ => h
  | none =>
    have hstable : (ctx cfg .operator).Stable fun _ => True := fun _ _ _ _ => trivial
    refine .bind (Q := fun _ _ => True)
      (.reads hstable fun y _ _ => ⟨guar_look _ y, trivial⟩) fun own => ?_
    cases own with
    | none => exact hfalse
    | some objId => exact permitActive_open (.record objId)

lemma permitDone_shut {P : Sys × Mon → Prop} (hP : (ctx cfg .operator).Stable P) :
    Triple (ctx cfg .operator) P (does (.note .permitDone) : Proc Unit) (fun _ => Shut) E := by
  refine .does hP fun y _ _ => ⟨⟨rfl, id, fun _ _ _ h => h, fun _ h => by cases h⟩, ?_⟩
  show (y.2.window && decide (Party.operator ≠ .operator)) = false
  simp

lemma setPas_open (hown : OwnLines cfg) (cs : List ℕ) (on : Bool) :
    Keeps (ctx cfg .operator) Open (forEach cs fun c => front (.setPa c on)) := by
  refine .forEach cs fun c _ => .does stable_open fun y hy _ => ⟨?_, hy⟩
  exact guar_handling hown (.inl (.lines (.front (.setPa c on) trivial))) y

@[grind ←]
lemma paOnLines_open (hown : OwnLines cfg) (chans : List ℕ) :
    ∀ lines : List Line, Keeps (ctx cfg .operator) Open (paOnLines cfg chans lines) := by
  intro lines
  induction lines with
  | nil => exact .ret ()
  | cons ln rest ih =>
    refine .bind ?_ fun _ => (setPas_open hown _ true).bind fun _ => ih
    cases ln with
    | none => exact .ret ()
    | some n =>
      refine .ask fun a => .act stable_open (fun y hy _ => ⟨⟨rfl, id, ?_, ?_⟩, hy⟩)
        fun s => ?_
      all_goals grind

lemma paDrive_shut (hown : OwnLines cfg) (me : Thread) (chans : List ℕ) :
    Triple (ctx cfg .operator) Open (paDrive cfg me chans) (fun _ => Shut) (fun _ => Shut) := by
  refine .bind (Q := fun _ => Open)
    (.reads stable_open fun y hy _ => ⟨guar_look _ y, hy⟩) fun atr => ?_
  refine .ite (fun _ => ?_) fun _ => ?_
  · exact .bind (.of_calm (calm_setPas chans true) (setPas_open hown chans true))
      fun _ => permitDone_shut stable_open
  · refine .bind (Q := fun _ => Open) ?_ fun _ => ?_
    · refine .catching (paOnLines_open hown chans _) fun e => ?_
      exact (permitDone_shut stable_open).bind fun _ =>
        Triple.bind (lines_shut hown (only_forceSafe cfg me)) fun _ => .throw fun _ h => h
    · exact (permitDone_shut stable_open).bind fun _ => lines_shut hown (only_emit cfg me)

@[grind ←]
lemma paOn_shut (hown : OwnLines cfg) (me : Thread) (chans : List ℕ) (c : Option Credential) :
    Keeps (ctx cfg .operator) Shut (paOn cfg me chans c) := by
  refine .pre (P := fun _ => True) ?_ fun _ _ => trivial
  refine (authorized_open chans c).bind fun ok => ?_
  refine .ite (fun hok => (paDrive_shut hown me chans).pre fun _ h => h hok) fun _ => ?_
  refine .pre (P := fun _ => True) ?_ fun _ _ => trivial
  exact (permitDone_shut fun _ _ _ _ => trivial).bind fun _ => refuseSequence_shut hown me

@[grind ←]
lemma resolveChans_shut (chans : Option (List ℕ)) :
    Keeps (ctx cfg .operator) Shut (resolveChans cfg chans) := by
  cases chans <;> grind [resolveChans]

section

variable (hown : OwnLines cfg) (me : Thread)
include hown

@[grind ←]
lemma paEnable_shut (chans : Option (List ℕ)) (on : Bool)
    (c : Option Credential) : Keeps (ctx cfg .operator) Shut (paEnable cfg me chans on c) := by
  grind [paEnable]

@[grind ←]
lemma txLines_shut (chans : List ℕ) (c : Credential) :
    Keeps (ctx cfg .operator) Shut (txLines cfg me chans c) := by
  unfold txLines
  repeat' first | (with_reducible refine .bind ?_ fun _ => ?_) | split
  all_goals grind [saveLna]

@[grind ←]
lemma sequenceToTx_shut (c : Credential) :
    Keeps (ctx cfg .operator) Shut (sequenceToTx cfg me c) := by
  have hchains : Keeps (ctx cfg .operator) Shut (credentialChains c) := by
    rcases c with (_ | _) | _ <;> grind [credentialChains]
  refine hchains.bind fun wanted => (resolveChans_shut wanted).bind fun chans => ?_
  have htested : ∀ ok : Bool, (ctx cfg .operator).Stable fun x => ok = true → Open x :=
    fun _ x y hx hrely hok => stable_open x y (hx hok) hrely
  refine Triple.bind ((authorized_open chans (some c)).pre fun _ _ => trivial) fun ok => ?_
  refine Triple.bind (permitDone_shut (htested ok)) fun _ => (?_ : Keeps _ _ _)
  grind

lemma rfCall_shut {op : Op} (hop : RfCall op) :
    Keeps (ctx cfg .operator) Shut (op.prog cfg me) := by cases op <;> grind [Op.prog, RfCall]

end

end Operator

/-! ## Every interleaving -/

def Begin : Party → Sys × Mon → Prop
  | .operator => Shut
  | .handler i => Kept cfg i
  | .clock => fun _ => True

@[grind]
def Inv (x : Sys × Mon) : Prop := x.2.quiet → Settled x ∧ AllLow cfg x

lemma Inv.step {cfg : Setup} (hx : Inv cfg x)
    (hduty : Dutiful cfg t c x) : Inv cfg (watch.step (t, c) x) := by
  have hnow : x.2.quiet ∨ Settled x ∧ AllLow cfg x ∨ quietAfter t c x.2 = false := by
    unfold quietAfter
    grind
  have hstep : Settled x → Settled (watch.step (t, c) x) := fun h => h.step (hduty.down h.1)
  grind

/-- In every interleaving of the calls of an operator with any number of trips and shutdowns,
as signal handlers or on other threads, in which no handler begins to switch the lines off
between a test and the writes it allows: once a trip has returned all of whose PA off writes
succeeded, every PA line is off, until the operator begins to arm. -/
theorem pa_off_after_trip {cfg : Setup} (hown : OwnLines cfg) (S : Scene)
    (hops : ∀ op ∈ S.ops, RfCall op) (s : Sys) (moves : List (Move Party Answer))
    (houtside : Along (Pool.step watch) (team cfg).Allows (S.pool cfg (s, {})) moves)
    (hquiet : (run (Pool.step watch) (S.pool cfg (s, {})) moves).shared.2.quiet) :
    ∀ n, some n ∈ cfg.paLines →
      (run (Pool.step watch) (S.pool cfg (s, {})) moves).shared.1.front.drive n =
        .manual false := by
  have hmeets : (team cfg).Meets (S.pool cfg (s, ({} : Mon))) := by
    refine Scene.meets (J := Begin cfg) (fun op hop => rfCall_shut hown S.me (hops op hop))
      (fun i me h => ?_) (fun d => ?_) fun t => ?_
    · cases h with
      | trip code => exact trip_kept hown me code
      | safeShutdown => exact safeShutdown_kept hown me false
    · refine .does (fun _ _ _ _ => trivial) fun y _ _ => ⟨?_, trivial⟩
      exact ⟨rfl, id, fun _ _ _ h => h, fun _ h => by cases h⟩
    · cases t with
      | operator => rfl
      | handler i => exact fun h => by cases h
      | clock => trivial
  have hinv : ∀ t c x, Inv cfg x → (team cfg).admits t c x → (team cfg).guar t c x →
      Inv cfg (watch.step c x) := by
    rintro t ⟨_, c⟩ x hx - ⟨rfl, hduty⟩
    exact hx.step hduty
  have hstart : Inv cfg (S.pool cfg (s, ({} : Mon))).shared := fun h => by cases h
  exact ((hmeets.run hinv hstart houtside).2 hquiet).2

namespace Bench

def setup : Setup := { bench with paHoldBetweenBursts := true }

def armed : Sys :=
  { bench.idle with
    state := .armed
    armRecord := some default }

def scene : Scene where
  ops := [.paEnable none true (some (.record 0)), .paEnable none true (some (.record 0))]
  handlers _ := (0, .trip .signal)

def moves (t : Party) : ℕ → List (Move Party Answer)
  | 0 => []
  | n + 1 => .act t :: .ask t {} :: moves t n

variable (before rest : ℕ)

def schedule : List (Move Party Answer) :=
  moves .operator before ++ moves (.handler 0) 60 ++ moves .operator rest

def after : Pool Sys Answer Stop (Party × Cmd) Mon Party Unit :=
  run (Pool.step watch) (scene.pool setup (armed, {})) (schedule before rest)

/-- The trip comes between the two calls: the second one is refused. -/
theorem pa_off_after_trip_between :
    (after 9 60).shared.2.quiet ∧ (after 9 60).shared.1.front.drive 0 = .manual false := by
  have hown : OwnLines setup := by
    rintro n hn
    simp only [setup, bench, List.mem_singleton, Option.some.injEq] at hn
    subst hn
    simp [Switch, setup, bench]
  have hquiet : (after 9 60).shared.2.quiet := by decide +kernel
  have hoff := pa_off_after_trip hown scene (by decide) armed (schedule 9 60) (by decide +kernel)
  unfold after at hquiet ⊢
  exact ⟨hquiet, hoff hquiet 0 (by decide)⟩

/-- The trip comes between the permit check of a call and its write: it returns with its
writes done, and then the line is switched on. -/
theorem on_after_trip :
    (after 4 4).shared.2.quiet ∧ (after 4 4).shared.1.front.drive 0 = .manual true := by
  decide +kernel

end Bench

end HeimdallDaq.Tx.PaOff
