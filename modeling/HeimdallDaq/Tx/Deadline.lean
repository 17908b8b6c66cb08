/-
  Tx/Deadline.lean --- bursts and the arm expiry.

  `authorize_burst` checks that a burst ends before the arm expiry, and `refresh` only
  moves the expiry later.
-/
import HeimdallDaq.Tx.Ledger

namespace HeimdallDaq.Tx.Deadline

open Foundation Function
open Prog (does)
open View (aside)

/-- A burst `consume` commits, with the session at that time. -/
structure Burst where
  timed : Bool
  start : ℚ
  dur : ℚ
  offset : ℚ
  clock : ℚ
  expiry : ℚ
  armed : ℚ
  deriving DecidableEq

def see : Cmd → Sys → List Burst → List Burst
  | .setState _ (.consume pid), s, log =>
    { timed := (s.entries pid).permit.timed
      start := (s.entries pid).dutyAt
      dur := (s.entries pid).permit.durationS
      offset := (s.entries pid).atOffset
      clock := s.clock
      expiry := s.expiryMono
      armed := s.armedMono } :: log
  | _, _, log => log

def watch : Watch Sys Cmd (List Burst) where
  apply := Cmd.apply
  obs := see

structure Slate where
  clock : ℚ
  armed : ℚ
  expiry : ℚ
  registry : List PermitId
  entries : PermitId → Entry
  log : List Burst

@[local grind]
def slate (x : Sys × List Burst) : Slate where
  clock := x.1.clock
  armed := x.1.armedMono
  expiry := x.1.expiryMono
  registry := x.1.registry
  entries := x.1.entries
  log := x.2

/-- Time passes and permits are dropped. -/
@[grind]
structure Later (p q : Slate) : Prop where
  clock : p.clock ≤ q.clock
  armed : q.armed = p.armed
  expiry : q.expiry = p.expiry
  registry : q.registry ⊆ p.registry
  entries : q.entries = p.entries
  log : q.log = p.log

lemma Later.refl (p : Slate) : Later p p := by grind [List.Subset.refl]

lemma Later.trans {p q r : Slate} (h : Later p q) (h' : Later q r) : Later p r := by
  have := h.clock.trans h'.clock
  have := List.Subset.trans h'.registry h.registry
  grind

def view : View Sys Cmd (List Burst) Slate where
  watch := watch
  get := slate
  later := Later

instance : Looks view := ⟨fun _ => rfl⟩

abbrev ctx : Context Sys Cmd (List Burst) := view.ctx

abbrev On : (Slate → Prop) → Sys × List Burst → Prop := view.On

abbrev Lasting : (Slate → Prop) → Prop := view.Lasting

lemma faint_of_shutting {cfg : Setup} {c : Cmd} (h : c.Shutting cfg) : view.Faint c := by
  cases h with
  | lines h => cases h <;> exact fun _ => rfl
  | _ => exact fun _ => rfl

lemma later_of_idle {c : Cmd} (h : c.Idle) (x : Sys × List Burst) :
    Later (slate x) (slate (watch.step c x)) := by
  cases h with
  | popRegistry pid => exact ⟨le_rfl, rfl, rfl, List.filter_sublist.subset, rfl, rfl⟩
  | _ => exact .refl _

variable (cfg : Setup)

lemma shutdownKept {X : Slate → Prop} (hX : Lasting X) :
    ShutdownKept cfg ctx (On X) (On X) (On X) where
  stable := hX.stable
  stable' := hX.stable
  stablePost := hX.stable
  step _ hc _ hy _ := ⟨trivial, (faint_of_shutting hc).on hy⟩
  stepPost _ hc _ hy _ := ⟨trivial, (faint_of_shutting hc).on hy⟩
  clearRegistry _ hy _ := ⟨trivial, hX _ _ hy ⟨le_rfl, rfl, rfl, List.nil_subset _, rfl, rfl⟩⟩
  releaseAll _ hy _ := ⟨trivial, hy⟩

lemma robust (me : Thread) {X : Slate → Prop} (hX : Lasting X) : Robust cfg me ctx (On X) where
  stable := hX.stable
  idle _ hc y hy _ := ⟨trivial, hX _ _ hy (later_of_idle hc y)⟩
  drop := Robust.drop_of_release hX.stable
    (fun _ hc y hy _ => ⟨trivial, hX _ _ hy (later_of_idle hc y)⟩)
    fun _ _ hy _ => ⟨trivial, hy⟩
  shutdown := (shutdownKept cfg hX).safeShutdown me
  trip := (shutdownKept cfg hX).trip me

lemma rely_of_interference (me : Thread) (depth : ℕ) :
    ∀ x y, interference watch cfg me depth x y → ctx.rely x y := by
  refine interference_le (R := ctx.rely) (fun _ => .inl rfl)
    (fun _ _ _ => View.rely_trans fun _ _ _ => Later.trans) ?_ ?_ depth
  · rintro x _ ⟨d, rfl⟩
    exact .inr ⟨le_add_of_nonneg_right d.2, rfl, rfl, .refl _, rfl, rfl⟩
  · intro handler x y hexec
    have hlast : Lasting (Later (slate x)) := fun _ _ h h' => h.trans h'
    have hkeeps : Keeps ctx (On (Later (slate x))) (handler.prog cfg me) := by
      cases handler with
      | trip code => exact (robust cfg me hlast).trip code
      | safeShutdown => exact (robust cfg me hlast).shutdown false
    exact Or.inr ((Spec.sound (hkeeps x (Later.refl _)) (fun _ _ => trivial) hexec).1 () rfl)

/-! ## The invariant -/

@[grind]
def Burst.Sound (b : Burst) : Prop :=
  b.expiry ≤ b.armed + cfg.maxArmTotalS ∧ (b.timed → b.start + b.dur ≤ b.expiry) ∧
    (b.timed = false → b.start ≤ b.clock + b.offset)

/-- The session ends in time, and so do the timed bursts it has permits for. -/
@[grind]
structure Timely (cfg : Setup) (p : Slate) : Prop where
  capped : p.expiry ≤ p.armed + cfg.maxArmTotalS
  fits : ∀ pid ∈ p.registry, (p.entries pid).permit.timed →
    (p.entries pid).dutyAt + (p.entries pid).permit.durationS ≤ p.expiry
  logged : ∀ b ∈ p.log, b.Sound cfg

lemma lasting_timely : Lasting (Timely cfg) := by
  intro p q h hpq
  have hpq : Later p q := hpq
  constructor <;> grind

lemma lasting_timely_and {X : Slate → Prop} (h : ∀ p q, X p → Later p q → X q) :
    Lasting fun p => Timely cfg p ∧ X p := (lasting_timely cfg).and h

section

variable (cfg : Setup) (me : Thread) {X : Slate → Prop}

lemma keeps_session (hX : Lasting X) {α : Type} {p : Proc α} (hp : Only Cmd.Session p) :
    Keeps ctx (On X) p := by
  refine .of_only hX.stable (fun c hc y hy _ => ⟨trivial, ?_⟩) hp
  cases hc with
  | idle hc => exact hX _ _ hy (later_of_idle hc y)
  | writeRecord r ok => cases ok <;> exact hy
  | setState st writer h =>
    cases writer with
    | consume pid => exact absurd rfl (h pid)
    | _ => exact hy
  | _ => exact hy

lemma keeps_faint (hX : Lasting X) {c : Cmd} (hc : view.Faint c) :
    Keeps ctx (On X) (does c : Proc Unit) := hX.does fun _ hx => hc.on hx

lemma Timely.setEntry {cfg : Setup} {p : Slate} (h : Timely cfg p) {pid : PermitId} {e : Entry}
    (hfits : e.permit.timed → e.dutyAt + e.permit.durationS ≤ p.expiry) :
    Timely cfg { p with entries := update p.entries pid e } := by grind

/-! ## Arming -/

lemma lasting_begun : Lasting fun p =>
    p.expiry ≤ p.armed + cfg.maxArmTotalS ∧ ∀ b ∈ p.log, b.Sound cfg := by
  intro p q h hpq
  have hpq : Later p q := hpq
  grind

lemma armCommit_keeps (r : ArmRecord) (now : ℚ) {dur : ℚ} (hdur : dur ≤ cfg.maxArmTotalS) :
    Keeps ctx (On (Timely cfg)) (armCommit r now dur) := by
  have hlast := lasting_timely cfg
  unfold armCommit
  iterate 2 refine .bind (keeps_faint hlast fun _ => rfl) fun _ => ?_
  refine Triple.bind (hlast.does (Q := fun p => p.expiry ≤ p.armed + cfg.maxArmTotalS ∧
    ∀ b ∈ p.log, b.Sound cfg) fun x hx => ⟨?_, hx.logged⟩) fun _ => ?_
  · show now + dur ≤ now + cfg.maxArmTotalS
    linarith
  refine .bind ((lasting_begun cfg).does (Q := Timely cfg) fun x hx =>
    ⟨hx.1, nofun, hx.2⟩) fun _ => ?_
  iterate 3 refine .bind (keeps_faint hlast fun _ => rfl) fun _ => ?_
  exact keeps_faint hlast fun _ => rfl

lemma armDuration_le (hcap : cfg.armTimeoutS ≤ cfg.maxArmTotalS) (req : ArmRequest) :
    armDuration cfg req ≤ cfg.maxArmTotalS := by
  unfold armDuration
  grind

lemma arm_keeps (hcap : cfg.armTimeoutS ≤ cfg.maxArmTotalS) (req : ArmRequest) :
    Keeps ctx (On (Timely cfg)) (arm cfg me req) := by
  have h := robust cfg me (lasting_timely cfg)
  have hcommit (r now) := armCommit_keeps cfg r now (armDuration_le cfg hcap req)
  have hsession {α : Type} (p : Proc α) := keeps_session (p := p) (lasting_timely cfg)
  have hbegin : Keeps ctx (On (Timely cfg)) (tripGen .armBegin) :=
    (lasting_timely cfg).reads fun _ hx => hx
  unfold arm armFinish
  repeat' first | (with_reducible refine .bind ?_ fun _ => ?_) | split
  all_goals grind

/-! ## Refresh -/

variable (cap expiry : ℚ)

@[grind]
def Read (p : Slate) : Prop := p.armed + cfg.maxArmTotalS = cap ∧ p.expiry = expiry

lemma lasting_read : Lasting fun p => Timely cfg p ∧ Read cfg cap expiry p :=
  lasting_timely_and cfg (by grind)

lemma refresh_keeps : Keeps ctx (On (Timely cfg)) (refresh cfg me) := by
  have hlast := lasting_timely cfg
  have h := robust cfg me hlast
  have hsession {α : Type} (p : Proc α) := keeps_session (p := p) hlast
  unfold refresh
  iterate 7 refine .bind (by grind) fun _ => ?_
  refine Triple.bind (look_spec hlast (Q := fun cap p => Timely cfg p ∧ Read cfg cap p.expiry p)
    fun x hx => ⟨hx, rfl, rfl⟩) fun cap => ?_
  have hcap : Lasting fun p => Timely cfg p ∧ Read cfg cap p.expiry p := by
    refine hlast.and fun p q h hpq => ?_
    have hpq : Later p q := hpq
    grind
  refine .bind (look_spec hcap (Q := fun expiry p => Timely cfg p ∧ Read cfg cap expiry p)
    fun x hx => hx) fun expiry => ?_
  have hr := robust cfg me (lasting_read cfg cap expiry)
  refine .bind (aside (by grind)) fun _ => ?_
  refine .bind ((lasting_read cfg cap expiry).does (Q := Timely cfg) fun x hx => ?_)
    fun _ => (?_ : Keeps _ _ _)
  · obtain ⟨⟨hcapped, hfits, hlogged⟩, hcap, hexpiry⟩ := hx
    rw [hexpiry] at hcapped hfits
    refine ⟨?_, fun pid hpid htimed => (hfits pid hpid htimed).trans (le_max_left _ _), hlogged⟩
    exact (max_le (hcapped.trans hcap.le) (min_le_right _ _)).trans hcap.ge
  · repeat' first | (with_reducible refine .bind ?_ fun _ => ?_) | split
    all_goals grind

/-! ## `authorize_burst` -/

variable (req : BurstRequest)

@[grind]
def Ends (now ahead : ℚ) (p : Slate) : Prop := req.timed → now + ahead + req.durS ≤ p.expiry

lemma lasting_ends (now ahead : ℚ) : Lasting fun p => Timely cfg p ∧ Ends req now ahead p :=
  lasting_timely_and cfg (by grind)

lemma issue_spec (gen0 : ℕ) (now ahead : ℚ) :
    Triple ctx (On fun p => Timely cfg p ∧ Ends req now ahead p)
      (issue cfg me req gen0 now ahead) (fun _ => On (Timely cfg)) (view.Fails (Timely cfg)) := by
  have hlast := lasting_ends cfg req now ahead
  have h := robust cfg me hlast
  have hplain := robust cfg me (lasting_timely cfg)
  unfold issue
  iterate 5 refine .bind (aside (by grind)) fun _ => ?_
  split
  · exact .throw fun _ hx => hx.1
  · refine .bind (hlast.does (Q := Timely cfg) fun x hx => ?_) fun _ => (?_ : Keeps _ _ _)
    · refine ⟨hx.1.capped, fun pid hpid => ?_, hx.1.logged⟩
      have hfits := hx.1.fits pid
      have hends := hx.2
      simp only [view, slate, watch, Watch.step, Cmd.apply, issuedEntry, update_apply]
        at hpid hfits hends ⊢
      grind
    · refine .bind (keeps_faint (lasting_timely cfg) fun _ => rfl) fun _ => ?_
      grind

lemma authorizeTimed_spec (now : ℚ) : Triple ctx (On (Timely cfg)) (authorizeTimed cfg me req now)
      (fun ahead => On fun p => Timely cfg p ∧ Ends req now ahead p) (view.Fails (Timely cfg)) := by
  have hlast := lasting_timely cfg
  have h := robust cfg me hlast
  unfold authorizeTimed
  refine .bind (h.only (by grind)) fun _ => ?_
  refine .bind Keeps.answer fun reading => ?_
  cases reading with
  | none =>
    exact .mono ((h.refuse .startTime).yields (V := fun _ => False) (yields_refuse cfg me _))
      (fun _ hx => hx) (fun _ _ hx => hx.2.elim) fun _ _ hx => hx
  | some lead =>
    refine .bind (h.only (by grind)) fun _ => ?_
    refine .bind (look_spec hlast (Q := fun expiry p => Timely cfg p ∧ p.expiry = expiry)
      fun x hx => ⟨hx, rfl⟩) fun expiry => ?_
    have hexpiry : Lasting fun p => Timely cfg p ∧ p.expiry = expiry :=
      hlast.and fun p q h hpq => (Later.expiry hpq).trans h
    refine .bind ((aside ((robust cfg me hexpiry).only (by grind))).yields
      (yields_refuseIf cfg me _ _)) fun _ => .given fun hends => ?_
    exact .ret fun x hx => ⟨hx.1, fun _ => hx.2.symm ▸ not_lt.mp hends⟩

lemma authorizeBurst_keeps : Keeps ctx (On (Timely cfg)) (authorizeBurst cfg me req) := by
  have h := robust cfg me (lasting_timely cfg)
  refine (h.look _).bind fun gen0 => (h.look _).bind fun now => ?_
  iterate 4 refine .bind (by grind) fun _ => ?_
  refine Triple.bind (Q := fun ahead => On fun p => Timely cfg p ∧ Ends req now ahead p)
    (Triple.ite (fun _ => authorizeTimed_spec cfg me req _) fun htimed => ?_) fun ahead => ?_
  · exact Triple.mono (h.only (idle_authorizeUntimed cfg me req _ _)) (fun _ hx => hx)
      (fun _ _ hx => ⟨hx, fun ht => absurd ht htimed⟩) fun _ _ hx => hx
  have hends := robust cfg me (lasting_ends cfg req now ahead)
  iterate 3 refine .bind (aside (by grind)) fun _ => ?_
  exact issue_spec cfg me req _ _ _

/-! ## `consume` -/

variable (now : ℚ)

@[grind]
def Held (pid : PermitId) (e : Entry) (p : Slate) : Prop := now ≤ p.clock ∧ p.entries pid = e

lemma lasting_held (pid : PermitId) (e : Entry) :
    Lasting fun p => Timely cfg p ∧ Held now pid e p := lasting_timely_and cfg (by grind)

variable (pid : PermitId)

@[grind]
def Fixed (p : Slate) : Prop :=
  ((p.entries pid).permit.timed →
    (p.entries pid).dutyAt + (p.entries pid).permit.durationS ≤ p.expiry) ∧
  ((p.entries pid).permit.timed = false →
    (p.entries pid).dutyAt ≤ p.clock + (p.entries pid).atOffset)

lemma lasting_fixed : Lasting fun p => Timely cfg p ∧ Fixed pid p :=
  lasting_timely_and cfg (by grind)

lemma lasting_tested (pid : PermitId) (e : Entry) :
    Lasting fun p => Timely cfg p ∧ (Held now pid e p ∧
      (e.permit.timed → e.dutyAt + e.permit.durationS ≤ p.expiry)) :=
  lasting_timely_and cfg (by grind)

lemma consumeTest_spec (gen0 : ℕ) (now : ℚ) (pid : PermitId) (e : Entry) :
    Triple ctx (On fun p => Timely cfg p ∧ Held now pid e p) (consumeTest gen0 pid)
      (fun ok => On fun p => Timely cfg p ∧ (Held now pid e p ∧ (ok →
        e.permit.timed → e.dutyAt + e.permit.durationS ≤ p.expiry)))
      (view.Fails (Timely cfg)) := by
  have hlast := lasting_held cfg now pid e
  have h := robust cfg 0 hlast
  unfold consumeTest
  repeat with_reducible refine .bind (aside (by grind)) fun _ => ?_
  refine .ite (fun _ => ?_) fun _ => .ret fun x hx => ⟨hx.1, hx.2, nofun⟩
  refine hlast.reads fun x hx => ⟨hx.1, hx.2, fun hmem => ?_⟩
  have hfits := hx.1.fits pid (of_decide_eq_true hmem)
  rwa [hx.2.2] at hfits

lemma consumeCommit_spec (gen0 : ℕ) (pid : PermitId) (e : Entry) (sess : Option SessionId)
    {now start : ℚ} (hstart : start = if e.permit.timed then e.dutyAt else now + e.atOffset) :
    Triple ctx (On fun p => Timely cfg p ∧ Held now pid e p)
      (consumeCommit cfg me gen0 pid e sess start) (fun _ => On (Timely cfg))
      (view.Fails (Timely cfg)) := by
  have hlast := lasting_held cfg now pid e
  have h := robust cfg me hlast
  have hplain := robust cfg me (lasting_timely cfg)
  have hfixed := lasting_fixed cfg pid
  have hsession {α : Type} (p : Proc α) := keeps_session (p := p) (lasting_timely cfg)
  refine .bind (consumeTest_spec cfg gen0 now pid e) fun ok => ?_
  refine .ite (fun hok => ?_) fun _ => ?_
  swap
  · exact .pre (by grind : Keeps ctx (On (Timely cfg)) _) fun _ hx => hx.1
  refine .pre (P := On fun p => Timely cfg p ∧ (Held now pid e p ∧
    (e.permit.timed → e.dutyAt + e.permit.durationS ≤ p.expiry))) ?_
    fun x hx => ⟨hx.1, hx.2.1, hx.2.2 hok⟩
  refine .bind ((lasting_tested cfg now pid e).does (Q := fun p => Timely cfg p ∧
    (Held now pid { e with consumed := true } p ∧
      (e.permit.timed → e.dutyAt + e.permit.durationS ≤ p.expiry)))
    fun x hx => ?_) fun _ => ?_
  · have hentry : x.1.entries pid = e := hx.2.1.2
    refine ⟨hx.1.setEntry fun htimed => ?_, ⟨hx.2.1.1, ?_⟩, hx.2.2⟩
    · rw [hentry] at htimed ⊢
      exact hx.2.2 htimed
    · exact (update_self pid _ x.1.entries).trans (by rw [hentry])
  refine .bind ((lasting_tested cfg now pid { e with consumed := true }).does
    (Q := fun p => Timely cfg p ∧ Fixed pid p) fun x hx => ?_) fun _ => ?_
  · have hentry : x.1.entries pid = { e with consumed := true } := hx.2.1.2
    have hends : e.permit.timed → start + e.permit.durationS ≤ (slate x).expiry := by
      intro htimed
      rw [hstart, if_pos htimed]
      exact hx.2.2 htimed
    have hclock : now ≤ x.1.clock := hx.2.1.1
    refine ⟨hx.1.setEntry fun htimed => ?_, ?_⟩
    · rw [hentry] at htimed ⊢
      exact hends htimed
    · simp only [Fixed, view, slate, watch, Watch.step, Cmd.apply, update_self, hentry]
      refine ⟨hends, fun huntimed => ?_⟩
      rw [hstart, huntimed]
      simpa using hclock
  refine .bind (aside (keeps_session hfixed (.does (.setInflight _)))) fun _ => ?_
  refine .bind (hfixed.does (Q := Timely cfg) fun x hx => ?_) fun _ => (?_ : Keeps _ _ _)
  · exact ⟨hx.1.capped, hx.1.fits, List.forall_mem_cons.mpr ⟨⟨hx.1.capped, hx.2⟩, hx.1.logged⟩⟩
  · refine .bind (by grind) fun _ => .bind (by grind) fun _ => ?_
    exact (keeps_faint (lasting_timely cfg) fun _ => rfl).bind fun _ => by grind

lemma consume_keeps (handle : Handle) : Keeps ctx (On (Timely cfg)) (consume cfg me handle) := by
  have hlast := lasting_timely cfg
  have h := robust cfg me hlast
  refine (h.look _).bind fun gen0 => ?_
  refine Triple.bind (look_spec hlast (Q := fun now p => Timely cfg p ∧ now ≤ p.clock)
    fun x hx => ⟨hx, le_rfl⟩) fun now => ?_
  have hclock : Lasting fun p => Timely cfg p ∧ now ≤ p.clock :=
    hlast.and fun p q h hpq => h.trans (Later.clock hpq)
  have hc := robust cfg me hclock
  iterate 2 refine .bind (aside (by grind)) fun _ => ?_
  refine .bind (aside (hc.consumeLookup handle)) fun found => ?_
  refine .bind (look_spec hclock (Q := fun e p => Timely cfg p ∧ Held now found.1 e p)
    fun x hx => ⟨hx.1, hx.2, rfl⟩) fun e => ?_
  have hh := robust cfg me (lasting_held cfg now found.1 e)
  iterate 5 refine .bind (aside (by grind)) fun _ => ?_
  exact consumeCommit_spec cfg me gen0 _ e _ rfl

/-! ## Runs -/

lemma retire_keeps : Keeps ctx (On (Timely cfg)) (retire pid) := by
  have hlast := lasting_timely cfg
  have hpop : Keeps ctx (On (Timely cfg)) (does (.popRegistry pid) : Proc Unit) :=
    hlast.does fun x hx => hlast _ _ hx (later_of_idle (.popRegistry pid) x)
  refine hpop.bind fun _ => .bind (hlast.does fun x hx => ?_) fun _ =>
    keeps_faint hlast fun _ => rfl
  refine ⟨hx.capped, fun q hq => ?_, hx.logged⟩
  have hfits := hx.fits q hq
  simp only [view, slate, watch, Watch.step, Cmd.apply, update_apply] at hfits ⊢
  grind

lemma op_keeps (hcap : cfg.armTimeoutS ≤ cfg.maxArmTotalS) :
    ∀ o : Op, Keeps ctx (On (Timely cfg)) (o.prog cfg me) := by
  have hlast := lasting_timely cfg
  have h := robust cfg me hlast
  refine h.op (arm_keeps cfg me hcap) (refresh_keeps cfg me) (authorizeBurst_keeps cfg me)
    (consume_keeps cfg me) (h.burstComplete_of_parts (retire_keeps cfg)
      (keeps_faint hlast fun _ => rfl) fun gen0 => keeps_session hlast (session_completeCommit gen0))
    (h.resetFault_of_stores fun c hc => keeps_faint hlast ?_)
  simp only [List.mem_cons, List.not_mem_nil, or_false] at hc
  rcases hc with rfl | rfl | rfl | rfl <;> exact fun _ => rfl

/-- With a policy that was checked, in every run of a controller, whatever operations are called
and whichever signal handlers interfere: a burst that is timed, or that has its offset and its
duration left until the arm expiry when it is committed, ends no later than the expiry in force
at that time, and no later than `max_arm_total_s` after the arming. -/
theorem burst_ends_in_session (hcap : cfg.armTimeoutS ≤ cfg.maxArmTotalS) {depth : ℕ} {s₀ : Sys}
    (h₀ : s₀.registry = [] ∧ s₀.expiryMono ≤ s₀.armedMono + cfg.maxArmTotalS)
    {x : Sys × List Burst} (h : Reached watch cfg me depth (s₀, []) x) (b : Burst) (hb : b ∈ x.2)
    (hends : b.timed ∨ b.clock + b.offset + b.dur ≤ b.expiry) :
    b.start + b.dur ≤ b.expiry ∧ b.start + b.dur ≤ b.armed + cfg.maxArmTotalS := by
  have hstart : On (Timely cfg) (s₀, []) :=
    ⟨h₀.2, fun pid (hpid : pid ∈ s₀.registry) => absurd (h₀.1 ▸ hpid) List.not_mem_nil, nofun⟩
  have htimely : Timely cfg (slate x) :=
    Reached.invariant ctx (fun _ _ => trivial) (rely_of_interference cfg me depth)
      (lasting_timely cfg).stable (op_keeps cfg me hcap) hstart h
  grind

end

/-- A session of a tenth of a second on a simulated bench, in which one burst is authorized and
consumed a twentieth later. -/
def consumedLater (timed : Bool) (dur : ℚ) : Sys × List Burst :=
  play watch { bench with hasRf := false, isSimulation := true } 0
    [.call (.arm { durationS := some (1 / 10) }) [],
      .call (.authorizeBurst { Ledger.single dur with timed := timed }) (Ledger.leading (2 / 25)),
      .pass (1 / 20), .call (.consume (.issued 1 (Ledger.single dur).samples)) []]
    (bench.idle, [])

theorem burst_ends_in_session_timed :
    (consumedLater true (1 / 50)).2.map (fun b => (b.start, b.dur, b.expiry)) =
        [(2 / 25, 1 / 50, 1 / 10)] ∧
      ∀ b ∈ (consumedLater true (1 / 50)).2, b.start + b.dur ≤ b.expiry :=
  ⟨by decide +kernel, fun b hb => (burst_ends_in_session _ 0 (by decide +kernel)
    ⟨rfl, by decide +kernel⟩ (reached_play watch _ 0 _ .start) b hb
    (.inl (by revert b; decide +kernel))).1⟩

/-- An untimed burst ends after the expiry. -/
theorem exists_burst_past_expiry :
    Reached watch { bench with hasRf := false, isSimulation := true } 0 1 (bench.idle, [])
        (consumedLater false (2 / 25)) ∧
      (consumedLater false (2 / 25)).2.map (fun b => (b.start, b.dur, b.expiry)) =
        [(1 / 20, 2 / 25, 1 / 10)] ∧
      ∀ b ∈ (consumedLater false (2 / 25)).2, b.expiry < b.start + b.dur :=
  ⟨reached_play watch _ 0 _ .start, by decide +kernel, by decide +kernel⟩

end HeimdallDaq.Tx.Deadline
