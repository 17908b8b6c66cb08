/-
  Tx/Permits.lean --- what a permit is bound to.

  The log keeps, newest first, when permits are issued, presented, committed and sent,
  and when a session is shut down.
-/
import HeimdallDaq.Tx.Backend
import HeimdallDaq.Tx.Handlers

namespace HeimdallDaq.Tx.Permits

open Foundation List
open Prog (does)
open View (rest)

/-! ## The log -/

inductive Event
  /-- `authorize_burst` registers a permit, in this arm session -/
  | issued (session : Option SessionId) (permit : Permit)
  /-- `consume` is called with an object -/
  | presented (h : Handle) (at' : ℚ)
  /-- `consume` writes TRANSMITTING, in this arm session -/
  | committed (pid : PermitId) (session : Option SessionId)
  /-- `_do_tx_send` -/
  | sent (pid : PermitId) (samples : Samples)
  | down
  deriving DecidableEq

abbrev Log := List Event

def see : Cmd → Sys → Log → Log
  | .register e, s, log => .issued (s.armRecord.map (·.sessionId)) e.permit :: log
  | .setState _ (.consume pid), s, log => .committed pid (s.armRecord.map (·.sessionId)) :: log
  | .note (.sent pid samples), _, log => .sent pid samples :: log
  | .bump _, _, log => .down :: log
  | _, _, log => log

def watch : Watch Sys Cmd Log where
  apply := Cmd.apply
  obs := see

def Standing (log : Log) (pid : PermitId) (session : Option SessionId) (p : Permit) : Prop :=
  p.permitId = pid ∧ ∃ newer older, log = newer ++ .issued session p :: older ∧ .down ∉ newer

variable {log : Log} {pid : PermitId} {session : Option SessionId} {p : Permit}

lemma Standing.cons (h : Standing log pid session p) {ev : Event} (hev : ev ≠ .down) :
    Standing (ev :: log) pid session p := by
  obtain ⟨hpid, newer, older, hlog, hdown⟩ := h
  exact ⟨hpid, ev :: newer, older, by grind⟩

lemma Standing.of_cons
    {ev : Event} (h : Standing (ev :: log) pid session p) (hev : ev ≠ .issued session p) :
    Standing log pid session p := by
  obtain ⟨hpid, newer, older, hlog, hdown⟩ := h
  cases newer with
  | nil => grind
  | cons ev' newer => exact ⟨hpid, newer, older, by grind⟩

lemma Standing.mem (h : Standing log pid session p) : .issued session p ∈ log := by
  obtain ⟨_, newer, older, rfl, _⟩ := h
  simp

/-- What must have come before an event.  A commit directly follows the call of
`consume` with the issued object, no later than the deadline; the permit stands
in the session of the commit and was not committed before.  A send is the only
one of a committed permit and hands over its samples as the host side has them. -/
def Event.Sound (cfg : Setup) : Event → Log → Prop
  | .committed pid session, older =>
    session.isSome ∧ (∀ session', .committed pid session' ∉ older) ∧
    ∃ p t rest, older = .presented (.issued pid p.samples) t :: rest ∧
      Standing rest pid session p ∧ t ≤ p.deadlineMono
  | .sent pid samples, older =>
    (∀ samples', .sent pid samples' ∉ older) ∧
    ∃ session p, .committed pid session ∈ older ∧ .issued session p ∈ older ∧
      p.permitId = pid ∧ samples = cfg.hostTxSamples p.chains p.samples
  | _, _ => True

@[grind]
def Binding (cfg : Setup) : Log → Prop
  | [] => True
  | ev :: older => ev.Sound cfg older ∧ Binding cfg older

lemma Binding.committed_of_sent {cfg : Setup} {samples : Samples} :
    ∀ {log : Log}, Binding cfg log → .sent pid samples ∈ log →
      ∃ session, .committed pid session ∈ log := by
  intro log
  induction log with
  | nil => grind
  | cons ev log ih =>
    intro hbind hmem
    rcases mem_cons.mp hmem with rfl | hmem
    · obtain ⟨_, session, _, hcommitted, _⟩ := hbind.1
      exact ⟨session, mem_cons_of_mem _ hcommitted⟩
    · grind

/-! ## The view -/

structure Desk where
  clock : ℚ
  state : TxState
  tripGen : ℕ
  session : Option SessionId
  registry : List PermitId
  entries : PermitId → Entry
  nextId : ℕ
  log : Log

def desk (x : Sys × Log) : Desk where
  clock := x.1.clock
  state := x.1.state
  tripGen := x.1.tripGen
  session := x.1.armRecord.map (·.sessionId)
  registry := x.1.registry
  entries := x.1.entries
  nextId := x.1.nextId
  log := x.2

@[grind]
def Later (p q : Desk) : Prop := p.clock ≤ q.clock ∧ q = { p with clock := q.clock }

def view : View Sys Cmd Log Desk where
  watch := watch
  get := desk
  later := Later

@[grind =] lemma view_get (x : Sys × Log) : view.get x = desk x := rfl

instance : Looks view := ⟨fun _ => rfl⟩

abbrev ctx : Context Sys Cmd Log := view.ctx

abbrev On : (Desk → Prop) → Sys × Log → Prop := view.On

abbrev Lasting : (Desk → Prop) → Prop := view.Lasting

abbrev Faint : Cmd → Prop := view.Faint

lemma rely_of_passes (x y : Sys × Log) (h : Passes watch x y) : ctx.rely x y := by
  obtain ⟨d, rfl⟩ := h
  exact .inr ⟨le_add_of_nonneg_right d.2, rfl⟩

variable {X : Desk → Prop}

lemma lasting_of_clock (h : ∀ p t, X p → p.clock ≤ t → X { p with clock := t }) : Lasting X := by
  intro p q hp hpq
  have hq : q = { p with clock := q.clock } := hpq.2
  rw [hq]
  exact h p q.clock hp hpq.1

/-! ## The invariant -/

@[grind]
def Kept (K : Log → Prop) : Prop :=
  ∀ ev log, K log → (∀ pid samples, ev ≠ .sent pid samples) → K (ev :: log)

lemma kept_true : Kept fun _ => True := fun _ _ _ _ => trivial

/-- The log and the entries agree; `K` is what the caller of an operation wants to
keep of the log. -/
@[grind]
structure Filed (cfg : Setup) (K : Log → Prop) (p : Desk) : Prop where
  ids : ∀ pid ∈ p.registry, pid < p.nextId
  issued : ∀ session q, .issued session q ∈ p.log →
    q.permitId < p.nextId ∧ (p.entries q.permitId).permit = q ∧ q.digest = q.samples
  committed : ∀ pid session, .committed pid session ∈ p.log → pid < p.nextId
  unused : ∀ pid ∈ p.registry, (p.entries pid).consumed = false →
    ∀ session, .committed pid session ∉ p.log
  binding : Binding cfg p.log
  kept : K p.log

/-- The registered permits belong to the running session. -/
@[grind]
structure Open (p : Desk) : Prop where
  live : p.registry ≠ [] → p.state.isLive = true
  session : ∀ pid ∈ p.registry, p.session = some (p.entries pid).session
  standing : ∀ pid ∈ p.registry,
    Standing p.log pid (some (p.entries pid).session) (p.entries pid).permit

@[grind]
def Base (cfg : Setup) (K : Log → Prop) (p : Desk) : Prop := Filed cfg K p ∧ Open p

section

variable {cfg : Setup} {K : Log → Prop} {p q : Desk}

lemma Filed.base (h : Filed cfg K p) (hreg : p.registry = []) : Base cfg K p := by
  grind

lemma Filed.ease (h : Filed cfg K p) (hlog : q.log = p.log) (hentries : q.entries = p.entries)
    (hids : p.nextId ≤ q.nextId) (hreg : q.registry ⊆ p.registry) : Filed cfg K q := by
  constructor <;> grind

lemma Base.ease (h : Base cfg K p) (hlog : q.log = p.log) (hentries : q.entries = p.entries)
    (hids : p.nextId ≤ q.nextId) (hreg : q.registry ⊆ p.registry)
    (hsession : q.session = p.session) (hstate : q.state = p.state) : Base cfg K q := by
  refine ⟨h.1.ease hlog hentries hids hreg, ?_, ?_, ?_⟩
  · intro hne
    rw [hstate]
    refine h.2.live fun hnil => hne ?_
    rw [hnil] at hreg
    exact eq_nil_of_subset_nil hreg
  · intro pid hpid
    rw [hsession, hentries]
    exact h.2.session pid (hreg hpid)
  · intro pid hpid
    rw [hlog, hentries]
    exact h.2.standing pid (hreg hpid)

lemma Filed.cons (h : Filed cfg K p) (hK : Kept K) {ev : Event}
    (hev : ev = .down ∨ ∃ handle t, ev = .presented handle t) :
    Filed cfg K { p with log := ev :: p.log } := by
  have hsound : ev.Sound cfg p.log := by
    rcases hev with rfl | ⟨handle, t, rfl⟩ <;> exact trivial
  constructor <;> grind

lemma lasting_filed (cfg : Setup) (K : Log → Prop) : Lasting (Filed cfg K) := lasting_of_clock (by grind)

lemma lasting_base (cfg : Setup) (K : Log → Prop) : Lasting (Base cfg K) :=
  lasting_of_clock fun _ _ h _ => h.ease rfl rfl le_rfl (.refl _) rfl rfl

end

/-! ## Away from the commits -/

/-- What the parts of an operation away from its commits leave. -/
@[grind]
structure Eases (p q : Desk) : Prop where
  clock : p.clock ≤ q.clock
  entries : q.entries = p.entries
  registry : q.registry ⊆ p.registry
  rest : q.registry = [] ∨ (q.log = p.log ∧ q.session = p.session)

def Steady (X : Desk → Prop) : Prop := ∀ p q, X p → Eases p q → X q

lemma Steady.lasting (h : Steady X) : Lasting X :=
  lasting_of_clock fun p _ hp ht => h p _ hp ⟨ht, rfl, .refl _, .inr ⟨rfl, rfl⟩⟩

lemma steady_true : Steady fun _ => True := fun _ _ _ _ => trivial

lemma steady_empty : Steady fun p => p.registry = [] := by
  grind [Steady, eq_nil_of_subset_nil]

section

variable {cfg : Setup} {K : Log → Prop} {c : Cmd}

lemma desk_step_shutting (hc : c.Shutting cfg) (x : Sys × Log) :
    (∃ st session, desk (watch.step c x) = { desk x with state := st, session := session }) ∨
      desk (watch.step c x) =
        { desk x with tripGen := x.1.tripGen + 1, log := .down :: x.2 } := by
  cases hc with
  | lines h => cases h <;> exact .inl ⟨x.1.state, (desk x).session, rfl⟩
  | note point h =>
    cases point with
    | sent pid samples => exact absurd rfl (h pid samples)
    | _ => exact .inl ⟨x.1.state, (desk x).session, rfl⟩
  | bump caller => exact .inr rfl
  | latch => exact .inl ⟨.fault, (desk x).session, rfl⟩
  | mark latched => exact .inl ⟨if latched then .fault else .safe, (desk x).session, rfl⟩
  | setArmRecord => exact .inl ⟨x.1.state, none, rfl⟩
  | _ => exact .inl ⟨x.1.state, (desk x).session, rfl⟩

lemma Filed.shutting (hK : Kept K) (hc : c.Shutting cfg) {x : Sys × Log}
    (h : Filed cfg K (desk x)) : Filed cfg K (desk (watch.step c x)) := by
  rcases desk_step_shutting hc x with ⟨st, session, heq⟩ | heq <;> rw [heq]
  · constructor <;> grind
  · have hdown : Filed cfg K { desk x with log := .down :: x.2 } := h.cons hK (.inl rfl)
    constructor <;> grind

@[grind]
def Falling (cfg : Setup) (K : Log → Prop) (p q : Desk) : Prop :=
  Filed cfg K q ∧ (p.clock ≤ q.clock ∧ q.entries = p.entries)

lemma lasting_falling (p : Desk) : Lasting (Falling cfg K p) := by
  exact (lasting_filed cfg K).and (lasting_of_clock (by grind))

lemma lasting_fallen (p : Desk) : Lasting fun q => Falling cfg K p q ∧ q.registry = [] :=
  (lasting_falling p).and steady_empty.lasting

lemma Falling.shutting (hK : Kept K) {p : Desk} (hc : c.Shutting cfg) {x : Sys × Log}
    (h : Falling cfg K p (desk x)) : Falling cfg K p (desk (watch.step c x)) := by
  have hfiled := h.1.shutting hK hc
  have hstep := desk_step_shutting hc x
  grind

lemma registry_shutting (hc : c.Shutting cfg) (x : Sys × Log) :
    (desk (watch.step c x)).registry = x.1.registry := by
  have hstep := desk_step_shutting hc x
  grind [desk]

lemma shutdownKept_falling (hK : Kept K) (p : Desk) :
    ShutdownKept cfg ctx (On (Falling cfg K p)) (On fun q => Falling cfg K p q ∧ q.registry = [])
      (On fun q => Falling cfg K p q ∧ q.registry = []) where
  stable := (lasting_falling p).stable
  stable' := (lasting_fallen p).stable
  stablePost := (lasting_fallen p).stable
  step c hc y hy _ := ⟨trivial, hy.shutting hK hc⟩
  stepPost c hc y hy _ := ⟨trivial, hy.1.shutting hK hc, (registry_shutting hc y).trans hy.2⟩
  clearRegistry y hy _ := by
    refine ⟨trivial, ⟨?_, hy.2⟩, rfl⟩
    exact hy.1.ease rfl rfl le_rfl (nil_subset _)
  releaseAll y hy _ := ⟨trivial, hy⟩

lemma fallen_base {p q : Desk} (hX : Steady X) (hp : X p)
    (h : Falling cfg K p q ∧ q.registry = []) : Base cfg K q ∧ X q :=
  ⟨h.1.1.base h.2, hX p q hp ⟨h.1.2.1, h.1.2.2, h.2 ▸ nil_subset _, .inl h.2⟩⟩

lemma keeps_idle (hX : Steady X) (hc : c.Idle) (x : Sys × Log)
    (hx : On (fun p => Base cfg K p ∧ X p) x) :
    On (fun p => Base cfg K p ∧ X p) (ctx.step c x) := by
  cases hc with
  | popRegistry pid =>
    exact ⟨hx.1.ease rfl rfl le_rfl filter_sublist.subset rfl rfl,
      hX _ _ hx.2 ⟨le_rfl, rfl, filter_sublist.subset, .inr ⟨rfl, rfl⟩⟩⟩
  | fresh =>
    exact ⟨hx.1.ease rfl rfl (Nat.le_succ _) (.refl _) rfl rfl,
      hX _ _ hx.2 ⟨le_rfl, rfl, .refl _, .inr ⟨rfl, rfl⟩⟩⟩
  | _ => exact hx

lemma keeps_only (hX : Steady X) {α : Type} {prog : Proc α} (hp : Only Cmd.Idle prog) :
    Keeps ctx (On fun p => Base cfg K p ∧ X p) prog :=
  Keeps.of_only ((lasting_base cfg K).and hX.lasting).stable
    (fun _ hc y hy _ => ⟨trivial, keeps_idle hX hc y hy⟩) hp

lemma keeps_of_falling {prog : Proc Unit} (hX : Steady X)
    (h : ∀ p, Triple ctx (On (Falling cfg K p)) prog
      (fun _ => On fun q => Falling cfg K p q ∧ q.registry = []) fun _ _ => False) :
    Keeps ctx (On fun p => Base cfg K p ∧ X p) prog :=
  fun x hx => .mono (fun _ _ hy => fallen_base hX hx.2 hy) (fun _ _ hy => hy.elim) prog x
    (h (desk x) x ⟨hx.1.1, le_rfl, rfl⟩)

lemma robust_base (cfg : Setup) (me : Thread) (hK : Kept K) (hX : Steady X) :
    Robust cfg me ctx (On fun p => Base cfg K p ∧ X p) where
  stable := ((lasting_base cfg K).and hX.lasting).stable
  idle _ hc y hy _ := ⟨trivial, keeps_idle hX hc y hy⟩
  drop := by
    refine Robust.drop_of_release ((lasting_base cfg K).and hX.lasting).stable
      (fun _ hc y hy _ => ⟨trivial, keeps_idle hX hc y hy⟩) ?_
    exact fun pid y hy _ => ⟨trivial, hy⟩
  shutdown fault := keeps_of_falling hX fun p => (shutdownKept_falling hK p).safeShutdown me fault
  trip code := keeps_of_falling hX fun p => (shutdownKept_falling hK p).trip me code

lemma robust_plain (cfg : Setup) (me : Thread) (hK : Kept K) :
    Robust cfg me ctx (On (Base cfg K)) := by
  have h := robust_base cfg me hK steady_true
  simpa only [and_true] using h

lemma faint_of_lines (hc : c.Lines cfg) : Faint c := by
  cases hc <;> exact fun _ => rfl

abbrev Fails (cfg : Setup) (K : Log → Prop) : Stop → Sys × Log → Prop := view.Fails (Base cfg K)

lemma keeps_faint (hc : Faint c) : Keeps ctx (On (Base cfg K)) (does c : Proc Unit) :=
  (lasting_base cfg K).does fun _ hx => hc.on (P := Base cfg K) hx

end

/-! ## Changes of the desk -/

section

variable {cfg : Setup} {K : Log → Prop} {p : Desk}

lemma Base.with {K' : Log → Prop} (h : Base cfg K p) (hK' : K' p.log) : Base cfg K' p :=
  ⟨⟨h.1.ids, h.1.issued, h.1.committed, h.1.unused, h.1.binding, hK'⟩, h.2⟩

lemma Base.present (h : Base cfg K p) (hK : Kept K) (handle : Handle) (t : ℚ) :
    Base cfg K { p with log := .presented handle t :: p.log } :=
  ⟨h.1.cons hK (.inr ⟨handle, t, rfl⟩), h.2.live, h.2.session,
    fun pid hpid => (h.2.standing pid hpid).cons (by simp)⟩

variable {e : Entry}

lemma Base.setEntry (h : Base cfg K p) (hpermit : e.permit = (p.entries pid).permit)
    (hsession : e.session = (p.entries pid).session)
    (hunused : e.consumed = false → (p.entries pid).consumed = false) :
    Base cfg K { p with entries := Function.update p.entries pid e } := by
  have hentries := Function.update_apply p.entries pid e
  simp only [Base] at h ⊢
  constructor <;> constructor <;> grind

@[grind]
def Unissued (pid : PermitId) (p : Desk) : Prop :=
  pid ∉ p.registry ∧ (∀ session q, .issued session q ∈ p.log → q.permitId ≠ pid) ∧
    ∀ session, .committed pid session ∉ p.log

lemma Filed.unissued (h : Filed cfg K p) : Unissued p.nextId p := by
  grind

lemma Base.register (h : Base cfg K p) (hK : Kept K) (hlive : p.state.isLive)
    (hsession : p.session = some e.session) (hpid : e.permit.permitId = pid) (hid : pid < p.nextId)
    (hnew : Unissued pid p) (hdigest : e.permit.digest = e.permit.samples) :
    Base cfg K
      { p with
        registry := p.registry ++ [pid]
        entries := Function.update p.entries pid e
        log := .issued p.session e.permit :: p.log } := by
  have hstanding (q : PermitId) (hq : q ∈ p.registry) := (h.2.standing q hq).cons
    (by simp : Event.issued p.session e.permit ≠ .down)
  have hself : Standing (.issued p.session e.permit :: p.log) pid (some e.session) e.permit :=
    ⟨hpid, [], p.log, by rw [hsession]; rfl, not_mem_nil⟩
  obtain ⟨⟨_, hissued, _, _, hbinding, hkept⟩, _, _, _⟩ := h
  refine ⟨⟨?_, ?_, ?_, ?_, ⟨trivial, hbinding⟩, hK _ _ hkept (by simp)⟩, fun _ => hlive, ?_, ?_⟩ <;>
    simp only [Function.update_apply] <;> grind

lemma Base.fit (h : Base cfg K p) {data : Samples} {t : ℚ} {older : Log}
    (hlog : p.log = .presented (.issued pid data) t :: older) (hmem : pid ∈ p.registry)
    (he : p.entries pid = e) (hunused : e.consumed = false) (hdata : data = e.permit.digest)
    (ht : t ≤ e.permit.deadlineMono) : Event.Sound cfg (.committed pid (some e.session)) p.log := by
  subst he
  have hstanding := h.2.standing pid hmem
  have hissued := h.1.issued _ _ hstanding.mem
  rw [hlog] at hstanding
  refine ⟨rfl, h.1.unused pid hmem hunused, (p.entries pid).permit, t, older, ?_, hstanding.of_cons (by simp), ht⟩
  grind

lemma Base.commit (h : Base cfg K p) (hK : Kept K) (hmem : pid ∈ p.registry)
    (hused : (p.entries pid).consumed)
    (hsound : Event.Sound cfg (.committed pid p.session) p.log) :
    Base cfg K { p with state := .transmitting, log := .committed pid p.session :: p.log } := by
  have hstanding (q : PermitId) (hq : q ∈ p.registry) := (h.2.standing q hq).cons
    (by simp : Event.committed pid p.session ≠ .down)
  obtain ⟨⟨_, _, _, _, hbinding, hkept⟩, _, _, _⟩ := h
  refine ⟨⟨?_, ?_, ?_, ?_, ⟨hsound, hbinding⟩, hK _ _ hkept (by simp)⟩, fun _ => rfl, ?_, hstanding⟩ <;>
    grind

end

end HeimdallDaq.Tx.Permits
