/-
  Tx/Ledger.lean --- the duty bound over whole runs.

  The ledger keeps every burst that `consume` ever recorded, also those the meter has
  pruned.
-/
import HeimdallDaq.Tx.Handlers
import Mathlib

namespace HeimdallDaq.Tx.Ledger

open Foundation List Function
open Prog (does)
open DutyCycleMeter (real)
open View (aside rest refused)

abbrev Book := List (ℚ × ℚ)

def see : Cmd → Sys → Book → Book
  | .record _ start dur, _, book => book ++ [(start, dur)]
  | _, _, book => book

def watch : Watch Sys Cmd Book where
  apply := Cmd.apply
  obs := see

structure Page where
  clock : ℚ
  duty : DutyCycleMeter PermitId
  entries : PermitId → Entry
  nextId : ℕ
  registry : List PermitId
  book : Book

def page (x : Sys × Book) : Page where
  clock := x.1.clock
  duty := x.1.duty
  entries := x.1.entries
  nextId := x.1.nextId
  registry := x.1.registry
  book := x.2

/-! ## Interference -/

/-- Time passes, and the permits are dropped all together with their reservations
or not at all. -/
@[grind]
structure Later (p q : Page) : Prop where
  clock : p.clock ≤ q.clock
  window : q.duty.windowS = p.duty.windowS
  dutyMax : q.duty.dutyMax = p.duty.dutyMax
  bursts : q.duty.bursts = p.duty.bursts
  entries : q.entries = p.entries
  nextId : q.nextId = p.nextId
  book : q.book = p.book
  permits : (q.registry = p.registry ∧ q.duty.reserved = p.duty.reserved) ∨
    (q.registry = [] ∧ q.duty.reserved.Sublist p.duty.reserved)

lemma Later.refl (p : Page) : Later p p := by
  grind

lemma Later.trans {p q r : Page} (h : Later p q) (h' : Later q r) : Later p r := by
  constructor <;> grind [List.Sublist.trans]

def view : View Sys Cmd Book Page where
  watch := watch
  get := page
  later := Later

instance : Looks view := ⟨fun _ => rfl⟩

abbrev ctx : Context Sys Cmd Book := view.ctx

abbrev On : (Page → Prop) → Sys × Book → Prop := view.On

abbrev Lasting : (Page → Prop) → Prop := view.Lasting

abbrev Faint : Cmd → Prop := view.Faint

lemma faint_of_shutting {cfg : Setup} {c : Cmd} (h : c.Shutting cfg) : Faint c := by
  cases h with
  | lines h => cases h <;> exact fun _ => rfl
  | _ => exact fun _ => rfl

lemma shutdownKept_later (cfg : Setup) (p : Page) :
    ShutdownKept cfg ctx (On (Later p)) (On fun q => Later p q ∧ q.registry = [])
      (On (Later p)) where
  stable := View.Lasting.stable fun _ _ h h' => Later.trans h h'
  stablePost := View.Lasting.stable fun _ _ h h' => Later.trans h h'
  stable' := by
    refine View.Lasting.stable fun q r h h' => ⟨h.1.trans h', ?_⟩
    rcases Later.permits h' with ⟨hreg, _⟩ | ⟨hreg, _⟩
    · rw [hreg, h.2]
    · exact hreg
  step c hc y hy _ := ⟨trivial, (faint_of_shutting hc).on hy⟩
  stepPost c hc y hy _ := ⟨trivial, (faint_of_shutting hc).on hy⟩
  clearRegistry y hy _ := by
    refine ⟨trivial, ⟨hy.clock, hy.window, hy.dutyMax, hy.bursts, hy.entries, hy.nextId, hy.book,
      Or.inr ⟨rfl, ?_⟩⟩, rfl⟩
    rcases hy.permits with ⟨_, hres⟩ | ⟨_, hres⟩
    · exact hres ▸ List.Sublist.refl _
    · exact hres
  releaseAll y hy _ :=
    ⟨trivial, hy.1.clock, hy.1.window, hy.1.dutyMax, hy.1.bursts, hy.1.entries, hy.1.nextId,
      hy.1.book, .inr ⟨hy.2, nil_sublist _⟩⟩

lemma rely_of_interference (cfg : Setup) (me : Thread) (depth : ℕ) :
    ∀ x y, interference watch cfg me depth x y → ctx.rely x y := by
  refine interference_le (R := ctx.rely) (fun _ => .inl rfl)
    (fun _ _ _ => View.rely_trans fun _ _ _ => Later.trans) ?_ ?_ depth
  · rintro x _ ⟨d, rfl⟩
    refine .inr ⟨?_, rfl, rfl, rfl, rfl, rfl, rfl, .inl ⟨rfl, rfl⟩⟩
    exact le_add_of_nonneg_right d.2
  · intro handler x y hexec
    have hkeeps : Keeps ctx (On (Later (page x))) (handler.prog cfg me) := by
      cases handler with
      | trip code => exact (shutdownKept_later cfg _).trip me code
      | safeShutdown => exact (shutdownKept_later cfg _).safeShutdown me false
    exact Or.inr ((Spec.sound (hkeeps x (Later.refl _)) (fun _ _ => trivial) hexec).1 () rfl)

/-! ## The bound -/

def Bounded (m : DutyCycleMeter PermitId) (l : List (ℚ × ℚ)) : Prop :=
  ∀ t : ℝ, busy (m.windowS : ℝ) (real l) t ≤ (m.limit : ℝ)

variable {m : DutyCycleMeter PermitId} {l l' : List (ℚ × ℚ)}

lemma Bounded.of_sublist (h : Bounded m l) (hsub : l'.Sublist l) : Bounded m l' :=
  fun t => (busy_le_of_sublist (hsub.map _)).trans (h t)

lemma Bounded.of_perm (h : Bounded m l) (hperm : l'.Perm l) : Bounded m l' := by
  intro t
  have heq : busy (m.windowS : ℝ) (real l') t = busy (m.windowS : ℝ) (real l) t :=
    busy_perm (hperm.map _)
  rw [heq]
  exact h t

variable (exclude : Option PermitId) (reserved : List (PermitId × (ℚ × ℚ)))

def others : List (ℚ × ℚ) := (reserved.filter fun r => decide (some r.1 ≠ exclude)).map (·.2)

lemma others_none : others none reserved = reserved.map (·.2) := by
  simp [others]

lemma others_sublist {r r' : List (PermitId × (ℚ × ℚ))}
    (h : r.Sublist r') : (others exclude r).Sublist (others exclude r') := (h.filter _).map _

lemma Bounded.of_reserved {book : Book} {pid : PermitId}
    {b : ℚ × ℚ} {reserved : List (PermitId × (ℚ × ℚ))}
    (h : Bounded m (book ++ reserved.map (·.2))) (hmem : (pid, b) ∈ reserved) :
    Bounded m (book ++ [b] ++ others (some pid) reserved) := by
  let keep : PermitId × (ℚ × ℚ) → Bool := fun r => decide (some r.1 ≠ some pid)
  have hperm : (others (some pid) reserved ++ (reserved.filter fun r => !keep r).map (·.2)).Perm
      (reserved.map (·.2)) := by
    have := (filter_append_perm keep reserved).map (·.2)
    rwa [map_append] at this
  have hone : [b].Sublist ((reserved.filter fun r => !keep r).map (·.2)) :=
    singleton_sublist.mpr
      (mem_map.mpr ⟨(pid, b), mem_filter.mpr ⟨hmem, by simp [keep]⟩, rfl⟩)
  have hsub : (book ++ (others (some pid) reserved ++ [b])).Sublist
      (book ++ (others (some pid) reserved ++ (reserved.filter fun r => !keep r).map (·.2))) :=
    (List.Sublist.refl _).append ((List.Sublist.refl _).append hone)
  refine ((h.of_perm (hperm.append_left book)).of_sublist hsub).of_perm ?_
  rw [append_assoc]
  exact perm_append_comm.append_left book

/-! ## The invariant -/

@[grind]
def Pruned (m : DutyCycleMeter PermitId) (now : ℚ) (p : Page) : Prop :=
  ∃ old : Book, p.book.Perm (old ++ p.duty.bursts) ∧ ∀ b ∈ old, b.1 + b.2 < now - m.windowS

/-- The meter `m` of the start over a run.  A permit that is registered and not
consumed has its reservation, except for one that is being issued. -/
structure Metered (m : DutyCycleMeter PermitId) (pending : Option PermitId) (p : Page) : Prop where
  window : p.duty.windowS = m.windowS
  dutyMax : p.duty.dutyMax = m.dutyMax
  pruned : Pruned m p.clock p
  nonneg : ∀ b ∈ p.book, 0 ≤ b.2
  reserved_nonneg : ∀ r ∈ p.duty.reserved, 0 ≤ r.2.2
  bound : Bounded m (p.book ++ p.duty.reserved.map (·.2))
  linked : ∀ pid ∈ p.registry, some pid ≠ pending → (p.entries pid).consumed = false →
    (pid, ((p.entries pid).dutyAt, (p.entries pid).permit.durationS)) ∈ p.duty.reserved
  offset : ∀ pid ∈ p.registry, 0 ≤ (p.entries pid).atOffset
  ids : ∀ pid ∈ p.registry, pid < p.nextId

@[grind]
def Admitted (m : DutyCycleMeter PermitId) (exclude : Option PermitId) (start dur : ℚ) (p : Page) :
    Prop := 0 ≤ dur ∧ Bounded m (p.book ++ [(start, dur)] ++ others exclude p.duty.reserved)

section

variable {pending : Option PermitId} {p q : Page}

lemma Metered.limit (h : Metered m pending p) : p.duty.limit = m.limit := by
  simp only [DutyCycleMeter.limit, h.window, h.dutyMax]

lemma Metered.intervals_nonneg (h : Metered m pending p) (exclude : Option PermitId) :
    ∀ b ∈ p.duty.intervals exclude, 0 ≤ b.2 := by
  obtain ⟨old, hperm, _⟩ := h.pruned
  have hbursts : ∀ b ∈ p.duty.bursts, b ∈ p.book := fun b hb => hperm.mem_iff.mpr (by simp [hb])
  have hnonneg := h.nonneg
  have hreserved := h.reserved_nonneg
  grind [DutyCycleMeter.intervals]

/-- A burst that `would_exceed` accepts is admitted, if it starts no earlier than
the time up to which the meter has pruned. -/
lemma Metered.admitted (h : Metered m pending p) {now start dur : ℚ}
    {exclude : Option PermitId} (hpruned : Pruned m now p) (hnow : now ≤ start) (hdur : 0 ≤ dur)
    (hok : p.duty.wouldExceed dur start exclude = false) : Admitted m exclude start dur p := by
  refine ⟨hdur, fun t => ?_⟩
  have hmax : max 0 dur = dur := max_eq_right hdur
  have hothers : busy (m.windowS : ℝ) (real (p.book ++ others exclude p.duty.reserved)) t ≤
      (m.limit : ℝ) :=
    h.bound.of_sublist ((List.Sublist.refl _).append (filter_sublist.map _)) t
  have hsplit : busy (m.windowS : ℝ)
      (real (p.book ++ [(start, dur)] ++ others exclude p.duty.reserved)) t =
      overlap (start : ℝ) dur (t - m.windowS) t +
        busy (m.windowS : ℝ) (real (p.book ++ others exclude p.duty.reserved)) t := by
    simp only [DutyCycleMeter.real_append, busy_append]
    simp only [real, map_cons, map_nil, busy_cons, busy_nil]
    ring
  rw [hsplit]
  rcases le_total t start with ht | ht
  · rw [overlap_eq_zero_of_ge ht, zero_add]
    exact hothers
  rcases le_total ((start + dur : ℚ) : ℝ) (t - m.windowS) with ht' | ht'
  · push_cast at ht'
    rw [overlap_eq_zero_of_le ht', zero_add]
    exact hothers
  · -- the window overlaps the burst, and the pruned bursts are out of its reach
    obtain ⟨old, hperm, hold⟩ := hpruned
    have hzero : busy (m.windowS : ℝ) (real old) t = 0 := by
      refine busy_eq_zero fun b hb => ?_
      obtain ⟨c, hc, rfl⟩ := mem_map.mp hb
      have hend : ((c.1 + c.2 : ℚ) : ℝ) ≤ ((start - m.windowS : ℚ) : ℝ) :=
        Rat.cast_le.mpr ((hold c hc).le.trans (by linarith))
      push_cast at hend
      exact overlap_eq_zero_of_le (by linarith)
    have hbook : busy (m.windowS : ℝ) (real p.book) t =
        busy (m.windowS : ℝ) (real p.duty.bursts) t := by
      have hp : busy (m.windowS : ℝ) (real p.book) t =
          busy (m.windowS : ℝ) (real (old ++ p.duty.bursts)) t := busy_perm (hperm.map _)
      rw [hp, DutyCycleMeter.real_append, busy_append, hzero, zero_add]
    have hhi : t ≤ ((start + max 0 dur + p.duty.windowS : ℚ) : ℝ) := by
      rw [hmax, h.window]
      push_cast at ht' ⊢
      linarith
    have hle := p.duty.busy_le_maxBusy (h.intervals_nonneg exclude) ht hhi
    have hlim : p.duty.maxBusy start dur exclude ≤ m.limit := by
      rw [← h.limit]
      exact not_lt.mp (of_decide_eq_false hok)
    refine le_trans (le_of_eq ?_) (hle.trans (Rat.cast_le.mpr hlim))
    rw [DutyCycleMeter.proposed, DutyCycleMeter.intervals, hmax, h.window]
    simp only [DutyCycleMeter.real_append, busy_append, hbook]
    simp only [real, others, map_cons, map_nil, busy_cons, busy_nil]
    ring

end

/-! ## What relieves the meter -/

/-- Fewer permits and reservations, later. -/
@[grind]
structure Eases (p q : Page) : Prop where
  bursts : q.duty.bursts = p.duty.bursts
  entries : q.entries = p.entries
  book : q.book = p.book
  registry : q.registry.Sublist p.registry
  reserved : q.duty.reserved.Sublist p.duty.reserved

lemma Later.eases {p q : Page} (h : Later p q) : Eases p q := by
  constructor <;> grind

def Steady (X : Page → Prop) : Prop := ∀ p q, X p → Eases p q → X q

variable {X : Page → Prop}

lemma Steady.lasting (h : Steady X) : Lasting X := fun p q hp hpq => h p q hp (Later.eases hpq)

lemma Steady.and {X Y : Page → Prop} (hX : Steady X) (hY : Steady Y) :
    Steady fun p => X p ∧ Y p := fun p q hp hpq => ⟨hX p q hp.1 hpq, hY p q hp.2 hpq⟩

lemma steady_pruned (m : DutyCycleMeter PermitId) (now : ℚ) : Steady (Pruned m now) := by
  grind [Steady]

lemma steady_admitted (m : DutyCycleMeter PermitId) (exclude : Option PermitId) (start dur : ℚ) :
    Steady (Admitted m exclude start dur) := by
  rintro p q ⟨hdur, hbound⟩ hpq
  exact ⟨hdur, hpq.book ▸ hbound.of_sublist ((List.Sublist.refl _).append (others_sublist exclude hpq.reserved))⟩

lemma steady_entry (pid : PermitId) (e : Entry) : Steady fun p => p.entries pid = e := by
  intro p q hp hpq
  rw [hpq.entries]
  exact hp

lemma steady_imp_registered {pid : PermitId} (hX : Steady X) :
    Steady fun p => pid ∈ p.registry → X p :=
  fun p q hp hpq hmem => hX p q (hp (hpq.registry.subset hmem)) hpq

section

variable {pending : Option PermitId}

lemma Metered.ease {p q : Page} (h : Metered m pending p) (hpq : Eases p q)
    (hclock : p.clock ≤ q.clock) (hwindow : q.duty.windowS = p.duty.windowS)
    (hduty : q.duty.dutyMax = p.duty.dutyMax) (hids : p.nextId ≤ q.nextId)
    (hlinked : ∀ pid ∈ q.registry, some pid ≠ pending → ∀ b, (pid, b) ∈ p.duty.reserved →
      (pid, b) ∈ q.duty.reserved) : Metered m pending q := by
  obtain ⟨old, hperm, hold⟩ := steady_pruned m _ p q h.pruned hpq
  have hsub := hpq.registry.subset
  have hbound : Bounded m (q.book ++ q.duty.reserved.map (·.2)) :=
    hpq.book ▸ h.bound.of_sublist ((List.Sublist.refl _).append (hpq.reserved.map _))
  exact {
    window := hwindow.trans h.window
    dutyMax := hduty.trans h.dutyMax
    pruned := ⟨old, hperm, fun b hb => (hold b hb).trans_le (by linarith)⟩
    nonneg := hpq.book ▸ h.nonneg
    reserved_nonneg := fun r hr => h.reserved_nonneg r (hpq.reserved.subset hr)
    bound := hbound
    linked := fun pid hpid hne hcons => by
      rw [hpq.entries] at hcons ⊢
      exact hlinked pid hpid hne _ (h.linked pid (hsub hpid) hne hcons)
    offset := fun pid hpid => hpq.entries ▸ h.offset pid (hsub hpid)
    ids := fun pid hpid => (h.ids pid (hsub hpid)).trans_le hids }

lemma lasting_metered (m : DutyCycleMeter PermitId) (pending : Option PermitId) :
    Lasting (Metered m pending) := by
  intro p q h hpq
  have hpq : Later p q := hpq
  exact h.ease hpq.eases hpq.clock hpq.window hpq.dutyMax hpq.nextId.ge (by grind)

variable {x : Sys × Book}

lemma Metered.pop (h : Metered m pending (page x)) (pid : PermitId) :
    Metered m pending (page (watch.step (.popRegistry pid) x)) :=
  h.ease ⟨rfl, rfl, rfl, filter_sublist, .refl _⟩ le_rfl rfl rfl le_rfl
    fun _ _ _ _ hb => hb

lemma eases_release (pid : PermitId) (x : Sys × Book) :
    Eases (page x) (page (watch.step (.release pid) x)) :=
  ⟨rfl, rfl, rfl, .refl _, filter_sublist⟩

lemma Metered.release {pid : PermitId} (h : Metered m pending (page x))
    (hpid : pid ∉ x.1.registry) : Metered m pending (page (watch.step (.release pid) x)) := by
  refine h.ease (eases_release pid x) le_rfl rfl rfl le_rfl fun q hq _ b hb => ?_
  exact mem_filter.mpr ⟨hb, decide_eq_true fun heq => hpid (heq ▸ hq)⟩

lemma Metered.clearRegistry (h : Metered m pending (page x)) :
    Metered m pending (page (watch.step .clearRegistry x)) :=
  h.ease ⟨rfl, rfl, rfl, nil_sublist _, .refl _⟩ le_rfl rfl rfl le_rfl
    fun _ _ _ _ hb => hb

lemma Metered.releaseAll (h : Metered m pending (page x))
    (hreg : x.1.registry = []) : Metered m pending (page (watch.step .releaseAll x)) := by
  refine h.ease ⟨rfl, rfl, rfl, .refl _, nil_sublist _⟩ le_rfl rfl rfl le_rfl ?_
  exact fun q hq => absurd (hreg ▸ hq : q ∈ []) not_mem_nil

lemma page_step_idle {c : Cmd} (hc : c.Idle) (x : Sys × Book) :
    page (watch.step c x) = page x ∨ (∃ pid, c = .popRegistry pid) ∨ c = .fresh := by
  cases hc with
  | popRegistry pid => exact .inr (.inl ⟨pid, rfl⟩)
  | fresh => exact .inr (.inr rfl)
  | _ => exact .inl rfl

lemma keeps_idle (hX : Steady X) {c : Cmd} (hc : c.Idle) (x : Sys × Book)
    (hx : On (fun p => Metered m none p ∧ X p) x) :
    On (fun p => Metered m none p ∧ X p) (ctx.step c x) := by
  rcases page_step_idle hc x with h | ⟨pid, rfl⟩ | rfl
  · show Metered m none (page (watch.step c x)) ∧ X (page (watch.step c x))
    rw [h]
    exact hx
  · exact ⟨hx.1.pop pid, hX _ _ hx.2
      ⟨rfl, rfl, rfl, filter_sublist, .refl _⟩⟩
  · refine ⟨hx.1.ease ⟨rfl, rfl, rfl, .refl _, .refl _⟩ le_rfl rfl rfl
      (Nat.le_succ _) fun _ _ _ _ hb => hb, hX _ _ hx.2
      ⟨rfl, rfl, rfl, .refl _, .refl _⟩⟩

lemma keeps_drop (hX : Steady X) (pid : PermitId) (why : Revoked) :
    Keeps ctx (On fun p => Metered m none p ∧ X p) (dropPermit pid why) := by
  have hlast := (lasting_metered m none).and hX.lasting
  have hgone : Steady fun p => pid ∉ p.registry :=
    fun p q hp hpq hmem => hp (hpq.registry.subset hmem)
  refine Triple.bind (hlast.does (Q := fun p => (Metered m none p ∧ X p) ∧ pid ∉ p.registry)
    fun x hx => ⟨keeps_idle hX (.popRegistry pid) x hx, ?_⟩) fun _ => ?_
  · intro hmem
    have hmem' : pid ∈ x.1.registry.filter fun q => decide (q ≠ pid) := hmem
    simp at hmem'
  refine Triple.bind ((hlast.and hgone.lasting).does (Q := fun p => Metered m none p ∧ X p)
    fun x hx => ⟨hx.1.1.release hx.2, hX _ _ hx.1.2 (eases_release pid x)⟩) fun _ => ?_
  exact hlast.does fun _ h => h

lemma shutdownKept_metered (cfg : Setup) (hX : Steady X) :
    ShutdownKept cfg ctx (On fun p => Metered m none p ∧ X p)
      (On fun p => (Metered m none p ∧ X p) ∧ p.registry = [])
      (On fun p => Metered m none p ∧ X p) where
  stable := ((lasting_metered m none).and hX.lasting).stable
  stablePost := ((lasting_metered m none).and hX.lasting).stable
  stable' := by
    refine (((lasting_metered m none).and hX.lasting).and ?_).stable
    intro p q hp hpq
    exact sublist_nil.mp (hp ▸ (Later.eases hpq).registry)
  step c hc y hy _ := ⟨trivial, (faint_of_shutting hc).on hy⟩
  stepPost c hc y hy _ := ⟨trivial, (faint_of_shutting hc).on hy⟩
  clearRegistry y hy _ := ⟨trivial, ⟨hy.1.clearRegistry, hX _ _ hy.2
    ⟨rfl, rfl, rfl, nil_sublist _, .refl _⟩⟩, rfl⟩
  releaseAll y hy _ := ⟨trivial, hy.1.1.releaseAll hy.2, hX _ _ hy.1.2
    ⟨rfl, rfl, rfl, .refl _, nil_sublist _⟩⟩

lemma robust_metered (cfg : Setup) (me : Thread) (hX : Steady X) :
    Robust cfg me ctx (On fun p => Metered m none p ∧ X p) where
  stable := ((lasting_metered m none).and hX.lasting).stable
  idle _ hc y hy _ := ⟨trivial, keeps_idle hX hc y hy⟩
  drop := keeps_drop hX
  shutdown := (shutdownKept_metered cfg hX).safeShutdown me
  trip := (shutdownKept_metered cfg hX).trip me

end

/-! ## Issue, consume and record -/

section

variable {p : Page} {pid : PermitId}

lemma Metered.register (h : Metered m none p) {e : Entry} (hid : pid < p.nextId)
    (hnew : pid ∉ p.registry) (hoffset : 0 ≤ e.atOffset) :
    Metered m (some pid)
      { p with registry := p.registry ++ [pid], entries := update p.entries pid e } := by
  have hother : ∀ q ∈ p.registry, update p.entries pid e q = p.entries q :=
    fun q hq => update_of_ne (by rintro rfl; exact hnew hq) _ _
  have hself : update p.entries pid e pid = e := update_self _ _ _
  obtain ⟨_, _, _, _, _, _, hlinked, hoff, hids⟩ := h
  constructor <;> simp only <;> grind

variable {start dur : ℚ}

lemma Metered.reserve (h : Metered m (some pid) p)
    (hadm : Admitted m none start dur p) (hat : (p.entries pid).dutyAt = start)
    (hdur : (p.entries pid).permit.durationS = dur) :
    Metered m none { p with duty := p.duty.reserve pid start dur } := by
  have hlinked := h.linked
  have hreserved := h.reserved_nonneg
  refine ⟨h.window, h.dutyMax, h.pruned, h.nonneg, ?_, ?_, ?_, h.offset, h.ids⟩
  · grind [DutyCycleMeter.reserve, DutyCycleMeter.release]
  · have hall := hadm.2
    rw [others_none] at hall
    have hsub : (p.book ++ [(start, dur)] ++ (p.duty.release pid).reserved.map (·.2)).Sublist
        (p.book ++ [(start, dur)] ++ p.duty.reserved.map (·.2)) :=
      (List.Sublist.refl _).append (filter_sublist.map _)
    refine (hall.of_sublist hsub).of_perm ?_
    simp only [DutyCycleMeter.reserve, map_append, append_assoc]
    exact perm_append_comm.append_left p.book
  · grind [DutyCycleMeter.reserve, DutyCycleMeter.release]

lemma Metered.setEntry (h : Metered m none p) {e : Entry}
    (hoffset : e.atOffset = (p.entries pid).atOffset)
    (hburst : e.consumed = false → (p.entries pid).consumed = false ∧
      e.dutyAt = (p.entries pid).dutyAt ∧
      e.permit.durationS = (p.entries pid).permit.durationS) :
    Metered m none { p with entries := update p.entries pid e } := by
  have hlinked := h.linked
  have hoff := h.offset
  refine ⟨h.window, h.dutyMax, h.pruned, h.nonneg, h.reserved_nonneg, h.bound, ?_, ?_, h.ids⟩ <;>
    simp only [update_apply] <;> grind

lemma Metered.record (h : Metered m none p)
    (hadm : Admitted m (some pid) start dur p) (hcons : (p.entries pid).consumed) :
    Metered m none
      { p with
        duty := p.duty.record p.clock start dur pid
        book := p.book ++ [(start, dur)] } := by
  have hothers : (p.duty.release pid).reserved.map (·.2) = others (some pid) p.duty.reserved := by
    simp [DutyCycleMeter.release, others]
  refine ⟨h.window, h.dutyMax, ?_, ?_, ?_, ?_, ?_, h.offset, h.ids⟩
  · obtain ⟨old, hperm, hold⟩ := h.pruned
    let keep : ℚ × ℚ → Bool := fun b => decide (min start p.clock - p.duty.windowS ≤ b.1 + b.2)
    refine ⟨old ++ (p.duty.bursts ++ [(start, dur)]).filter fun b => !keep b, ?_, ?_⟩
    · have hsplit : (p.duty.bursts ++ [(start, dur)]).Perm
          (((p.duty.bursts ++ [(start, dur)]).filter fun b => !keep b) ++
            (p.duty.bursts ++ [(start, dur)]).filter keep) :=
        (filter_append_perm keep _).symm.trans perm_append_comm
      have hbook := hperm.append_right [(start, dur)]
      rw [append_assoc] at hbook ⊢
      exact hbook.trans (hsplit.append_left old)
    · intro b hb
      rcases mem_append.mp hb with hb | hb
      · exact hold b hb
      · have hdrop := (mem_filter.mp hb).2
        simp only [keep, Bool.not_eq_true', decide_eq_false_iff_not, not_le, h.window] at hdrop
        exact hdrop.trans_le (by linarith [min_le_right start p.clock])
  · intro b hb
    rcases mem_append.mp hb with hb | hb
    · exact h.nonneg b hb
    · rw [mem_singleton.mp hb]
      exact hadm.1
  · exact fun r hr => h.reserved_nonneg r (mem_filter.mp hr).1
  · show Bounded m (p.book ++ [(start, dur)] ++ (p.duty.release pid).reserved.map (·.2))
    rw [hothers]
    exact hadm.2
  · intro q hq hne hcons'
    refine mem_filter.mpr ⟨h.linked q hq hne hcons', decide_eq_true fun heq => ?_⟩
    have hpid : q = pid := heq
    rw [hpid, hcons] at hcons'
    exact absurd hcons' (by simp)

end

/-! ## The operations -/

section

variable (cfg : Setup) (me : Thread)

abbrev Fails (m : DutyCycleMeter PermitId) : Stop → Sys × Book → Prop := view.Fails (Metered m none)

lemma robust_plain : Robust cfg me ctx (On (Metered m none)) := by
  simpa only [and_true] using
    robust_metered (X := fun _ => True) cfg me fun _ _ _ _ => trivial

lemma faint_of_session {c : Cmd} (h : c.Session) : c.Idle ∨ Faint c := by
  cases h with
  | idle h => exact .inl h
  | writeRecord r ok => exact .inr fun _ => by cases ok <;> rfl
  | _ => exact .inr fun _ => rfl

lemma keeps_session (hX : Steady X) {α : Type} {p : Proc α} (hp : Only Cmd.Session p) :
    Keeps ctx (On fun p => Metered m none p ∧ X p) p := by
  refine .of_only ((lasting_metered m none).and hX.lasting).stable
    (fun c hc y hy _ => ⟨trivial, ?_⟩) hp
  rcases faint_of_session hc with hc | hc
  · exact keeps_idle hX hc y hy
  · exact hc.on hy

lemma keeps_session_plain {α : Type} {p : Proc α} (hp : Only Cmd.Session p) :
    Keeps ctx (On (Metered m none)) p := by
  simpa only [and_true] using keeps_session (X := fun _ => True) (fun _ _ _ _ => trivial) hp

lemma keeps_faint {c : Cmd} (hc : Faint c) : Keeps ctx (On (Metered m none)) (does c : Proc Unit) :=
  (lasting_metered m none).does fun _ hx => hc.on hx

lemma lasting_cleared (m : DutyCycleMeter PermitId) :
    Lasting fun p => Metered m none p ∧ p.registry = [] := by
  refine (lasting_metered m none).and fun p q hp hpq => ?_
  exact sublist_nil.mp (hp ▸ (Later.eases hpq).registry)

lemma armCommit_keeps (r : ArmRecord) (now dur : ℚ) :
    Keeps ctx (On (Metered m none)) (armCommit r now dur) := by
  unfold armCommit
  iterate 3 refine .bind (keeps_faint fun _ => rfl) fun _ => ?_
  refine Triple.bind ((lasting_metered m none).does
    (Q := fun p => Metered m none p ∧ p.registry = []) fun x hx => ⟨hx.clearRegistry, rfl⟩) fun _ => ?_
  refine Triple.bind ((lasting_cleared m).does (Q := Metered m none) fun x hx =>
    hx.1.releaseAll hx.2) fun _ => ?_
  iterate 2 refine .bind (keeps_faint fun _ => rfl) fun _ => ?_
  exact keeps_faint fun _ => rfl

lemma arm_keeps (req : ArmRequest) : Keeps ctx (On (Metered m none)) (arm cfg me req) := by
  have h := robust_plain (m := m) cfg me
  refine h.arm_of_finish ((lasting_metered m none).reads fun _ hx => hx) ?_ req
  exact h.armFinish_of_parts (fun r => keeps_session_plain (session_armWrite cfg me r))
    armCommit_keeps fun session => keeps_session_plain (session_undoInterrupted cfg me session none)

lemma refresh_keeps : Keeps ctx (On (Metered m none)) (refresh cfg me) :=
  (robust_plain cfg me).refresh_of_write (fun _ => keeps_faint fun _ => rfl) fun r now =>
    keeps_session_plain (session_refreshWrite cfg me r now)

lemma resetFault_keeps (req : ResetRequest) :
    Keeps ctx (On (Metered m none)) (resetFault cfg me req) := by
  refine (robust_plain cfg me).resetFault_of_stores (fun c hc => keeps_faint ?_) req
  simp only [mem_cons, not_mem_nil, or_false] at hc
  rcases hc with rfl | rfl | rfl | rfl <;> exact fun _ => rfl

/-! ## `authorize_burst` -/

@[grind]
def Registered (m : DutyCycleMeter PermitId) (pid : PermitId) (start dur : ℚ) (p : Page) : Prop :=
  Metered m (some pid) p ∧ (Admitted m none start dur p ∧
    ((p.entries pid).dutyAt = start ∧ (p.entries pid).permit.durationS = dur))

variable (pid : PermitId) (start dur : ℚ)

lemma lasting_registered : Lasting (Registered m pid start dur) := by
  refine (lasting_metered m (some pid)).and ((steady_admitted m none start dur).and ?_).lasting
  grind [Steady]

lemma lasting_unregistered : Lasting fun p => Metered m none p ∧ (Admitted m none start dur p ∧
      (pid < p.nextId ∧ pid ∉ p.registry)) := by
  refine (lasting_metered m none).and ((steady_admitted m none _ _).lasting.and ?_)
  intro p q hp hpq
  have hsub := (Later.eases hpq).registry.subset
  have hpq : Later p q := hpq
  grind

variable (req : BurstRequest)

lemma register_spec (pid : PermitId) (sid : SessionId) (now ahead : ℚ) :
    Triple (ι := Answer) ctx (On fun p => Metered m none p ∧
        (Admitted m none (now + ahead) req.durS p ∧ (pid < p.nextId ∧ pid ∉ p.registry)))
      (does (.register (issuedEntry cfg req pid sid now ahead)))
      (fun _ => On (Registered m pid (now + ahead) req.durS)) (Fails m) := by
  have hlast := lasting_unregistered (m := m) pid (now + ahead) req.durS
  refine hlast.does fun x hx => ⟨?_, hx.2.1, ?_⟩
  · exact hx.1.register hx.2.2.1 hx.2.2.2 (le_max_left 0 req.atOffsetS)
  · simp [view, page, watch, Watch.step, Cmd.apply, issuedEntry]

variable (gen0 : ℕ)

lemma issue_spec (now ahead : ℚ) :
    Triple ctx (On fun p => Metered m none p ∧ Admitted m none (now + ahead) req.durS p)
      (issue cfg me req gen0 now ahead) (fun _ => On (Metered m none)) (Fails m) := by
  have hsteady := steady_admitted m none (now + ahead) req.durS
  have h := robust_metered (m := m) cfg me hsteady
  have hplain := robust_plain (m := m) cfg me
  have hlast := (lasting_metered m none).and hsteady.lasting
  unfold issue
  iterate 3 refine .bind (aside (by grind)) fun _ => ?_
  refine .bind (hlast.reads (Q := fun pid p => Metered m none p ∧
    (Admitted m none (now + ahead) req.durS p ∧ (pid < p.nextId ∧ pid ∉ p.registry)))
    fun x hx => ?_) fun pid => ?_
  · have hkept := keeps_idle hsteady .fresh x hx
    exact ⟨hkept.1, hkept.2, Nat.lt_succ_self _, fun hmem => lt_irrefl _ (hx.1.ids _ hmem)⟩
  have hstage := lasting_unregistered (m := m) pid (now + ahead) req.durS
  refine .bind (peek_spec hstage _) fun own => ?_
  cases own with
  | none => exact .throw fun _ hx => hx.1
  | some sid =>
    refine (register_spec cfg req pid sid now ahead).bind fun _ => ?_
    refine .bind ((lasting_registered pid _ _).does (Q := Metered m none) fun x hx =>
      hx.1.reserve hx.2.1 hx.2.2.1 hx.2.2.2) fun _ => (?_ : Keeps _ _ _)
    grind

lemma durS_nonneg {cfg : Setup} {req : BurstRequest} (h : req.WellShaped cfg) : 0 ≤ req.durS :=
  div_nonneg (Nat.cast_nonneg _) h.2.2.2.2.2.2.1.le

lemma authorizeDuty_spec {now ahead : ℚ} (hahead : 0 ≤ ahead)
    (hdur : 0 ≤ req.durS) :
    Triple ctx (On fun p => Metered m none p ∧ Pruned m now p)
      (do
        let exceeds ← look fun s => s.duty.wouldExceed req.durS (now + ahead) none
        refuseIf cfg me exceeds .duty
        checks cfg me
        issue cfg me req gen0 now ahead)
      (fun _ => On (Metered m none)) (Fails m) := by
  have hsteady := steady_admitted m none (now + ahead) req.durS
  refine .bind (look_spec ((lasting_metered m none).and (steady_pruned m now).lasting)
    (Q := fun exceeds p => Metered m none p ∧
      (exceeds = false → Admitted m none (now + ahead) req.durS p))
    fun x hx => ⟨hx.1, hx.1.admitted hx.2 (le_add_of_nonneg_right hahead) hdur⟩) fun exceeds => ?_
  have hcond := robust_metered (m := m) cfg me
    (X := fun p => exceeds = false → Admitted m none (now + ahead) req.durS p)
    fun p q hp hpq hok => hsteady p q (hp hok) hpq
  refine .bind ((aside (hcond.only (idle_refuseIf cfg me _ _))).yields
    (yields_refuseIf cfg me _ _)) fun _ => .given fun hok => ?_
  refine .pre (P := On fun p => Metered m none p ∧ Admitted m none (now + ahead) req.durS p)
    ?_ fun x hx => ⟨hx.1, hx.2 (by simpa using hok)⟩
  have h := robust_metered (m := m) cfg me hsteady
  exact (aside (h.only (idle_checks cfg me))).bind fun _ => issue_spec cfg me req gen0 now ahead

lemma authorizeBurst_keeps (hlead : absTol ≤ cfg.minLead) (req : BurstRequest) :
    Keeps ctx (On (Metered m none)) (authorizeBurst cfg me req) := by
  have hplain := robust_plain (m := m) cfg me
  refine (hplain.look _).bind fun gen0 => ?_
  refine Triple.bind (look_spec (lasting_metered m none)
    (Q := fun now p => Metered m none p ∧ Pruned m now p) fun x hx => ⟨hx, hx.pruned⟩) fun now => ?_
  have h := robust_metered (m := m) cfg me (steady_pruned m now)
  iterate 3 refine .bind (aside (by grind)) fun _ => ?_
  refine .bind ((aside (h.only (idle_authorizeShape cfg me req _))).yields
    (yields_authorizeShape cfg me req _)) fun _ => .given fun hshape => ?_
  refine .bind (Q := fun ahead x => On (fun p => Metered m none p ∧ Pruned m now p) x ∧ 0 ≤ ahead)
    (.ite (fun _ => ?_) fun _ => ?_) fun ahead => .given fun hahead =>
      authorizeDuty_spec cfg me req gen0 hahead (durS_nonneg hshape)
  · refine ((aside (h.only (idle_authorizeTimed cfg me req now))).yields
      (yields_authorizeTimed cfg me req now)).mono (fun _ hx => hx) (fun ahead x hx => ?_)
      fun _ _ hx => hx
    exact ⟨hx.1, (sub_nonneg.mpr hlead).trans hx.2⟩
  · exact (aside (h.only (idle_authorizeUntimed cfg me req _ now))).yields
      (yields_authorizeUntimed cfg me req _ now)

/-! ## `consume` -/

lemma Metered.consumable {p : Page} {pid : PermitId} {e : Entry} {now : ℚ}
    (h : Metered m none p) (hpruned : Pruned m now p) (he : p.entries pid = e)
    (hunused : e.consumed = false) {start : ℚ}
    (hstart : start = if e.permit.timed then e.dutyAt else now + e.atOffset)
    (hok : p.duty.wouldExceed e.permit.durationS start (some pid) = false)
    (hmem : pid ∈ p.registry) : Admitted m (some pid) start e.permit.durationS p := by
  have hreserved := h.linked pid hmem (by simp) (he ▸ hunused)
  have hoffset := h.offset pid hmem
  rw [he] at hreserved hoffset
  have hdur : 0 ≤ e.permit.durationS := h.reserved_nonneg _ hreserved
  cases htimed : e.permit.timed with
  | true =>
    -- recorded where it was reserved
    rw [hstart, htimed, if_pos rfl]
    exact ⟨hdur, h.bound.of_reserved hreserved⟩
  | false => exact h.admitted hpruned (by grind) hdur hok

@[grind]
def Consumable (m : DutyCycleMeter PermitId) (pid : PermitId) (start dur : ℚ) (p : Page) : Prop :=
  pid ∈ p.registry → Admitted m (some pid) start dur p

lemma steady_consumable : Steady (Consumable m pid start dur) :=
  steady_imp_registered (steady_admitted m (some pid) start dur)

lemma consumeDuty_spec (e : Entry) {now start : ℚ} (hunused : e.consumed = false)
    (hstart : start = if e.permit.timed then e.dutyAt else now + e.atOffset) :
    Triple ctx (On fun p => Metered m none p ∧ (Pruned m now p ∧ p.entries pid = e))
      (consumeDuty cfg me pid e start)
      (fun _ => On fun p => Metered m none p ∧ Consumable m pid start e.permit.durationS p)
      (Fails m) := by
  refine .bind (look_spec ((lasting_metered m none).and
      ((steady_pruned m now).and (steady_entry pid e)).lasting)
    (Q := fun exceeds p => Metered m none p ∧
      (exceeds = false → Consumable m pid start e.permit.durationS p))
    fun x hx => ⟨hx.1, hx.1.consumable hx.2.1 hx.2.2 hunused hstart⟩) fun exceeds => ?_
  have h := robust_metered (m := m) cfg me (steady_consumable (m := m) pid start e.permit.durationS)
  refine .bind (Q := fun _ => On fun p =>
    Metered m none p ∧ Consumable m pid start e.permit.durationS p)
    (.ite (fun _ => ?_) fun hok => ?_) fun _ => aside (by grind)
  · exact refused ((robust_plain cfg me).refuseConsume _ _) (yields_refuseConsume cfg me _ _)
  · exact .ret fun x hx => ⟨hx.1, hx.2 (by simpa using hok)⟩

lemma consumeTest_spec (pid : PermitId) (start dur : ℚ) :
    Triple ctx (On fun p => Metered m none p ∧ Consumable m pid start dur p) (consumeTest gen0 pid)
      (fun ok => On fun p => Metered m none p ∧ (ok → Admitted m (some pid) start dur p))
      (Fails m) := by
  have hsteady := steady_consumable (m := m) pid start dur
  have hsession {α : Type} (p : Proc α) := keeps_session (m := m) hsteady (p := p)
  unfold consumeTest
  repeat with_reducible refine .bind (aside (by grind)) fun _ => ?_
  refine .ite (fun _ => ?_) fun _ => .ret fun x hx => ⟨hx.1, by simp⟩
  exact ((lasting_metered m none).and hsteady.lasting).reads
    fun x hx => ⟨hx.1, fun hmem => hx.2 (of_decide_eq_true hmem)⟩

@[grind]
def Recording (m : DutyCycleMeter PermitId) (pid : PermitId) (start dur : ℚ) (p : Page) : Prop :=
  Admitted m (some pid) start dur p ∧ (p.entries pid).consumed

lemma steady_recording : Steady (Recording m pid start dur) := by
  refine (steady_admitted m (some pid) start dur).and ?_
  grind [Steady]

lemma consumeCommit_spec (pid : PermitId) (e : Entry) (sess : Option SessionId) (start : ℚ) :
    Triple ctx (On fun p => Metered m none p ∧ Consumable m pid start e.permit.durationS p)
      (consumeCommit cfg me gen0 pid e sess start) (fun _ => On (Metered m none)) (Fails m) := by
  have hplain := robust_plain (m := m) cfg me
  have hsteady := steady_recording (m := m) pid start e.permit.durationS
  have h := robust_metered (m := m) cfg me hsteady
  have hlast := (lasting_metered m none).and hsteady.lasting
  refine (consumeTest_spec gen0 pid start e.permit.durationS).bind fun ok => ?_
  refine .ite (fun hok => ?_) fun _ => ?_
  swap
  · exact rest ((hplain.drop pid _).bind fun _ => hplain.only (idle_raiseInterrupted cfg me))
  refine .pre (P := On fun p => Metered m none p ∧ Admitted m (some pid) start _ p) ?_
    fun x hx => ⟨hx.1, hx.2 hok⟩
  refine .bind (((lasting_metered m none).and (steady_admitted m _ start _).lasting).does
    (Q := fun p => Metered m none p ∧ Recording m pid start e.permit.durationS p)
    fun x hx => ⟨hx.1.setEntry rfl (by simp), hx.2, ?_⟩) fun _ => ?_
  · exact congrArg Entry.consumed (update_self pid _ x.1.entries)
  refine .bind (hlast.does
    (Q := fun p => Metered m none p ∧ Recording m pid start e.permit.durationS p)
    fun x hx => ⟨hx.1.setEntry rfl fun hunused => ?_, hx.2.1, ?_⟩) fun _ => ?_
  · exact absurd (hx.2.2.symm.trans hunused) (by simp)
  · exact (congrArg Entry.consumed (update_self pid _ x.1.entries)).trans hx.2.2
  refine .bind (aside (keeps_session hsteady (.does (.setInflight _)))) fun _ => ?_
  refine .bind (hlast.does
    (Q := fun p => Metered m none p ∧ Recording m pid start e.permit.durationS p)
    fun _ hx => hx) fun _ => ?_
  refine .bind (aside (h.look _)) fun gen => ?_
  refine .bind (aside (.ite (fun _ => (h.drop pid _).bind fun _ =>
    keeps_session hsteady (session_undoInterrupted cfg me sess (some pid))) fun _ => .ret ()))
    fun _ => ?_
  refine .bind (hlast.does (Q := Metered m none) fun x hx => hx.1.record hx.2.1 hx.2.2)
    fun _ => ?_
  exact hplain.emit

lemma consume_keeps (handle : Handle) :
    Keeps ctx (On (Metered m none)) (consume cfg me handle) := by
  have hplain := robust_plain (m := m) cfg me
  refine (hplain.look _).bind fun gen0 => ?_
  refine Triple.bind (look_spec (lasting_metered m none)
    (Q := fun now p => Metered m none p ∧ Pruned m now p) fun x hx => ⟨hx, hx.pruned⟩) fun now => ?_
  have h := robust_metered (m := m) cfg me (steady_pruned m now)
  iterate 2 refine .bind (aside (by grind)) fun _ => ?_
  refine .bind (aside (h.consumeLookup handle)) fun found => ?_
  refine .bind (look_spec ((lasting_metered m none).and (steady_pruned m now).lasting)
    (Q := fun e p => Metered m none p ∧ (Pruned m now p ∧ p.entries found.1 = e))
    fun x hx => ⟨hx.1, hx.2, rfl⟩) fun e => ?_
  have h' := robust_metered (m := m) cfg me ((steady_pruned m now).and (steady_entry found.1 e))
  refine .bind (aside (h'.look _)) fun sess => ?_
  refine .bind ((aside (h'.consumePermit now found.1 found.2 e sess)).yields
    (yields_consumePermit cfg me now found.1 found.2 e sess)) fun _ => .given fun hpermit => ?_
  iterate 2 refine .bind (aside (by grind)) fun _ => ?_
  exact (consumeDuty_spec cfg me found.1 e hpermit.1 rfl).bind fun _ =>
    consumeCommit_spec cfg me gen0 found.1 e sess _

/-! ## `burst_complete` -/

lemma retire_keeps : Keeps ctx (On (Metered m none)) (retire pid) := by
  refine .bind ((lasting_metered m none).does fun x hx => hx.pop pid) fun _ => ?_
  refine .bind ((lasting_metered m none).does fun x hx => ?_) fun _ => keeps_faint fun _ => rfl
  exact hx.setEntry rfl fun hunused => ⟨hunused, rfl, rfl⟩

lemma burstComplete_keeps (handle : Handle) (result : TxResult) :
    Keeps ctx (On (Metered m none)) (burstComplete cfg me handle result) :=
  (robust_plain cfg me).burstComplete_of_parts retire_keeps (keeps_faint fun _ => rfl)
    (fun gen0 => keeps_session_plain (session_completeCommit gen0)) handle result

/-! ## Runs -/

lemma op_keeps (hlead : absTol ≤ cfg.minLead) :
    ∀ o : Op, Keeps ctx (On (Metered m none)) (o.prog cfg me) :=
  (robust_plain cfg me).op (arm_keeps cfg me) (refresh_keeps cfg me)
    (authorizeBurst_keeps cfg me hlead) (consume_keeps cfg me) (burstComplete_keeps cfg me)
    (resetFault_keeps cfg me)

structure Unused (s : Sys) : Prop where
  registry : s.registry = []
  bursts : s.duty.bursts = []
  reserved : s.duty.reserved = []

lemma Unused.metered {s : Sys} (h : Unused s) : Metered s.duty none (page (s, [])) := by
  obtain ⟨hreg, hbursts, hres⟩ := h
  have hpos : (0 : ℝ) ≤ (s.duty.limit : ℝ) := Rat.cast_nonneg.mpr s.duty.limit_pos.le
  constructor <;> simp [page, Pruned, Bounded, real, *]

lemma metered_of_reached (hlead : absTol ≤ cfg.minLead) {depth : ℕ} {s₀ : Sys}
    (h₀ : Unused s₀) {x : Sys × Book} (h : Reached watch cfg me depth (s₀, []) x) :
    Metered s₀.duty none (page x) :=
  Reached.invariant ctx (fun _ _ => trivial) (rely_of_interference cfg me depth)
    (lasting_metered s₀.duty none).stable (op_keeps cfg me hlead) h₀.metered h

/-- No window of the bursts ever recorded is busier than the policy allows, and
`max_busy` tells the maximum up to the tolerance of its candidates, as long as
the start lead absorbs the tolerance of B11. -/
theorem duty_bounded (hlead : absTol ≤ cfg.minLead) {depth : ℕ} {s₀ : Sys} (h₀ : Unused s₀)
    {x : Sys × Book} (h : Reached watch cfg me depth (s₀, []) x) :
    Bounded s₀.duty x.2 ∧ x.1.duty.Bracketed := by
  have hmetered := metered_of_reached cfg me hlead h₀ h
  exact ⟨hmetered.bound.of_sublist (sublist_append_left _ _),
    DutyCycleMeter.bracketed_of_nonneg _ hmetered.intervals_nonneg⟩

end

/-! ## Concrete runs -/

def single (dur : ℚ) : BurstRequest where
  samples := [[(1, 0)]]
  chains := [0]
  fsHz := 1 / dur
  timed := true

def leading (lead : ℚ) : List Answer := List.replicate 20 { lead := some lead }

def sendTurns (pid : PermitId) (lead dur : ℚ) : List Turn :=
  [.call (.authorizeBurst (single dur)) (leading lead),
    .call (.sequenceToTx (.permit (.issued pid (single dur).samples))) [],
    .call (.consume (.issued pid (single dur).samples)) [],
    .call (.burstComplete (.issued pid (single dur).samples) {}) []]

def oneBurst : Sys × Book :=
  play watch bench 0 (.call (.arm {}) [] :: sendTurns 1 (1 / 10) (1 / 20)) (bench.idle, [])

theorem duty_bounded_oneBurst :
    oneBurst.2 = [(1 / 10, 1 / 20)] ∧ Bounded bench.idle.duty oneBurst.2 ∧
      oneBurst.1.duty.Bracketed :=
  ⟨by decide +kernel, duty_bounded bench 0 (by decide +kernel) ⟨rfl, rfl, rfl⟩
    (reached_play watch bench 0 _ .start)⟩

def eager : Setup := { bench with minStartLeadS := 0, hasRf := false }

def eager.idle : Sys where
  state := .safe
  clock := 8
  duty :=
    { windowS := 1
      dutyMax := 3 / 20
      window_pos := by norm_num
      duty_pos := by norm_num
      duty_le_one := by norm_num }

local instance atLeastTwo2 : Nat.AtLeastTwo 2 := ⟨by decide⟩

/-- Three bursts fill a window that begins just before the time 9, the first of
them ends before 9.  At the time 10 a fourth burst makes the meter prune the
first one, and a fifth starts `1e-12` in the past. -/
def overrun : Sys × Book :=
  play watch eager 0
    (.call (.arm {}) [] :: sendTurns 1 (1 - absTol / 2) (absTol / 4) ++
      sendTurns 2 (1 - absTol / 2) (1 / 10) ++
      sendTurns 3 (1 - absTol / 2 + 1 / 10) (eager.idle.duty.limit - absTol / 2 - 1 / 10) ++
      .pass 2 :: sendTurns 4 40 (1 / 100) ++ sendTurns 5 (-absTol) absTol)
    (eager.idle, [])

/-- A burst that begins `1e-12` before the earliest window that overlaps
`[1, 1 + 1/10]`. -/
def early : DutyCycleMeter PermitId := { eager.idle.duty with bursts := [(-absTol, 1 / 2)] }

/-- Without a lead the bound can be exceeded, and `max_busy` can exceed the busy
time of every window that overlaps the proposed burst. -/
theorem exists_overrun :
    (Reached watch eager 0 1 (eager.idle, []) overrun ∧ ¬Bounded eager.idle.duty overrun.2) ∧
      ∀ t : ℝ, ((1 : ℚ) : ℝ) ≤ t → t ≤ ((1 + max 0 (1 / 10) + early.windowS : ℚ) : ℝ) →
        busy (early.windowS : ℝ) (real (early.proposed 1 (1 / 10) none)) t <
          (early.maxBusy 1 (1 / 10) none : ℝ) := by
  refine ⟨⟨reached_play watch eager 0 _ .start, fun hbound => ?_⟩, fun t hlo hhi => ?_⟩
  · have hat := hbound ((10 - absTol / 2 : ℚ) : ℝ)
    rw [DutyCycleMeter.busy_cast, Rat.cast_le] at hat
    exact absurd hat (by decide +kernel)
  · have hle : busy (early.windowS : ℝ) (real (early.proposed 1 (1 / 10) none)) t ≤
        ((1 / 2 - absTol : ℚ) : ℝ) :=
      DutyCycleMeter.busy_real_le early.window_pos (by decide +kernel) (by decide +kernel)
        (by decide +kernel) (by decide +kernel) hlo hhi
    exact hle.trans_lt (Rat.cast_lt.mpr (by decide +kernel))

end HeimdallDaq.Tx.Ledger
