/-
  Tx/Binding.lean --- the operations keep permits bound to their session.

  Each operation of the controller keeps the invariant of `Tx/Permits.lean`.
-/
import HeimdallDaq.Tx.Permits

namespace HeimdallDaq.Tx.Permits

open Foundation Triple
open Prog (does)
open View (aside rest refused)

section

variable (cfg : Setup) (me : Thread) {K : Log → Prop}

/-! ## Arming -/

@[grind]
def Empty (cfg : Setup) (K : Log → Prop) (p : Desk) : Prop := Filed cfg K p ∧ p.registry = []

lemma lasting_empty : Lasting (Empty cfg K) := (lasting_filed cfg K).and steady_empty.lasting

variable {cfg}

lemma Empty.base {p : Desk} (h : Empty cfg K p) : Base cfg K p := h.1.base h.2

lemma Empty.change {p q : Desk} (h : Empty cfg K p) (hlog : q.log = p.log)
    (hentries : q.entries = p.entries) (hids : p.nextId ≤ q.nextId) (hreg : q.registry ⊆ p.registry) :
    Empty cfg K q := by grind [Filed.ease, List.eq_nil_of_subset_nil]

lemma empty_session {c : Cmd} (hc : c.Session) (x : Sys × Log) (hx : On (Empty cfg K) x) :
    On (Empty cfg K) (ctx.step c x) := by
  cases hc with
  | idle hc =>
    have hbase : On (fun p => Base cfg K p ∧ p.registry = []) x := ⟨hx.base, hx.2⟩
    have hkept := keeps_idle steady_empty hc x hbase
    exact ⟨hkept.1.1, hkept.2⟩
  | setState st writer h =>
    refine .change hx ?_ rfl le_rfl (.refl _)
    cases writer with
    | consume pid => exact absurd rfl (h pid)
    | _ => rfl
  | writeRecord r ok => cases ok <;> exact hx
  | _ => exact .change hx rfl rfl le_rfl (.refl _)

lemma keeps_empty {α : Type} {p : Proc α} (hp : Only Cmd.Session p) :
    Keeps ctx (On (Empty cfg K)) p :=
  Keeps.of_only (lasting_empty cfg).stable (fun _ hc y hy _ => ⟨trivial, empty_session hc y hy⟩) hp

variable (cfg) (r : ArmRecord)

lemma armCommit_empty (now dur : ℚ) : Keeps ctx (On (Empty cfg K)) (armCommit r now dur) := by
  have hdoes {c : Cmd} (h : ∀ x, (desk (watch.step c x)).log = (desk x).log ∧
      (desk (watch.step c x)).entries = (desk x).entries ∧
      (desk x).nextId ≤ (desk (watch.step c x)).nextId ∧
      (desk (watch.step c x)).registry ⊆ (desk x).registry) :
      Keeps ctx (On (Empty cfg K)) (does c : Proc Unit) :=
    (lasting_empty cfg).does fun x hx => hx.change (h x).1 (h x).2.1 (h x).2.2.1 (h x).2.2.2
  unfold armCommit
  repeat' with_reducible refine .bind ?_ fun _ => ?_
  all_goals exact hdoes fun x => ⟨rfl, rfl, le_rfl, by simp [desk, watch, Watch.step, Cmd.apply]⟩

lemma armFinish_spec (hK : Kept K) (gen0 : ℕ) (r : ArmRecord) (now dur : ℚ) :
    Triple ctx (On (Empty cfg K)) (armFinish cfg me gen0 r now dur) (fun _ => On (Base cfg K))
      (Fails cfg K) := by
  have h := robust_plain cfg me hK
  have hempty {α : Type} {p : Proc α} (hp : Keeps ctx (On (Empty cfg K)) p) :
      Triple ctx (On (Empty cfg K)) p (fun _ => On (Empty cfg K)) (Fails cfg K) :=
    hp.mono (fun _ hx => hx) (fun _ _ hx => hx) fun _ _ hx => hx.base
  have hsession {α : Type} (p : Proc α) := @keeps_empty cfg K α p
  have hcommit := armCommit_empty (K := K) cfg
  have hrest (p : Proc Unit) (hp : Keeps ctx (On (Base cfg K)) p) : Triple ctx (On (Empty cfg K)) p
      (fun _ => On (Base cfg K)) (Fails cfg K) := .pre hp fun _ hx => hx.base
  unfold armFinish
  iterate 5 refine .bind (hempty (by grind [Only.session])) fun _ => ?_
  exact hrest _ (by grind)

lemma armState_spec (hK : Kept K) :
    Triple ctx (On (Base cfg K)) (armState cfg me) (fun _ => On (Empty cfg K)) (Fails cfg K) := by
  have h := robust_plain cfg me hK
  unfold armState
  iterate 4 refine .bind (h.only (by grind)) fun _ => ?_
  refine .bind (look_spec (lasting_base cfg K)
    (Q := fun live p => Base cfg K p ∧ (live = false → p.registry = [])) (by grind [desk])) fun live => ?_
  refine .ite (fun _ => ?_) fun hlive => .ret fun x hx => ?_
  · exact refused (h.refuse _) (yields_refuse cfg me _)
  · exact ⟨hx.1.1, hx.2 (by simpa using hlive)⟩

lemma arm_keeps (hK : Kept K) (req : ArmRequest) :
    Keeps ctx (On (Base cfg K)) (arm cfg me req) := by
  have hempty {α : Type} {p : Proc α} (hp : Only Cmd.Session p) :
      Triple ctx (On (Empty cfg K)) p (fun _ => On (Empty cfg K)) (Fails cfg K) :=
    (keeps_empty hp).mono (fun _ hx => hx) (fun _ _ hx => hx) fun _ _ hx => hx.base
  refine .bind ((lasting_base cfg K).reads fun _ hx => hx) fun gen0 => ?_
  refine bind (armState_spec cfg me hK) fun _ => ?_
  iterate 7 refine bind (hempty (by grind [Only.session])) fun _ => ?_
  exact bind (armFinish_spec cfg me hK gen0 _ _ _) fun _ => ret fun _ hx => hx

/-! ## Refresh -/

@[grind]
def Session (p : Desk) : Prop := p.registry = [] ∨ p.session = some r.sessionId

lemma steady_session : Steady (Session r) := by
  intro p q hp hpq
  grind [List.eq_nil_of_subset_nil]

lemma refreshWrite_spec (hK : Kept K) (r : ArmRecord) (now : ℚ) :
    Triple ctx (On fun p => Base cfg K p ∧ Session r p) (refreshWrite cfg me r now)
      (fun _ => On (Base cfg K)) (Fails cfg K) := by
  have h := robust_plain cfg me hK
  have hr := robust_base cfg me hK (steady_session r)
  have hlast := (lasting_base cfg K).and (steady_session r).lasting
  unfold refreshWrite
  refine .bind (aside (hr.look _)) fun gen0 => ?_
  refine .bind (aside (.ask fun a => .act hlast.stable (fun y hy _ => ⟨trivial, ?_⟩) fun _ =>
    by grind)) fun _ => ?_
  · cases a.ok <;> exact hy
  iterate 2 refine .bind (aside (by grind)) fun _ => ?_
  refine .ite (fun _ => ?_) fun _ => rest (by grind)
  refine .bind (hlast.does (Q := Base cfg K) fun x hx => ?_) fun _ => (?_ : Keeps _ _ _)
  · rcases hx.2 with hnil | hsession
    · exact Filed.base ⟨hx.1.1.ids, hx.1.1.issued, hx.1.1.committed, hx.1.1.unused, hx.1.1.binding,
        hx.1.1.kept⟩ hnil
    · exact hx.1.ease rfl rfl le_rfl (.refl _) hsession.symm rfl
  · grind

lemma refresh_keeps (hK : Kept K) : Keeps ctx (On (Base cfg K)) (refresh cfg me) := by
  have h := robust_plain cfg me hK
  have hexpiry (t : ℚ) : Keeps ctx (On (Base cfg K)) (does (.setExpiry t) : Proc Unit) :=
    keeps_faint fun _ => rfl
  unfold refresh
  iterate 11 refine .bind (by grind) fun _ => ?_
  refine bind (look_spec (lasting_base cfg K)
    (Q := fun own p => Base cfg K p ∧ ∀ r, own = some r → Session r p) (by grind [desk]))
    fun own => ?_
  have hX : Steady fun p => ∀ r, own = some r → Session r p :=
    fun p q hp hpq r hr => steady_session r p q (hp r hr) hpq
  have ho := robust_base cfg me hK hX
  iterate 3 refine bind (aside (by grind)) fun _ => ?_
  cases own with
  | none => exact throw fun _ hx => hx.1
  | some r => exact (refreshWrite_spec cfg me hK _ _).pre fun x hx => ⟨hx.1, hx.2 r rfl⟩

/-! ## Issue -/

lemma lasting_live : Lasting fun p => p.state.isLive = true := lasting_of_clock fun _ _ h _ => h

lemma lasting_unissued (pid : PermitId) :
    Lasting fun p => p.state.isLive = true ∧ (pid < p.nextId ∧ Unissued pid p) :=
  lasting_of_clock fun _ _ h _ => h

lemma issue_keeps (hK : Kept K) (req : BurstRequest) (gen0 : ℕ) (now ahead : ℚ) :
    Keeps ctx (On (Base cfg K)) (issue cfg me req gen0 now ahead) := by
  have h := robust_plain cfg me hK
  unfold issue
  refine (h.look _).bind fun gen => ?_
  refine bind (Q := fun live => On fun p =>
    Base cfg K p ∧ (live = true → p.state.isLive = true))
    (ite (fun _ => ret fun x hx => ⟨hx, by simp⟩) fun _ =>
      look_spec (lasting_base cfg K) fun x hx => ⟨hx, id⟩) fun live => ?_
  refine .bind (Q := fun _ => On fun p => Base cfg K p ∧ p.state.isLive = true)
    (.ite (fun hlive => .ret fun x hx => ⟨hx.1, hx.2 hlive⟩) fun _ =>
      refused (h.only (idle_raiseInterrupted cfg me)) (yields_raiseInterrupted cfg me)) fun _ => ?_
  refine .bind (((lasting_base cfg K).and lasting_live).reads (Q := fun pid p =>
    Base cfg K p ∧ (p.state.isLive = true ∧ (pid < p.nextId ∧ Unissued pid p)))
    fun x hx => ⟨hx.1.ease rfl rfl (Nat.le_succ _) (.refl _) rfl rfl, hx.2,
      Nat.lt_succ_self _, hx.1.1.unissued⟩) fun pid => ?_
  have hlast := (lasting_base cfg K).and (lasting_unissued pid)
  refine .bind (look_spec hlast (Q := fun own p =>
    (Base cfg K p ∧ (p.state.isLive = true ∧ (pid < p.nextId ∧ Unissued pid p))) ∧ p.session = own)
    fun x hx => ⟨hx, rfl⟩) fun own => ?_
  cases own with
  | none => exact .throw fun _ hx => hx.1.1
  | some sid =>
    refine .bind ((hlast.and (lasting_of_clock fun _ _ h _ => h)).does (Q := Base cfg K)
      fun x hx => hx.1.1.register hK hx.1.2.1 hx.2 rfl hx.1.2.2.1 hx.1.2.2.2 rfl) fun _ => ?_
    exact (keeps_faint fun _ => rfl).bind (by grind)

lemma authorizeBurst_keeps (hK : Kept K) (req : BurstRequest) :
    Keeps ctx (On (Base cfg K)) (authorizeBurst cfg me req) := by
  have h := robust_plain cfg me hK
  have hissue := issue_keeps cfg me hK req
  unfold authorizeBurst
  repeat' first | (with_reducible refine .bind ?_ fun _ => ?_) | split
  all_goals grind

/-! ## Consume -/

variable (t : ℚ) (log : Log)

/-- Since `consume` was called at `t` with the log `log`, nothing was added to it,
unless the permits are gone. -/
@[grind]
def Holding (p : Desk) : Prop := (p.registry = [] ∨ p.log = log) ∧ t ≤ p.clock

lemma steady_holding : Steady (Holding t log) := by
  intro p q hp hpq
  grind [List.eq_nil_of_subset_nil]

@[grind]
def Read (pid : PermitId) (e : Entry) (p : Desk) : Prop := Holding t log p ∧ p.entries pid = e

lemma steady_read (pid : PermitId) (e : Entry) : Steady (Read t log pid e) := by
  intro p q hp hpq
  have hholding := steady_holding t log p q hp.1 hpq
  grind

variable (gen0 : ℕ)

lemma consumeTest_spec (t : ℚ) (log : Log) (pid : PermitId) (e : Entry) :
    Triple ctx (On fun p => Base cfg K p ∧ Read t log pid e p) (consumeTest gen0 pid)
      (fun ok => On fun p => (Base cfg K p ∧ Read t log pid e p) ∧
        (ok = true → p.tripGen = gen0 ∧ pid ∈ p.registry)) (Fails cfg K) := by
  have hread := (lasting_base cfg K).and (steady_read t log pid e).lasting
  refine .bind (look_spec hread
    (Q := fun gen p => (Base cfg K p ∧ Read t log pid e p) ∧ p.tripGen = gen)
    fun x hx => ⟨hx, rfl⟩) fun gen => ?_
  have hgen := hread.and (lasting_of_clock (X := fun p => p.tripGen = gen) fun _ _ h _ => h)
  refine .bind (Q := fun armed => On fun p =>
    ((Base cfg K p ∧ Read t log pid e p) ∧ p.tripGen = gen) ∧ (armed = true → gen = gen0))
    (.ite (fun _ => .ret fun x hx => ⟨hx, by simp⟩) fun hsame =>
      hgen.reads fun x hx => ⟨hx, fun _ => not_not.mp hsame⟩) fun armed => ?_
  refine .ite (fun harmed => ?_) fun _ => .ret fun x hx => ⟨hx.1.1, by simp⟩
  refine View.Lasting.reads (hgen.and fun _ _ h _ => h) fun x hx => ⟨hx.1.1, fun hmem =>
    ⟨hx.1.2.trans (hx.2 harmed), of_decide_eq_true hmem⟩⟩

@[local grind]
def Carried (pid : PermitId) (F : Permit → Prop) (log : Log) : Prop :=
  (∀ samples, .sent pid samples ∉ log) ∧
    ∃ session p, .committed pid session ∈ log ∧ .issued session p ∈ log ∧ p.permitId = pid ∧ F p

lemma kept_carried (pid : PermitId) (F : Permit → Prop) : Kept (Carried pid F) := by grind

variable {cfg} {pid : PermitId} {data : Samples} {t : ℚ} {older : Log}

lemma carried_of_commit {session : Option SessionId}
    (hbind : Binding cfg (.presented (.issued pid data) t :: older))
    (hsound : Event.Sound cfg (.committed pid session) (.presented (.issued pid data) t :: older)) :
    Carried pid (fun p => p.samples = data)
      (.committed pid session :: .presented (.issued pid data) t :: older) := by
  obtain ⟨_, hnot, p, t', rest, heq, hstanding, _⟩ := hsound
  obtain ⟨hhead, rfl⟩ := List.cons.inj heq
  obtain ⟨hhandle, _⟩ := Event.presented.inj hhead
  refine ⟨fun samples hmem => ?_, session, p, List.mem_cons_self,
    List.mem_cons_of_mem _ (List.mem_cons_of_mem _ hstanding.mem), hstanding.1,
    (Handle.issued.inj hhandle).2.symm⟩
  grind [Binding.committed_of_sent]

variable (cfg)

@[grind]
def Marked (cfg : Setup) (K : Log → Prop) (gen0 : ℕ) (pid : PermitId) (e : Entry) (before : Log)
    (p : Desk) : Prop :=
  Base cfg K p ∧ (p.log = before ∧ p.tripGen = gen0 ∧ p.session = some e.session ∧
    pid ∈ p.registry ∧ (p.entries pid).consumed)

@[grind]
def Committed (cfg : Setup) (K : Log → Prop) (gen0 : ℕ) (pid : PermitId) (data : Samples)
    (p : Desk) : Prop :=
  Base cfg K p ∧ (Carried pid (fun q => q.samples = data) p.log ∧ p.tripGen = gen0)

lemma lasting_marked (pid : PermitId) (e : Entry) (before : Log) :
    Lasting (Marked cfg K gen0 pid e before) :=
  (lasting_base cfg K).and (lasting_of_clock fun _ _ h _ => h)

lemma lasting_committed (pid : PermitId) (data : Samples) :
    Lasting (Committed cfg K gen0 pid data) :=
  (lasting_base cfg K).and (lasting_of_clock fun _ _ h _ => h)

variable {e : Entry}

lemma setConsumed_spec {gen0 : ℕ} (hunused : e.consumed = false) (hdata : data = e.permit.digest)
    (ht : t ≤ e.permit.deadlineMono) : Triple (ι := Answer) ctx
      (On fun p => (Base cfg K p ∧ Read t (.presented (.issued pid data) t :: older) pid e p) ∧
        (p.tripGen = gen0 ∧ pid ∈ p.registry)) (does (.setConsumed pid))
      (fun _ x => On (Marked cfg K gen0 pid e (.presented (.issued pid data) t :: older)) x ∧
        Event.Sound cfg (.committed pid (some e.session)) (.presented (.issued pid data) t :: older))
      (Fails cfg K) := by
  have hlast : Lasting fun p =>
      (Base cfg K p ∧ Read t (.presented (.issued pid data) t :: older) pid e p) ∧
        (p.tripGen = gen0 ∧ pid ∈ p.registry) :=
    ((lasting_base cfg K).and (steady_read t _ pid e).lasting).and (lasting_of_clock fun _ _ h _ => h)
  refine .does hlast.stable fun x hx _ => ⟨trivial, ?_⟩
  obtain ⟨⟨hbase, ⟨hlog, _⟩, he⟩, hgen, hmem⟩ := hx
  replace hlog : (desk x).log = .presented (.issued pid data) t :: older := by grind
  have hsession : (desk x).session = some e.session := by grind
  have hsound : Event.Sound cfg (.committed pid (some e.session)) (desk x).log :=
    hbase.fit hlog hmem he hunused hdata ht
  rw [hlog] at hsound
  refine ⟨⟨hbase.setEntry rfl rfl (by simp), hlog, hgen, hsession, hmem, ?_⟩, hsound⟩
  exact congrArg Entry.consumed (Function.update_self pid _ x.1.entries)

lemma setTransmitting_spec (hK : Kept K) {gen0 : ℕ}
    (hsound : Event.Sound cfg (.committed pid (some e.session))
      (.presented (.issued pid data) t :: older)) : Triple (ι := Answer) ctx
      (On (Marked cfg K gen0 pid e (.presented (.issued pid data) t :: older)))
      (does (.setState .transmitting (.consume pid))) (fun _ => On (Committed cfg K gen0 pid data))
      (Fails cfg K) := by
  refine (lasting_marked cfg gen0 pid e _).does fun x hx => ?_
  obtain ⟨hbase, hlog, hgen, hsession, hmem, hused⟩ := hx
  have hbind := hbase.1.binding
  have hsound' : Event.Sound cfg (.committed pid (view.get x).session) (view.get x).log := by
    rw [hsession, hlog]
    exact hsound
  refine ⟨hbase.commit hK hmem hused hsound', ?_, hgen⟩
  show Carried pid _ (.committed pid (view.get x).session :: (view.get x).log)
  grind [carried_of_commit]

lemma consumeCommit_spec (hK : Kept K) (gen0 : ℕ) (sess : Option SessionId) (start : ℚ)
    (hunused : e.consumed = false) (hdata : data = e.permit.digest)
    (ht : t ≤ e.permit.deadlineMono) : Triple ctx
      (On fun p => Base cfg K p ∧ Read t (.presented (.issued pid data) t :: older) pid e p)
      (consumeCommit cfg me gen0 pid e sess start)
      (fun _ => On fun p => Base cfg K p ∧ Carried pid (fun q => q.samples = data) p.log)
      (Fails cfg K) := by
  have h := robust_plain cfg me hK
  refine (consumeTest_spec cfg gen0 t _ pid e).bind fun ok => .ite (fun hok => ?_) fun _ => ?_
  swap
  · have hdrop : Yields (fun _ => False) (do
        dropPermit pid .interrupted
        raiseInterrupted (α := Unit) cfg me) :=
      Yields.after _ fun _ => yields_raiseInterrupted cfg me
    exact (refused (X := fun _ => True) ((h.drop pid _).bind fun _ =>
      h.only (idle_raiseInterrupted cfg me)) hdrop).pre fun x hx => ⟨hx.1.1, trivial⟩
  refine .bind ((setConsumed_spec cfg hunused hdata ht).pre fun x hx => ⟨hx.1, hx.2 hok⟩)
    fun _ => .given fun hsound => ?_
  have hmarked := lasting_marked (K := K) cfg gen0 pid e (.presented (.issued pid data) t :: older)
  refine .bind (hmarked.does
    (Q := Marked cfg K gen0 pid e (.presented (.issued pid data) t :: older)) fun x hx => ?_)
    fun _ => ?_
  · obtain ⟨hbase, hlog, hgen, hsession, hmem, hused⟩ := hx
    refine ⟨hbase.setEntry rfl rfl id, hlog, hgen, hsession, hmem, ?_⟩
    exact (congrArg Entry.consumed (Function.update_self pid _ x.1.entries)).trans hused
  refine .bind (hmarked.does
    (Q := Marked cfg K gen0 pid e (.presented (.issued pid data) t :: older)) fun _ hx => hx)
    fun _ => ?_
  refine (setTransmitting_spec cfg hK hsound).bind fun _ => ?_
  have hlast := lasting_committed (K := K) cfg gen0 pid data
  -- only time has passed since the test, so the generation is still `gen0`
  refine .bind (Q := fun gen x => On (Committed cfg K gen0 pid data) x ∧ gen = gen0)
    (.reads hlast.stable fun x hx _ => ⟨trivial, hx, hx.2.2⟩) fun gen =>
    given fun hgen => ?_
  refine .bind (Q := fun _ => On (Committed cfg K gen0 pid data))
    (.ite (fun hne => absurd hgen hne) fun _ => .ret fun _ hx => hx) fun _ => ?_
  refine .bind (hlast.does (Q := Committed cfg K gen0 pid data) fun _ hx => hx) fun _ => ?_
  exact (hlast.faint ((only_emit cfg me).mono fun _ hc => faint_of_lines hc) fun _ _ hx =>
    hx.1).mono (fun _ hx => hx) (fun _ _ hx => ⟨hx.1, hx.2.1⟩) fun _ _ hx => hx

lemma consume_spec (hK : Kept K) (handle : Handle) (t : ℚ) (older : Log) :
    Triple ctx (On fun p => Base cfg K p ∧ (p.log = .presented handle t :: older ∧ t ≤ p.clock))
      (consume cfg me handle)
      (fun _ => On fun p => Base cfg K p ∧ ∃ pid data, handle = .issued pid data ∧
        Carried pid (fun q => q.samples = data) p.log) (Fails cfg K) := by
  let before : Log := .presented handle t :: older
  have h := robust_base cfg me hK (steady_holding t before)
  refine .pre (P := On fun p => Base cfg K p ∧ Holding t before p) ?_
    fun x hx => ⟨hx.1, .inr hx.2.1, hx.2.2⟩
  have hlast := (lasting_base cfg K).and (steady_holding t before).lasting
  refine .bind (aside (h.look _)) fun gen0 => ?_
  refine .bind (Q := fun now x => On (fun p => Base cfg K p ∧ Holding t before p) x ∧ t ≤ now)
    (.reads hlast.stable fun x hx _ => ⟨trivial, hx, hx.2.2⟩) fun now => .given fun hnow => ?_
  iterate 2 refine .bind (aside (by grind)) fun _ => ?_
  refine .bind ((aside (h.consumeLookup handle)).yields (yields_consumeLookup cfg me handle))
    fun found => .given fun hfound => ?_
  refine .bind (look_spec hlast
    (Q := fun e p => Base cfg K p ∧ Read t before found.1 e p) fun x hx => ⟨hx.1, hx.2, rfl⟩)
    fun e => ?_
  have h' := robust_base cfg me hK (steady_read t before found.1 e)
  refine .bind (aside (h'.look _)) fun sess => ?_
  refine .bind ((aside (h'.consumePermit now found.1 found.2 e sess)).yields
    (yields_consumePermit cfg me now found.1 found.2 e sess)) fun _ => .given fun hpermit => ?_
  iterate 3 refine .bind (aside (by grind)) fun _ => ?_
  obtain ⟨hunused, _, hdata, hdeadline⟩ := hpermit
  subst hfound
  exact (consumeCommit_spec cfg me hK gen0 sess _ hunused hdata (hnow.trans hdeadline)).mono
    (fun _ hx => hx) (fun _ _ hx => ⟨hx.1, found.1, found.2, rfl, hx.2⟩) fun _ _ hx => hx

/-! ## Completion -/

lemma retire_keeps (pid : PermitId) : Keeps ctx (On (Base cfg K)) (retire pid) := by
  unfold retire
  repeat' with_reducible refine .bind ?_ fun _ => ?_
  · exact (lasting_base cfg K).does fun x hx => hx.ease rfl rfl le_rfl List.filter_sublist.subset rfl rfl
  · exact (lasting_base cfg K).does fun x hx => hx.setEntry rfl rfl id
  · exact keeps_faint fun _ => rfl

lemma completeCommit_keeps : Keeps ctx (On (Base cfg K)) (completeCommit gen0) := by
  have hlast := lasting_base cfg K
  have hgen (b : Prop) : Lasting fun p => Base cfg K p ∧ (b → p.tripGen = gen0) :=
    hlast.and (lasting_of_clock fun _ _ h _ => h)
  refine .bind (hlast.reads fun _ hx => hx) fun tx => ?_
  refine bind (Q := fun same => On fun p => Base cfg K p ∧ (same = true → p.tripGen = gen0))
    (ite (fun _ => hlast.reads fun x hx => ⟨hx, of_decide_eq_true⟩) fun _ =>
      ret fun x hx => ⟨hx, by simp⟩) fun same => ?_
  refine ite (fun htrue => ?_) fun _ => ret fun x hx => hx.1
  refine .bind ((hgen _).does (Q := fun p => Base cfg K p ∧ (True → p.tripGen = gen0))
    fun x hx => ⟨⟨⟨hx.1.1.ids, hx.1.1.issued, hx.1.1.committed, hx.1.1.unused, hx.1.1.binding,
      hx.1.1.kept⟩, fun _ => rfl, hx.1.2.session, hx.1.2.standing⟩, fun _ => hx.2 htrue⟩) fun _ => ?_
  refine .bind (Q := fun gen x => On (Base cfg K) x ∧ gen = gen0)
    (.reads (hgen _).stable fun x hx _ => ⟨trivial, hx.1, hx.2 trivial⟩) fun gen =>
    given fun heq => ?_
  rw [if_neg (not_not.mpr heq)]
  exact Keeps.ret ()

lemma burstComplete_keeps (hK : Kept K) (handle : Handle) (result : TxResult) :
    Keeps ctx (On (Base cfg K)) (burstComplete cfg me handle result) := by
  exact (robust_plain cfg me hK).burstComplete_of_parts (retire_keeps cfg)
    (keeps_faint fun _ => rfl) (completeCommit_keeps cfg) handle result

/-! ## Shutdowns -/

lemma safeShutdown_spec (hK : Kept K) (fault : Bool) :
    Triple ctx (On (Filed cfg K)) (safeShutdown cfg me fault) (fun _ => On (Empty cfg K))
      (Fails cfg K) :=
  fun x hx => .mono (fun _ _ hy => ⟨hy.1.1, hy.2⟩) (fun _ _ hy => hy) _ x
    ((shutdownKept_falling hK (desk x)).safeShutdown me fault x ⟨hx, le_rfl, rfl⟩)

lemma trip_spec (hK : Kept K) (code : Code) :
    Triple ctx (On (Filed cfg K)) (trip cfg me code) (fun _ => On (Empty cfg K)) (Fails cfg K) :=
  fun x hx => .mono (fun _ _ hy => ⟨hy.1.1, hy.2⟩) (fun _ _ hy => hy) _ x
    ((shutdownKept_falling hK (desk x)).trip me code x ⟨hx, le_rfl, rfl⟩)

lemma disarm_spec (hK : Kept K) :
    Triple ctx (On fun p => Filed cfg K p ∧ (p.state.isLive = false → p.registry = []))
      (disarm cfg me) (fun _ => On (Base cfg K)) (Fails cfg K) := by
  have h := robust_plain cfg me hK
  have hlast : Lasting fun p => Filed cfg K p ∧ (p.state.isLive = false → p.registry = []) :=
    (lasting_filed cfg K).and (lasting_of_clock fun _ _ h _ => h)
  refine .bind (look_spec hlast
    (Q := fun live p => Filed cfg K p ∧ (live = false → p.registry = [])) fun x hx => hx)
    fun live => .ite (fun _ => ?_) fun hlive => ?_
  · refine .pre (P := On (Filed cfg K)) ?_ fun _ hx => hx.1
    exact (safeShutdown_spec cfg me hK false).bind fun _ => h.emit.pre fun _ hx => hx.base
  · exact .pre (P := On (Base cfg K)) (h.only (by grind)) fun x hx => hx.1.base (hx.2 (by simpa using hlive))

lemma resetFault_keeps (hK : Kept K) (req : ResetRequest) :
    Keeps ctx (On (Base cfg K)) (resetFault cfg me req) := by
  have h := robust_plain cfg me hK
  have hstore (c : Cmd) (hc : c.Session) : Triple (ι := Answer) ctx (On (Empty cfg K)) (does c)
      (fun _ => On (Empty cfg K)) (Fails cfg K) :=
    (lasting_empty cfg).does fun x hx => empty_session hc x hx
  unfold resetFault
  refine .bind (by grind) fun _ => ?_
  refine bind ((safeShutdown_spec cfg me hK false).pre fun _ hx => hx.1) fun _ => ?_
  iterate 3 refine bind (hstore _ (by grind)) fun _ => ?_
  refine bind ((lasting_empty cfg).does (Q := Base cfg K) fun x hx => hx.base) fun _ => ?_
  exact h.emit.bind fun _ => h.only (.does .resetEnded)

end

end HeimdallDaq.Tx.Permits
