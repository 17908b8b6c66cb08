/-
  Tx/Switching.lean --- no switch moves under power.

  The T/R switch and the calibration inputs do not move, and under `lna_off_during_tx`
  the LNA bias is not turned on, while a PA line is on.
-/
import HeimdallDaq.Tx.Footprint

namespace HeimdallDaq.Tx.Switching

open Foundation List Triple
open Prog (does answer forEach)

/-! ## Calls -/

/-- The methods of `RfControl` that drive switches and amplifiers. -/
inductive Call
  | paEnable (chans : Option (List ℕ)) (on : Bool) (c : Option Credential)
  | trSwitch (mode : TrMode)
  | lnaBias (on : Bool)
  | calInput (mode : CalInput)
  | restoreLna
  | sequenceToTx (c : Credential)
  | sequenceToRx
  | forceSafe
  deriving DecidableEq

variable (cfg : Setup)

def Call.prog (me : Thread) : Call → Proc Unit
  | .paEnable chans on c => Tx.paEnable cfg me chans on c
  | .trSwitch mode => Tx.trSwitch cfg mode
  | .lnaBias on => Tx.lnaBias cfg on
  | .calInput mode => Tx.calInput cfg mode
  | .restoreLna => Tx.restoreLna cfg
  | .sequenceToTx c => Tx.sequenceToTx cfg me c
  | .sequenceToRx => Tx.sequenceToRx cfg me
  | .forceSafe => Tx.forceSafe cfg me

def calls (me : Thread) (cs : List Call) : Proc Unit := forEach cs fun c => (c.prog cfg me).attempt

/-! ## Power and switches -/

variable (f : FrontEnd)

@[grind]
def Powered : Prop := ∃ n, some n ∈ cfg.paLines ∧ f.drive n ≠ .manual false

@[grind]
def Switch (n : ℕ) : Prop :=
  cfg.trLine = some n ∨ cfg.calInjectionLine = some n ∨ cfg.calLoopbackLine = some n

/-- The PA lines are apart from the switches and the LNA, and the LNA from the switches. -/
@[grind]
structure Apart (cfg : Setup) : Prop where
  pa : ∀ n, some n ∈ cfg.paLines → ¬Switch cfg n ∧ cfg.lnaLine ≠ some n
  lna : ∀ n, cfg.lnaLine = some n → ¬Switch cfg n

/-- A step of the front end from `f` to `f'` moves no switch and, if the policy says so, does
not turn the LNA on, unless every PA line is off. -/
@[grind]
def Safe (f f' : FrontEnd) : Prop :=
  Powered cfg f → (∀ n, Switch cfg n → f'.drive n = f.drive n) ∧
    (cfg.lnaOff → ∀ n, cfg.lnaLine = some n → f.drive n ≠ .manual true → f'.drive n ≠ .manual true)

/-- Between two steps of a method everything but the front end may change, and each of its
steps is safe. -/
def ctx : Context Sys Cmd Unit where
  apply := Cmd.apply
  obs _ _ _ := ()
  admits _ _ := True
  rely x y := y.1.front = x.1.front
  guar c x := ∀ fc, c = .front fc → Safe cfg x.1.front (fc.apply x.1.front)

variable (P : FrontEnd → Prop)

@[grind]
def On (x : Sys × Unit) : Prop := P x.1.front

lemma stable : (ctx cfg).Stable (On P) := by
  intro x y hx hxy
  show P y.1.front
  rw [hxy]
  exact hx

/-! ## What a line write does -/

section Lines

variable {cfg : Setup} {f : FrontEnd} {use : LineUse} {n m : ℕ} {value : Bool} {r : WriteResult}

attribute [local grind] FrontCmd.apply Drive.write

@[simp] lemma pa_line : ((FrontCmd.line use n value r).apply f).pa = f.pa := by cases r <;> rfl

@[simp] lemma atr_line : ((FrontCmd.line use n value r).apply f).atr = f.atr := by cases r <;> rfl

lemma drive_line_of_ne (h : m ≠ n) :
    ((FrontCmd.line use n value r).apply f).drive m = f.drive m := by
  cases r <;> simp [FrontCmd.apply, Function.update_of_ne h]

lemma write_false (d : Drive) : d.write false = .manual false := by cases d <;> rfl

lemma drive_line_done (f : FrontEnd) (use : LineUse) (n : ℕ) :
    ((FrontCmd.line use n false .done).apply f).drive n = .manual false := by
  simp [FrontCmd.apply, write_false]

lemma drive_line_false (f : FrontEnd) (use : LineUse) (n : ℕ) (r : WriteResult) (m : ℕ) :
    ((FrontCmd.line use n false r).apply f).drive m = f.drive m ∨
      ((FrontCmd.line use n false r).apply f).drive m = .manual false := by
  by_cases h : m = n
  · subst h
    cases r with
    | raised => exact .inl rfl
    | done => exact .inr (drive_line_done f use m)
    | raisedLate => exact .inr (drive_line_done f use m)
  · exact .inl (drive_line_of_ne h)

lemma safe_of_drive {f' : FrontEnd} (h : f'.drive = f.drive) : Safe cfg f f' := by grind

lemma safe_pa (hapart : Apart cfg) (hn : some n ∈ cfg.paLines) :
    Safe cfg f ((FrontCmd.line use n value r).apply f) := by grind [drive_line_of_ne]

lemma safe_lna (hapart : Apart cfg) (hn : cfg.lnaLine = some n)
    (hvalue : value = false ∨ cfg.lnaOff = false) :
    Safe cfg f ((FrontCmd.line use n value r).apply f) := by
  grind [drive_line_of_ne, drive_line_false]

end Lines

/-! ## Between two calls -/

@[grind]
def Covered : Prop :=
  ∀ n, some n ∈ cfg.paLines → f.drive n ≠ .manual false →
    ∃ c, cfg.paLines[c]? = some (some n) ∧ f.pa c

@[grind]
def Manual : Prop := f.atr = false

@[grind]
def Inv : Prop := Manual f ∧ Covered cfg f

@[grind]
def Dark : Prop := Inv cfg f ∧ ¬Powered cfg f

section Steps

variable {cfg : Setup} {f : FrontEnd} {use : LineUse} {n : ℕ} {value : Bool} {r : WriteResult}

lemma Inv.line_other (h : Inv cfg f) (hn : some n ∉ cfg.paLines) :
    Inv cfg ((FrontCmd.line use n value r).apply f) := by
  grind [drive_line_of_ne, pa_line, atr_line]

lemma Inv.line_off (h : Inv cfg f) : Inv cfg ((FrontCmd.line use n false r).apply f) := by
  grind [drive_line_false, pa_line, atr_line]

lemma Dark.line_other (h : Dark cfg f) (hn : some n ∉ cfg.paLines) :
    Dark cfg ((FrontCmd.line use n value r).apply f) := by grind [drive_line_of_ne, Inv.line_other]

lemma Inv.dark (h : Inv cfg f) (hoff : cfg.chains.any f.pa = false) : Dark cfg f := by
  grind [Setup.chains, Setup.nTx]

lemma mem_chainsOn {ln : Line} {c : ℕ} : c ∈ cfg.chainsOn ln ↔ cfg.paLines[c]? = some ln := by
  grind [Setup.chainsOn, Setup.nTx]

@[grind]
def Still (c : FrontCmd) : Prop := ∀ f, (c.apply f).drive = f.drive

@[grind]
def Harmless (c : FrontCmd) : Prop :=
  Still c ∧ ∀ f, (f.atr = false → (c.apply f).atr = false) ∧ ∀ k, f.pa k → (c.apply f).pa k

lemma Inv.harmless {c : FrontCmd} (hc : Harmless c) (h : Inv cfg f) : Inv cfg (c.apply f) := by
  grind

lemma Dark.harmless {c : FrontCmd} (hc : Harmless c) (h : Dark cfg f) : Dark cfg (c.apply f) := by
  grind

attribute [local simp] Harmless Still FrontCmd.apply Function.update_apply

variable (k : ℕ) (on : Bool)

lemma still_setPa : Still (.setPa k on) := by simp

lemma pa_setPa_self : ((FrontCmd.setPa k on).apply f).pa k = on := by
  simp [FrontCmd.apply]

lemma pa_setPa_of_ne {j k : ℕ} (h : j ≠ k) :
    ((FrontCmd.setPa k on).apply f).pa j = f.pa j := by simp [FrontCmd.apply, h]

@[grind ←]
lemma harmless_setPa : Harmless (.setPa k true) := by
  simp
  grind

@[grind ←]
lemma harmless_setTr (mode : TrMode) : Harmless (.setTr mode) := by simp

@[grind ←]
lemma harmless_setLna : Harmless (.setLna on) := by simp

@[grind ←]
lemma harmless_setCalInput (mode : CalInput) : Harmless (.setCalInput mode) := by simp

@[grind ←]
lemma harmless_setAtr : Harmless (.setAtr false) := by simp

@[grind ←]
lemma harmless_setSavedRxGain (saved : Bool) : Harmless (.setSavedRxGain saved) := by simp

@[grind ←]
lemma harmless_setLnaBeforeTx (lna : Option Bool) : Harmless (.setLnaBeforeTx lna) := by simp

end Steps

/-! ## Steps of programs -/

section Programs

variable {cfg : Setup} {P Q R : FrontEnd → Prop} {E : Stop → Sys × Unit → Prop}

lemma front_spec {c : FrontCmd} (hc : Still c) (h : ∀ f, P f → Q (c.apply f)) :
    Triple (ctx cfg) (On P) (front c) (fun _ => On Q) E := by
  refine .does (stable cfg P) fun y hy _ => ⟨?_, h _ hy⟩
  rintro _ ⟨⟩
  exact safe_of_drive (hc _)

lemma write_spec (use : LineUse) (ln : Line) (value : Bool)
    (hsafe : ∀ n, ln = some n → ∀ r f, P f → Safe cfg f ((FrontCmd.line use n value r).apply f))
    (hnone : ln = none → ∀ f, P f → Q f)
    (hdone : ∀ n, ln = some n → ∀ f, P f → Q ((FrontCmd.line use n value .done).apply f))
    (hraise : ∀ n, ln = some n → ∀ r f, P f → R ((FrontCmd.line use n value r).apply f)) :
    Triple (ctx cfg) (On P) (write use ln value) (fun _ => On Q) (fun _ => On R) := by
  cases ln with
  | none => exact .ret fun _ h => hnone rfl _ h
  | some n =>
    refine .ask fun a => .act (stable cfg P) fun y hy _ => ⟨fun fc hfc => ?_, ?_⟩
    · cases hfc
      exact hsafe n rfl _ _ hy
    · cases hr : a.write with
      | done => exact hdone n rfl _ hy
      | raised => exact hraise n rfl .raised _ hy
      | raisedLate => exact hraise n rfl .raisedLate _ hy

lemma write_keeps (use : LineUse) (ln : Line) (value : Bool)
    (h : ∀ n, ln = some n → ∀ r f, P f → Safe cfg f ((FrontCmd.line use n value r).apply f) ∧
      P ((FrontCmd.line use n value r).apply f)) : Keeps (ctx cfg) (On P) (write use ln value) :=
  write_spec use ln value (fun n hn r f hf => (h n hn r f hf).1) (fun _ _ hf => hf)
    (fun n hn f hf => (h n hn .done f hf).2) fun n hn r f hf => (h n hn r f hf).2

lemma setPas_spec {on : Bool} (cs : List ℕ)
    (h : ∀ k ∈ cs, ∀ f, P f → P ((FrontCmd.setPa k on).apply f)) :
    Triple (ctx cfg) (On P) (forEach cs fun k => front (.setPa k on))
      (fun _ => On fun f => P f ∧ ∀ k ∈ cs, f.pa k = on) E := by
  suffices hrest : ∀ done : List ℕ, Triple (ctx cfg) (On fun f => P f ∧ ∀ k ∈ done, f.pa k = on)
      (forEach cs fun k => front (.setPa k on))
      (fun _ => On fun f => P f ∧ ∀ k ∈ done ++ cs, f.pa k = on) E from
    (hrest []).pre fun _ hx => ⟨hx, by simp⟩
  induction cs with
  | nil => exact fun done => .ret fun _ hx => by simpa using hx
  | cons k cs ih =>
    intro done
    have hset : Triple (ctx cfg) (On fun f => P f ∧ ∀ j ∈ done, f.pa j = on)
        (front (.setPa k on)) (fun _ => On fun f => P f ∧ ∀ j ∈ done ++ [k], f.pa j = on) E := by
      refine front_spec (still_setPa k on) fun f hf => ⟨h k mem_cons_self f hf.1, fun j hj => ?_⟩
      by_cases hjk : j = k
      · rw [hjk, pa_setPa_self]
      · rw [pa_setPa_of_ne on hjk]
        exact hf.2 j (by simpa [hjk] using hj)
    refine hset.bind fun _ => ?_
    have hlater := ih (fun j hj => h j (mem_cons_of_mem k hj)) (done ++ [k])
    simpa using hlater

lemma look_spec {α : Type} {Q : α → FrontEnd → Prop} {f : Sys → α}
    (h : ∀ s, P s.front → Q (f s) s.front) :
    Triple (ctx cfg) (On P) (look f) (fun a => On (Q a)) E :=
  reads (stable cfg P) fun y hy _ => ⟨fun _ hfc => (by cases hfc), h y.1 hy⟩

end Programs

section Front

variable {cfg : Setup} {me : Thread} (hapart : Apart cfg)

abbrev Holds (cfg : Setup) {α : Type} (p : Proc α) : Prop := Keeps (ctx cfg) (On (Inv cfg)) p

@[grind ←]
lemma holds_front {c : FrontCmd} (hc : Harmless c) : Holds cfg (front c) :=
  front_spec hc.1 fun _ hf => hf.harmless hc

variable {E : Stop → Sys × Unit → Prop}

lemma paAnyOn_spec : Triple (ctx cfg) (On (Inv cfg)) (paAnyOn cfg)
      (fun on => On fun f => Inv cfg f ∧ (on = false → Dark cfg f)) E :=
  look_spec fun _ h => ⟨h, fun hoff => h.dark hoff⟩

/-! ## Programs that leave the front end alone -/

@[grind]
def Aside (c : Cmd) : Prop := ∀ f, c ≠ .front f

lemma Aside.front_apply {c : Cmd} (h : Aside c) (s : Sys) : (c.apply s).front = s.front := by
  cases c <;> grind [Cmd.apply]

variable {α : Type} {p : Proc α}

lemma aside_keeps (P : FrontEnd → Prop) (hp : Only Aside p) : Keeps (ctx cfg) (On P) p := by
  refine .of_only (stable cfg P) (fun c hc y hy _ => ⟨fun fc hfc => absurd hfc (hc fc), ?_⟩) hp
  show P (c.apply y.1).front
  rw [hc.front_apply]
  exact hy

@[grind ←]
lemma holds_aside (hp : Only Aside p) : Holds cfg p := aside_keeps _ hp

@[grind ←]
lemma aside_of_reading (hp : Only Cmd.Reading p) : Only Aside p := by
  exact hp.mono (by grind)

@[grind ←]
lemma aside_look (f : Sys → α) : Only Aside (look f) := by grind

@[grind ←]
lemma aside_does {c : Cmd} (h : ∀ f, c ≠ .front f) : Only Aside (does c : Proc Unit) :=
  Only.does h

@[grind ←]
lemma aside_emit : Only Aside (emit cfg me) := by grind [emit, emitBus]

variable (fault : Bool)

@[grind ←]
lemma aside_markState : Only Aside (markState fault) := by grind [markState]

@[grind ←]
lemma aside_mark : Only Aside (mark fault) := by
  unfold mark
  repeat' first | (with_reducible refine .bind ?_ fun _ => ?_) | split
  all_goals grind

@[grind ←]
lemma aside_clearOwnRecord (session : Option SessionId) :
    Only Aside (clearOwnRecord session) := by grind

/-! ## RX gain -/

@[grind ←]
lemma holds_backendCall : Holds cfg backendCall := by grind [backendCall]

@[grind ←]
lemma holds_restoreRxGain : Holds cfg (restoreRxGain cfg) := by grind [restoreRxGain]

@[grind ←]
lemma holds_muteRx : Holds cfg (muteRx cfg) := by grind [muteRx]

/-! ## Chains and lines -/

variable {f : FrontEnd} {ln : Line}

lemma Inv.clear {k : ℕ} (h : Inv cfg f) (hk : cfg.paLines[k]? = some ln)
    (hln : (∀ n, ln = some n → f.drive n = .manual false) ∨
      ∃ j, cfg.paLines[j]? = some ln ∧ j ≠ k ∧ f.pa j) :
    Inv cfg ((FrontCmd.setPa k false).apply f) := by
  refine ⟨h.1, fun n hn hon => ?_⟩
  have hcover : ∃ j, cfg.paLines[j]? = some (some n) ∧ j ≠ k ∧ f.pa j = true := by
    obtain ⟨j, hj, hpa⟩ := h.2 n hn hon
    by_cases hjk : j = k
    · subst hjk
      rw [hk, Option.some.injEq] at hj
      subst hj
      rcases hln with hoff | hother
      · exact absurd (hoff n rfl) hon
      · exact hother
    · exact ⟨j, hj, hjk, hpa⟩
  obtain ⟨j, hj, hjk, hpa⟩ := hcover
  exact ⟨j, hj, (pa_setPa_of_ne false hjk).trans hpa⟩

lemma mem_mine {target : List ℕ} {k : ℕ}
    (hk : k ∈ (cfg.chainsOn ln).filter fun c => decide (c ∈ target)) :
    cfg.paLines[k]? = some ln ∧ k ∈ target := by simpa [mem_chainsOn] using hk

/-! ## Switches and LNA -/

include hapart

@[grind ←]
lemma holds_trSwitch (mode : TrMode) : Holds cfg (trSwitch cfg mode) := by
  refine bind paAnyOn_spec fun on => ite (fun _ => throw fun _ h => h.1) fun hoff => ?_
  have hwrite : Keeps (ctx cfg) (On (Dark cfg)) (write .tr cfg.trLine (decide (mode = .tx))) :=
    write_keeps _ _ _ (by grind [Dark.line_other])
  exact .bind (hwrite.mono (by grind) (by grind) (by grind)) fun _ => holds_front (harmless_setTr mode)

lemma lnaWrite_spec {on : Bool} {P : FrontEnd → Prop}
    (hP : ∀ f, P f → Inv cfg f ∧ (on = false ∨ cfg.lnaOff = false ∨ Dark cfg f)) :
    Triple (ctx cfg) (On P) (lnaWrite cfg on) (fun _ => On (Inv cfg)) fun _ => On (Inv cfg) := by
  refine .bind (Q := fun _ => On (Inv cfg)) ?_ fun _ => holds_front (harmless_setLna on)
  exact write_spec _ _ _ (by grind [safe_lna]) (by grind) (by grind [Inv.line_other]) (by grind [Inv.line_other])

@[grind ←]
lemma holds_lnaBias (on : Bool) : Holds cfg (lnaBias cfg on) := by
  cases on with
  | false => exact lnaWrite_spec hapart (by grind)
  | true =>
    exact bind paAnyOn_spec fun paOn => ite (fun _ => throw fun _ h => h.1)
      fun hoff => lnaWrite_spec hapart (by grind)

@[grind ←]
lemma holds_calInput (mode : CalInput) : Holds cfg (calInput cfg mode) := by
  have hinj : ∀ value, Keeps (ctx cfg) (On (Dark cfg)) (write .cal cfg.calInjectionLine value) :=
    fun value => write_keeps _ _ _ (by grind [Dark.line_other])
  have hloop : ∀ value, Keeps (ctx cfg) (On (Dark cfg)) (write .cal cfg.calLoopbackLine value) :=
    fun value => write_keeps _ _ _ (by grind [Dark.line_other])
  have hset : ∀ input, Keeps (ctx cfg) (On (Dark cfg)) (front (.setCalInput input)) :=
    fun input => front_spec (harmless_setCalInput input).1 (by grind [Dark.harmless])
  refine bind paAnyOn_spec fun on => ite (fun _ => throw fun _ h => h.1) fun hoff => ?_
  have hdark : Keeps (ctx cfg) (On (Dark cfg)) (do
      write .cal cfg.calInjectionLine false
      write .cal cfg.calLoopbackLine false
      front (.setCalInput .antenna)
      calMake cfg mode
      front (.setCalInput mode)) := by
    cases mode <;> grind [calMake]
  exact hdark.mono (by grind) (by grind) (by grind)

@[grind ←]
lemma holds_restoreLna : Holds cfg (restoreLna cfg) := by grind [restoreLna, lnaRestoreValue]

/-! ## PA off -/

lemma offWrite_spec (hln : ln ∈ cfg.paLines) :
    Triple (ctx cfg) (On (Inv cfg)) (write .paOff ln false)
      (fun _ => On fun f => Inv cfg f ∧ ∀ n, ln = some n → f.drive n = .manual false)
      fun _ => On (Inv cfg) := by
  exact write_spec _ _ _ (by grind [safe_pa]) (by grind) (by grind [Inv.line_off, drive_line_done]) (by grind [Inv.line_off])

variable (target : List ℕ)

@[grind ←]
lemma holds_paOffLine (ln : Line) : Holds cfg (paOffLine cfg target ln) := by
  refine .ite (fun _ => .ret false) fun hmine => ?_
  obtain ⟨k₀, hk₀⟩ := exists_mem_of_ne_nil _ hmine
  refine bind (look_spec (Q := fun othersOn f => Inv cfg f ∧ (othersOn = true →
    ∃ j, cfg.paLines[j]? = some ln ∧ j ∉ target ∧ f.pa j = true)) fun s hs => ⟨hs, ?_⟩)
    fun othersOn => .ite (fun hothers => ?_) fun _ => ?_
  · simp [mem_chainsOn]
  · -- the line stays on for the chains that are not asked for
    refine bind (Q := fun _ => On (Inv cfg)) ?_ fun _ => Keeps.ret false
    refine (setPas_spec (P := fun f => Inv cfg f ∧ ∃ j, cfg.paLines[j]? = some ln ∧ j ∉ target ∧
      f.pa j = true) _ ?_).mono (by grind) (by grind) fun _ _ he => he
    grind [mem_mine, Inv.clear, pa_setPa_of_ne]
  · have hoff : Holds cfg (write .paOff ln false >>= fun _ =>
        forEach ((cfg.chainsOn ln).filter fun c => decide (c ∈ target)) fun c =>
          front (.setPa c false)) :=
      (offWrite_spec hapart (mem_of_getElem? (mem_mine hk₀).1)).bind fun _ =>
        (setPas_spec _ fun k hk f hf => ⟨hf.1.clear (mem_mine hk).1 (.inl hf.2), hf.2⟩).mono
          (fun _ hx => hx) (by grind) fun _ _ he => he
    refine .bind (hoff.succeeds.pre fun _ hx => hx.1) fun ok =>
      Keeps.ite (fun _ => .ret false) fun _ => ?_
    grind

@[grind ←]
lemma holds_paOffLines : ∀ lines : List Line, Holds cfg (paOffLines cfg target lines) := by
  intro lines
  induction lines <;> grind [paOffLines]

@[grind ←]
lemma holds_paOff : Holds cfg (paOff cfg me target) := by grind [paOff]

@[grind ←]
lemma holds_safeShutdown : Holds cfg (safeShutdown cfg me fault) := by
  unfold safeShutdown
  repeat' first | (with_reducible refine .bind ?_ fun _ => ?_) | split
  all_goals grind [shutdownLines]

@[grind ←]
lemma holds_trip (code : Code) : Holds cfg (trip cfg me code) := by
  unfold trip
  repeat' first | (with_reducible refine .bind ?_ fun _ => ?_) | split
  all_goals grind [tripLatch]

/-! ## PA on -/

@[grind]
def Off (lines : List Line) (f : FrontEnd) : Prop := ∀ n, some n ∈ lines → f.drive n = .manual false

omit hapart in
lemma Off.line {lines : List Line} (h : Off lines f) (use : LineUse) (n : ℕ)
    (r : WriteResult) : Off lines ((FrontCmd.line use n false r).apply f) := by
  grind [drive_line_false]

lemma forceLines_spec : ∀ lines : List Line, lines ⊆ cfg.paLines → ∀ earlier : List Line,
      Triple (ctx cfg) (On fun f => Manual f ∧ Off earlier f) (forceLines lines)
        (fun errors => On fun f => Manual f ∧ (errors = false → Off (earlier ++ lines) f)) E := by
  intro lines
  induction lines with
  | nil => exact fun _ earlier => .ret (by grind)
  | cons ln rest ih =>
    intro hsub earlier
    have hwrite : Triple (ctx cfg) (On fun f => Manual f ∧ Off earlier f)
        (write .forcePaOff ln false) (fun _ => On fun f => Manual f ∧ Off (earlier ++ [ln]) f)
        fun _ => On fun f => Manual f ∧ Off earlier f := by
      refine write_spec _ _ _ (by grind [safe_pa]) (by grind) (fun n hn f hf => ?_)
        (by grind [Off.line, atr_line])
      exact ⟨atr_line.trans hf.1, by grind [hf.2.line .forcePaOff n .done, drive_line_done]⟩
    have hrest := ih (fun l hl => hsub (mem_cons_of_mem ln hl))
    refine .bind hwrite.succeeds fun ok => ?_
    cases ok with
    | true =>
      exact .bind ((hrest (earlier ++ [ln])).pre fun _ hx => hx.1 rfl) fun later => .ret (by grind)
    | false => exact .bind ((hrest earlier).pre fun _ hx => hx.2 rfl) fun later => .ret (by grind)

omit hapart in
lemma inv_of_forced {errors : Bool} (hatr : Manual f)
    (hoff : errors = false → Off cfg.paLines f) (hpa : ∀ k ∈ cfg.chains, f.pa k = errors) :
    Inv cfg f ∧ (errors = false → Dark cfg f) := by
  grind [Setup.chains, mem_iff_getElem?, Setup.nTx]

lemma forceSafe_spec :
    Triple (ctx cfg) (On Manual) (forceSafe cfg me) (fun _ => On (Inv cfg)) E := by
  have hlines := forceLines_spec (E := E) hapart cfg.lines (fun _ => mem_eraseDups.mp) []
  refine .bind (hlines.pre (by grind)) fun errors => ?_
  refine .bind (setPas_spec _ fun k _ f hf => hf) fun _ => ?_
  refine .bind (Q := fun _ => On fun f => Inv cfg f ∧ (errors = false → Dark cfg f))
    (front_spec harmless_setAtr.1 fun f hf => ?_) fun _ => ?_
  · have hforced : Inv cfg f ∧ (errors = false → Dark cfg f) :=
      inv_of_forced hf.1.1 (by simpa [Setup.lines, Off] using hf.1.2) hf.2
    grind [Inv.harmless]
  · have hwrite : Keeps (ctx cfg) (On (Dark cfg)) (write .tr cfg.trLine false) :=
      write_keeps _ _ _ (by grind [Dark.line_other])
    have htr : Keeps (ctx cfg) (On (Dark cfg)) (.attempt do
        write .tr cfg.trLine false
        front (.setTr .rx)) :=
      (hwrite.bind fun _ => front_spec (harmless_setTr .rx).1 (by grind [Dark.harmless])).attempt
    refine .bind (Q := fun _ => On (Inv cfg)) (.ite (fun hok => ?_) fun _ => ?_) fun _ =>
      of_calm (calm_emit cfg me) (holds_aside aside_emit)
    · exact .of_calm (.attempt _) (htr.mono (by grind) (by grind) fun _ _ hx => hx)
    · exact .ret fun _ hx => hx.1

@[grind]
def Lit (cfg : Setup) (ln : Line) (f : FrontEnd) : Prop :=
  Manual f ∧ ∀ n, some n ∈ cfg.paLines → some n ≠ ln → f.drive n ≠ .manual false →
    ∃ c, cfg.paLines[c]? = some (some n) ∧ f.pa c

variable (chans : List ℕ)

/-- PA on: the chains of a line are commanded on after it; a write that raises may leave a
line on that no chain covers. -/
lemma paOnLines_spec : ∀ lines : List Line, (∀ ln ∈ lines, ∃ k ∈ chans, cfg.paLines[k]? = some ln) →
      Triple (ctx cfg) (On (Inv cfg)) (paOnLines cfg chans lines) (fun _ => On (Inv cfg))
        fun _ => On Manual := by
  intro lines
  induction lines with
  | nil => exact fun _ => .ret fun _ hx => hx
  | cons ln rest ih =>
    intro hlines
    obtain ⟨k, hk, hkln⟩ := hlines ln mem_cons_self
    have hwrite : Triple (ctx cfg) (On (Inv cfg)) (write .paOn ln true) (fun _ => On (Lit cfg ln))
        fun _ => On Manual :=
      write_spec _ _ _ (fun n hn r f _ => safe_pa hapart (hn ▸ mem_of_getElem? hkln)) (by grind)
        (by grind [drive_line_of_ne, pa_line, atr_line]) (by grind [atr_line])
    refine hwrite.bind fun _ => .bind (Q := fun _ => On (Inv cfg)) ?_ fun _ =>
      ih fun l hl => hlines l (mem_cons_of_mem ln hl)
    refine (setPas_spec _ ?_).mono (fun _ hx => hx) (fun _ x hx => ?_) fun _ _ he => he
    all_goals grind [harmless_setPa, mem_chainsOn]

@[grind ←]
lemma holds_paDrive : Holds cfg (paDrive cfg me chans) := by
  have hlines : ∀ ln ∈ cfg.linesOf chans, ∃ k ∈ chans, cfg.paLines[k]? = some ln := by
    simp [Setup.linesOf]
  refine bind (look_spec (Q := fun atr f => Inv cfg f ∧ atr = false) (by grind)) fun atr =>
    ite (fun hatr x hx => absurd (hatr.symm.trans hx.2) (by simp)) fun _ => ?_
  refine .bind (Q := fun _ => On (Inv cfg)) (.catching (E := fun _ => On Manual)
    ((paOnLines_spec hapart chans _ hlines).pre fun _ hx => hx.1) fun e => ?_) fun _ => ?_
  · refine .bind (.of_calm (.does _) (aside_keeps Manual (aside_does (by simp)))) fun _ => ?_
    exact .bind (forceSafe_spec hapart) fun _ => .throw fun _ hx => hx
  · exact (holds_aside (aside_does (by simp))).bind fun _ => holds_aside aside_emit

omit hapart in
@[grind ←]
lemma aside_resolveChans (chans : Option (List ℕ)) : Only Aside (resolveChans cfg chans) := by
  cases chans <;> grind [resolveChans]

@[grind ←]
lemma holds_refuseSequence : Holds cfg (refuseSequence (α := α) cfg me) := by
  grind [refuseSequence]

@[grind ←]
lemma holds_paOn (c : Option Credential) : Holds cfg (paOn cfg me chans c) := by
  grind [paOn]

@[grind ←]
lemma holds_paEnable (chans : Option (List ℕ)) (on : Bool) (c : Option Credential) :
    Holds cfg (paEnable cfg me chans on c) := by grind [paEnable]

/-! ## Sequences -/

@[grind ←]
lemma holds_txLines (c : Credential) : Holds cfg (txLines cfg me chans c) := by
  unfold txLines
  repeat' first | (with_reducible refine .bind ?_ fun _ => ?_) | split
  all_goals grind [saveLna]

@[grind ←]
lemma holds_sequenceToTx (c : Credential) : Holds cfg (sequenceToTx cfg me c) := by
  refine (holds_aside (aside_of_reading (reading_credentialChains c))).bind fun wanted => ?_
  refine (holds_aside (aside_resolveChans wanted)).bind fun chans => ?_
  refine (holds_aside (aside_of_reading (reading_authorized cfg chans _))).bind fun ok => ?_
  refine (holds_aside (aside_does (by simp))).bind fun _ => .ite (fun _ => ?_) fun _ =>
    holds_refuseSequence hapart
  refine (holds_txLines hapart chans c).catching fun e => ?_
  exact .bind ((forceSafe_spec hapart).pre fun _ hx => hx.1) fun _ => .throw e

@[grind ←]
lemma holds_sequenceToRx : Holds cfg (sequenceToRx cfg me) := by
  refine bind (look_spec (Q := fun atr f => Inv cfg f ∧ atr = false) (by grind)) fun atr =>
    ite (fun hatr x hx => ?_) fun _ => pre (P := On (Inv cfg)) (?_ : Keeps _ _ _) fun _ hx => hx.1
  · exact absurd (hatr.symm.trans hx.2) (by simp)
  · unfold rxLines
    repeat' first | (with_reducible refine .bind ?_ fun _ => ?_) | split
    all_goals grind [lnaRestoreValue, paAnyOn]

lemma Call.holds (c : Call) : Holds cfg (c.prog cfg me) := by
  cases c with
  | forceSafe => exact (forceSafe_spec hapart).pre fun _ hx => hx.1
  | _ => grind [Call.prog]

end Front

/-! ## Every sequence of calls -/

/-- No command of any sequence of calls, whichever line writes raise and whatever becomes of
the controller meanwhile, moves a T/R or calibration line, or turns the LNA on against the
policy, while a PA line is on. -/
theorem calls_safe {cfg : Setup} (hapart : Apart cfg) (me : Thread) (cs : List Call) (s : Sys)
    (hatr : s.front.atr = false) (hoff : ¬Powered cfg s.front) {c : FrontCmd} {x : Sys × Unit}
    (h : Takes (ctx cfg).toWatch (ctx cfg).rely (calls cfg me cs) (s, ()) (.front c) x) :
    Safe cfg x.1.front (c.apply x.1.front) := by
  have hcalls : Holds cfg (calls cfg me cs) :=
    Keeps.forEach cs fun call _ => (call.holds hapart).attempt
  exact (hcalls (s, ()) (by grind)).takes (fun _ _ => trivial) h c rfl

lemma apart_bench : Apart bench where
  pa := by simp [bench, Switch]
  lna := by simp [bench, Switch]

/-- The T/R switch of the bench moves to TX with its PA off. -/
theorem calls_safe_bench :
    Safe bench bench.idle.front ((FrontCmd.line .tr 1 true .done).apply bench.idle.front) := by
  have hoff : ¬Powered bench bench.idle.front := by
    rintro ⟨n, _, hon⟩
    exact hon rfl
  -- the test of the commanded states, the answer to the write, the write
  exact calls_safe apart_bench 0 [.trSwitch .tx] bench.idle rfl hoff
    (x := (bench.idle, ())) (.later (y := (bench.idle, ())) rfl (.ask default (.now rfl)))

end HeimdallDaq.Tx.Switching
