/-
  HwController/ScheduleLoad.lean --- what the coordinator accepts and a member loads.

  The coordinator checks a document with the parser the members use, but a member does
  more than parse: `load_schedule` converts the dwell times.
-/
import HeimdallDaq.HwController.ScheduleJson

namespace HeimdallDaq.HwController

open Foundation List
open Federation

def Hwc.schd {M : ℕ} (py : Python) (cfg : Config) (data : Json) (h : Hwc M) : Hwc M × Outcome :=
  h.handleSchd (loadJson py cfg.timing data).toOption

/-! ## Dwell times that convert -/

def Timing.Converts (t : Timing) (seconds : PyFloat) : Prop :=
  ∃ q frameTime, seconds = .fin q ∧ t.frameTime = .ok frameTime ∧ frameTime ≠ .fin 0 ∧
    ∀ d, frameTime = .fin d → q / d < Format.binary64.overflow

namespace Timing

variable {t : Timing}

lemma nonneg_of_round {f : Format} {q d : ℚ} (hq : 0 ≤ q) (h : f.round q = .fin d) : 0 ≤ d := by
  unfold Format.round at h
  split_ifs at h
  cases h
  exact Format.nearest_nonneg hq

lemma nonneg_of_ofInt {n : ℕ} {x : PyFloat} (h : PyFloat.ofInt n = .ok x) :
    ∃ q, x = .fin q ∧ 0 ≤ q := by
  unfold PyFloat.ofInt at h
  split at h
  next q hq =>
    cases h
    exact ⟨q, rfl, nonneg_of_round (by exact_mod_cast Nat.zero_le n) hq⟩
  · cases h

lemma frameTime_cases {x : PyFloat} (h : t.frameTime = .ok x) :
    (∃ d, 0 ≤ d ∧ x = .fin d) ∨ ∃ negative, x = .inf negative := by
  obtain ⟨rate, hrate, h⟩ := bind_eq_ok.mp h
  obtain ⟨samples, hsamples, h⟩ := bind_eq_ok.mp h
  obtain ⟨r, rfl, hr⟩ := nonneg_of_ofInt hrate
  have hsamples : PyFloat.ofInt ((t.cpiSize * t.decimationRatio : ℕ) : ℤ) = .ok samples := by
    rw [Nat.cast_mul]
    exact hsamples
  obtain ⟨s, rfl, hs⟩ := nonneg_of_ofInt hsamples
  unfold PyFloat.div at h
  simp only at h
  split_ifs at h
  cases h
  cases hround : Format.binary64.round (s / r) with
  | fin d => exact .inl ⟨d, nonneg_of_round (div_nonneg hs hr) hround, rfl⟩
  | inf negative => exact .inr ⟨negative, rfl⟩
  | nan =>
    unfold Format.round at hround
    split_ifs at hround

variable {seconds : PyFloat}

lemma fin_of_framesForSeconds {n : ℤ} (h : t.framesForSeconds seconds = .ok n) : ∃ q, seconds = .fin q := by
  obtain ⟨frameTime, hframeTime, h⟩ := bind_eq_ok.mp h
  obtain ⟨frames, hframes, h⟩ := bind_eq_ok.mp h
  obtain ⟨k, hk, -⟩ := bind_eq_ok.mp h
  cases seconds with
  | fin q => exact ⟨q, rfl⟩
  | inf negative | nan =>
    unfold PyFloat.div at hframes
    rcases frameTime_cases hframeTime with ⟨d, -, rfl⟩ | ⟨_, rfl⟩
    · simp only at hframes
      split_ifs at hframes
      cases hframes
      cases hk
    · cases hframes
      cases hk

lemma framesForSeconds_isOk_iff (hpos : seconds.isPos) :
    (∃ n, t.framesForSeconds seconds = .ok n) ↔ t.Converts seconds := by
  constructor
  · rintro ⟨n, h⟩
    obtain ⟨q, rfl⟩ := fin_of_framesForSeconds h
    have hq : 0 < q := of_decide_eq_true hpos
    obtain ⟨frameTime, hframeTime, h⟩ := bind_eq_ok.mp h
    obtain ⟨frames, hframes, h⟩ := bind_eq_ok.mp h
    obtain ⟨k, hk, -⟩ := bind_eq_ok.mp h
    refine ⟨q, frameTime, rfl, hframeTime, ?_, ?_⟩
    · rintro rfl
      cases hframes
    · rintro d rfl
      rcases frameTime_cases hframeTime with ⟨_, hd, ⟨⟩⟩ | ⟨_, ⟨⟩⟩
      rw [← Format.round_fin_iff (div_nonneg hq.le hd)]
      unfold PyFloat.div at hframes
      simp only at hframes
      split_ifs at hframes
      cases hframes
      cases hround : Format.binary64.round (q / d) with
      | fin r => exact ⟨r, rfl⟩
      | inf negative =>
        rw [hround] at hk
        cases hk
      | nan =>
        rw [hround] at hk
        cases hk
  · rintro ⟨q, frameTime, rfl, hframeTime, hne, hlt⟩
    have hq : 0 < q := of_decide_eq_true hpos
    rcases frameTime_cases hframeTime with ⟨d, hd, rfl⟩ | ⟨negative, rfl⟩
    · have hd0 : d ≠ 0 := fun h => hne (by rw [h])
      obtain ⟨r, hr⟩ := (Format.round_fin_iff (div_nonneg hq.le hd)).mpr (hlt d rfl)
      have hdiv : PyFloat.div (.fin q) (.fin d) = .ok (.fin r) := by
        rw [← hr]
        exact if_neg hd0
      exact ⟨_, bind_eq_ok.mpr ⟨_, hframeTime, bind_eq_ok.mpr ⟨_, hdiv, rfl⟩⟩⟩
    · exact ⟨_, bind_eq_ok.mpr ⟨_, hframeTime, rfl⟩⟩

end Timing

/-! ## What loads -/

section Load

variable {py : Python} {t : Timing}

lemma loadEntry_isOk_iff (e : ScheduleParser.ScheduleEntry) : (∃ r, loadEntry t e = .ok r) ↔
      ∀ seconds, e.dwellTimeSec = some seconds → ∃ n, t.framesForSeconds seconds = .ok n := by
  unfold loadEntry
  cases e.dwellTimeSec with
  | none => exact ⟨fun _ => nofun, fun _ => ⟨_, rfl⟩⟩
  | some seconds =>
    constructor
    · grind [bind_eq_ok]
    · intro h
      obtain ⟨n, hn⟩ := h seconds rfl
      exact ⟨_, bind_eq_ok.mpr ⟨n, hn, rfl⟩⟩

variable {data : Json} {sched : ScheduleParser.Schedule}

lemma loadJson_isOk_iff (h : ScheduleParser.fromJson py data = .ok sched) :
    (∃ doc, loadJson py t data = .ok doc) ↔ ∀ e ∈ sched.entries, ∃ r, loadEntry t e = .ok r := by
  cases data with
  | obj items =>
    rw [← exists_mapM_eq_ok_iff]
    constructor
    · rintro ⟨doc, hdoc⟩
      obtain ⟨sched', hsched, hdoc⟩ := bind_eq_ok.mp hdoc
      cases hsched.symm.trans h
      obtain ⟨entries, hentries, -⟩ := bind_eq_ok.mp hdoc
      exact ⟨entries, hentries⟩
    · rintro ⟨entries, hentries⟩
      exact ⟨_, bind_eq_ok.mpr ⟨sched, h, bind_eq_ok.mpr ⟨entries, hentries, rfl⟩⟩⟩
  | _ => cases h

variable {doc : ScheduleDoc}

lemma fields_of_loadJson (h : ScheduleParser.fromJson py data = .ok sched)
    (hload : loadJson py t data = .ok doc) :
    doc.name = sched.name ∧ doc.entries.length = sched.entries.length := by
  cases data with
  | obj items =>
    obtain ⟨sched', hsched, hload⟩ := bind_eq_ok.mp hload
    cases hsched.symm.trans h
    obtain ⟨entries, hentries, hload⟩ := bind_eq_ok.mp hload
    cases hload
    exact ⟨rfl, (mapM_eq_ok_iff.mp hentries).length_eq.symm⟩
  | _ => cases h

lemma schd_applied_iff {M : ℕ} {cfg : Config} {h : Hwc M} {s : Scheduler} {name : String}
    (hs : h.scheduler = some s) (hparse : ScheduleParser.fromJson py data = .ok sched)
    (hname : sched.name = .str name) (hne : sched.entries ≠ []) :
    (h.schd py cfg data).2 = (some true, .ok) ↔ ∃ doc, loadJson py cfg.timing data = .ok doc := by
  unfold Hwc.schd Hwc.handleSchd
  rw [hs]
  cases hload : loadJson py cfg.timing data with
  | ok doc =>
    obtain ⟨hdoc, hlength⟩ := fields_of_loadJson hparse hload
    have hlogged : doc.logged := by rw [ScheduleDoc.logged, hdoc, hname]; rfl
    have hentries : doc.entries ≠ [] := by
      rwa [← length_pos_iff, hlength, length_pos_iff]
    refine iff_of_true ?_ ⟨doc, rfl⟩
    simp only [Except.toOption]
    rw [if_neg hentries, if_pos hlogged]
  | error e =>
    refine iff_of_false ?_ ?_
    · intro h
      cases h
    · rintro ⟨doc, hdoc⟩
      cases hdoc

end Load

variable {r : ScheduleParser.ScheduleEntry}

lemma dwellTime_of_fromEntry {py : Python} {entry : Dict Json}
    (h : ScheduleParser.fromEntry py entry = .ok r) :
    ScheduleParser.dwellTime py (entry.find "dwell_time_sec") = .ok r.dwellTimeSec := by
  unfold ScheduleParser.fromEntry at h
  split at h
  · obtain ⟨frequency, -, h⟩ := bind_eq_ok.mp h
    obtain ⟨frames, -, h⟩ := bind_eq_ok.mp h
    obtain ⟨seconds, hseconds, h⟩ := bind_eq_ok.mp h
    cases h
    exact hseconds
  · cases h

lemma dwellTime_of_normalizes {py : Python} {i : ℕ} {raw entry : Dict Json}
    (hchecks : Normalizes py i raw entry)
    (hread : ScheduleParser.fromEntry py entry = .ok r) (seconds : PyFloat) :
    (r.dwellTimeSec = some seconds ↔ entry.find "dwell_time_sec" = some (.float seconds)) ∧
      (r.dwellTimeSec = some seconds → seconds.isPos) := by
  have htime := dwellTime_of_fromEntry hread
  have hcheck := hchecks.dwellTimeSec
  generalize entry.find "dwell_time_sec" = v at htime hcheck
  unfold Federation.Entry.dwellTimeSec at hcheck
  split at hcheck
  · cases hcheck
    rw [← Except.ok.inj htime]
    exact ⟨⟨nofun, nofun⟩, nofun⟩
  · cases hcheck
    rw [← Except.ok.inj htime]
    exact ⟨⟨nofun, nofun⟩, nofun⟩
  · obtain ⟨x, -, hcheck⟩ := bind_eq_ok.mp hcheck
    split at hcheck
    next hpos =>
      cases hcheck
      rw [← Except.ok.inj htime]
      refine ⟨⟨?_, ?_⟩, ?_⟩
      · rintro ⟨⟩
        rfl
      · rintro ⟨⟩
        rfl
      · rintro ⟨⟩
        exact hpos
    · cases hcheck

/-- A member applies the document of a part exactly when the dwell times of the part convert
with its timing. -/
theorem member_accepts_iff {py : Python} {doc : Json} {canon : Dict Json}
    (hvalid : validateScheduleDoc py doc = .ok canon) (stored : Strategy) (targets : List String)
    (strategy : Option Strategy) {target : String} {part : List (Dict Json)}
    (hpart : (partitionSchedule (Master.store canon stored) targets strategy).find target =
      some part) (hne : part ≠ []) (instanceId : ℤ) (extended : Bool) (gen : ℤ) {M : ℕ}
    (cfg : Config) (h : Hwc M) {s : Scheduler} (hs : h.scheduler = some s) :
    ∃ document, targetDocument py (Master.store canon stored) (.entries part) target instanceId
        extended gen = .ok document ∧ ((h.schd py cfg document.1).2 = (some true, .ok) ↔
        ∀ entry ∈ part, ∀ seconds, entry.find "dwell_time_sec" = some (.float seconds) →
          cfg.timing.Converts seconds) := by
  obtain ⟨items, es, rfl, -, hnormal, -⟩ := cases_of_validate hvalid stored
  have hmem := mem_of_partitionSchedule hpart
  have hchecks := fun e he => normalizes_of_mem hnormal e (hmem e he)
  obtain ⟨rs, -, hstored⟩ := fromEntries_of_normalizeEntries hnormal
  obtain ⟨read, hread, -⟩ := exists_map_of_mapM ⟨0, none, 0, .null, none⟩ hstored
  have hparts : ScheduleParser.fromEntries py part = .ok (part.map read) := by
    rw [ScheduleParser.fromEntries, mapM_eq_ok_iff, forall₂_map_right_iff, forall₂_same]
    exact fun e he => hread e (hmem e he)
  obtain ⟨document, name, hdocument, hparse⟩ := fromJson_targetDocument
    (Master.store canon stored) target instanceId extended gen
    (fun e he => requireCal_of_normalizeEntries hnormal e (hmem e he)) hparts
  refine ⟨document, hdocument, ?_⟩
  rw [schd_applied_iff hs hparse rfl (by simpa using hne), loadJson_isOk_iff hparse, forall_mem_map]
  simp only [loadEntry_isOk_iff]
  refine forall₂_congr fun e he => forall_congr' fun seconds => ?_
  grind [dwellTime_of_normalizes, Timing.framesForSeconds_isOk_iff]

namespace EndlessDwell

open Hwc (wordless unscheduled)

def document : Json :=
  .obj [("entries", .arr [.obj [("frequency", .int 433000000),
    ("dwell_time_sec", .float (.inf false))]])]

def entries : List (Dict Json) :=
  [[("frequency", .int 433000000), ("dwell_time_sec", .float (.inf false))]]

/-- The coordinator accepts it and gives it to its one target; the member refuses it. -/
theorem infinite_dwell_refused :
    validateScheduleDoc wordless document = .ok [("entries", .arr (entries.map .obj))] ∧
      partitionSchedule (Master.store [("entries", .arr (entries.map .obj))] .roundRobin) ["a:0"]
        none = [("a:0", entries)] ∧ ∃ target, targetDocument wordless
          (Master.store [("entries", .arr (entries.map .obj))] .roundRobin) (.entries entries) "a:0"
          0 true 1 = .ok target ∧ (unscheduled.schd wordless {} target.1).2 ≠ (some true, .ok) := by
  refine ⟨rfl, rfl, _, rfl, ?_⟩
  rw [Ne, schd_applied_iff (s := {}) rfl rfl rfl (cons_ne_nil _ _), loadJson_isOk_iff rfl]
  intro hall
  have hload := (loadEntry_isOk_iff _).mp (hall _ mem_cons_self) _ rfl
  obtain ⟨q, -, hq, -⟩ := (Timing.framesForSeconds_isOk_iff rfl).mp hload
  cases hq

def plain : List (Dict Json) :=
  [[("frequency", .int 433000000), ("dwell_time_sec", .float (.fin 2))],
    [("frequency", .int 868000000), ("dwell_frames", .int 3)]]

theorem member_accepts_iff_plain : ∃ document, targetDocument wordless
        (Master.store [("entries", .arr (plain.map .obj))] .roundRobin) (.entries plain) "a:0" 0
        true 1 = .ok document ∧ ((unscheduled.schd wordless {} document.1).2 = (some true, .ok) ↔
        ∀ entry ∈ plain, ∀ seconds, entry.find "dwell_time_sec" = some (.float seconds) →
          Timing.Converts {} seconds) := by
  have hvalid : validateScheduleDoc wordless (.obj [("entries", .arr (plain.map .obj))]) =
      .ok [("entries", .arr (plain.map .obj))] := rfl
  exact member_accepts_iff hvalid .roundRobin ["a:0"] none rfl (cons_ne_nil _ _) 0 true 1 {}
    unscheduled rfl

end EndlessDwell

end HeimdallDaq.HwController
