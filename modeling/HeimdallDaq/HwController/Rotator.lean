/-
  HwController/Rotator.lean --- the rotator backends.

  Two backends estimate how long a slew takes; the GS-232 backend asks for the bearing.
-/
import HeimdallDaq.Foundation.Floats
import HeimdallDaq.Foundation.Runs
import Mathlib

namespace HeimdallDaq.HwController.Rotator

open Foundation List

/-! ## Open loop -/

structure Config where
  azMin : ℚ := 0
  azMax : ℚ := 360
  elMin : ℚ := 0
  elMax : ℚ := 90
  slewRateDps : ℚ := 6
  rate_nonneg : 0 ≤ slewRateDps := by norm_num

/-- `PWMServoBackend` and `I2CPanTiltBackend`, which differ in what they write. -/
structure Servo where
  cur : ℚ × ℚ := 0
  prev : ℚ × ℚ := 0
  moveDoneAt : ℚ := 0

/-- A servo and the angles its axes have at the time `clock`. -/
structure Rig where
  servo : Servo := {}
  angles : ℚ × ℚ := 0
  clock : ℚ := 0

structure Call where
  wait : ℚ≥0
  az : ℚ
  el : ℚ

def clamp (v lo hi : ℚ) : ℚ := max lo (min hi v)

def dist (p q : ℚ × ℚ) : ℚ := max |q.1 - p.1| |q.2 - p.2|

variable (cfg : Config)

def Config.slewRate : ℚ := max cfg.slewRateDps (1 / 10)

def Servo.moveTo (s : Servo) (now az el : ℚ) : Servo :=
  let cur := (clamp az cfg.azMin cfg.azMax, clamp el cfg.elMin cfg.elMax)
  ⟨cur, s.cur, now + dist s.cur cur / cfg.slewRate⟩

def Servo.isMoving (s : Servo) (now : ℚ) : Bool := now < s.moveDoneAt

namespace Rig

variable (g : Rig)

/-- The angles at a later time, without another call. -/
def anglesAt (t : ℚ) : ℚ × ℚ :=
  let way := cfg.slewRateDps * (t - g.clock)
  (clamp g.servo.cur.1 (g.angles.1 - way) (g.angles.1 + way),
    clamp g.servo.cur.2 (g.angles.2 - way) (g.angles.2 + way))

def step (g : Rig) (c : Call) : Rig :=
  let now := g.clock + c.wait
  ⟨g.servo.moveTo cfg now c.az c.el, g.anglesAt cfg now, now⟩

def Settles : Prop := ∀ t ≥ g.clock, g.servo.isMoving t = false → g.anglesAt cfg t = g.servo.cur

def Timed : Prop := g.servo.moveDoneAt = g.clock + dist g.servo.prev g.servo.cur / cfg.slewRate

lemma run_timed (calls : List Call) : (run (step cfg) {} calls).Timed cfg :=
  run_of_step _ (fun g c _ => (rfl : (step cfg g c).Timed cfg)) calls {} (by simp [Timed, dist])

variable {cfg g}

lemma clamp_eq_iff {v x way : ℚ} (h : 0 ≤ way) :
    clamp v (x - way) (x + way) = v ↔ |v - x| ≤ way := by
  grind [clamp]

lemma anglesAt_eq_iff {t : ℚ} (ht : g.clock ≤ t) : g.anglesAt cfg t = g.servo.cur ↔
    dist g.angles g.servo.cur ≤ cfg.slewRateDps * (t - g.clock) := by
  have hway := mul_nonneg cfg.rate_nonneg (sub_nonneg.mpr ht)
  rw [anglesAt, Prod.ext_iff, dist, max_le_iff]
  exact and_congr (clamp_eq_iff hway) (clamp_eq_iff hway)

lemma Timed.settles_iff (h : g.Timed cfg) : g.Settles cfg ↔ dist g.angles g.servo.cur ≤
    cfg.slewRateDps * (dist g.servo.prev g.servo.cur / cfg.slewRate) := by
  have hrate : 0 < cfg.slewRate := lt_max_of_lt_right (by norm_num)
  have hspan : 0 ≤ dist g.servo.prev g.servo.cur / cfg.slewRate :=
    div_nonneg (le_max_of_le_left (abs_nonneg _)) hrate.le
  unfold Timed at h
  generalize dist g.servo.prev g.servo.cur / cfg.slewRate = span at h hspan ⊢
  constructor
  · intro hsettles
    have hlater : g.clock ≤ g.clock + span := le_add_of_nonneg_right hspan
    have := (anglesAt_eq_iff hlater).mp (hsettles _ hlater (by simp [Servo.isMoving, h]))
    rwa [add_sub_cancel_left] at this
  · intro hleft t ht hstill
    simp only [Servo.isMoving, h, decide_eq_false_iff_not, not_lt] at hstill
    refine (anglesAt_eq_iff ht).mpr (hleft.trans ?_)
    exact mul_le_mul_of_nonneg_left (by linarith) cfg.rate_nonneg

variable (cfg)

/-- The axes have arrived whenever `is_moving()` is false exactly when the way left at the last
call takes no longer than its estimate, which starts from the angles of the call before. -/
theorem openLoop_settles_iff (calls : List Call) : let g := run (Rig.step cfg) {} calls
    g.Settles cfg ↔ dist g.angles g.servo.cur ≤
      cfg.slewRateDps * (dist g.servo.prev g.servo.cur / cfg.slewRate) :=
  (run_timed cfg calls).settles_iff

/-- A call in the middle of a slew: at the time 2 the azimuth is 12. -/
theorem interrupted_unsettled : let g := run (Rig.step {}) {} [⟨0, 100, 0⟩, ⟨1, 99, 0⟩]
    g.servo.isMoving 2 = false ∧ g.servo.cur = (99, 0) ∧ g.anglesAt {} 2 = (12, 0) := by
  norm_num [Rig.step, Servo.moveTo, Servo.isMoving, anglesAt, clamp, dist, Config.slewRate]

end Rig

/-! ## GS-232 -/

/-- `{:03d}` -/
def padded (n : ℕ) : List Char := (Nat.toDigits 10 n).leftpad 3 '0'

/-- `str.isspace` and `float`, on the characters of a reply. -/
structure Reader where
  isSpace : Char → Bool
  float : List Char → Option PyFloat
  isSpace_field : ∀ c, c = '+' ∨ c.isDigit → isSpace c = false
  float_field : ∀ n < 1000, float ('0' :: padded n) = some (.fin n)

/-- `abs(x - cmd) > 1.0` -/
def far (cmd : ℚ) : PyFloat → Bool
  | .fin q => 1 < |q - cmd|
  | .inf _ => true
  | .nan => false

/-- The whole degrees of a bearing. -/
def degrees (az el : ℚ) : ℕ × ℕ :=
  ((roundHalfEven az % 360).toNat, (roundHalfEven (max 0 el)).toNat)

/-- The form `+0aaa+0eee` of an answer to `C2`. -/
def report (p : ℕ × ℕ) : List Char := '+' :: '0' :: padded p.1 ++ '+' :: '0' :: padded p.2

structure Gs232 where
  lastCmd : ℚ × ℚ := 0

namespace Gs232

/-- The backend after the call, and what it writes. -/
def moveTo (_ : Gs232) (az el : ℚ) : Gs232 × List Char :=
  let p := degrees az el
  (⟨(az, el)⟩, 'W' :: padded p.1 ++ ' ' :: padded p.2 ++ ['\r'])

variable (g : Gs232) (r : Reader)

/-- The bearing, from the line that answers `C2`; `none` is an exception. -/
def getPosition (line : Option (List Char)) : PyFloat × PyFloat :=
  let parsed := do
    let resp := ((← line).dropWhile r.isSpace).rdropWhile r.isSpace
    guard ('+' ∈ resp)
    match Words.all (· == '+') (resp.flatMap fun c => if c = '-' then ['+', '-'] else [c]) with
    | x :: y :: _ => return (← r.float x, ← r.float y)
    | _ => none
  parsed.getD (.fin g.lastCmd.1, .fin g.lastCmd.2)

def isMoving (line : Option (List Char)) : Bool :=
  let p := g.getPosition r line
  far g.lastCmd.1 p.1 || far g.lastCmd.2 p.2

end Gs232

variable {r : Reader} {p : ℕ × ℕ} {c : Char} {ending : List Char}

lemma isDigit_of_mem_padded {n : ℕ} (h : c ∈ '0' :: padded n) : c.isDigit := by
  simp only [padded, leftpad, mem_cons, mem_append, mem_replicate] at h
  rcases h with rfl | ⟨-, rfl⟩ | h
  · rfl
  · rfl
  · exact Nat.isDigit_of_mem_toDigits (by decide) (by decide) h

lemma isWord_padded (n : ℕ) : Words.IsWord (· == '+') ('0' :: padded n) where
  ne_nil := by simp
  separates c hc := by
    rw [beq_eq_false_iff_ne]
    rintro rfl
    exact absurd (isDigit_of_mem_padded hc) (by decide)

lemma mem_report (h : c ∈ report p) : c = '+' ∨ c.isDigit := by
  simp only [report, mem_cons, mem_append] at h
  grind [isDigit_of_mem_padded]

lemma all_report : Words.all (· == '+') (report p) = ['0' :: padded p.1, '0' :: padded p.2] := by
  have hskip : ∀ l : List Char, Words.all (· == '+') ('+' :: l) = Words.all (· == '+') l := by
    simp [Words.all, splitOnP_cons_eq_if_modifyHead]
  rw [report, cons_append, hskip, Words.all_append (isWord_padded _) rfl, (isWord_padded _).all_eq]

lemma replace_report :
    (report p).flatMap (fun c => if c = '-' then ['+', '-'] else [c]) = report p := by
  have hplain : ∀ c ∈ report p, (if c = '-' then ['+', '-'] else [c]) = [c] := by
    intro c hc
    refine if_neg ?_
    rintro rfl
    exact absurd (mem_report hc) (by decide)
  rw [flatMap_congr hplain, flatMap_singleton']

lemma strip_report (hend : ∀ c ∈ ending, r.isSpace c) :
    ((report p ++ ending).dropWhile r.isSpace).rdropWhile r.isSpace = report p := by
  have hhead : (report p ++ ending).dropWhile r.isSpace = report p ++ ending := by
    simp [report, r.isSpace_field '+']
  rw [hhead, rdropWhile, reverse_append, dropWhile_append_of_pos (by simpa using hend),
    ← rdropWhile, rdropWhile_eq_self_iff]
  intro hne
  simp [r.isSpace_field _ (mem_report (getLast_mem hne))]

lemma getPosition_report {g : Gs232} (ha : p.1 < 1000) (he : p.2 < 1000)
    (hend : ∀ c ∈ ending, r.isSpace c) :
    g.getPosition r (some (report p ++ ending)) = (.fin p.1, .fin p.2) := by
  have hplus : '+' ∈ report p := by simp [report]
  simp [Gs232.getPosition, strip_report hend, replace_report, all_report, hplus,
    r.float_field _ ha, r.float_field _ he]

/-- The answer with the degrees that were sent ends the move below `359.5` and nowhere else:
from there on they wrap around to 0. -/
theorem gs232_settles_iff (r : Reader) (g : Gs232) {az el : ℚ} (haz : 0 ≤ az ∧ az ≤ 360)
    (hel : 0 ≤ el ∧ el ≤ 90) (hend : ∀ c ∈ ending, r.isSpace c) :
    (g.moveTo az el).1.isMoving r (some (report (degrees az el) ++ ending)) = false ↔
      az < 719 / 2 := by
  have htop := le_roundHalfEven_iff (n := 360) rfl az
  have hround := roundHalfEven_mem_Icc (a := 0) (b := 360) (by simpa using haz.1) haz.2
  have helRound := roundHalfEven_mem_Icc (a := 0) (b := 90) (by simpa using hel.1) hel.2
  have hcast : ((degrees az el).1 : ℚ) = (roundHalfEven az % 360 : ℤ) := by
    exact_mod_cast Int.toNat_of_nonneg (Int.emod_nonneg _ (by decide))
  have helCast : ((degrees az el).2 : ℚ) = roundHalfEven el := by
    rw [degrees, max_eq_right hel.1]
    exact_mod_cast Int.toNat_of_nonneg helRound.1
  rw [Gs232.isMoving, getPosition_report (by grind [degrees]) (by grind [degrees]) hend]
  simp only [Gs232.moveTo, far, hcast, helCast, Bool.or_eq_false_iff, decide_eq_false_iff_not, not_lt]
  constructor
  · rintro ⟨hnear, -⟩
    by_contra hge
    have hfull : roundHalfEven az = 360 := le_antisymm hround.2 (htop.mpr (by norm_num; linarith))
    rw [hfull, Int.emod_self, Int.cast_zero, zero_sub, abs_neg] at hnear
    linarith [le_abs_self az]
  · intro hlt
    have hbelow : roundHalfEven az < 360 := not_le.mp (mt htop.mp (by norm_num; linarith))
    have hnear := abs_roundHalfEven_sub_le az
    have helNear := abs_roundHalfEven_sub_le el
    rw [Int.emod_eq_of_lt hround.1 hbelow]
    exact ⟨by linarith, by linarith⟩

lemma ofDigitChars_zeros (k : ℕ) (ds : List Char) :
    Nat.ofDigitChars 10 (List.replicate k '0' ++ ds) 0 = Nat.ofDigitChars 10 ds 0 := by
  induction k with
  | zero => rfl
  | succ k ih => simpa [replicate_succ, Nat.ofDigitChars_cons] using ih

/-- Decimal numbers, and lines that end in a carriage return. -/
def decimalReader : Reader where
  isSpace c := c == '\r'
  float ds := some (.fin (Nat.ofDigitChars 10 ds 0))
  isSpace_field c h := by
    rw [beq_eq_false_iff_ne]
    rintro rfl
    exact absurd h (by decide)
  float_field n _ := congrArg (fun m : ℕ => some (PyFloat.fin m))
    ((ofDigitChars_zeros (_ + 1) _).trans Nat.ofDigitChars_ten_toDigits)

theorem gs232_settles_iff_halfway : (Gs232.moveTo {} 180 45).1.isMoving decimalReader
    (some (report (degrees 180 45) ++ ['\r'])) = false :=
  (gs232_settles_iff decimalReader {} (by norm_num) (by norm_num) (by simp [decimalReader])).mpr
    (by norm_num)

theorem full_circle_moves : degrees 360 0 = (0, 0) ∧ (Gs232.moveTo {} 360 0).1.isMoving
    decimalReader (some (report (0, 0) ++ ['\r'])) := by
  refine ⟨by decide +kernel, ?_⟩
  rw [Gs232.isMoving, getPosition_report (by decide) (by decide) (by simp [decimalReader])]
  norm_num [Gs232.moveTo, far]

end HeimdallDaq.HwController.Rotator
