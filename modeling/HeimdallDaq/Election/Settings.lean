/-
  Election/Settings.lean --- the election keys of `federation_election.py`.

  `Election.__init__` refuses to build a candidate whose keys fail
  `validate_election_settings`, whose own endpoint is not a candidate, or whose
  candidate list repeats an endpoint (`parse_candidates`).
-/
import Mathlib.Data.Rat.Floor

namespace HeimdallDaq.Election

def termMax : ℤ := 0xFFFFFFF0

/-- `MAX_TERM_JUMP`: the largest term increase accepted from an unsolicited
message. -/
def defaultMaxTermJump : ℤ := 1000

/-- The keys of `[federation]` that configure one candidate. -/
structure Settings where
  interval : ℚ := 2
  missedPolls : ℤ := 3
  settlePolls : ℤ := 5
  clockMargin : ℚ := 5 / 100
  failbackSec : ℚ := 60
  requireQuorum : Bool := false
  maxTermJump : ℤ := defaultMaxTermJump
  clusterId : String := "default"
  deriving DecidableEq

/-- Why `validate_election_settings` raises `ValueError`. -/
inductive SettingsError
  | interval
  | missedPolls
  | clockMargin
  | failbackSec
  | settlePolls (given minimum : ℤ)
  deriving DecidableEq

def SettingsError.message : SettingsError → String
  | .interval => "election_interval_sec must be > 0"
  | .missedPolls => "election_missed_polls must be >= 1"
  | .clockMargin => "election_clock_margin must be within 0.0..0.5"
  | .failbackSec => "election_failback_sec must be >= 0"
  | .settlePolls given minimum =>
    s!"election_settle_polls = {given} is below the safe minimum {minimum} " ++
      "(ceil(L*(1+eps)/I) + 1 with L = election_interval_sec * election_missed_polls)"

def settlePollsMin (interval : ℚ) (missedPolls : ℤ) (clockMargin : ℚ) : ℤ :=
  let lease := interval * missedPolls
  ⌈lease * (1 + clockMargin) / interval - 1 / 10 ^ 9⌉ + 1

def validateElectionSettings (candidates : Nat) (s : Settings) :
    Except SettingsError (List String) :=
  if s.interval ≤ 0 then .error .interval
  else if s.missedPolls < 1 then .error .missedPolls
  else if ¬ (0 ≤ s.clockMargin ∧ s.clockMargin ≤ 1 / 2) then .error .clockMargin
  else if s.failbackSec < 0 then .error .failbackSec
  else if s.settlePolls < settlePollsMin s.interval s.missedPolls s.clockMargin then
    .error (.settlePolls s.settlePolls
      (settlePollsMin s.interval s.missedPolls s.clockMargin))
  else if s.requireQuorum ∧ candidates < 3 then
    .ok ["with 2 candidates, losing either host blocks all mutations"]
  else .ok []

lemma validateElectionSettings_ok {candidates : Nat} {s : Settings} {warnings : List String}
    (h : validateElectionSettings candidates s = .ok warnings) :
    0 < s.interval ∧ 1 ≤ s.missedPolls ∧ 0 ≤ s.clockMargin ∧ s.clockMargin ≤ 1 / 2 ∧
      0 ≤ s.failbackSec ∧
      settlePollsMin s.interval s.missedPolls s.clockMargin ≤ s.settlePolls := by
  unfold validateElectionSettings at h
  split_ifs at h with h1 h2 h3 h4 h5 h6
  all_goals exact ⟨not_le.mp h1, not_lt.mp h2, h3.1, h3.2, not_lt.mp h4, not_lt.mp h5⟩

/-- One candidate's view of the cluster, as `Election.__init__` accepts it. -/
structure ElectionConfig (Ep : Type) where
  /-- The parsed `coordinator_candidates`, best rank first. -/
  candidates : List Ep
  /-- `parse_candidates` raises on a duplicate. -/
  nodup : candidates.Nodup
  selfEndpoint : Ep
  /-- `coordinator_self` is one of the candidates. -/
  self_mem : selfEndpoint ∈ candidates
  settings : Settings
  /-- The keys passed `validate_election_settings`. -/
  settingsOk : (validateElectionSettings candidates.length settings).toOption.isSome

namespace ElectionConfig

variable {Ep : Type} [DecidableEq Ep] (cfg : ElectionConfig Ep)

def lease : ℚ := cfg.settings.interval * cfg.settings.missedPolls

/-- `G = settle_polls * I`, the time after a start in which nothing is granted
or claimed. -/
def settle : ℚ := cfg.settings.settlePolls * cfg.settings.interval

def horizon : ℚ := cfg.lease * (1 - cfg.settings.clockMargin)

def rankOf (ep : Ep) : Nat := cfg.candidates.idxOf ep

def rank : Nat := cfg.rankOf cfg.selfEndpoint

def others : List Ep := cfg.candidates.filter (· ≠ cfg.selfEndpoint)

def clusterOk (clusterId : Option String) : Bool :=
  clusterId = none || clusterId = some "" || clusterId = some cfg.settings.clusterId

def suffix : Option String :=
  if cfg.settings.clusterId = "" then none else some cfg.settings.clusterId

section

omit [DecidableEq Ep]

lemma keys : 0 < cfg.settings.interval ∧ 1 ≤ cfg.settings.missedPolls ∧
      0 ≤ cfg.settings.clockMargin ∧ cfg.settings.clockMargin ≤ 1 / 2 ∧
      0 ≤ cfg.settings.failbackSec ∧
      settlePollsMin cfg.settings.interval cfg.settings.missedPolls cfg.settings.clockMargin ≤
        cfg.settings.settlePolls := by
  have hok := cfg.settingsOk
  cases h : validateElectionSettings cfg.candidates.length cfg.settings with
  | error e => rw [h] at hok; simp [Except.toOption] at hok
  | ok warnings => exact validateElectionSettings_ok h

lemma lease_pos : 0 < cfg.lease := by
  obtain ⟨hI, hK, _⟩ := cfg.keys
  have hK' : (1 : ℚ) ≤ cfg.settings.missedPolls := by exact_mod_cast hK
  exact mul_pos hI (by linarith)

lemma horizon_le_lease : cfg.horizon ≤ cfg.lease := by
  obtain ⟨_, _, hm, _⟩ := cfg.keys
  have hL := cfg.lease_pos
  unfold horizon
  nlinarith

/-- The settle period outlasts every lease granted before a restart: this is
what the bound on `election_settle_polls` is for. -/
lemma lease_le_settle : cfg.lease ≤ cfg.settle := by
  obtain ⟨hI, hK, hm, _, _, hS⟩ := cfg.keys
  have hL := cfg.lease_pos
  have hceil : cfg.lease * (1 + cfg.settings.clockMargin) / cfg.settings.interval - 1 / 10 ^ 9 + 1
      ≤ cfg.settings.settlePolls := by
    have hle := Int.le_ceil
      (cfg.lease * (1 + cfg.settings.clockMargin) / cfg.settings.interval - 1 / 10 ^ 9)
    have hS' : ((settlePollsMin cfg.settings.interval cfg.settings.missedPolls
        cfg.settings.clockMargin : ℤ) : ℚ) ≤ cfg.settings.settlePolls := by exact_mod_cast hS
    simp only [settlePollsMin, Int.cast_add, Int.cast_one] at hS'
    unfold lease at hle ⊢
    linarith
  have hdiv : cfg.lease / cfg.settings.interval ≤
      cfg.lease * (1 + cfg.settings.clockMargin) / cfg.settings.interval := by
    apply div_le_div_of_nonneg_right _ hI.le
    nlinarith
  have hratio : cfg.lease / cfg.settings.interval ≤ cfg.settings.settlePolls := by
    norm_num at hceil
    linarith
  calc cfg.lease = cfg.lease / cfg.settings.interval * cfg.settings.interval := by
        field_simp
    _ ≤ cfg.settings.settlePolls * cfg.settings.interval :=
        mul_le_mul_of_nonneg_right hratio hI.le
    _ = cfg.settle := rfl

end

def IsMajority (votes : Nat) : Prop := cfg.candidates.length < 2 * votes

instance (votes : Nat) : Decidable (cfg.IsMajority votes) := inferInstanceAs (Decidable (_ < _))

end ElectionConfig

end HeimdallDaq.Election
