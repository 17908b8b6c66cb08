/-
  Foundation/RateLimit.lean --- fixed windows per key.

  A limiter keeps, for each key, the start of its window and how many times the key was
  charged in it.
-/
import HeimdallDaq.Foundation.Dict
import Mathlib.Algebra.Order.Group.Defs
import Mathlib.Algebra.Order.Sub.Basic

namespace HeimdallDaq.Foundation

open List

structure RateLimit (T : Type) where
  window : T
  perKey : ℕ
  tableSize : ℕ

namespace RateLimit

variable {T : Type}

section

variable [AddCommGroup T] [LinearOrder T] (l : RateLimit T)

def purge (now : T) : Dict (T × ℕ) → Dict (T × ℕ)
  | [] => []
  | e :: rest =>
    if now - e.2.1 < l.window ∧ rest.length + 1 ≤ l.tableSize then e :: rest
    else purge now rest

def spent (key : String) (d : Dict (T × ℕ)) : Bool :=
  match d.find key with
  | some w => decide (l.perKey ≤ w.2)
  | none => false

def charge (now : T) (key : String) (d : Dict (T × ℕ)) : Dict (T × ℕ) :=
  match d.find key with
  | some w => d.put key (w.1, w.2 + 1)
  | none => d.put key (now, 1)

/-- Times that fall into windows, the last of which is given with its start and its
number of times. -/
inductive Windowed : List T → Option (T × ℕ) → Prop
  | nil : Windowed [] none
  | opens {times : List T} {last : Option (T × ℕ)} {t : T} (h : Windowed times last)
      (hover : ∀ w ∈ last, l.window ≤ t - w.1) : Windowed (times ++ [t]) (some (t, 1))
  | joins {times : List T} {start t : T} {n : ℕ} (h : Windowed times (some (start, n)))
      (hin : t - start < l.window) (hleft : n < l.perKey) :
      Windowed (times ++ [t]) (some (start, n + 1))

end

def timesOf (key : String) (log : List (String × T)) : List T :=
  (log.filter (·.1 = key)).map Prod.snd

lemma timesOf_snoc_self (key : String) (log : List (String × T)) (t : T) :
    timesOf key (log ++ [(key, t)]) = timesOf key log ++ [t] := by simp [timesOf]

lemma timesOf_snoc_of_ne {key key' : String} (h : key' ≠ key) (log : List (String × T)) (t : T) :
    timesOf key' (log ++ [(key, t)]) = timesOf key' log := by simp [timesOf, h.symm]

@[local grind]
def starts (d : Dict (T × ℕ)) : List T := d.map (·.2.1)

lemma starts_put {key : String} {w : T × ℕ} {d : Dict (T × ℕ)} (h : d.find key = some w)
    (n : ℕ) : starts (d.put key (w.1, n)) = starts d := by
  induction d with
  | nil => cases h
  | cons e rest ih =>
    obtain ⟨k, v⟩ := e
    rw [Dict.find_cons] at h
    by_cases hk : k = key
    · rw [if_pos hk] at h
      cases h
      simp [Dict.put_cons, hk, starts]
    · rw [if_neg hk] at h
      rw [Dict.put_cons, if_neg hk]
      exact congrArg (v.1 :: ·) (ih h)

variable [AddCommGroup T] [LinearOrder T]

/-- The table after the charges in the log, up to some time. -/
@[local grind]
structure Inv (l : RateLimit T) (clock : T) (d : Dict (T × ℕ)) (log : List (String × T)) : Prop where
  nodup : d.keys.Nodup
  sorted : (starts d).Pairwise (· ≤ ·)
  past : ∀ t ∈ starts d, t ≤ clock
  windows : ∀ key, ∃ last, l.Windowed (timesOf key log) last ∧
    match d.find key with
    | some w => last = some w
    | none => ∀ w ∈ last, l.window ≤ clock - w.1

namespace Inv

variable {l : RateLimit T} {clock now : T} {d : Dict (T × ℕ)} {log : List (String × T)}

lemma nil (clock : T) : Inv l clock [] [] where
  nodup := nodup_nil
  sorted := List.Pairwise.nil
  past := by simp [starts]
  windows _ := ⟨none, .nil, by simp [Dict.find]⟩

lemma exists_windowed (h : Inv l clock d log) (key : String) :
    ∃ last, l.Windowed (timesOf key log) last := by
  obtain ⟨last, hlast, -⟩ := h.windows key
  exact ⟨last, hlast⟩

section

variable [IsOrderedAddMonoid T]

lemma later (h : Inv l clock d log) (hclock : clock ≤ now) : Inv l now d log := by
  refine ⟨h.nodup, h.sorted, fun t ht => (h.past t ht).trans hclock, fun key => ?_⟩
  obtain ⟨last, hlast, hfind⟩ := h.windows key
  grind

lemma purge_spec (h : Inv l now d log) (hroom : d.length ≤ l.tableSize) :
    ∃ dropped, d = dropped ++ l.purge now d ∧ (∀ e ∈ dropped, l.window ≤ now - e.2.1) ∧
      ∀ t ∈ starts (l.purge now d), now - t < l.window := by
  have hsorted := h.sorted
  clear h
  induction d with
  | nil => exact ⟨[], rfl, by simp, by simp [purge, starts]⟩
  | cons e rest ih =>
    have hrest := pairwise_cons.mp hsorted
    by_cases hlive : now - e.2.1 < l.window
    · have hkeep : l.purge now (e :: rest) = e :: rest := if_pos ⟨hlive, hroom⟩
      refine ⟨[], by simp [hkeep], by simp, ?_⟩
      rw [hkeep]
      intro t ht
      rcases mem_cons.mp ht with rfl | ht
      · exact hlive
      · exact lt_of_le_of_lt (sub_le_sub_left (hrest.1 t ht) now) hlive
    · have hdrop : l.purge now (e :: rest) = l.purge now rest := if_neg fun hc => hlive hc.1
      obtain ⟨dropped, heq, hover, hleft⟩ := ih (Nat.le_of_succ_le hroom) hrest.2
      refine ⟨e :: dropped, by rw [hdrop, cons_append, ← heq], ?_, by rw [hdrop]; exact hleft⟩
      intro e' he'
      rcases mem_cons.mp he' with rfl | he'
      · exact not_lt.mp hlive
      · exact hover e' he'

lemma purge (h : Inv l now d log) (hroom : d.length ≤ l.tableSize) :
    Inv l now (l.purge now d) log := by
  obtain ⟨dropped, heq, hover, -⟩ := h.purge_spec hroom
  have hkeys : (dropped.keys ++ (l.purge now d).keys).Nodup := by
    rw [← Dict.keys_append, ← heq]; exact h.nodup
  have hstarts : starts d = starts dropped ++ starts (l.purge now d) := by grind
  have hsorted := h.sorted
  rw [hstarts, pairwise_append] at hsorted
  refine ⟨(nodup_append.mp hkeys).2.1, hsorted.2.1, fun t ht => ?_, fun key => ?_⟩
  · grind
  · obtain ⟨last, hlast, hfind⟩ := h.windows key
    refine ⟨last, hlast, ?_⟩
    rw [heq, Dict.find_append] at hfind
    cases hd : dropped.find key with
    | some w =>
      have hmem := Dict.mem_of_find hd
      have hnot : key ∉ (l.purge now d).keys := fun hin =>
        (nodup_append.mp hkeys).2.2 key (mem_map.mpr ⟨_, hmem, rfl⟩) key hin rfl
      rw [Dict.find_eq_none_of_not_mem hnot]
      grind
    | none => grind

end

lemma charge (h : Inv l now d log) {key : String}
    (hlive : ∀ t ∈ starts d, now - t < l.window) (hleft : l.spent key d = false) :
    Inv l now (RateLimit.charge now key d) (log ++ [(key, now)]) := by
  obtain ⟨last, hlast, hfind⟩ := h.windows key
  have hothers : ∀ (w : T × ℕ) (key' : String), key' ≠ key →
      ∃ last, l.Windowed (timesOf key' (log ++ [(key, now)])) last ∧
        match (d.put key w).find key' with
        | some w => last = some w
        | none => ∀ w ∈ last, l.window ≤ now - w.1 := by
    intro w key' hne
    rw [timesOf_snoc_of_ne hne, Dict.find_put_of_ne _ _ hne]
    exact h.windows key'
  unfold RateLimit.charge
  cases hw : d.find key with
  | some w =>
    simp only [hw] at hfind
    subst hfind
    have hmem : w.1 ∈ starts d := mem_map.mpr ⟨_, Dict.mem_of_find hw, rfl⟩
    refine ⟨Dict.nodup_put h.nodup, ?_, ?_, fun key' => ?_⟩
    · rw [starts_put hw]; exact h.sorted
    · rw [starts_put hw]; exact h.past
    · by_cases hne : key' = key
      · subst hne
        rw [timesOf_snoc_self, Dict.find_put_self]
        have hn : w.2 < l.perKey := by simpa [spent, hw] using hleft
        exact ⟨_, hlast.joins (hlive _ hmem) hn, rfl⟩
      · exact hothers _ key' hne
  | none =>
    simp only [hw] at hfind
    have hnew : key ∉ d.keys := fun hmem => by
      obtain ⟨w, hsome⟩ := Dict.find_of_mem_keys hmem
      rw [hw] at hsome
      cases hsome
    have hstarts : starts (d.put key (now, 1)) = starts d ++ [now] := by
      rw [Dict.put_of_not_mem hnew, starts, map_append]
      rfl
    refine ⟨Dict.nodup_put h.nodup, ?_, ?_, fun key' => ?_⟩
    · grind
    · grind
    · by_cases hne : key' = key
      · subst hne
        rw [timesOf_snoc_self, Dict.find_put_self]
        exact ⟨_, hlast.opens hfind, rfl⟩
      · exact hothers _ key' hne

end Inv

end RateLimit

end HeimdallDaq.Foundation
