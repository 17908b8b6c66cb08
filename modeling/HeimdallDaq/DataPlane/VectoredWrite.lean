/-
  DataPlane/VectoredWrite.lean --- frames written with several buffers at once.

  `send_iq_frame` of iq_server and `write_full_iov` of rtl_daq resume a vectored write
  after whatever part of it the descriptor took.
-/
import HeimdallDaq.Foundation.Buffers
import Mathlib

namespace HeimdallDaq.DataPlane.VectoredWrite

open Foundation List

/-- What the descriptor does with a call: it takes up to `n` of the bytes, or it fails. -/
inductive Outcome
  | accept (n : ℕ)
  | eintr
  | error
  deriving DecidableEq

def Outcome.taken (bs : List Byte) : Outcome → List Byte
  | .accept n => bs.take n
  | .eintr | .error => []

def advance : List (List Byte) → ℕ → List (List Byte)
  | [], _ => []
  | iov, 0 => iov
  | b :: iov, n + 1 =>
    if b.length ≤ n + 1 then advance iov (n + 1 - b.length) else b.drop (n + 1) :: iov

/-- The bytes that were accepted and the returned value, `none` inside the loop. -/
structure Written where
  accepted : List Byte := []
  returned : Option ℤ
  deriving DecidableEq

def Written.after (bs : List Byte) (w : Written) : Written := { w with accepted := bs ++ w.accepted }

/-- The loop of `send_iq_frame`.  Each call comes with whether the deadline has passed
after it. -/
def sendLoop : List (List Byte) → List (Outcome × Bool) → Written
  | [], _ => { returned := some 0 }
  | _ :: _, [] => { returned := none }
  | cur :: iov, (outcome, late) :: rest =>
    let taken := outcome.taken (cur :: iov).flatten
    if late then { accepted := taken, returned := some (-1) }
    else
      match outcome with
      | .eintr => sendLoop (cur :: iov) rest
      | .error => { returned := some (-1) }
      | .accept _ => (sendLoop (advance (cur :: iov) taken.length) rest).after taken

def sendIqFrame (header payload : List Byte) (calls : List (Outcome × Bool)) : Written :=
  sendLoop (if payload.length ≠ 0 then [header, payload] else [header]) calls

def writeLoop : ℕ → List (List Byte) → List (Outcome × Bool) → Written
  | 0, _, _ => { returned := some 0 }
  | _ + 1, _, [] => { returned := none }
  | remaining + 1, iov, (outcome, exitFlag) :: rest =>
    let taken := outcome.taken iov.flatten
    match outcome with
    | .eintr => if exitFlag then { returned := some (-1) } else writeLoop (remaining + 1) iov rest
    | .error => { returned := some (-1) }
    | .accept _ =>
      (writeLoop (remaining + 1 - taken.length) (advance iov taken.length) rest).after taken

def writeFullIov (iov : List (List Byte)) (calls : List (Outcome × Bool)) : Written :=
  writeLoop (iov.map List.length).sum iov calls

structure Delivers (bs : List Byte) (w : Written) : Prop where
  isPart : w.accepted <+: bs
  whole : w.returned = some 0 → w.accepted = bs

lemma flatten_advance (iov : List (List Byte)) (n : ℕ) :
    (advance iov n).flatten = iov.flatten.drop n := by
  fun_induction advance iov n with
  | case1 => simp
  | case2 => simp
  | case3 b iov n hlen ih =>
    rw [ih, flatten_cons, drop_append, drop_of_length_le hlen, nil_append]
  | case4 b iov n hlen =>
    rw [flatten_cons, flatten_cons, drop_append_of_le_length (by omega)]

lemma taken_append_drop (bs : List Byte) (o : Outcome) :
    o.taken bs ++ bs.drop (o.taken bs).length = bs := by
  cases o with
  | accept n => exact prefix_iff_eq_append.mp (List.take_prefix n bs)
  | _ => rfl

lemma delivers_none (bs : List Byte) {r : Option ℤ} (hr : r ≠ some 0) :
    Delivers bs { returned := r } where
  isPart := nil_prefix
  whole := fun h => absurd h hr

lemma Delivers.after {bs : List Byte} {o : Outcome} {w : Written}
    (h : Delivers (bs.drop (o.taken bs).length) w) : Delivers bs (w.after (o.taken bs)) where
  isPart := by
    have hpart := (prefix_append_right_inj (o.taken bs)).mpr h.isPart
    rwa [taken_append_drop] at hpart
  whole := fun hr => by rw [Written.after, h.whole hr, taken_append_drop]

lemma sendLoop_delivers (iov : List (List Byte)) (calls : List (Outcome × Bool)) :
    Delivers iov.flatten (sendLoop iov calls) := by
  fun_induction sendLoop iov calls with
  | case1 => exact ⟨List.nil_prefix, fun _ => rfl⟩
  | case2 => exact delivers_none _ (by simp)
  | case3 cur iov outcome rest taken =>
    exact ⟨⟨_, taken_append_drop _ outcome⟩, by simp⟩
  | case4 _ _ _ _ _ ih => exact ih
  | case5 => exact delivers_none _ (by simp)
  | case6 _ _ _ _ _ _ _ ih =>
    rw [flatten_advance] at ih
    exact ih.after

lemma writeLoop_delivers (remaining : ℕ) (iov : List (List Byte)) (calls : List (Outcome × Bool))
    (h : remaining = iov.flatten.length) : Delivers iov.flatten (writeLoop remaining iov calls) := by
  fun_induction writeLoop remaining iov calls with
  | case1 iov => exact ⟨List.nil_prefix, fun _ => (length_eq_zero_iff.mp h.symm).symm⟩
  | case2 => exact delivers_none _ (by simp)
  | case3 => exact delivers_none _ (by simp)
  | case4 _ _ _ _ _ ih => exact ih h
  | case5 => exact delivers_none _ (by simp)
  | case6 _ _ _ _ _ _ ih =>
    rw [flatten_advance, length_drop] at ih
    exact (ih (congrArg (· - _) h)).after

/-- Whatever the descriptor takes of each call, it gets a part of the concatenation from
its start, and all of it when the function returns 0. -/
theorem vectored_writes_deliver :
    (∀ header payload calls, Delivers (header ++ payload) (sendIqFrame header payload calls)) ∧
      ∀ iov calls, Delivers iov.flatten (writeFullIov iov calls) := by
  refine ⟨fun header payload calls => ?_, fun iov calls =>
    writeLoop_delivers _ iov calls length_flatten.symm⟩
  have hbytes : header ++ payload =
      (if payload.length ≠ 0 then [header, payload] else [header]).flatten := by
    cases payload <;> simp
  rw [hbytes]
  exact sendLoop_delivers _ calls

end HeimdallDaq.DataPlane.VectoredWrite
