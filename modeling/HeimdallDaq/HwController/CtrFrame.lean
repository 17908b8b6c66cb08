/-
  HwController/CtrFrame.lean --- the frames of the control port.

  A frame is a verb of four bytes and a payload of 124.
-/
import HeimdallDaq.Foundation.Floats
import HeimdallDaq.Foundation.Struct

namespace HeimdallDaq.HwController

open Foundation List Struct

inductive Verb
  | exit
  | sthu
  | freq
  | gain
  | agc
  | init
  | schd
  | schs
  | schq
  | schn
  | egan
  | rfq
  | bias
  | ornt
  | park
  | scan
  | ostp
  | oqry
  | xack
  | hwsq
  | schg
  | tlck
  | tlka
  | recl
  | schb
  | schc
  | sche
  deriving DecidableEq

namespace Verb

def text : Verb → String
  | .exit => "EXIT"
  | .sthu => "STHU"
  | .freq => "FREQ"
  | .gain => "GAIN"
  | .agc => "AGC "
  | .init => "INIT"
  | .schd => "SCHD"
  | .schs => "SCHS"
  | .schq => "SCHQ"
  | .schn => "SCHN"
  | .egan => "EGAN"
  | .rfq => "RFQ "
  | .bias => "BIAS"
  | .ornt => "ORNT"
  | .park => "PARK"
  | .scan => "SCAN"
  | .ostp => "OSTP"
  | .oqry => "OQRY"
  | .xack => "XACK"
  | .hwsq => "HWSQ"
  | .schg => "SCHG"
  | .tlck => "TLCK"
  | .tlka => "TLKA"
  | .recl => "RECL"
  | .schb => "SCHB"
  | .schc => "SCHC"
  | .sche => "SCHE"

def all : List Verb :=
  [.exit, .sthu, .freq, .gain, .agc, .init, .schd, .schs, .schq, .schn, .egan, .rfq, .bias, .ornt,
    .park, .scan, .ostp, .oqry, .xack, .hwsq, .schg, .tlck, .tlka, .recl, .schb, .schc, .sche]

variable (v : Verb)

def bytes : List Byte := v.text.toList.map fun c => BitVec.ofNat 8 c.toNat

def ofBytes (bs : List Byte) : Option Verb := all.find? fun v => v.bytes = bs

def mutating : Verb → Bool
  | .exit | .schq | .rfq | .oqry | .xack | .hwsq | .schg | .tlck => false
  | _ => true

lemma ofBytes_bytes : ofBytes v.bytes = some v := by cases v <;> decide

lemma length_bytes : v.bytes.length = 4 := by cases v <;> decide

end Verb

inductive Param
  | int (n : ℤ)
  | float (x : PyFloat)
  | text (t : Text)
  deriving DecidableEq

/-- What `process_ctr_frame` does with a frame. -/
inductive Call
  | exit
  /-- `_build_reply(None)` -/
  | zeros
  | unsupported
  /-- `_submit_request` -/
  | submit (verb : Verb) (params : List Param)
  | query (verb : Verb)
  | xack (term : ℤ) (clusterId : Text)
  | tlka (value : ℤ)
  | schb (totalLen crc nchunks : ℕ)
  | schc (sess seq length : ℕ)
  | sche (sess : ℕ)
  deriving DecidableEq

def cut (a b : ℕ) (msg : List Byte) : List Byte := (msg.take b).drop a

variable (cs : List Code)

def unpackWords (bs : List Byte) : Option (List ℤ) :=
  (Struct.unpack false cs bs).map (List.map Packed.toInt)

def packWords (ns : List ℤ) : Option (List Byte) := Struct.pack false cs (ns.map .int)

def unpackFloats (n : ℕ) (bs : List Byte) : Option (List PyFloat) :=
  (unpackWords (List.replicate n .u32) bs).map (List.map fun w => Format.binary32.ofBits w.toNat)

variable (space : Char → Bool)

def schdText (payload : List Byte) : Text :=
  Text.strip space ((Text.decodeIgnore payload).rdropWhile (· = .char (Char.ofNat 0)))

variable (M : ℕ)

/-- `process_ctr_frame` behind the test of the connection; `none` is an exception.  `M` is
the number of channels, `space` are the spaces of `strip`. -/
def decodeCall (msg : List Byte) : Verb → Option Call
  | .exit => some .exit
  | .sthu => (unpackFloats 1 (cut 4 8 msg)).map fun _ => .unsupported
  | .freq => (unpackWords [.u64] (cut 4 12 msg)).map fun ns => .submit .freq (ns.map .int)
  | .gain => (unpackWords (List.replicate M .u32) (cut 4 (4 + 4 * M) msg)).map fun ns =>
    .submit .gain (ns.map .int)
  | .egan => (unpackWords (List.replicate M .u32) (cut 4 (4 + 4 * M) msg)).map fun ns =>
    .submit .egan (ns.map .int)
  | .bias => (unpackWords (List.replicate M .u32) (cut 4 (4 + 4 * M) msg)).map fun ns =>
    .submit .bias (ns.map .int)
  | .ornt => (unpackFloats 2 (cut 4 12 msg)).map fun xs => .submit .ornt (xs.map .float)
  | .schd => some (.submit .schd [.text (schdText space (cut 4 128 msg))])
  | .xack => (unpackWords [.u32] (cut 4 8 msg)).bind fun
      | [term] => some (.xack term (Text.decodeReplace ((cut 8 40 msg).takeWhile (· ≠ 0))))
      | _ => none
  | .tlka => (unpackWords [.u32] (cut 4 8 msg)).bind fun
      | [value] => some (.tlka value)
      | _ => none
  | .schb => (unpackWords [.u32, .u32, .u16] (cut 4 14 msg)).bind fun
      | [totalLen, crc, nchunks] => some (.schb totalLen.toNat crc.toNat nchunks.toNat)
      | _ => none
  | .schc => (unpackWords [.u16, .u16, .u16] (cut 4 10 msg)).bind fun
      | [sess, seq, length] => some (.schc sess.toNat seq.toNat length.toNat)
      | _ => none
  | .sche => (unpackWords [.u16] (cut 4 6 msg)).bind fun
      | [sess] => some (.sche sess.toNat)
      | _ => none
  | .hwsq => some (.query .hwsq)
  | .schg => some (.query .schg)
  | .tlck => some (.query .tlck)
  | verb => some (.submit verb [])

def processCtrFrame (clusterBad : Bool) (msg : List Byte) : Call :=
  match Verb.ofBytes (msg.take 4) with
  | none => .zeros
  | some verb =>
    -- a connection whose XACK was refused
    if clusterBad && verb.mutating then .zeros
    else (decodeCall space M msg verb).getD .zeros

variable (verb : Verb)

def frame (payload : List Byte) : List Byte := verb.bytes ++ fit 124 payload

lemma length_frame (payload : List Byte) : (frame verb payload).length = 128 := by
  rw [frame, length_append, verb.length_bytes, length_fit]

lemma processCtrFrame_frame (verb : Verb) (payload : List Byte) :
    processCtrFrame space M false (frame verb payload) =
      (decodeCall space M (frame verb payload) verb).getD .zeros := by
  grind [frame, Verb.length_bytes, processCtrFrame, Verb.ofBytes_bytes]

lemma cut_frame_eq (payload : List Byte) (k : ℕ) :
    cut 4 (4 + k) (frame verb payload) = (fit 124 payload).take k := by
  rw [cut, frame, take_append, take_of_length_le (by rw [verb.length_bytes]; omega),
    drop_left' verb.length_bytes, verb.length_bytes, Nat.add_sub_cancel_left]

variable {front rest : List Byte}

lemma cut_frame {verb : Verb} {k : ℕ} (hk : front.length = k)
    (hle : k ≤ 124) : cut 4 (4 + k) (frame verb (front ++ rest)) = front := by
  rw [cut_frame_eq, fit, take_append_of_le_length, take_take, Nat.min_eq_left hle, take_left' hk]
  grind

lemma cut_frame_part {verb : Verb} {front mid rest : List Byte} {j k : ℕ} (hj : front.length = j)
    (hk : mid.length = k) (hle : j + k ≤ 124) :
    cut (4 + j) (4 + (j + k)) (frame verb (front ++ (mid ++ rest))) = mid := by
  have hboth : cut 4 (4 + (j + k)) (frame verb (front ++ mid ++ rest)) = front ++ mid :=
    cut_frame (by rw [length_append, hj, hk]) hle
  rw [append_assoc, cut] at hboth
  rw [cut, ← drop_drop, hboth, drop_left' hj]

lemma packWords_append {cs ds : List Code} {ns ms : List ℤ}
    (h : packWords cs ns = some front) (hlen : cs.length = ns.length)
    (hrest : Struct.packFrom false (0 + Struct.sizeFrom false 0 cs) ds (ms.map .int) = some rest) :
    packWords (cs ++ ds) (ns ++ ms) = some (front ++ rest) := by
  rw [packWords, pack] at h ⊢
  rw [map_append, packFrom_append (by rw [length_map, hlen]), h, Option.bind_some, hrest]
  rfl

def WordsFit (ns : List ℤ) : Prop := List.Forall₂ (fun c n => (∀ k, c ≠ .bytes k) ∧ c.Fits n) cs ns

variable {cs : List Code} {ns : List ℤ}

lemma exists_packWords (e : ℕ) (h : WordsFit cs ns)
    (he : 4 + Struct.sizeFrom false 0 cs = e) (hle : e ≤ 128) :
    ∃ bs, packWords cs ns = some bs ∧ 4 + bs.length = e ∧
      ∀ verb rest, unpackWords cs (cut 4 e (frame verb (bs ++ rest))) = some ns := by
  have hholds : List.Forall₂ Code.Holds cs (ns.map .int) := by
    rw [forall₂_map_right_iff]
    exact h.imp fun c n hfit => .word hfit.1 hfit.2
  obtain ⟨bs, hpack, hlen, hunpack⟩ := unpack_pack false hholds
  subst he
  refine ⟨bs, hpack, by rw [hlen], fun verb rest => ?_⟩
  rw [cut_frame hlen (by omega), unpackWords, hunpack, Option.map_some, map_map]
  exact congrArg some (map_id ns)

lemma wordsFit_of_packWords {bs : List Byte}
    (hcs : ∀ c ∈ cs, ∀ k, c ≠ .bytes k) (h : packWords cs ns = some bs) : WordsFit cs ns := by
  rw [packWords, pack] at h
  generalize 0 = off at h
  induction cs generalizing ns bs off with
  | nil =>
    cases ns with
    | nil => exact .nil
    | cons n ns => cases h
  | cons c cs ih =>
    cases ns with
    | nil => cases h
    | cons n ns =>
      obtain ⟨hc, hcs⟩ := forall_mem_cons.mp hcs
      rw [map_cons, packFrom] at h
      obtain ⟨front, hfront, h⟩ := Option.bind_eq_some_iff.mp h
      obtain ⟨rest, hrest, -⟩ := Option.map_eq_some_iff.mp h
      rw [Code.put_word hc] at hfront
      split_ifs at hfront with hfits
      exact .cons ⟨hc, hfits⟩ (ih hcs _ hrest)

lemma unpackWords_frame (e : ℕ) {bs : List Byte}
    (hcs : ∀ c ∈ cs, ∀ k, c ≠ .bytes k) (h : packWords cs ns = some bs)
    (he : 4 + Struct.sizeFrom false 0 cs = e) (hle : e ≤ 128) (verb : Verb) (rest : List Byte) :
    unpackWords cs (cut 4 e (frame verb (bs ++ rest))) = some ns ∧ 4 + bs.length = e := by
  obtain ⟨bs', hbs', hlen, hread⟩ := exists_packWords e (wordsFit_of_packWords hcs h) he hle
  grind

/-! ## One word for each channel -/

def wordBytes (ns : List ℤ) : List Byte := ns.flatMap fun n => leBytes 4 n.toNat

lemma wordBytes_append (ns ms : List ℤ) : wordBytes (ns ++ ms) = wordBytes ns ++ wordBytes ms :=
  flatMap_append

lemma wordBytes_replicate (m : ℕ) : wordBytes (List.replicate m 0) = List.replicate (4 * m) 0 := by
  induction m with
  | zero => rfl
  | succ m ih =>
    have hsucc : 4 * (m + 1) = 4 * m + 4 := by omega
    rw [replicate_succ, wordBytes, flatMap_cons, hsucc, Nat.add_comm, replicate_add, ← ih]
    rfl

lemma take_wordBytes (ns : List ℤ) (m : ℕ) : (wordBytes ns).take (4 * m) = wordBytes (ns.take m) := by
  induction ns generalizing m with
  | nil => simp [wordBytes]
  | cons n ns ih =>
    cases m with
    | zero => rfl
    | succ m =>
      grind [leBytes, wordBytes]

lemma sizeFrom_replicate (off m : ℕ) : Struct.sizeFrom false off (List.replicate m .u32) = 4 * m := by
  induction m generalizing off with
  | zero => rfl
  | succ m ih =>
    rw [replicate_succ, sizeFrom, ih, Nat.mul_succ, Nat.add_comm]
    rfl

lemma packFrom_words {off : ℕ} (h : ∀ n ∈ ns, Code.u32.Fits n) :
    Struct.packFrom false off (List.replicate ns.length .u32) (ns.map .int) = some (wordBytes ns) := by
  induction ns generalizing off with
  | nil => rfl
  | cons n ns ih =>
    obtain ⟨hn, hns⟩ := forall_mem_cons.mp h
    rw [length_cons, replicate_succ, map_cons, packFrom,
      Code.put_word (c := .u32) nofun, if_pos hn, Option.bind_some, ih hns]
    rfl

/-- A frame with words for channels gives a member of `M` channels the first `M` of them,
and zeros for those that are missing. -/
lemma unpackWords_channels {M : ℕ} (hM : M ≤ 31) (h : ∀ n ∈ ns, Code.u32.Fits n) (verb : Verb) :
    unpackWords (List.replicate M .u32) (cut 4 (4 + 4 * M) (frame verb (wordBytes ns))) =
      some ((ns ++ List.replicate M 0).take M) := by
  have hbytes : cut 4 (4 + 4 * M) (frame verb (wordBytes ns)) =
      wordBytes ((ns ++ replicate M 0).take M) := by
    rw [cut_frame_eq, take_fit (by omega), ← wordBytes_replicate, ← wordBytes_append, take_wordBytes]
  have hlen : ((ns ++ replicate M 0).take M).length = M := by grind
  have hfits : ∀ n ∈ (ns ++ replicate M 0).take M, Code.u32.Fits n := by
    intro n hn
    rcases mem_append.mp (mem_of_mem_take hn) with hn | hn
    · exact h n hn
    · rw [eq_of_mem_replicate hn]
      decide
  have hholds := forall₂_holds_replicate (c := .u32) nofun hfits
  obtain ⟨bs, hpack, -, hunpack⟩ := unpack_pack false hholds
  rw [pack, packFrom_words hfits] at hpack
  cases hpack
  rw [hlen] at hunpack
  rw [hbytes, unpackWords, hunpack, Option.map_some, map_map]
  exact congrArg some (map_id _)

end HeimdallDaq.HwController
