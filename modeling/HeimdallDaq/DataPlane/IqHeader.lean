/-
  DataPlane/IqHeader.lean --- the header of an IQ frame.

  `iq_header.py` packs the header with native alignment into 1024 bytes.
-/
import HeimdallDaq.Foundation.Struct
import HeimdallDaq.Foundation.Text

namespace HeimdallDaq.DataPlane

open Foundation List Struct Text

def scalarFormat : List Code :=
  [.u32, .u32, .bytes 16, .u32, .u32, .u32, .u64, .u64, .u64, .u32, .u64, .u32, .u32, .u64, .u32,
    .u32, .u32]

def headerFormat : List Code :=
  scalarFormat ++ (List.replicate 32 Code.u32 ++ (List.replicate 4 Code.u32 ++
    (List.replicate 192 Code.u32 ++ [Code.u32])))

structure IqHeader where
  syncWord : ℤ := 0x2bf7b95a
  frameType : ℤ := 0
  hardwareId : Text := []
  unitId : ℤ := 0
  activeAntChs : ℤ := 0
  iooType : ℤ := 0
  rfCenterFreq : ℤ := 0
  adcSamplingFreq : ℤ := 0
  samplingFreq : ℤ := 0
  cpiLength : ℤ := 0
  timeStamp : ℤ := 0
  daqBlockIndex : ℤ := 0
  cpiIndex : ℤ := 0
  extIntegrationCntr : ℤ := 0
  dataType : ℤ := 0
  sampleBitDepth : ℤ := 0
  adcOverdriveFlags : ℤ := 0
  ifGains : List ℤ := List.replicate 32 0
  delaySyncFlag : ℤ := 0
  iqSyncFlag : ℤ := 0
  syncState : ℤ := 0
  noiseSourceState : ℤ := 0
  reserved : List ℤ := List.replicate 192 0
  headerVersion : ℤ := 0

namespace IqHeader

def reservedWords (h : IqHeader) : List ℤ :=
  (List.range 192).map fun m =>
    match h.reserved[m]? with
    | some word => word % 2 ^ 32
    | none => 0

@[local grind]
def fields (h : IqHeader) (id : List Byte) : List Packed :=
  ([.int h.syncWord, .int h.frameType, .bytes id, .int h.unitId, .int h.activeAntChs, .int h.iooType,
    .int h.rfCenterFreq, .int h.adcSamplingFreq, .int h.samplingFreq, .int h.cpiLength,
    .int h.timeStamp, .int h.daqBlockIndex, .int h.cpiIndex, .int h.extIntegrationCntr,
    .int h.dataType, .int h.sampleBitDepth, .int h.adcOverdriveFlags] : List Packed) ++
  ((h.ifGains.take 32).map Packed.int ++
  ([h.delaySyncFlag, h.iqSyncFlag, h.syncState, h.noiseSourceState].map Packed.int ++
  (h.reservedWords.map Packed.int ++ [Packed.int h.headerVersion])))

def encodeHeader (h : IqHeader) : Option (List Byte) :=
  h.hardwareId.encode.bind fun id =>
    -- `if_gains[m]` for every m below 32
    if h.ifGains.length < 32 then none else Struct.pack true headerFormat (h.fields id)

@[local grind]
def intAt (l : List Packed) (i : ℕ) : ℤ := ((l[i]?).map Packed.toInt).getD 0

@[local grind]
def ofFields (l : List Packed) (id : Text) : IqHeader where
  syncWord := intAt l 0
  frameType := intAt l 1
  hardwareId := id
  unitId := intAt l 3
  activeAntChs := intAt l 4
  iooType := intAt l 5
  rfCenterFreq := intAt l 6
  adcSamplingFreq := intAt l 7
  samplingFreq := intAt l 8
  cpiLength := intAt l 9
  timeStamp := intAt l 10
  daqBlockIndex := intAt l 11
  cpiIndex := intAt l 12
  extIntegrationCntr := intAt l 13
  dataType := intAt l 14
  sampleBitDepth := intAt l 15
  adcOverdriveFlags := intAt l 16
  ifGains := ((l.drop 17).take 32).map Packed.toInt
  delaySyncFlag := intAt l 49
  iqSyncFlag := intAt l 50
  syncState := intAt l 51
  noiseSourceState := intAt l 52
  reserved := ((l.drop 53).take 192).map Packed.toInt
  headerVersion := intAt l 245

def hardwareBytes (l : List Packed) : List Byte := ((l[2]?).map Packed.toBytes).getD []

def decodeHeader (bs : List Byte) : Option IqHeader :=
  (Struct.unpack true headerFormat bs).bind fun l =>
    (Text.decode (hardwareBytes l)).map (ofFields l)

/-! ## What the fields hold -/

abbrev IsU32 (n : ℤ) : Prop := 0 ≤ n ∧ n < 2 ^ 32

abbrev IsU64 (n : ℤ) : Prop := 0 ≤ n ∧ n < 2 ^ 64

structure InRange (h : IqHeader) : Prop where
  words : ∀ n ∈ [h.syncWord, h.frameType, h.unitId, h.activeAntChs, h.iooType, h.cpiLength,
    h.daqBlockIndex, h.cpiIndex, h.dataType, h.sampleBitDepth, h.adcOverdriveFlags, h.delaySyncFlag,
    h.iqSyncFlag, h.syncState, h.noiseSourceState, h.headerVersion], IsU32 n
  longs : ∀ n ∈ [h.rfCenterFreq, h.adcSamplingFreq, h.samplingFreq, h.timeStamp,
    h.extIntegrationCntr], IsU64 n
  gains : h.ifGains.length = 32 ∧ ∀ n ∈ h.ifGains, IsU32 n
  reserved : h.reserved.length = 192 ∧ ∀ n ∈ h.reserved, IsU32 n

lemma fits_u32 {n : ℤ} (h : IsU32 n) : Code.u32.Fits n := h

lemma fits_u64 {n : ℤ} (h : IsU64 n) : Code.u64.Fits n := h

variable {h : IqHeader}

lemma reservedWords_eq (hr : h.reserved.length = 192 ∧ ∀ n ∈ h.reserved, IsU32 n) :
    h.reservedWords = h.reserved := by
  apply ext_getElem
  · rw [reservedWords, length_map, length_range, hr.1]
  · intro m hm hm'
    have hword := hr.2 _ (getElem_mem hm')
    simp only [reservedWords, getElem_map, getElem_range, getElem?_eq_getElem hm']
    exact Int.emod_eq_of_lt hword.1 hword.2

lemma length_reservedWords (h : IqHeader) : h.reservedWords.length = 192 := by
  rw [reservedWords, length_map, length_range]

lemma holds_fields (hr : h.InRange) {id : List Byte} (hid : id.length = 16) :
    List.Forall₂ Code.Holds headerFormat (h.fields id) := by
  have hword : ∀ n ∈ _, Code.u32.Holds (.int n) := fun n hn => .word nofun (fits_u32 (hr.words n hn))
  have hlong : ∀ n ∈ _, Code.u64.Holds (.int n) := fun n hn => .word nofun (fits_u64 (hr.longs n hn))
  simp only [forall_mem_cons, not_mem_nil, false_implies, implies_true, and_true]
    at hword hlong
  obtain ⟨h1, h2, h3, h4, h5, h6, h7, h8, h9, h10, h11, h12, h13, h14, h15, h16⟩ := hword
  obtain ⟨l1, l2, l3, l4, l5⟩ := hlong
  unfold headerFormat fields
  refine rel_append ?_ (rel_append ?_ (rel_append ?_ (rel_append ?_ ?_)))
  · exact .cons h1 (.cons h2 (.cons (.bytes hid) (.cons h3 (.cons h4 (.cons h5 (.cons l1 (.cons l2
      (.cons l3 (.cons h6 (.cons l4 (.cons h7 (.cons h8 (.cons l5 (.cons h9 (.cons h10 (.cons h11
        .nil))))))))))))))))
  · rw [take_of_length_le hr.gains.1.le]
    exact hr.gains.1 ▸ forall₂_holds_replicate (c := .u32) nofun fun n hn => fits_u32 (hr.gains.2 n hn)
  · exact .cons h12 (.cons h13 (.cons h14 (.cons h15 .nil)))
  · rw [reservedWords_eq hr.reserved]
    exact hr.reserved.1 ▸
      forall₂_holds_replicate (c := .u32) nofun fun n hn => fits_u32 (hr.reserved.2 n hn)
  · exact .cons h16 .nil

variable {a b : List Packed}

lemma intAt_append {k i : ℕ} (h : a.length = k) : intAt (a ++ b) (k + i) = intAt b i := by
  rw [intAt, getElem?_append_right (by omega), h, Nat.add_sub_cancel_left, intAt]

lemma map_toInt_map (ns : List ℤ) : (ns.map Packed.int).map Packed.toInt = ns := by
  rw [map_map]
  exact map_id ns

lemma segments {s g f w v : List Packed} (hs : s.length = 17) (hg : g.length = 32)
    (hf : f.length = 4) (hw : w.length = 192) :
    ((s ++ (g ++ (f ++ (w ++ v)))).drop 17).take 32 = g ∧
      (∀ i, intAt (s ++ (g ++ (f ++ (w ++ v)))) (49 + i) = intAt (f ++ (w ++ v)) i) ∧
      ((s ++ (g ++ (f ++ (w ++ v)))).drop 53).take 192 = w ∧
      intAt (s ++ (g ++ (f ++ (w ++ v)))) 245 = intAt v 0 := by
  have hflags : ∀ i, intAt (s ++ (g ++ (f ++ (w ++ v)))) (49 + i) = intAt (f ++ (w ++ v)) i := by
    intro i
    rw [show 49 + i = 17 + (32 + i) by omega, intAt_append hs, intAt_append hg]
  grind

lemma ofFields_fields (hr : h.InRange) (bs : List Byte) (id : Text) :
    ofFields (h.fields bs) id = { h with hardwareId := id } := by
  have hgains : ((h.ifGains.take 32).map Packed.int).length = 32 := by
    rw [length_map, length_take, hr.gains.1]
    rfl
  have hwords : (h.reservedWords.map Packed.int).length = 192 := by
    rw [length_map, length_reservedWords]
  obtain ⟨hifGains, hflags, hreserved, hversion⟩ :
      ((h.fields bs).drop 17).take 32 = _ ∧ (∀ i, intAt (h.fields bs) (49 + i) = _) ∧
        ((h.fields bs).drop 53).take 192 = _ ∧ intAt (h.fields bs) 245 = _ :=
    segments rfl hgains rfl hwords
  rw [ofFields, hifGains, hreserved, hversion, hflags 0, hflags 1, hflags 2, hflags 3, map_toInt_map,
    map_toInt_map, take_of_length_le hr.gains.1.le, reservedWords_eq hr.reserved]
  rfl

lemma scalars_eq {s : List Packed} (hs : List.Forall₂ Code.Holds scalarFormat s) :
    s = [.int (intAt s 0), .int (intAt s 1), .bytes (hardwareBytes s), .int (intAt s 3),
        .int (intAt s 4), .int (intAt s 5), .int (intAt s 6), .int (intAt s 7), .int (intAt s 8),
        .int (intAt s 9), .int (intAt s 10), .int (intAt s 11), .int (intAt s 12),
        .int (intAt s 13), .int (intAt s 14), .int (intAt s 15), .int (intAt s 16)] ∧
      (hardwareBytes s).length = 16 := by
  have hsplit : scalarFormat = [.u32, .u32] ++ .bytes 16 :: scalarFormat.drop 3 := rfl
  rw [hsplit] at hs
  obtain ⟨a, rest, ha, hrest, rfl⟩ := exists_append_of_forall₂ hs
  obtain ⟨id, b, hid, hb, rfl⟩ := forall₂_cons_left_iff.mp hrest
  obtain ⟨ns, rfl, hns⟩ := words_of_forall₂ (by simp) ha
  obtain ⟨ms, rfl, hms⟩ := words_of_forall₂ (by simp [scalarFormat]) hb
  have hnl : ns.length = 2 := hns.length_eq.symm
  have hml : ms.length = 14 := hms.length_eq.symm
  cases hid with
  | word hc _ => exact absurd rfl (hc 16)
  | bytes hid =>
    match ns, hnl, ms, hml with
    | [_, _], _, [_, _, _, _, _, _, _, _, _, _, _, _, _, _], _ => exact ⟨rfl, hid⟩

lemma intAt_append_left {k i : ℕ} (h : a.length = k) (hi : i < k) :
    intAt (a ++ b) i = intAt a i := by rw [intAt, getElem?_append_left (by omega), intAt]

variable {l : List Packed}

lemma fields_ofFields (hl : List.Forall₂ Code.Holds headerFormat l) (id : Text) :
    (ofFields l id).fields (hardwareBytes l) = l ∧ (hardwareBytes l).length = 16 ∧
      (ofFields l id).ifGains.length = 32 := by
  obtain ⟨s, l₁, hs, hl₁, rfl⟩ := exists_append_of_forall₂ hl
  obtain ⟨g, l₂, hg, hl₂, rfl⟩ := exists_append_of_forall₂ hl₁
  obtain ⟨f, l₃, hf, hl₃, rfl⟩ := exists_append_of_forall₂ hl₂
  obtain ⟨w, v, hw, hv, rfl⟩ := exists_append_of_forall₂ hl₃
  obtain ⟨gains, rfl, hgains, -⟩ := words_of_forall₂_replicate (c := .u32) nofun hg
  obtain ⟨flags, rfl, hflags, -⟩ := words_of_forall₂_replicate (c := .u32) nofun hf
  obtain ⟨words, rfl, hwords, hfits⟩ := words_of_forall₂_replicate (c := .u32) nofun hw
  obtain ⟨_, _, @⟨_, version, -, -⟩, ⟨⟩, rfl⟩ := forall₂_cons_left_iff.mp hv
  obtain ⟨hscalars, hid⟩ := scalars_eq hs
  have hslen : s.length = 17 := hs.length_eq.symm
  obtain ⟨hifGains, hat, hreserved, hversion⟩ := segments (v := [.int version]) hslen
    hg.length_eq.symm hf.length_eq.symm hw.length_eq.symm
  -- nothing of the tail but its position matters for the scalars
  generalize htail : gains.map Packed.int ++ (flags.map Packed.int ++ (words.map Packed.int ++
    [.int version])) = tail at hifGains hat hreserved hversion ⊢
  have hbytes : hardwareBytes (s ++ tail) = hardwareBytes s := by
    rw [hardwareBytes, getElem?_append_left (by omega), hardwareBytes]
  have hscalar : ∀ i < 17, intAt (s ++ tail) i = intAt s i := fun i hi => intAt_append_left hslen hi
  have hgains' : (ofFields (s ++ tail) id).ifGains = gains :=
    (congrArg _ hifGains).trans (map_toInt_map gains)
  have hreserved' : (ofFields (s ++ tail) id).reserved = words :=
    (congrArg _ hreserved).trans (map_toInt_map words)
  have hwords' : (ofFields (s ++ tail) id).reservedWords = words := by
    rw [reservedWords_eq, hreserved']
    rw [hreserved']
    exact ⟨hwords, hfits⟩
  refine ⟨?_, hbytes ▸ hid, hgains' ▸ hgains⟩
  match flags, hflags with
  | [delaySync, iqSync, syncState, noise], _ =>
    have hflags' : [(ofFields (s ++ tail) id).delaySyncFlag, (ofFields (s ++ tail) id).iqSyncFlag,
        (ofFields (s ++ tail) id).syncState, (ofFields (s ++ tail) id).noiseSourceState] =
          [delaySync, iqSync, syncState, noise] := by
      simp only [ofFields, hat 0, hat 1, hat 2, hat 3]
      rfl
    have hversion' : (ofFields (s ++ tail) id).headerVersion = version := hversion
    grind

/-! ## The codec -/

def zeroPadding (bs : List Byte) : List Byte :=
  bs.take 36 ++ (List.replicate 4 0 ++ ((bs.drop 40).take 28 ++ (List.replicate 4 0 ++ bs.drop 72)))

set_option maxRecDepth 4000 in
lemma size_headerFormat : Struct.sizeFrom true 0 headerFormat = 1024 := by decide

set_option maxRecDepth 4000 in
lemma blankFrom_headerFormat (bs : List Byte) :
    Struct.blankFrom true 0 headerFormat bs = zeroPadding bs := by
  -- up to the first padding, up to the second, and the rest
  have hsplit : headerFormat = [.u32, .u32, .bytes 16, .u32, .u32, .u32] ++
      ([.u64, .u64, .u64, .u32] ++ headerFormat.drop 10) := rfl
  have hlast : headerFormat.drop 10 = .u64 :: headerFormat.drop 11 := rfl
  rw [hsplit, blankFrom_append rfl]
  rw [cons_append, blankFrom_pad (k := 4) rfl rfl, ← cons_append,
    blankFrom_append rfl, hlast, blankFrom_pad (k := 4) rfl rfl,
    blankFrom_of_flush _ (by decide), drop_drop, drop_drop, drop_drop]
  rfl

variable {bs : List Byte}

lemma hardwareBytes_of_unpack
    (h : Struct.unpack true headerFormat bs = some l) : hardwareBytes l = (bs.drop 8).take 16 := by
  have hcons : headerFormat = .u32 :: .u32 :: .bytes 16 :: headerFormat.drop 3 := rfl
  rw [unpack, hcons, unpackFrom] at h
  split_ifs at h
  obtain ⟨l₁, h₁, rfl⟩ := Option.map_eq_some_iff.mp h
  rw [unpackFrom] at h₁
  split_ifs at h₁
  obtain ⟨l₂, h₂, rfl⟩ := Option.map_eq_some_iff.mp h₁
  rw [unpackFrom] at h₂
  split_ifs at h₂
  obtain ⟨l₃, -, rfl⟩ := Option.map_eq_some_iff.mp h₂
  simp only [hardwareBytes, drop_drop]
  rfl

lemma encodeHeader_decodeHeader (hlen : bs.length = 1024) {id : Text}
    (hid : Text.decode ((bs.drop 8).take 16) = some id) :
    ∃ h, decodeHeader bs = some h ∧ h.encodeHeader = some (zeroPadding bs) := by
  obtain ⟨l, hl⟩ := exists_unpackFrom (hlen.trans size_headerFormat.symm)
  obtain ⟨hholds, hpack⟩ := packFrom_unpackFrom hl
  obtain ⟨hfields, hbytes, hgains⟩ := fields_ofFields hholds id
  have hdecode : decode (hardwareBytes l) = some id :=
    (congrArg decode (hardwareBytes_of_unpack hl)).trans hid
  refine ⟨ofFields l id, ?_, ?_⟩
  · rw [decodeHeader, unpack, hl, Option.bind_some, hdecode]
    rfl
  · have hencode : (ofFields l id).hardwareId.encode = some (hardwareBytes l) :=
      decode_eq_some_iff.mp hdecode
    rw [encodeHeader, hencode, Option.bind_some, if_neg (by omega), hfields, pack, hpack,
      blankFrom_headerFormat]

lemma decode_fit_iff {n : ℕ} {t : Text} (h : t.encode = some bs) :
    (∃ t', Text.decode (fit n bs) = some t') ↔ t.CutsAt n := by
  constructor
  · rintro ⟨t', ht'⟩
    by_cases hlen : bs.length ≤ n
    · exact ⟨bs, t, [], h, (append_nil t).symm, by rw [take_of_length_le hlen, h]⟩
    · have hfit : fit n bs = bs.take n := by
        rw [fit, Nat.sub_eq_zero_of_le (by omega), replicate_zero, append_nil]
      rw [hfit, decode_eq_some_iff] at ht'
      rw [← take_append_drop n bs] at h
      obtain ⟨rest, hrest, -⟩ := prefix_of_encode ht' h
      exact ⟨bs, t', rest, take_append_drop n bs ▸ h, hrest, ht'⟩
  · rintro ⟨bs', kept, rest, hbs', -, hkept⟩
    obtain rfl : bs = bs' := Option.some.inj (h.symm.trans hbs')
    refine ⟨kept ++ replicate (n - bs.length) (.char (Char.ofNat 0)), ?_⟩
    rw [decode_eq_some_iff, encode_append, hkept, encode_replicate utf8_null]
    rfl

lemma exists_encodeHeader (hr : h.InRange) {id : List Byte}
    (hid : h.hardwareId.encode = some id) :
    ∃ bs, h.encodeHeader = some bs ∧
      decodeHeader bs = (Text.decode (fit 16 id)).map fun t => { h with hardwareId := t } := by
  have hholds := holds_fields hr (length_fit 16 id)
  obtain ⟨bs, hpack, -, hunpack⟩ := unpack_pack true hholds
  have hfit : pack true ([.u32, .u32] ++ .bytes 16 :: headerFormat.drop 3)
      ([.int h.syncWord, .int h.frameType] ++ .bytes (fit 16 id) :: (h.fields id).drop 3) =
        pack true headerFormat (h.fields id) :=
    packFrom_fit id rfl
  refine ⟨bs, ?_, ?_⟩
  · rw [encodeHeader, hid, Option.bind_some, if_neg (by rw [hr.gains.1]; omega), ← hfit]
    exact hpack
  · rw [decodeHeader, hunpack, Option.bind_some]
    exact congrArg (fun f => Option.map f _) (funext fun t => ofFields_fields hr _ t)

def Returns (h h' : IqHeader) : Prop :=
  (∃ id, h.hardwareId.encode = some id ∧ h'.hardwareId.encode = some (fit 16 id)) ∧
    h' = { h with hardwareId := h'.hardwareId }

lemma returns_iff (hr : h.InRange) :
    (∃ bs h', h.encodeHeader = some bs ∧ decodeHeader bs = some h' ∧ h.Returns h') ↔
      h.hardwareId.CutsAt 16 := by
  constructor
  · rintro ⟨bs, h', -, -, ⟨id, hid, hid'⟩, -⟩
    exact (decode_fit_iff hid).mp ⟨_, decode_eq_some_iff.mpr hid'⟩
  · intro hcut
    obtain ⟨id, hid⟩ : ∃ id, h.hardwareId.encode = some id := by
      obtain ⟨id, -, -, hid, -⟩ := hcut
      exact ⟨id, hid⟩
    obtain ⟨t, ht⟩ := (decode_fit_iff hid).mpr hcut
    obtain ⟨bs, hencode, hdecode⟩ := exists_encodeHeader hr hid
    rw [ht] at hdecode
    exact ⟨bs, _, hencode, hdecode, ⟨id, hid, decode_eq_some_iff.mp ht⟩, rfl⟩

/-- The codec: bytes with a valid hardware id come back with the padding zeroed, and a
header in range comes back iff no character of its hardware id is cut at 16 bytes. -/
theorem header_codec (bs : List Byte) (h : IqHeader) :
    (bs.length = 1024 → (Text.decode ((bs.drop 8).take 16)).isSome →
      ∃ h, decodeHeader bs = some h ∧ h.encodeHeader = some (zeroPadding bs)) ∧ (h.InRange →
      ((∃ bs h', h.encodeHeader = some bs ∧ decodeHeader bs = some h' ∧ h.Returns h') ↔
        h.hardwareId.CutsAt 16)) := by
  refine ⟨fun hlen hid => ?_, returns_iff⟩
  obtain ⟨id, hid⟩ := Option.isSome_iff_exists.mp hid
  exact encodeHeader_decodeHeader hlen hid

namespace LongName

def header (last : Char) : IqHeader := { hardwareId := Text.ofString "kraken_receiver" ++ [.char last] }

lemma inRange_default : InRange {} where
  words := by decide
  longs := by decide
  gains := by decide
  reserved := ⟨length_replicate, fun n hn => by rw [eq_of_mem_replicate hn]; decide⟩

lemma inRange (last : Char) : (header last).InRange :=
  ⟨inRange_default.words, inRange_default.longs, inRange_default.gains, inRange_default.reserved⟩

/-- The hardware id of 16 letters comes back, and 1024 zero bytes do. -/
theorem header_codec_letters :
    (∃ bs h', (header 's').encodeHeader = some bs ∧ decodeHeader bs = some h' ∧
      (header 's').Returns h') ∧ ∃ h, decodeHeader (List.replicate 1024 0) = some h ∧
      h.encodeHeader = some (zeroPadding (List.replicate 1024 0)) := by
  have hcut : (header 's').hardwareId.CutsAt 16 :=
    ⟨_, (header 's').hardwareId, [], rfl, (append_nil _).symm, rfl⟩
  exact ⟨((header_codec [] (header 's')).2 (inRange 's')).mpr hcut,
    (header_codec (replicate 1024 0) {}).1 (length_replicate ..) (by decide)⟩

/-- The last letter takes two bytes: the header is encoded, and its bytes do not decode. -/
theorem accent_cut :
    (header 'é').InRange ∧ ∃ bs, (header 'é').encodeHeader = some bs ∧ decodeHeader bs = none := by
  obtain ⟨bs, hencode, hdecode⟩ := exists_encodeHeader (inRange 'é') rfl
  refine ⟨inRange 'é', bs, hencode, hdecode.trans ?_⟩
  decide

end LongName

end IqHeader

end HeimdallDaq.DataPlane
