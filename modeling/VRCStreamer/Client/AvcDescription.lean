import VRCStreamer.Codec.BigEndian
import VRCStreamer.Codec.Truncation

/-!
# The description of an H.264 encoder

`avcDescriptionToAnnexB` of `video-worker.js` with its cursors. A byte past the end of an array
would be `undefined` and a part that does not fit in one is refused, so the model fails with a
fault there. A field reader says what the function makes of any description.
-/

namespace VRCStreamer

open Codec

def ANNEX_B_START_CODE : Bytes := [0, 0, 0, 1]

inductive ArrayFault
  | pastEnd
  | range
  deriving DecidableEq

/-! ## The functions of the source -/

/-- `data[offset]`. -/
def byteAt (data : Bytes) (offset : Nat) : Except ArrayFault UInt8 :=
  match data[offset]? with
  | some byte => .ok byte
  | none => .error .pastEnd

def subarray (data : Bytes) (start length : Nat) : Except ArrayFault Bytes :=
  if start + length ≤ data.length then .ok ((data.drop start).take length)
  else .error .pastEnd

/-- `out.set(part, write)`. -/
def setPart (out part : Bytes) (write : Nat) : Except ArrayFault Bytes :=
  if write + part.length ≤ out.length then
    .ok (out.take write ++ part ++ out.drop (write + part.length))
  else .error .range

/-- The length in front of a unit. -/
def unitLength (high low : UInt8) : Nat := (high.toNat <<< 8) ||| low.toNat

/-- One of the two loops: the parts and the offset behind them, or `null`. -/
def parameterSets (data : Bytes) :
    Nat → Nat → List Bytes → Except ArrayFault (Option (List Bytes × Nat))
  | 0, offset, parts => .ok (some (parts, offset))
  | count + 1, offset, parts =>
    if data.length < offset + 2 then .ok none
    else do
      let high ← byteAt data offset
      let low ← byteAt data (offset + 1)
      let length := unitLength high low
      if data.length < offset + 2 + length then .ok none
      else do
        let part ← subarray data (offset + 2) length
        parameterSets data count (offset + 2 + length) (parts ++ [part])

/-- The loop that fills `out`. -/
def writeParts : List Bytes → Bytes → Nat → Except ArrayFault Bytes
  | [], out, _ => .ok out
  | part :: parts, out, write => do
    let started ← setPart out ANNEX_B_START_CODE write
    let written ← setPart started part (write + 4)
    writeParts parts written (write + 4 + part.length)

/-- What follows the two loops. -/
def annexB (parts : List Bytes) : Except ArrayFault (Option Bytes) :=
  let total := parts.foldl (fun sum part => sum + 4 + part.length) 0
  if total = 0 then .ok none
  else (writeParts parts (List.replicate total 0) 0).map some

def avcDescriptionToAnnexB : Option Bytes → Except ArrayFault (Option Bytes)
  | none => .ok none
  | some data =>
    if data.length < 7 then .ok none
    else do
      let version ← byteAt data 0
      if version ≠ 1 then .ok none
      else do
        let spsCount ← byteAt data 5
        let sps ← parameterSets data (spsCount &&& 0x1f).toNat 6 []
        match sps with
        | none => .ok none
        | some (parts, offset) =>
          if data.length ≤ offset then .ok none
          else do
            let ppsCount ← byteAt data offset
            let pps ← parameterSets data ppsCount.toNat (offset + 1) parts
            match pps with
            | none => .ok none
            | some (parts, _) => annexB parts

/-- What the `output` of `createEncoder` does to `avcHeader`. -/
def updateAvcHeader (avcHeader description : Option Bytes) : Except ArrayFault (Option Bytes) :=
  (avcDescriptionToAnnexB description).map fun header => header.or avcHeader

/-! ## The record that is read -/

open FieldReader

/-- A NAL unit behind its length. -/
def lengthPrefixedUnit : FieldReader UInt8 Bytes := do
  let high ← item
  let low ← item
  items (unitLength high low)

/-- The version, what the worker skips, and the count of the first list. -/
def recordHeader : FieldReader UInt8 UInt8 := do
  let _ ← only (fun version => version = 1) item
  let _ ← items 4
  item

def recordUnits (spsCount : UInt8) : FieldReader UInt8 (List Bytes) := do
  let sps ← times lengthPrefixedUnit (spsCount &&& 0x1f).toNat
  let ppsCount ← item
  let pps ← times lengthPrefixedUnit ppsCount.toNat
  return sps ++ pps

def configurationRecord : FieldReader UInt8 (List Bytes) := recordHeader >>= recordUnits

def annexBUnits (units : List Bytes) : Bytes := units.flatMap fun unit => ANNEX_B_START_CODE ++ unit

/-! ## The cursor of the loops -/

section Cursor

variable {data rest : Bytes} {byte : UInt8} {offset : Nat}

theorem length_of_drop (h : data.drop offset = byte :: rest) :
    data.length = offset + 1 + rest.length := by
  have hlength := congrArg List.length h
  rw [List.length_drop, List.length_cons] at hlength
  omega

theorem drop_succ_of_drop (h : data.drop offset = byte :: rest) :
    data.drop (offset + 1) = rest := by
  rw [← List.drop_drop, h]
  rfl

theorem byteAt_of_drop (h : data.drop offset = byte :: rest) : byteAt data offset = .ok byte := by
  have hbyte : data[offset]? = some byte := by
    rw [← List.head?_drop, h]
    rfl
  rw [byteAt, hbyte]

theorem exists_drop_eq_cons (h : offset < data.length) :
    ∃ byte, data.drop offset = byte :: data.drop (offset + 1) :=
  ⟨data[offset], List.drop_eq_getElem_cons h⟩

theorem subarray_of_drop (h : data.drop offset = rest) (hoffset : offset ≤ data.length)
    {length : Nat} (hlength : length ≤ rest.length) :
    subarray data offset length = .ok (rest.take length) := by
  subst h
  rw [List.length_drop] at hlength
  exact if_pos (by omega)

/-- One round of a loop, with at least the bytes of a length before it. -/
theorem parameterSets_succ {high low : UInt8} (h : data.drop offset = high :: low :: rest)
    (count : Nat) (parts : List Bytes) :
    parameterSets data (count + 1) offset parts =
      if unitLength high low ≤ rest.length then
        parameterSets data count (offset + 2 + unitLength high low)
          (parts ++ [rest.take (unitLength high low)])
      else .ok none := by
  have hlow := drop_succ_of_drop h
  have hlength := length_of_drop hlow
  rw [parameterSets, if_neg (by omega), byteAt_of_drop h, byteAt_of_drop hlow]
  dsimp only [bind, Except.bind]
  generalize unitLength high low = length
  by_cases hfits : length ≤ rest.length
  · rw [if_neg (by omega), if_pos hfits,
      subarray_of_drop (drop_succ_of_drop hlow) (by omega) hfits]
  · rw [if_pos (by omega), if_neg hfits]

/-- A loop reads past no end, and does what the field reader does behind the cursor. -/
theorem parameterSets_cases (data : Bytes) (count offset : Nat) (parts : List Bytes) :
    ((times lengthPrefixedUnit count).run (data.drop offset) = none ∧
      parameterSets data count offset parts = .ok none) ∨
    ∃ units offset',
      (times lengthPrefixedUnit count).run (data.drop offset) =
        some (units, data.drop offset') ∧
      parameterSets data count offset parts = .ok (some (parts ++ units, offset')) := by
  induction count generalizing offset parts with
  | zero =>
    refine .inr ⟨[], offset, rfl, ?_⟩
    rw [List.append_nil]
    rfl
  | succ count ih =>
    match hinput : data.drop offset with
    | [] =>
      have hlength : data.length ≤ offset := List.drop_eq_nil_iff.mp hinput
      exact .inl ⟨rfl, if_pos (by omega)⟩
    | [high] =>
      have hlength := length_of_drop hinput
      rw [List.length_nil] at hlength
      exact .inl ⟨rfl, if_pos (by omega)⟩
    | high :: low :: rest =>
      rw [parameterSets_succ hinput]
      by_cases hfits : unitLength high low ≤ rest.length
      · have hunit : lengthPrefixedUnit.run (high :: low :: rest) =
            some (rest.take (unitLength high low),
              rest.drop (unitLength high low)) := if_pos hfits
        have hnext : rest.drop (unitLength high low) =
            data.drop (offset + 2 + unitLength high low) := by
          rw [← List.drop_drop, drop_succ_of_drop (drop_succ_of_drop hinput)]
        rw [if_pos hfits, times, run_bind_of_some hunit, hnext]
        rcases ih (offset + 2 + unitLength high low)
          (parts ++ [rest.take (unitLength high low)]) with
          ⟨hnone, heq⟩ | ⟨units, offset', hsome, heq⟩
        · exact .inl ⟨run_bind_of_none hnone, heq⟩
        · refine .inr ⟨rest.take (unitLength high low) :: units, offset', ?_, ?_⟩
          · rw [run_bind_of_some hsome]
            rfl
          · rw [heq, List.append_assoc]
            rfl
      · have hunit : lengthPrefixedUnit.run (high :: low :: rest) = none := if_neg hfits
        rw [if_neg hfits]
        exact .inl ⟨run_bind_of_none hunit, rfl⟩

/-! ## The cursor of the output -/

theorem setPart_append (before gap after part : Bytes) (hlength : gap.length = part.length) :
    setPart (before ++ (gap ++ after)) part before.length = .ok (before ++ part ++ after) := by
  rw [setPart, if_pos, List.take_left, ← hlength, ← List.drop_drop, List.drop_left, List.drop_left]
  rw [List.length_append, List.length_append]
  omega

theorem annexBUnits_cons (unit : Bytes) (units : List Bytes) :
    annexBUnits (unit :: units) = ANNEX_B_START_CODE ++ unit ++ annexBUnits units := by
  rw [annexBUnits, annexBUnits, List.flatMap_cons]

/-- The parts fill what is left of the output. -/
theorem writeParts_append (parts : List Bytes) (before gap : Bytes)
    (hlength : gap.length = (annexBUnits parts).length) :
    writeParts parts (before ++ gap) before.length = .ok (before ++ annexBUnits parts) := by
  induction parts generalizing before gap with
  | nil =>
    obtain rfl := List.length_eq_zero_iff.mp hlength
    rfl
  | cons part parts ih =>
    rw [annexBUnits_cons, List.length_append, List.length_append] at hlength
    obtain ⟨first, gap, rfl, hfirst⟩ : ∃ first rest, gap = first ++ rest ∧
        first.length = ANNEX_B_START_CODE.length :=
      ⟨gap.take ANNEX_B_START_CODE.length, gap.drop ANNEX_B_START_CODE.length,
        (List.take_append_drop _ _).symm, List.length_take_of_le (by omega)⟩
    obtain ⟨second, gap, rfl, hsecond⟩ : ∃ second rest, gap = second ++ rest ∧
        second.length = part.length :=
      ⟨gap.take part.length, gap.drop part.length, (List.take_append_drop _ _).symm, by
        rw [List.length_append] at hlength
        exact List.length_take_of_le (by omega)⟩
    have hgap : gap.length = (annexBUnits parts).length := by
      rw [List.length_append, List.length_append] at hlength
      omega
    have hstart : (before ++ ANNEX_B_START_CODE).length = before.length + 4 := List.length_append
    have hpart : (before ++ ANNEX_B_START_CODE ++ part).length =
        before.length + 4 + part.length := by
      rw [List.length_append, hstart]
    rw [writeParts, setPart_append before first _ _ hfirst]
    dsimp only [bind, Except.bind]
    rw [← hstart, setPart_append _ second _ _ hsecond]
    dsimp only
    rw [hstart, ← hpart, ih _ gap hgap, annexBUnits_cons]
    simp only [List.append_assoc]

theorem foldl_total (parts : List Bytes) (sum : Nat) :
    parts.foldl (fun sum part => sum + 4 + part.length) sum =
      sum + (annexBUnits parts).length := by
  induction parts generalizing sum with
  | nil => rfl
  | cons part parts ih =>
    have hstart : ANNEX_B_START_CODE.length = 4 := rfl
    rw [List.foldl_cons, ih, annexBUnits_cons, List.length_append, List.length_append, hstart]
    omega

theorem annexB_eq (parts : List Bytes) :
    annexB parts = .ok (if parts = [] then none else some (annexBUnits parts)) := by
  rw [annexB, foldl_total]
  cases parts with
  | nil => rfl
  | cons part parts =>
    have hpos : 0 + (annexBUnits (part :: parts)).length ≠ 0 := by
      rw [annexBUnits_cons, ANNEX_B_START_CODE, List.length_append, List.length_append]
      simp
    have hwritten := writeParts_append (part :: parts) []
      (List.replicate (0 + (annexBUnits (part :: parts)).length) 0)
      (by rw [List.length_replicate, Nat.zero_add])
    rw [if_neg hpos, if_neg (List.cons_ne_nil part parts)]
    exact congrArg (Except.map some) hwritten

/-! ## Any description -/

theorem recordHeader_of_short (h : data.length < 7) {spsCount : UInt8}
    (hrun : recordHeader.run data = some (spsCount, rest)) : rest = [] := by
  obtain ⟨version, afterVersion, hversion, hrun⟩ := run_bind_eq_some.mp hrun
  obtain ⟨skipped, afterSkipped, hskipped, hrun⟩ := run_bind_eq_some.mp hrun
  obtain ⟨hitem, -⟩ := Option.filter_eq_some_iff.mp hversion
  obtain ⟨hle, rfl⟩ := items_run_eq_some hskipped
  have hfirst := congrArg List.length (item_run_eq_some hitem)
  have hlast := congrArg List.length (item_run_eq_some hrun)
  rw [List.length_cons] at hfirst
  rw [List.length_drop, List.length_cons] at hlast
  exact List.length_eq_zero_iff.mp (by omega)

theorem configurationRecord_of_short (h : data.length < 7) :
    configurationRecord.run data = none := by
  cases hrun : configurationRecord.run data with
  | none => rfl
  | some result =>
    obtain ⟨spsCount, rest, hheader, hunits⟩ := run_bind_eq_some.mp hrun
    obtain rfl := recordHeader_of_short h hheader
    obtain ⟨sps, rest, hsps, hunits⟩ := run_bind_eq_some.mp hunits
    obtain rfl := rest_eq_of_times rfl hsps
    cases hunits

theorem recordHeader_of_long (h : 7 ≤ data.length) :
    ∃ version spsCount, byteAt data 0 = .ok version ∧ byteAt data 5 = .ok spsCount ∧
      recordHeader.run data = if version = 1 then some (spsCount, data.drop 6) else none := by
  obtain ⟨version, hversion⟩ : ∃ byte, data.drop 0 = byte :: data.drop 1 :=
    exists_drop_eq_cons (by omega)
  obtain ⟨spsCount, hcount⟩ : ∃ byte, data.drop 5 = byte :: data.drop 6 :=
    exists_drop_eq_cons (by omega)
  refine ⟨version, spsCount, byteAt_of_drop hversion, byteAt_of_drop hcount, ?_⟩
  have hfirst := only_item_run (fun version => version = 1) version (data.drop 1)
  rw [← hversion, List.drop_zero] at hfirst
  by_cases hone : version = 1
  · have hskipped : (items 4).run (data.drop 1) = some ((data.drop 1).take 4, data.drop 5) := by
      refine (if_pos ?_).trans ?_
      · rw [List.length_drop]
        omega
      · rw [List.drop_drop]
    rw [if_pos (decide_eq_true hone)] at hfirst
    rw [if_pos hone, recordHeader, run_bind_of_some hfirst, run_bind_of_some hskipped, hcount]
    rfl
  · rw [if_neg (fun hdecide => hone (of_decide_eq_true hdecide))] at hfirst
    rw [if_neg hone, recordHeader, run_bind_of_none hfirst]

/-- Whatever the description is, the function ends without a fault, with what the field reader
reads. -/
theorem avcDescriptionToAnnexB_eq (data : Bytes) :
    avcDescriptionToAnnexB (some data) = .ok ((configurationRecord.run data).bind fun record =>
      if record.1 = [] then none else some (annexBUnits record.1)) := by
  rw [avcDescriptionToAnnexB]
  by_cases hshort : data.length < 7
  · rw [if_pos hshort, configurationRecord_of_short hshort]
    rfl
  · obtain ⟨version, spsCount, hversion, hcount, hheader⟩ :=
      recordHeader_of_long (Nat.le_of_not_lt hshort)
    rw [if_neg hshort, hversion, hcount]
    dsimp only [bind, Except.bind]
    by_cases hone : version = 1
    · rw [if_pos hone] at hheader
      rw [if_neg (not_not.mpr hone), configurationRecord, run_bind_of_some hheader, recordUnits]
      rcases parameterSets_cases data (spsCount &&& 0x1f).toNat 6 [] with
        ⟨hnone, heq⟩ | ⟨sps, offset, hsome, heq⟩
      · rw [heq, run_bind_of_none hnone]
        rfl
      · rw [heq, run_bind_of_some hsome, List.nil_append]
        dsimp only
        by_cases hend : data.length ≤ offset
        · rw [if_pos hend, List.drop_eq_nil_iff.mpr hend]
          rfl
        · obtain ⟨ppsCount, hcount⟩ := exists_drop_eq_cons (Nat.lt_of_not_le hend)
          have hitem : item.run (data.drop offset) = some (ppsCount, data.drop (offset + 1)) := by
            rw [hcount]
            rfl
          rw [if_neg hend, byteAt_of_drop hcount, run_bind_of_some hitem]
          dsimp only
          rcases parameterSets_cases data ppsCount.toNat (offset + 1) sps with
            ⟨hnone, heq⟩ | ⟨pps, offset', hsome, heq⟩
          · rw [heq, run_bind_of_none hnone]
            rfl
          · rw [heq, run_bind_of_some hsome]
            exact annexB_eq (sps ++ pps)
    · rw [if_neg hone] at hheader
      rw [if_pos hone, configurationRecord, run_bind_of_none hheader]
      rfl

end Cursor

/-! ## Records -/

/-- Only the upper bits of `reserved` are written, and `lengthSize` stands for a whole byte. -/
structure AvcConfigurationRecord where
  profile : UInt8
  compatibility : UInt8
  level : UInt8
  lengthSize : UInt8
  reserved : UInt8
  sps : List Bytes
  pps : List Bytes
  extension : Bytes
  sps_le : sps.length ≤ 31
  pps_le : pps.length ≤ 255
  unit_lt : ∀ unit ∈ sps ++ pps, unit.length < 65536

def prefixedUnit (unit : Bytes) : Bytes := be16 (UInt16.ofNat unit.length) ++ unit

namespace AvcConfigurationRecord

variable (record : AvcConfigurationRecord)

def spsCount : UInt8 := (record.reserved &&& 0xe0) ||| UInt8.ofNat record.sps.length

def ppsCount : UInt8 := UInt8.ofNat record.pps.length

def header : Bytes :=
  [1, record.profile, record.compatibility, record.level, record.lengthSize, record.spsCount]

/-- The record without what extends it. -/
def parameterSets : Bytes :=
  record.header ++ (record.sps.flatMap prefixedUnit ++
    ([record.ppsCount] ++ record.pps.flatMap prefixedUnit))

def serialize : Bytes := record.parameterSets ++ record.extension

theorem toNat_spsCount : (record.spsCount &&& 0x1f).toNat = record.sps.length := by
  have hsps := record.sps_le
  have hreserved : (record.reserved &&& 0xe0 &&& 0x1f).toNat = 0 := by
    rw [UInt8.and_assoc]
    exact congrArg UInt8.toNat UInt8.and_zero
  have hcount : (UInt8.ofNat record.sps.length).toNat = record.sps.length :=
    UInt8.toNat_ofNat_of_lt' (Nat.lt_of_le_of_lt hsps (by decide))
  have hmask : record.sps.length &&& (2 ^ 5 - 1) = record.sps.length := by
    rw [Nat.and_two_pow_sub_one_eq_mod]
    exact Nat.mod_eq_of_lt (Nat.lt_succ_of_le hsps)
  rw [UInt8.toNat_and] at hreserved
  rw [spsCount, UInt8.toNat_and, UInt8.toNat_or, hcount, Nat.and_or_distrib_right, hreserved,
    Nat.zero_or]
  exact hmask

theorem toNat_ppsCount : record.ppsCount.toNat = record.pps.length :=
  UInt8.toNat_ofNat_of_lt' (Nat.lt_of_le_of_lt record.pps_le (by decide))

end AvcConfigurationRecord

theorem unitLength_be16 (n : UInt16) :
    unitLength (UInt8.ofNat (n.toNat / 256)) (UInt8.ofNat n.toNat) = n.toNat := by
  have hn := n.toNat_lt
  have hlow : n.toNat % 256 < 2 ^ 8 := Nat.mod_lt _ (by decide)
  rw [unitLength, UInt8.toNat_ofNat', UInt8.toNat_ofNat', Nat.shiftLeft_eq, Nat.mul_comm,
    ← Nat.two_pow_add_eq_or_of_lt hlow]
  omega

theorem reads_prefixedUnit {unit : Bytes} (h : unit.length < 65536) :
    lengthPrefixedUnit.Reads unit (prefixedUnit unit) := by
  have hunit : (items (unitLength (UInt8.ofNat ((UInt16.ofNat unit.length).toNat / 256))
      (UInt8.ofNat (UInt16.ofNat unit.length).toNat))).Reads unit unit := by
    rw [unitLength_be16, read16_ofNat_toNat h]
    exact .items unit
  exact (Reads.item _).bind ((Reads.item _).bind hunit)

theorem reads_configurationRecord (record : AvcConfigurationRecord) :
    configurationRecord.Reads (record.sps ++ record.pps) record.parameterSets := by
  have hsps : (times lengthPrefixedUnit (record.spsCount &&& 0x1f).toNat).Reads record.sps
      (record.sps.flatMap prefixedUnit) := by
    rw [record.toNat_spsCount]
    exact .times fun unit hunit =>
      reads_prefixedUnit (record.unit_lt unit (List.mem_append_left _ hunit))
  have hpps : (times lengthPrefixedUnit record.ppsCount.toNat).Reads record.pps
      (record.pps.flatMap prefixedUnit) := by
    rw [record.toNat_ppsCount]
    exact .times fun unit hunit =>
      reads_prefixedUnit (record.unit_lt unit (List.mem_append_right _ hunit))
  have hversion : (only (fun version : UInt8 => version = 1) item).Reads 1 [1] :=
    (Reads.item 1).only rfl
  have hskipped := Reads.items
    [record.profile, record.compatibility, record.level, record.lengthSize]
  have hheader : recordHeader.Reads record.spsCount record.header :=
    hversion.bind (hskipped.bind (.item record.spsCount))
  have hunits : (times lengthPrefixedUnit record.ppsCount.toNat >>=
      fun pps => pure (record.sps ++ pps)).Reads (record.sps ++ record.pps)
        (record.pps.flatMap prefixedUnit ++ []) := hpps.bind (.pure (record.sps ++ record.pps))
  rw [List.append_nil] at hunits
  exact hheader.bind (hsps.bind ((Reads.item record.ppsCount).bind hunits))

theorem stable_lengthPrefixedUnit : lengthPrefixedUnit.Stable :=
  .bind .item fun high => .bind .item fun low => .items (unitLength high low)

theorem stable_configurationRecord : configurationRecord.Stable := by
  have hheader : recordHeader.Stable :=
    .bind (.only .item _) fun _ => .bind (.items 4) fun _ => .item
  have hloop := fun count => Stable.times stable_lengthPrefixedUnit count
  refine hheader.bind fun spsCount => (hloop _).bind fun sps => ?_
  exact .bind .item fun ppsCount => (hloop _).bind fun pps => .pure (sps ++ pps)

theorem avcDescriptionToAnnexB_record (record : AvcConfigurationRecord) :
    avcDescriptionToAnnexB (some record.serialize) =
      .ok (if record.sps ++ record.pps = [] then none
        else some (annexBUnits (record.sps ++ record.pps))) := by
  rw [avcDescriptionToAnnexB_eq, AvcConfigurationRecord.serialize,
    reads_configurationRecord record record.extension]
  rfl

/-- A truncated record is none. -/
theorem avcDescriptionToAnnexB_truncated (record : AvcConfigurationRecord) {part : Bytes}
    (hinit : part <+: record.parameterSets) (hne : part ≠ record.parameterSets) :
    avcDescriptionToAnnexB (some part) = .ok none := by
  rw [avcDescriptionToAnnexB_eq, stable_configurationRecord.run_eq_none
    (reads_configurationRecord record) hinit hne]
  rfl

/-- The encoder keeps the header that it had. -/
theorem updateAvcHeader_truncated (record : AvcConfigurationRecord) {part : Bytes}
    (hinit : part <+: record.parameterSets) (hne : part ≠ record.parameterSets)
    (avcHeader : Option Bytes) : updateAvcHeader avcHeader (some part) = .ok avcHeader := by
  rw [updateAvcHeader, avcDescriptionToAnnexB_truncated record hinit hne]
  rfl

/-- The function undoes the writing of a record, with whatever extends it. -/
theorem avcDescriptionToAnnexB_serialize (record : AvcConfigurationRecord) :
    (record.sps ≠ [] ∨ record.pps ≠ [] →
      avcDescriptionToAnnexB (some record.serialize) =
        .ok (some ((record.sps ++ record.pps).flatMap fun unit => [0, 0, 0, 1] ++ unit))) ∧
    (record.extension = [] → ∀ part, part <+: record.serialize → part ≠ record.serialize →
      avcDescriptionToAnnexB (some part) = .ok none) := by
  constructor
  · intro hunits
    have hne : record.sps ++ record.pps ≠ [] := by
      rw [Ne, List.append_eq_nil_iff, not_and_or]
      exact hunits
    rw [avcDescriptionToAnnexB_record, if_neg hne]
    rfl
  · intro hextension part hinit hpart
    rw [AvcConfigurationRecord.serialize, hextension, List.append_nil] at hinit hpart
    exact avcDescriptionToAnnexB_truncated record hinit hpart

def AvcConfigurationRecord.small : AvcConfigurationRecord where
  profile := 66
  compatibility := 0
  level := 30
  lengthSize := 0xff
  reserved := 0xff
  sps := [[103, 66]]
  pps := [[104]]
  extension := []
  sps_le := by decide
  pps_le := by decide
  unit_lt := by decide

/-- Two units, and the record cut inside the length of the second one. -/
theorem avcDescriptionToAnnexB_serialize_small :
    avcDescriptionToAnnexB
        (some [1, 66, 0, 30, 0xff, 0xe1, 0, 2, 103, 66, 1, 0, 1, 104]) =
      .ok (some [0, 0, 0, 1, 103, 66, 0, 0, 0, 1, 104]) ∧
    avcDescriptionToAnnexB (some [1, 66, 0, 30, 0xff, 0xe1, 0, 2, 103, 66, 1, 0]) = .ok none := by
  have hserialize : AvcConfigurationRecord.small.serialize =
      [1, 66, 0, 30, 0xff, 0xe1, 0, 2, 103, 66, 1, 0, 1, 104] := by decide
  obtain ⟨hwhole, htruncated⟩ := avcDescriptionToAnnexB_serialize .small
  rw [hserialize] at hwhole htruncated
  refine ⟨hwhole (.inl (List.cons_ne_nil _ _)), htruncated rfl _ ?_ ?_⟩
  · exact ⟨[1, 104], rfl⟩
  · decide

end VRCStreamer
