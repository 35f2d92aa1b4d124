import VRCStreamer.Media.AnnexB

/-!
# The byte stream format

NAL units with a start code in front of each of them and zero bytes between them, and what the
walk of `media.rs` makes of such a stream: zeros that belong to no start code go to the unit in
front of them.
-/

namespace VRCStreamer

open Codec

def zeroBytes (n : Nat) : Bytes := List.replicate n 0

/-- A NAL unit that cannot be confused with what stands around it. -/
structure IsNalUnit (nal : Bytes) : Prop where
  ne_nil : nal ≠ []
  last : nal.getLast? ≠ some 0
  zeros : ¬ [0, 0, 0] <:+: nal
  startCode : ¬ [0, 0, 1] <:+: nal

/-- A unit in a stream: the zeros in front of its start code, and whether that has four bytes. -/
structure StreamUnit where
  padding : Nat
  long : Bool
  nal : Bytes
  deriving DecidableEq

namespace StreamUnit

def startCode (long : Bool) : Bytes := if long then [0, 0, 0, 1] else [0, 0, 1]

def bytes (unit : StreamUnit) : Bytes := zeroBytes unit.padding ++ startCode unit.long ++ unit.nal

/-- The zeros in front of the one that ends the start code. -/
def zeros (unit : StreamUnit) : Nat := unit.padding + 2 + unit.long.toNat

theorem bytes_eq (unit : StreamUnit) : unit.bytes = zeroBytes unit.zeros ++ 1 :: unit.nal := by
  obtain ⟨padding, long, nal⟩ := unit
  have hlong : startCode long = zeroBytes (2 + long.toNat) ++ [1] := by
    cases long <;> rfl
  rw [bytes, hlong, zeros, ← List.append_assoc, zeroBytes, zeroBytes, zeroBytes,
    List.replicate_append_replicate, List.append_assoc, List.singleton_append, Nat.add_assoc]

end StreamUnit

/-- The bytes of a stream that ends with some zeros. -/
def byteStream (units : List StreamUnit) (trailing : Nat) : Bytes :=
  units.flatMap StreamUnit.bytes ++ zeroBytes trailing

theorem byteStream_cons (unit : StreamUnit) (units : List StreamUnit) (trailing : Nat) :
    byteStream (unit :: units) trailing =
      zeroBytes unit.zeros ++ 1 :: (unit.nal ++ byteStream units trailing) := by
  rw [byteStream, byteStream, List.flatMap_cons, StreamUnit.bytes_eq]
  simp

/-! ## The scan -/

/-- The scan moves on where no start code begins. -/
theorem scanH264StartCode_cons {c : UInt8} {bytes : Bytes} (i : Nat)
    (h : ∀ d e rest, bytes = d :: e :: rest → ¬ (c = 0 ∧ d = 0 ∧ (e = 0 ∨ e = 1))) :
    scanH264StartCode i (c :: bytes) = scanH264StartCode (i + 1) bytes := by
  match bytes with
  | [] => rfl
  | [_] => rfl
  | d :: e :: rest =>
    have hno := h d e rest rfl
    rw [scanH264StartCode, if_neg, if_neg]
    · exact fun hlong => hno ⟨hlong.1, hlong.2.1, .inl hlong.2.2.1⟩
    · exact fun hshort => hno ⟨hshort.1, hshort.2.1, .inr hshort.2.2⟩

theorem scanH264StartCode_nal {nal : Bytes} (hlast : nal.getLast? ≠ some 0)
    (hzeros : ¬ [0, 0, 0] <:+: nal) (hcode : ¬ [0, 0, 1] <:+: nal) (i : Nat) (tail : Bytes) :
    scanH264StartCode i (nal ++ tail) = scanH264StartCode (i + nal.length) tail := by
  induction nal generalizing i with
  | nil => rfl
  | cons c nal ih =>
    have hstep : scanH264StartCode i (c :: (nal ++ tail)) =
        scanH264StartCode (i + 1) (nal ++ tail) := by
      apply scanH264StartCode_cons
      rintro d e rest hsplit ⟨rfl, rfl, he⟩
      match nal with
      | [] => exact hlast rfl
      | [d'] =>
        obtain ⟨rfl, -⟩ := List.cons.inj hsplit
        exact hlast rfl
      | d' :: e' :: nal =>
        rw [List.cons_append, List.cons_append, List.cons.injEq, List.cons.injEq] at hsplit
        obtain ⟨rfl, rfl, -⟩ := hsplit
        obtain rfl | rfl := he
        · exact hzeros ⟨[], nal, rfl⟩
        · exact hcode ⟨[], nal, rfl⟩
    have hlast' : nal.getLast? ≠ some 0 := by
      cases nal with
      | nil => exact nofun
      | cons d nal =>
        rw [List.getLast?_cons_cons] at hlast
        exact hlast
    rw [List.cons_append, hstep, ih hlast' (fun h => hzeros (List.infix_cons h))
      (fun h => hcode (List.infix_cons h)), List.length_cons]
    congr 1
    omega

/-- Of the zeros in front of a one, the last three belong to the start code. -/
theorem scanH264StartCode_zeros (i m : Nat) (rest : Bytes) :
    scanH264StartCode i (zeroBytes (m + 2) ++ 1 :: rest) =
      some (i + (m - 1), min (m + 3) 4) := by
  induction m generalizing i with
  | zero => rfl
  | succ m ih =>
    cases m with
    | zero => rfl
    | succ m =>
      have hstep : scanH264StartCode i (zeroBytes (m + 1 + 1 + 2) ++ 1 :: rest) =
          scanH264StartCode (i + 1) (zeroBytes (m + 1 + 2) ++ 1 :: rest) := by
        show scanH264StartCode i (0 :: 0 :: 0 :: 0 :: (zeroBytes m ++ 1 :: rest)) =
          scanH264StartCode (i + 1) (0 :: 0 :: 0 :: (zeroBytes m ++ 1 :: rest))
        rw [scanH264StartCode, if_neg (by decide), if_neg]
        rintro ⟨-, -, -, hone⟩
        cases hone
      rw [hstep, ih]
      congr 2
      · omega
      · omega

theorem scanH264StartCode_trailing (i trailing : Nat) :
    scanH264StartCode i (zeroBytes trailing) = none := by
  match trailing with
  | 0 => rfl
  | 1 => rfl
  | 2 => rfl
  | trailing + 3 =>
    have ih := scanH264StartCode_trailing (i + 1) (trailing + 2)
    show scanH264StartCode i (0 :: 0 :: 0 :: zeroBytes trailing) = none
    rw [scanH264StartCode, if_neg (by decide), if_neg]
    · exact ih
    · rintro ⟨-, -, -, hone⟩
      cases trailing with
      | zero => cases hone
      | succ trailing => cases hone

/-! ## The walk -/

/-- The units with the zeros that stay with them. -/
def paddedUnits (nal : Bytes) : List StreamUnit → Nat → List Bytes
  | [], trailing => [nal ++ zeroBytes trailing]
  | next :: units, trailing =>
    (nal ++ zeroBytes (next.zeros - 3)) :: paddedUnits next.nal units trailing

section Walk

variable {data nal : Bytes} {start trailing : Nat} {units : List StreamUnit}

theorem slice_of_drop {front back : Bytes} (h : data.drop start = front ++ back) :
    slice data start (start + front.length) = front := by
  rw [slice, h, Nat.add_sub_cancel_left, List.take_left]

theorem findH264StartCode_last (hnal : IsNalUnit nal)
    (h : data.drop start = nal ++ zeroBytes trailing) : findH264StartCode data start = none := by
  rw [findH264StartCode, h, scanH264StartCode_nal hnal.last hnal.zeros hnal.startCode,
    scanH264StartCode_trailing]

theorem StreamUnit.zeros_eq (unit : StreamUnit) : ∃ m, unit.zeros = m + 2 :=
  ⟨unit.padding + unit.long.toNat, by rw [zeros]; omega⟩

theorem findH264StartCode_next (hnal : IsNalUnit nal) {next : StreamUnit} {rest : Bytes}
    (h : data.drop start = nal ++ (zeroBytes next.zeros ++ 1 :: rest)) :
    ∃ index len, findH264StartCode data start = some (index, len) ∧
      index = start + (nal ++ zeroBytes (next.zeros - 3)).length ∧
      data.drop (index + len) = rest := by
  obtain ⟨m, hm⟩ := next.zeros_eq
  rw [hm] at h ⊢
  refine ⟨start + nal.length + (m - 1), min (m + 3) 4, ?_, ?_, ?_⟩
  · rw [findH264StartCode, h, scanH264StartCode_nal hnal.last hnal.zeros hnal.startCode,
      scanH264StartCode_zeros]
  · rw [List.length_append, zeroBytes, List.length_replicate]
    omega
  · have hend : start + nal.length + (m - 1) + min (m + 3) 4 =
        start + (nal ++ (zeroBytes (m + 2) ++ [1])).length := by
      simp only [List.length_append, zeroBytes, List.length_replicate, List.length_singleton]
      omega
    have hsplit : nal ++ (zeroBytes (m + 2) ++ 1 :: rest) =
        (nal ++ (zeroBytes (m + 2) ++ [1])) ++ rest := by simp
    rw [hend, ← List.drop_drop, h, hsplit, List.drop_left]

theorem nalUnits_byteStream (hnal : IsNalUnit nal) (hunits : ∀ unit ∈ units, IsNalUnit unit.nal)
    (h : data.drop start = nal ++ byteStream units trailing) :
    nalUnits data start = paddedUnits nal units trailing := by
  have hne : ∀ k, nal ++ zeroBytes k ≠ [] := fun k hnil =>
    hnal.ne_nil (List.append_eq_nil_iff.mp hnil).1
  induction units generalizing nal start with
  | nil =>
    have hfound := findH264StartCode_last hnal h
    have hlength : data.length = start + (nal ++ zeroBytes trailing).length := by
      have hdrop := congrArg List.length h
      rw [List.length_drop] at hdrop
      have hpos := List.length_pos_of_ne_nil (hne trailing)
      have hsame : (nal ++ byteStream [] trailing).length =
          (nal ++ zeroBytes trailing).length := rfl
      omega
    rw [nalUnits_of_none hfound, nalUnitAt, hfound]
    show (if start < data.length then [slice data start data.length] else []) = _
    have hpos := List.length_pos_of_ne_nil (hne trailing)
    have hslice : slice data start (start + (nal ++ zeroBytes trailing).length) =
        nal ++ zeroBytes trailing :=
      slice_of_drop (by rw [List.append_nil]; exact h)
    rw [hlength, if_pos (by omega), hslice]
    rfl
  | cons next units ih =>
    rw [byteStream_cons] at h
    obtain ⟨index, len, hfound, hindex, hrest⟩ := findH264StartCode_next hnal h
    obtain ⟨hnext, hunits⟩ := List.forall_mem_cons.mp hunits
    have hpos := List.length_pos_of_ne_nil (hne (next.zeros - 3))
    rw [nalUnits_of_some hfound, nalUnitAt, hfound]
    show (if start < index then [slice data start index] else []) ++ _ = _
    have hslice : slice data start (start + (nal ++ zeroBytes (next.zeros - 3)).length) =
        nal ++ zeroBytes (next.zeros - 3) := by
      obtain ⟨m, hm⟩ := next.zeros_eq
      have hzeros : zeroBytes next.zeros =
          zeroBytes (next.zeros - 3) ++ zeroBytes (min next.zeros 3) := by
        rw [zeroBytes, zeroBytes, zeroBytes, List.replicate_append_replicate]
        congr 1
        omega
      apply slice_of_drop
      rw [h, hzeros, List.append_assoc, List.append_assoc]
    rw [hindex, if_pos (by omega), hslice, ih hnext hunits (by rw [← hindex, hrest])]
    · rfl
    · exact fun k hnil => hnext.ne_nil (List.append_eq_nil_iff.mp hnil).1

end Walk

/-! ## The units of a stream -/

section Stream

variable {first : StreamUnit} {units : List StreamUnit} {trailing : Nat}

theorem startH264Payload_byteStream (first : StreamUnit) (units : List StreamUnit)
    (trailing : Nat) : ∃ start,
      startH264Payload (byteStream (first :: units) trailing) = .ok start ∧
      (byteStream (first :: units) trailing).drop start =
        first.nal ++ byteStream units trailing := by
  obtain ⟨m, hm⟩ := first.zeros_eq
  rw [byteStream_cons, hm]
  refine ⟨0 + (m - 1) + min (m + 3) 4, ?_, ?_⟩
  · rw [startH264Payload, findH264StartCode, List.drop_zero, scanH264StartCode_zeros]
  · have hend : 0 + (m - 1) + min (m + 3) 4 = (zeroBytes (m + 2) ++ [1]).length := by
      simp only [List.length_append, zeroBytes, List.length_replicate, List.length_singleton]
      omega
    have hsplit : zeroBytes (m + 2) ++ 1 :: (first.nal ++ byteStream units trailing) =
        (zeroBytes (m + 2) ++ [1]) ++ (first.nal ++ byteStream units trailing) := by simp
    rw [hend, hsplit, List.drop_left]

theorem length_paddedUnits (nal : Bytes) (units : List StreamUnit) (trailing : Nat) :
    (paddedUnits nal units trailing).length = units.length + 1 := by
  induction units generalizing nal with
  | nil => rfl
  | cons next units ih => rw [paddedUnits, List.length_cons, ih, List.length_cons]

/-- The walk finds every unit of a stream, with the zeros that stay with it. -/
theorem h264NalUnits_byteStream (hunits : ∀ unit ∈ first :: units, IsNalUnit unit.nal)
    (hle : (first :: units).length ≤ H264_MAX_NAL_UNITS) :
    h264NalUnits (byteStream (first :: units) trailing) =
      .ok (paddedUnits first.nal units trailing) := by
  obtain ⟨start, hstart, hdrop⟩ := startH264Payload_byteStream first units trailing
  obtain ⟨hfirst, hrest⟩ := List.forall_mem_cons.mp hunits
  have hwalk := nalUnits_byteStream hfirst hrest hdrop
  have hlength := length_paddedUnits first.nal units trailing
  rw [← hwalk] at hlength ⊢
  apply h264NalUnits_eq_ok hstart
  · intro hnil
    rw [hnil] at hlength
    cases hlength
  · rw [hlength]
    exact hle

/-- No zero is left over between the units and behind them. -/
def Unpadded : List StreamUnit → Nat → Prop
  | [], trailing => trailing = 0
  | next :: units, trailing => next.padding + next.long.toNat ≤ 1 ∧ Unpadded units trailing

instance decidableUnpadded : (units : List StreamUnit) → (trailing : Nat) →
    Decidable (Unpadded units trailing)
  | [], trailing => inferInstanceAs (Decidable (trailing = 0))
  | _ :: units, trailing =>
    have := decidableUnpadded units trailing
    inferInstanceAs (Decidable (_ ∧ _))

theorem append_zeroBytes_eq {nal : Bytes} {k : Nat} : nal ++ zeroBytes k = nal ↔ k = 0 := by
  rw [List.append_right_eq_self, zeroBytes, List.replicate_eq_nil_iff]

theorem paddedUnits_eq_iff (nal : Bytes) (units : List StreamUnit) (trailing : Nat) :
    paddedUnits nal units trailing = nal :: units.map StreamUnit.nal ↔
      Unpadded units trailing := by
  induction units generalizing nal with
  | nil =>
    rw [paddedUnits, List.map_nil, List.cons.injEq, append_zeroBytes_eq, Unpadded]
    exact and_iff_left rfl
  | cons next units ih =>
    rw [paddedUnits, List.map_cons, List.cons.injEq, append_zeroBytes_eq, ih, Unpadded,
      StreamUnit.zeros]
    apply and_congr_left'
    omega

/-- The walk visits the units of a stream byte for byte if and only if no zero between them or
behind them is left over from the start codes. -/
theorem h264NalUnits_byteStream_iff (hunits : ∀ unit ∈ first :: units, IsNalUnit unit.nal)
    (hle : (first :: units).length ≤ H264_MAX_NAL_UNITS) :
    h264NalUnits (byteStream (first :: units) trailing) =
      .ok ((first :: units).map StreamUnit.nal) ↔ Unpadded units trailing := by
  rw [h264NalUnits_byteStream hunits hle, Except.ok.injEq, List.map_cons, paddedUnits_eq_iff]

end Stream

theorem isNalUnit_of_zero_notMem {nal : Bytes} (hne : nal ≠ []) (h : 0 ∉ nal) : IsNalUnit nal :=
  ⟨hne, fun hlast => h (List.mem_of_getLast? hlast), fun hzeros => h (hzeros.subset (by simp)),
    fun hcode => h (hcode.subset (by simp))⟩

/-- Zeros in front of the stream, and both start codes. -/
theorem h264NalUnits_byteStream_small :
    let first : StreamUnit := ⟨5, true, [0x67, 1]⟩
    let units : List StreamUnit := [⟨1, false, [0x68]⟩, ⟨0, true, [0x65]⟩]
    h264NalUnits (byteStream (first :: units) 0) =
      .ok ((first :: units).map StreamUnit.nal) ↔ Unpadded units 0 := by
  apply h264NalUnits_byteStream_iff
  · intro unit hmem
    apply isNalUnit_of_zero_notMem
    · revert unit
      decide
    · revert unit
      decide
  · decide

/-- One zero more than a start code takes, and one zero at the end, stay with their units. -/
theorem h264NalUnits_byteStream_padded :
    IsNalUnit [0x67, 1] ∧ IsNalUnit [0x65] ∧
      h264NalUnits (byteStream [⟨0, false, [0x67, 1]⟩, ⟨1, true, [0x65]⟩] 1) =
        .ok [[0x67, 1, 0], [0x65, 0]] :=
  ⟨isNalUnit_of_zero_notMem (by decide) (by decide),
    isNalUnit_of_zero_notMem (by decide) (by decide), by decide +kernel⟩

end VRCStreamer
