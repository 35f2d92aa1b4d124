import VRCStreamer.Constants

/-!
# Annex B access units

The H.264 half of `media.rs`: the start-code scan, the walk over the NAL units of an
access unit, and the inspection that every published video frame has passed. The walk
takes a visitor with a state of its own; the reasons it can stop with are the texts of
the source.

`nalUnits` lists what the walk visits. It is related to the walk once, in
`forEachH264NalLoop_eq_ok`, and every later proof about NAL units is about that list.
-/

namespace VRCStreamer

open Codec

/-- The scan of `find_h264_start_code`, on the bytes from position `i` on. At each
position a three-byte code is tried before a four-byte code. -/
def scanH264StartCode (i : Nat) : Bytes → Option (Nat × Nat)
  | b0 :: b1 :: b2 :: rest =>
    if b0 = 0 ∧ b1 = 0 ∧ b2 = 1 then some (i, 3)
    else if b0 = 0 ∧ b1 = 0 ∧ b2 = 0 ∧ rest.head? = some 1 then some (i, 4)
    else scanH264StartCode (i + 1) (b1 :: b2 :: rest)
  | _ => none

/-- Position and length of the first start code at or after `start`. -/
def findH264StartCode (data : Bytes) (start : Nat) : Option (Nat × Nat) :=
  scanH264StartCode start (data.drop start)

theorem scanH264StartCode_bounds {i index len : Nat} {bytes : Bytes}
    (h : scanH264StartCode i bytes = some (index, len)) :
    i ≤ index ∧ 3 ≤ len ∧ index + len ≤ i + bytes.length := by
  fun_induction scanH264StartCode i bytes with
  | case1 i b0 b1 b2 rest code =>
    obtain ⟨rfl, rfl⟩ : i = index ∧ 3 = len := by simpa using h
    simp
  | case2 i b0 b1 b2 rest _ code =>
    obtain ⟨rfl, rfl⟩ : i = index ∧ 4 = len := by simpa using h
    have hrest : rest ≠ [] := by
      rintro rfl
      simp at code
    have := List.length_pos_of_ne_nil hrest
    simp
    omega
  | case3 i b0 b1 b2 rest _ _ ih =>
    have := ih h
    simp only [List.length_cons] at this ⊢
    omega
  | case4 => cases h

/-- A start code lies inside the data, at or after the position searched from. -/
theorem findH264StartCode_bounds {data : Bytes} {start index len : Nat}
    (h : findH264StartCode data start = some (index, len)) :
    start ≤ index ∧ start < index + len ∧ index + len ≤ data.length := by
  have := scanH264StartCode_bounds h
  rw [List.length_drop] at this
  omega

def startH264Payload (accessUnit : Bytes) : Except String Nat :=
  match findH264StartCode accessUnit 0 with
  | some (start, len) => .ok (start + len)
  | none => .error "expected annex-b h264 start code"

/-- `&data[start..stop]`. -/
def slice (data : Bytes) (start stop : Nat) : Bytes := (data.drop start).take (stop - start)

/-- `next.map_or(access_unit.len(), |(index, _)| index)`. -/
def h264NalEnd (accessUnit : Bytes) (next : Option (Nat × Nat)) : Nat :=
  match next with
  | some (index, _) => index
  | none => accessUnit.length

section Walk

variable {σ : Type}

/-- One round of the loop of `for_each_h264_nal`: a unit is counted before it is handed
over, and an empty unit between two start codes is skipped. -/
def visitH264Nal (accessUnit : Bytes) (f : σ → Bytes → Except String σ) (nalStart count : Nat)
    (visitor : σ) : Except String (σ × Nat) :=
  let nalEnd := h264NalEnd accessUnit (findH264StartCode accessUnit nalStart)
  if nalStart < nalEnd then
    if H264_MAX_NAL_UNITS < count + 1 then .error "too many h264 nal units"
    else (f visitor (slice accessUnit nalStart nalEnd)).map (·, count + 1)
  else .ok (visitor, count)

/-- The loop of `for_each_h264_nal`. -/
def forEachH264NalLoop (accessUnit : Bytes) (f : σ → Bytes → Except String σ)
    (nalStart count : Nat) (hasMultipleStartCodes : Bool) (visitor : σ) :
    Except String (σ × Nat × Bool) :=
  match visitH264Nal accessUnit f nalStart count visitor with
  | .error reason => .error reason
  | .ok (visitor, count) =>
    match _ : findH264StartCode accessUnit nalStart with
    | none => .ok (visitor, count, hasMultipleStartCodes)
    | some (start, len) => forEachH264NalLoop accessUnit f (start + len) count true visitor
termination_by accessUnit.length - nalStart
decreasing_by
  have := findH264StartCode_bounds (by assumption)
  omega

/-- Visit the NAL units in order; also return their number and whether a second start
code was seen. -/
def forEachH264Nal (accessUnit : Bytes) (f : σ → Bytes → Except String σ) (visitor : σ) :
    Except String (σ × Nat × Bool) :=
  match startH264Payload accessUnit with
  | .error reason => .error reason
  | .ok nalStart =>
    match forEachH264NalLoop accessUnit f nalStart 0 false visitor with
    | .error reason => .error reason
    | .ok (visitor, count, hasMultipleStartCodes) =>
      if count = 0 then .error "h264 access unit has no nal units"
      else .ok (visitor, count, hasMultipleStartCodes)

end Walk

/-- The list of NAL units that `for_each_h264_nal` visits. -/
def h264NalUnits (accessUnit : Bytes) : Except String (List Bytes) :=
  (forEachH264Nal accessUnit (fun units nal => .ok (units ++ [nal])) []).map (·.1)

/-! ## Inspection of a published access unit -/

def rejectedContainerSignature (frame : Bytes) : Option String :=
  let ftyp : Bytes := [0x66, 0x74, 0x79, 0x70]
  let oggS : Bytes := [0x4f, 0x67, 0x67, 0x53]
  let riff : Bytes := [0x52, 0x49, 0x46, 0x46]
  let fLaC : Bytes := [0x66, 0x4c, 0x61, 0x43]
  let id3 : Bytes := [0x49, 0x44, 0x33]
  let ebml : Bytes := [0x1a, 0x45, 0xdf, 0xa3]
  if ftyp.isPrefixOf frame || (8 ≤ frame.length && slice frame 4 8 == ftyp) then
    some "container formats are not accepted"
  else if oggS.isPrefixOf frame || riff.isPrefixOf frame || fLaC.isPrefixOf frame ||
      id3.isPrefixOf frame || ebml.isPrefixOf frame then
    some "container formats are not accepted"
  else if frame[0]? = some 0x47 ∧ 188 ≤ frame.length ∧ frame[188]? = some 0x47 then
    some "mpeg-ts is not accepted"
  else if frame[0]? = some 0xff ∧ frame[1]?.map (· &&& 0xe0) = some 0xe0 then
    some "mpeg audio is not accepted"
  else none

/-- What the visitor of `inspect_h264_access_unit` has seen so far. -/
structure SeenSlices where
  slice : Bool
  idr : Bool
  deriving DecidableEq, Repr

/-- `nal[0]`; the walk hands over non-empty units only. -/
def nalHeader (nal : Bytes) : UInt8 := nal.headD 0

def inspectH264Nal (saw : SeenSlices) (nal : Bytes) : Except String SeenSlices :=
  if nalHeader nal &&& 0x80 ≠ 0 then .error "h264 forbidden zero bit is set"
  else
    let nalType := (nalHeader nal &&& 0x1f).toNat
    if nalType = 1 then .ok { saw with slice := true }
    else if nalType = 5 then .ok { slice := true, idr := true }
    else if (6 ≤ nalType ∧ nalType ≤ 12) ∨ nalType = 14 then .ok saw
    else .error "unsupported h264 nal unit"

/-- The result says whether the sender may skip the start-code scan. -/
def inspectH264AccessUnit (accessUnit : Bytes) (keyframe : Bool) (maxBytes : Nat) :
    Except String Bool :=
  if accessUnit.length < 5 then .error "h264 access unit is too small"
  else if maxBytes < accessUnit.length then .error "h264 access unit is too large"
  else
    match rejectedContainerSignature accessUnit with
    | some reason => .error reason
    | none =>
      match forEachH264Nal accessUnit inspectH264Nal ⟨false, false⟩ with
      | .error reason => .error reason
      | .ok (saw, nalCount, hasMultipleStartCodes) =>
        if ¬ saw.slice then .error "h264 access unit has no video slice"
        else if keyframe ∧ ¬ saw.idr then .error "h264 keyframe has no idr slice"
        else .ok (nalCount = 1 && !hasMultipleStartCodes)

/-! ## The units as a list -/

/-- The unit that starts at `nalStart`, unless it is empty. -/
def nalUnitAt (accessUnit : Bytes) (nalStart : Nat) : List Bytes :=
  let nalEnd := h264NalEnd accessUnit (findH264StartCode accessUnit nalStart)
  if nalStart < nalEnd then [slice accessUnit nalStart nalEnd] else []

/-- The non-empty units from `nalStart` on. -/
def nalUnits (accessUnit : Bytes) (nalStart : Nat) : List Bytes :=
  match _ : findH264StartCode accessUnit nalStart with
  | none => nalUnitAt accessUnit nalStart
  | some (start, len) => nalUnitAt accessUnit nalStart ++ nalUnits accessUnit (start + len)
termination_by accessUnit.length - nalStart
decreasing_by
  have := findH264StartCode_bounds (by assumption)
  omega

theorem nalUnits_of_none {accessUnit : Bytes} {nalStart : Nat}
    (found : findH264StartCode accessUnit nalStart = none) :
    nalUnits accessUnit nalStart = nalUnitAt accessUnit nalStart := by
  rw [nalUnits]
  split
  next => rfl
  next h => rw [found] at h; cases h

theorem nalUnits_of_some {accessUnit : Bytes} {nalStart start len : Nat}
    (found : findH264StartCode accessUnit nalStart = some (start, len)) :
    nalUnits accessUnit nalStart =
      nalUnitAt accessUnit nalStart ++ nalUnits accessUnit (start + len) := by
  rw [nalUnits]
  split
  next h => rw [found] at h; cases h
  next h =>
    rw [found] at h
    cases h
    rfl

@[simp] theorem slice_length (data : Bytes) (start stop : Nat) :
    (slice data start stop).length = min (stop - start) (data.length - start) := by
  simp [slice]

theorem slice_ne_nil {data : Bytes} {start stop : Nat} (h : start < stop)
    (hstop : stop ≤ data.length) : slice data start stop ≠ [] := by
  apply List.ne_nil_of_length_pos
  rw [slice_length]
  omega

theorem h264NalEnd_le (accessUnit : Bytes) (nalStart : Nat) :
    h264NalEnd accessUnit (findH264StartCode accessUnit nalStart) ≤ accessUnit.length := by
  cases found : findH264StartCode accessUnit nalStart with
  | none => exact Nat.le_refl _
  | some next =>
    obtain ⟨index, len⟩ := next
    have := findH264StartCode_bounds found
    change index ≤ accessUnit.length
    omega

theorem nalUnitAt_ne_nil {accessUnit : Bytes} {nalStart : Nat} {nal : Bytes}
    (hnal : nal ∈ nalUnitAt accessUnit nalStart) : nal ≠ [] := by
  simp only [nalUnitAt] at hnal
  split at hnal
  next hlt =>
    rw [List.mem_singleton] at hnal
    subst hnal
    exact slice_ne_nil hlt (h264NalEnd_le accessUnit nalStart)
  next => simp at hnal

theorem nalUnits_ne_nil (accessUnit : Bytes) (nalStart : Nat) :
    ∀ nal ∈ nalUnits accessUnit nalStart, nal ≠ [] := by
  fun_induction nalUnits accessUnit nalStart with
  | case1 nalStart found => exact fun nal => nalUnitAt_ne_nil
  | case2 nalStart start len found ih =>
    intro nal hnal
    rcases List.mem_append.mp hnal with hnal | hnal
    · exact nalUnitAt_ne_nil hnal
    · exact ih nal hnal

section Walk

variable {σ : Type} {f : σ → Bytes → Except String σ}

theorem visitH264Nal_eq_ok {accessUnit : Bytes} {nalStart count n : Nat} {visitor visitor' : σ}
    (hcount : count ≤ H264_MAX_NAL_UNITS) :
    visitH264Nal accessUnit f nalStart count visitor = .ok (visitor', n) ↔
      (nalUnitAt accessUnit nalStart).foldlM f visitor = .ok visitor' ∧
      n = count + (nalUnitAt accessUnit nalStart).length ∧ n ≤ H264_MAX_NAL_UNITS := by
  simp only [visitH264Nal, nalUnitAt]
  split
  next hlt =>
    rw [List.foldlM_cons]
    split
    next hfull =>
      simp only [reduceCtorEq, List.length_singleton, false_iff]
      rintro ⟨_, hn, hle⟩
      omega
    next hroom =>
      generalize f visitor _ = result
      cases result with
      | error reason => simp [Except.map, bind, Except.bind]
      | ok visitor =>
        simp only [Except.map, bind, Except.bind, List.foldlM_nil, pure, Except.pure,
          Except.ok.injEq, Prod.mk.injEq, List.length_singleton]
        constructor
        · rintro ⟨rfl, rfl⟩
          exact ⟨rfl, rfl, by omega⟩
        · rintro ⟨rfl, rfl, _⟩
          exact ⟨rfl, rfl⟩
  next hge =>
    simp only [List.foldlM_nil, pure, Except.pure, Except.ok.injEq, Prod.mk.injEq,
      List.length_nil]
    constructor
    · rintro ⟨rfl, rfl⟩
      exact ⟨rfl, rfl, hcount⟩
    · rintro ⟨rfl, rfl, _⟩
      exact ⟨rfl, rfl⟩

theorem forEachH264NalLoop_of_none {accessUnit : Bytes} {nalStart count : Nat} {multiple : Bool}
    {visitor : σ} (found : findH264StartCode accessUnit nalStart = none) :
    forEachH264NalLoop accessUnit f nalStart count multiple visitor =
      (visitH264Nal accessUnit f nalStart count visitor).map (fun r => (r.1, r.2, multiple)) := by
  rw [forEachH264NalLoop]
  cases visitH264Nal accessUnit f nalStart count visitor with
  | error reason => rfl
  | ok result =>
    dsimp only
    split
    next => rfl
    next h => rw [found] at h; cases h

theorem forEachH264NalLoop_of_some {accessUnit : Bytes} {nalStart count start len : Nat}
    {multiple : Bool} {visitor : σ}
    (found : findH264StartCode accessUnit nalStart = some (start, len)) :
    forEachH264NalLoop accessUnit f nalStart count multiple visitor =
      (visitH264Nal accessUnit f nalStart count visitor).bind (fun r =>
        forEachH264NalLoop accessUnit f (start + len) r.2 true r.1) := by
  rw [forEachH264NalLoop]
  cases visitH264Nal accessUnit f nalStart count visitor with
  | error reason => rfl
  | ok result =>
    dsimp only
    split
    next h => rw [found] at h; cases h
    next h =>
      rw [found] at h
      cases h
      rfl

/-- The walk is a fold of the visitor over `nalUnits`, refused past the last allowed
unit. The induction follows the start codes. -/
theorem forEachH264NalLoop_eq_ok (accessUnit : Bytes) (nalStart : Nat) :
    ∀ {count : Nat} {multiple : Bool} {visitor visitor' : σ} {n : Nat} {m : Bool},
      count ≤ H264_MAX_NAL_UNITS →
      (forEachH264NalLoop accessUnit f nalStart count multiple visitor = .ok (visitor', n, m) ↔
        (nalUnits accessUnit nalStart).foldlM f visitor = .ok visitor' ∧
        n = count + (nalUnits accessUnit nalStart).length ∧ n ≤ H264_MAX_NAL_UNITS ∧
        m = (multiple || (findH264StartCode accessUnit nalStart).isSome)) := by
  fun_induction nalUnits accessUnit nalStart with
  | case1 nalStart found =>
    intro count multiple visitor visitor' n m hcount
    rw [forEachH264NalLoop_of_none found, found]
    have round : visitH264Nal accessUnit f nalStart count visitor = .ok (visitor', n) ↔ _ :=
      visitH264Nal_eq_ok hcount
    rw [← and_assoc, ← and_assoc, and_assoc (c := n ≤ _), ← round]
    cases visitH264Nal accessUnit f nalStart count visitor with
    | error reason => simp [Except.map]
    | ok result => simp [Except.map, Prod.ext_iff, and_assoc, eq_comm]
  | case2 nalStart start len found ih =>
    intro count multiple visitor visitor' n m hcount
    rw [forEachH264NalLoop_of_some found, List.foldlM_append, List.length_append, found]
    have round := fun v k =>
      (visitH264Nal_eq_ok hcount : visitH264Nal accessUnit f nalStart _ visitor = .ok (v, k) ↔ _)
    constructor
    · intro walk
      cases visited : visitH264Nal accessUnit f nalStart count visitor with
      | error reason => rw [visited] at walk; cases walk
      | ok result =>
        rw [visited] at walk
        obtain ⟨fold, hlen, hle⟩ := (round _ _).mp visited
        obtain ⟨rest, hn, hmax, hm⟩ := (ih hle).mp walk
        refine ⟨?_, by omega, hmax, by simpa using hm⟩
        rw [fold]
        exact rest
    · rintro ⟨fold, hn, hmax, hm⟩
      cases first : (nalUnitAt accessUnit nalStart).foldlM f visitor with
      | error reason => rw [first] at fold; cases fold
      | ok middle =>
        rw [first] at fold
        rw [(round middle _).mpr ⟨first, rfl, by omega⟩]
        exact (ih (by omega)).mpr ⟨fold, by omega, hmax, by simpa using hm⟩

/-- A walk that succeeds visits the units behind the first start code, and there is at
least one. -/
theorem forEachH264Nal_eq_ok {accessUnit : Bytes} {visitor visitor' : σ} {n : Nat} {m : Bool} :
    forEachH264Nal accessUnit f visitor = .ok (visitor', n, m) ↔
      ∃ nalStart, startH264Payload accessUnit = .ok nalStart ∧
        (nalUnits accessUnit nalStart).foldlM f visitor = .ok visitor' ∧
        n = (nalUnits accessUnit nalStart).length ∧ n ≠ 0 ∧ n ≤ H264_MAX_NAL_UNITS ∧
        m = (findH264StartCode accessUnit nalStart).isSome := by
  unfold forEachH264Nal
  cases startH264Payload accessUnit with
  | error reason => simp
  | ok nalStart =>
    have walk := fun v k b => (forEachH264NalLoop_eq_ok accessUnit nalStart (Nat.zero_le _) :
      forEachH264NalLoop accessUnit f nalStart 0 false visitor = .ok (v, k, b) ↔ _)
    simp only [Nat.zero_add, Bool.false_or] at walk
    simp only [Except.ok.injEq, exists_eq_left']
    cases loop : forEachH264NalLoop accessUnit f nalStart 0 false visitor with
    | error reason =>
      simp only [reduceCtorEq, false_iff]
      rintro ⟨fold, hn, -, hle, hm⟩
      have := (walk _ _ _).mpr ⟨fold, hn, hle, hm⟩
      rw [loop] at this
      cases this
    | ok result =>
      have spec := (walk visitor' n m)
      rw [loop] at spec
      dsimp only
      split
      next hzero =>
        simp only [reduceCtorEq, false_iff]
        rintro ⟨fold, hn, hne, hle, hm⟩
        have same := spec.mpr ⟨fold, hn, hle, hm⟩
        cases same
        exact hne hzero
      next hpos =>
        constructor
        · intro same
          obtain ⟨fold, hn, hle, hm⟩ := spec.mp same
          cases same
          exact ⟨fold, hn, hpos, hle, hm⟩
        · rintro ⟨fold, hn, -, hle, hm⟩
          exact spec.mpr ⟨fold, hn, hle, hm⟩

end Walk

/-! ## What inspection establishes -/

private theorem foldlM_collect (units acc : List Bytes) :
    units.foldlM (fun units nal => (.ok (units ++ [nal]) : Except String (List Bytes))) acc =
      .ok (acc ++ units) := by
  induction units generalizing acc with
  | nil => simp [pure, Except.pure]
  | cons nal units ih =>
    rw [List.foldlM_cons]
    change List.foldlM _ (acc ++ [nal]) units = _
    rw [ih, List.append_assoc, List.singleton_append]

/-- The visited units are the list, unless there are none or too many. -/
theorem h264NalUnits_eq_ok {accessUnit : Bytes} {nalStart : Nat}
    (hstart : startH264Payload accessUnit = .ok nalStart)
    (hne : nalUnits accessUnit nalStart ≠ [])
    (hle : (nalUnits accessUnit nalStart).length ≤ H264_MAX_NAL_UNITS) :
    h264NalUnits accessUnit = .ok (nalUnits accessUnit nalStart) := by
  have hcollect : forEachH264Nal accessUnit (fun units nal => .ok (units ++ [nal])) [] = _ :=
    forEachH264Nal_eq_ok.mpr ⟨nalStart, hstart, foldlM_collect _ _, rfl,
      fun hzero => hne (List.length_eq_zero_iff.mp hzero), hle, rfl⟩
  rw [h264NalUnits, hcollect]
  rfl

theorem inspectH264Nal_eq_ok {saw saw' : SeenSlices} {nal : Bytes}
    (h : inspectH264Nal saw nal = .ok saw') :
    1 ≤ (nalHeader nal &&& 0x1f).toNat ∧ (nalHeader nal &&& 0x1f).toNat ≤ 23 := by
  grind [inspectH264Nal]

private theorem foldlM_inspect {units : List Bytes} {saw saw' : SeenSlices}
    (h : units.foldlM inspectH264Nal saw = .ok saw') :
    ∀ nal ∈ units, 1 ≤ (nalHeader nal &&& 0x1f).toNat ∧ (nalHeader nal &&& 0x1f).toNat ≤ 23 := by
  induction units generalizing saw with
  | nil => simp
  | cons nal units ih =>
    rw [List.foldlM_cons] at h
    cases first : inspectH264Nal saw nal with
    | error reason => rw [first] at h; cases h
    | ok middle =>
      rw [first] at h
      intro other hother
      rcases List.mem_cons.mp hother with rfl | hother
      · exact inspectH264Nal_eq_ok first
      · exact ih h other hother

/-- The facts about an accepted access unit that its sender relies on: it has between
one and 64 units, every unit has a type that may be sent as a single packet, and the
fast-path flag is set exactly when one start code opens one unit. -/
structure AcceptedAccessUnit (accessUnit : Bytes) (singleNal : Bool) (nalStart : Nat) : Prop where
  start : startH264Payload accessUnit = .ok nalStart
  units : h264NalUnits accessUnit = .ok (nalUnits accessUnit nalStart)
  nonempty : nalUnits accessUnit nalStart ≠ []
  single : singleNal = true → findH264StartCode accessUnit nalStart = none
  nal : ∀ nal ∈ nalUnits accessUnit nalStart, nal ≠ [] ∧
    1 ≤ (nalHeader nal &&& 0x1f).toNat ∧ (nalHeader nal &&& 0x1f).toNat ≤ 23

theorem inspectH264AccessUnit_eq_ok {accessUnit : Bytes} {keyframe singleNal : Bool}
    {maxBytes : Nat} (h : inspectH264AccessUnit accessUnit keyframe maxBytes = .ok singleNal) :
    ∃ nalStart, AcceptedAccessUnit accessUnit singleNal nalStart := by
  unfold inspectH264AccessUnit at h
  split at h
  · cases h
  split at h
  · cases h
  split at h
  · cases h
  cases walk : forEachH264Nal accessUnit inspectH264Nal ⟨false, false⟩ with
  | error reason => rw [walk] at h; cases h
  | ok result =>
    obtain ⟨nalStart, start, fold, hlen, hne, hle, hmultiple⟩ := forEachH264Nal_eq_ok.mp walk
    have hunits : nalUnits accessUnit nalStart ≠ [] := by
      intro hnil
      rw [hnil] at hlen
      exact hne hlen
    refine ⟨nalStart, start, h264NalUnits_eq_ok start hunits (hlen ▸ hle), hunits, ?_, ?_⟩
    · rintro rfl
      rw [walk] at h
      dsimp only at h
      split at h
      · cases h
      split at h
      · cases h
      simp only [Except.ok.injEq, Bool.and_eq_true, Bool.not_eq_true'] at h
      rw [hmultiple] at h
      simpa using h.2
    · exact fun nal hnal => ⟨nalUnits_ne_nil _ _ nal hnal, foldlM_inspect fold nal hnal⟩

/-- When no start code follows the first, the only unit is the rest of the data. -/
theorem AcceptedAccessUnit.units_eq_drop {accessUnit : Bytes} {nalStart : Nat}
    (accepted : AcceptedAccessUnit accessUnit true nalStart) :
    nalUnits accessUnit nalStart = [accessUnit.drop nalStart] := by
  have found := accepted.single rfl
  have hne := accepted.nonempty
  rw [nalUnits_of_none found] at hne ⊢
  simp only [nalUnitAt, found, h264NalEnd] at hne ⊢
  by_cases hlt : nalStart < accessUnit.length
  · simp [hlt, slice, List.take_of_length_le]
  · simp [hlt] at hne

end VRCStreamer
