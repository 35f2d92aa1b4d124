import VRCStreamer.Client.RateControl

/-!
# The block of a quantizer

Which frames the rate control blames for an overdrawn allowance, and how long it stays above their
quantizers. The blame goes by a history of the last frames; the block is kept by every call until
it expires.
-/

namespace VRCStreamer.VideoRateControl

variable {K : Type*} {control : VideoRateControl K} {now timestamp started expiry : K}
variable {lowest : Int} {bytes : Nat}

/-! ## The notions -/

/-- The block exceeds some blamed quantizer by at most one. -/
def BlockedBy (control : VideoRateControl K) (blamed : List Int) : Prop :=
  control.minQuantizer = 0 ∨ ∃ quantizer ∈ blamed, control.minQuantizer ≤ quantizer + 1

namespace BlockedBy

variable {quantizers more : List Int}

theorem mono (h : BlockedBy control quantizers) (hmore : quantizers ⊆ more) :
    BlockedBy control more := by
  obtain hzero | ⟨quantizer, hmem, hle⟩ := h
  · exact .inl hzero
  · exact .inr ⟨quantizer, hmore hmem, hle⟩

theorem setQuantizer (h : BlockedBy control quantizers) (value : Int) (now : K) :
    BlockedBy (control.setQuantizer value now) quantizers := by
  obtain ⟨adjustedAt, adjustments, heq⟩ := control.setQuantizer_eq value now
  rwa [heq]

theorem of_minQuantizer {other : VideoRateControl K} (h : BlockedBy control quantizers)
    (heq : other.minQuantizer = 0 ∨ other.minQuantizer = control.minQuantizer) :
    BlockedBy other quantizers := by
  obtain heq | heq := heq
  · exact .inl heq
  · rwa [BlockedBy, heq]

end BlockedBy

/-! ## The history of frames -/

def ring (control : VideoRateControl K) : KeyRing K UInt8 QUANTIZER_HISTORY_SIZE :=
  ⟨control.frameTimestamps, control.frameQuantizers, control.frameSlot⟩

variable [LinearOrder K]

/-- A quantizer that is not gone below, at least until a time. -/
structure Blocks (control : VideoRateControl K) (lowest : Int) (expiry : K) : Prop where
  lowest_le : lowest ≤ control.minQuantizer
  expiry_le : expiry ≤ control.blockedUntil

theorem Blocks.setQuantizer (h : Blocks control lowest expiry) (value : Int) (now : K) :
    Blocks (control.setQuantizer value now) lowest expiry := by
  obtain ⟨adjustedAt, adjustments, heq⟩ := control.setQuantizer_eq value now
  rw [heq]
  exact { h with }

theorem frameQuantizer_nonneg (h : 0 ≤ control.quantizer) (timestamp : K) :
    0 ≤ control.frameQuantizer timestamp := by
  unfold frameQuantizer
  split
  next slot _ => exact Int.natCast_nonneg _
  next => exact h

/-- A frame that is still known is charged with its own quantizer. -/
theorem frameQuantizer_of_holds {value : UInt8} {age : Nat} {slot : Fin QUANTIZER_HISTORY_SIZE}
    (h : control.ring.Holds timestamp value age slot) :
    control.frameQuantizer timestamp = value.toNat := by
  rw [frameQuantizer, show KeyRing.indexOf control.frameTimestamps timestamp = some slot from
    h.indexOf_eq]
  exact congrArg (fun stored : UInt8 => (stored.toNat : Int)) h.value_eq

variable [Field K]

/-! ## The block is kept -/

theorem blocks_block (control : VideoRateControl K) (frameQuantizer : Int) (now : K) :
    Blocks (control.block frameQuantizer now) (min MAX_QUANTIZER (frameQuantizer + 1))
      (now + QUANTIZER_BLOCK_MS) := by
  obtain ⟨quantizer, adjustedAt, adjustments, heq⟩ := control.block_eq frameQuantizer now
  rw [heq]
  exact ⟨le_max_right _ _, le_refl _⟩

theorem blocks_record (h : control.charged bytes now < 0) :
    Blocks (control.record bytes now timestamp)
      (min MAX_QUANTIZER (control.frameQuantizer timestamp + 1)) (now + QUANTIZER_BLOCK_MS) := by
  rw [record_eq]
  dsimp only
  rw [if_pos h]
  apply blocks_block

namespace Blocks

theorem blockedMinimum (h : Blocks control lowest expiry) (hnow : now < expiry) :
    Blocks (control.blockedMinimum now) lowest expiry := by
  obtain ⟨hexpired, -⟩ | ⟨-, heq⟩ := blockedMinimum_cases control now
  · exact absurd hexpired (not_le.mpr (hnow.trans_le h.expiry_le))
  · rwa [heq]

theorem forget (h : Blocks control lowest expiry) (timestamp : K) :
    Blocks (control.forget timestamp) lowest expiry := by
  obtain ⟨stamps, heq⟩ := control.forget_eq timestamp
  rw [heq]
  exact { h with }

theorem block (h : Blocks control lowest expiry) (hexpiry : expiry ≤ now + QUANTIZER_BLOCK_MS)
    (frameQuantizer : Int) : Blocks (control.block frameQuantizer now) lowest expiry := by
  obtain ⟨quantizer, adjustedAt, adjustments, heq⟩ := control.block_eq frameQuantizer now
  rw [heq]
  exact ⟨h.lowest_le.trans (le_max_left _ _), hexpiry⟩

theorem record (h : Blocks control lowest expiry) (hnow : now < expiry)
    (hexpiry : expiry ≤ now + QUANTIZER_BLOCK_MS) (bytes : Nat) (timestamp : K) :
    Blocks (control.record bytes now timestamp) lowest expiry := by
  have hrest := (h.forget timestamp).blockedMinimum hnow
  rw [record_eq]
  dsimp only
  split
  next =>
    apply Blocks.block _ hexpiry
    exact { hrest with }
  next => exact { hrest with }

theorem update (h : Blocks control lowest expiry) (hnow : now < expiry) (actualBitrate elapsed : K)
    (canImprove : Bool) :
    Blocks (control.update actualBitrate elapsed now canImprove) lowest expiry := by
  have hrest := h.blockedMinimum hnow
  rw [VideoRateControl.update]
  dsimp only
  split
  next =>
    apply setQuantizer
    exact { hrest with }
  next => exact { hrest with }

theorem reset [FloorRing K] (h : Blocks control lowest expiry) (hnow : now < expiry)
    (bitrate frameRate : K) : Blocks (control.reset bitrate frameRate now true) lowest expiry := by
  have hrest := h.blockedMinimum hnow
  exact { hrest with }

variable [FloorRing K] [IsStrictOrderedRing K]

theorem call (h : Blocks control lowest (started + QUANTIZER_BLOCK_MS)) {next : RateCall K}
    (hstarted : started ≤ next.now) (hnow : next.now < started + QUANTIZER_BLOCK_MS)
    (hkeeps : next.KeepsBlock) :
    Blocks (control.call next) lowest (started + QUANTIZER_BLOCK_MS) := by
  have hexpiry : started + QUANTIZER_BLOCK_MS ≤ next.now + (QUANTIZER_BLOCK_MS : K) :=
    add_le_add_left hstarted _
  cases next with
  | reset bitrate frameRate now keepBlock =>
    obtain rfl : keepBlock = true := hkeeps
    exact h.reset hnow bitrate frameRate
  | submit now timestamp => exact { h with }
  | record bytes now timestamp => exact h.record hnow hexpiry bytes timestamp
  | update actualBitrate elapsed now canImprove =>
    exact h.update hnow actualBitrate elapsed canImprove
  | blockedMinimum now => exact h.blockedMinimum hnow

theorem run (h : Blocks control lowest (started + QUANTIZER_BLOCK_MS)) {calls : List (RateCall K)}
    (hcalls : ∀ next ∈ calls, started ≤ next.now ∧ next.now < started + QUANTIZER_BLOCK_MS ∧
      next.KeepsBlock) :
    Blocks (control.run calls) lowest (started + QUANTIZER_BLOCK_MS) := by
  induction calls generalizing control with
  | nil => exact h
  | cons next calls ih =>
    obtain ⟨⟨hstarted, hnow, hkeeps⟩, hcalls⟩ := List.forall_mem_cons.mp hcalls
    exact ih (h.call hstarted hnow hkeeps) hcalls

end Blocks

/-! ## The history of frames -/

theorem ring_blockedMinimum (control : VideoRateControl K) (now : K) :
    (control.blockedMinimum now).ring = control.ring := by
  obtain ⟨-, heq⟩ | ⟨-, heq⟩ := blockedMinimum_cases control now <;> rw [heq]
  rfl

/-- At most one slot is freed, and it has the key that is forgotten. -/
theorem ring_forget_cases (control : VideoRateControl K) (timestamp : K) :
    (∃ slot : Fin QUANTIZER_HISTORY_SIZE, control.ring.keys.get slot = timestamp ∧
      (control.forget timestamp).ring = control.ring.free (-1) slot) ∨
    (control.forget timestamp).ring = control.ring := by
  unfold forget
  split
  next slot hslot => exact .inl ⟨slot, KeyRing.of_indexOf_eq_some hslot, rfl⟩
  next => exact .inr rfl

theorem ring_record : (control.record bytes now timestamp).ring =
    (control.forget timestamp).ring := by
  rw [record_eq, ← ring_blockedMinimum (control.forget timestamp) now]
  dsimp only
  split
  next =>
    obtain ⟨quantizer, adjustedAt, adjustments, heq⟩ := block_eq
      { (control.forget timestamp).blockedMinimum now with
        updatedAt := now
        available := control.charged bytes now } (control.frameQuantizer timestamp) now
    rw [heq]
    rfl
  next => rfl

theorem ring_update (actualBitrate elapsed : K) (canImprove : Bool) :
    (control.update actualBitrate elapsed now canImprove).ring = control.ring := by
  rw [← ring_blockedMinimum control now, update]
  dsimp only
  split
  next =>
    obtain ⟨adjustedAt, adjustments, heq⟩ := setQuantizer_eq
      { control.blockedMinimum now with
        smoothedBitrate := (control.blockedMinimum now).smoothedBitrate +
          (actualBitrate - (control.blockedMinimum now).smoothedBitrate) * elapsed /
            (2 + elapsed) }
      ((control.blockedMinimum now).quantizer - QUANTIZER_RECOVERY_STEP) now
    rw [heq]
    rfl
  next => rfl

section History

variable [FloorRing K] {written : List K} {value : UInt8} {age : Nat}
variable {slot : Fin QUANTIZER_HISTORY_SIZE} {next : RateCall K} {calls : List (RateCall K)}

/-- The history holds timestamps of frames only. -/
theorem from_call (h : KeyRing.From (-1) written control.ring) (next : RateCall K) :
    KeyRing.From (-1) (written ++ next.submitted.toList) (control.call next).ring := by
  cases next with
  | reset bitrate frameRate now keepBlock =>
    intro slot
    exact .inl (Vector.getElem_replicate slot.isLt)
  | submit now timestamp => exact h.write timestamp _
  | record bytes now timestamp =>
    show KeyRing.From (-1) (written ++ []) _
    rw [call, ring_record, List.append_nil]
    obtain ⟨slot, -, heq⟩ | heq := control.ring_forget_cases timestamp
    · rw [heq]
      exact h.free slot
    · rwa [heq]
  | update actualBitrate elapsed now canImprove =>
    show KeyRing.From (-1) (written ++ []) _
    rw [call, ring_update, List.append_nil]
    exact h
  | blockedMinimum now =>
    show KeyRing.From (-1) (written ++ []) _
    rw [call, ring_blockedMinimum, List.append_nil]
    exact h

/-- A frame stays known while the calls are about other frames. -/
theorem holds_call (h : control.ring.Holds timestamp value age slot) (htimestamp : timestamp ≠ -1)
    (hpos : 0 < age) (hage : age + next.submitted.toList.length ≤ QUANTIZER_HISTORY_SIZE)
    (hreset : ¬ next.Resets) (hsubmitted : timestamp ∉ next.submitted)
    (hrecorded : timestamp ∉ next.recorded) :
    (control.call next).ring.Holds timestamp value (age + next.submitted.toList.length) slot := by
  cases next with
  | reset bitrate frameRate now keepBlock => exact absurd trivial hreset
  | submit now other =>
    have hother : other ≠ timestamp := fun heq => hsubmitted (congrArg some heq)
    exact h.write hother hpos hage _
  | record bytes now other =>
    have hother : other ≠ timestamp := fun heq => hrecorded (congrArg some heq)
    rw [call, ring_record]
    obtain ⟨freed, hfreed, heq⟩ | heq := control.ring_forget_cases other
    · rw [heq]
      exact h.free (fun hkey => hother (hfreed.symm.trans hkey)) htimestamp.symm
    · rwa [heq]
  | update actualBitrate elapsed now canImprove =>
    rw [call, ring_update]
    exact h
  | blockedMinimum now =>
    rw [call, ring_blockedMinimum]
    exact h

theorem run_cons : control.run (next :: calls) = (control.call next).run calls := rfl

theorem run_append (calls later : List (RateCall K)) :
    control.run (calls ++ later) = (control.run calls).run later :=
  List.foldl_append

theorem from_run (h : KeyRing.From (-1) written control.ring) :
    KeyRing.From (-1) (written ++ calls.filterMap RateCall.submitted) (control.run calls).ring := by
  induction calls generalizing control written with
  | nil => rwa [List.filterMap_nil, List.append_nil]
  | cons next calls ih =>
    have hrest := ih (from_call h next)
    rwa [List.append_assoc, ← filterMap_cons_toList] at hrest

theorem holds_run (h : control.ring.Holds timestamp value age slot) (htimestamp : timestamp ≠ -1)
    (hpos : 0 < age)
    (hage : age + (calls.filterMap RateCall.submitted).length ≤ QUANTIZER_HISTORY_SIZE)
    (hreset : ∀ next ∈ calls, ¬ next.Resets)
    (hsubmitted : timestamp ∉ calls.filterMap RateCall.submitted)
    (hrecorded : timestamp ∉ calls.filterMap RateCall.recorded) :
    ∃ age, (control.run calls).ring.Holds timestamp value age slot := by
  induction calls generalizing control age with
  | nil => exact ⟨age, h⟩
  | cons next calls ih =>
    obtain ⟨hnext, hreset⟩ := List.forall_mem_cons.mp hreset
    rw [filterMap_cons_toList, List.mem_append, not_or, Option.mem_toList] at hsubmitted hrecorded
    rw [filterMap_cons_toList, List.length_append, ← Nat.add_assoc] at hage
    have hstep := holds_call h htimestamp hpos (by omega) hnext hsubmitted.1 hrecorded.1
    exact ih hstep (by omega) hage hreset hsubmitted.2 hrecorded.2

end History

theorem toNat_ofInt_quantizer (h : Sound control) :
    ((UInt8.ofInt control.quantizer).toNat : Int) = control.quantizer := by
  have hle := h.minimum_le
  have hge := h.le_maximum
  rw [MIN_QUANTIZER] at hle
  rw [MAX_QUANTIZER] at hge
  rw [UInt8.ofInt, UInt8.toNat_ofNat']
  omega

/-! ## Blame -/

/-- The quantizer that a call blames for an overdrawn allowance. -/
def blamed (control : VideoRateControl K) : RateCall K → Option Int
  | .record bytes now timestamp =>
    if control.charged bytes now < 0 then some (control.frameQuantizer timestamp) else none
  | _ => none

def blame [FloorRing K] : VideoRateControl K → List (RateCall K) → List Int
  | _, [] => []
  | control, next :: calls => (control.blamed next).toList ++ (control.call next).blame calls

theorem blockedMinimum_minQuantizer (control : VideoRateControl K) (now : K) :
    (control.blockedMinimum now).minQuantizer = 0 ∨
      (control.blockedMinimum now).minQuantizer = control.minQuantizer := by
  obtain ⟨-, heq⟩ | ⟨-, heq⟩ := blockedMinimum_cases control now
  · exact .inl (by rw [heq])
  · exact .inr (by rw [heq])

namespace BlockedBy

variable {quantizers : List Int} {next : RateCall K}

theorem blockedMinimum (h : BlockedBy control quantizers) (now : K) :
    BlockedBy (control.blockedMinimum now) quantizers :=
  h.of_minQuantizer (control.blockedMinimum_minQuantizer now)

theorem forget (h : BlockedBy control quantizers) (timestamp : K) :
    BlockedBy (control.forget timestamp) quantizers := by
  obtain ⟨stamps, heq⟩ := control.forget_eq timestamp
  rwa [heq]

omit [LinearOrder K] in
theorem block (h : BlockedBy control quantizers) {frameQuantizer : Int}
    (hframe : 0 ≤ frameQuantizer) (now : K) :
    BlockedBy (control.block frameQuantizer now) (quantizers ++ [frameQuantizer]) := by
  obtain ⟨quantizer, adjustedAt, adjustments, heq⟩ := control.block_eq frameQuantizer now
  have hnext : min MAX_QUANTIZER (frameQuantizer + 1) ≤ frameQuantizer + 1 := min_le_right _ _
  rw [heq, BlockedBy]
  right
  obtain hzero | ⟨blamed, hmem, hle⟩ := h
  · refine ⟨frameQuantizer, List.mem_append_right _ List.mem_cons_self, ?_⟩
    dsimp only
    rw [hzero]
    exact max_le (by omega) hnext
  · obtain hge | hge := le_total blamed frameQuantizer
    · refine ⟨frameQuantizer, List.mem_append_right _ List.mem_cons_self, ?_⟩
      exact max_le (by omega) hnext
    · exact ⟨blamed, List.mem_append_left _ hmem, max_le hle (by omega)⟩

theorem record (h : BlockedBy control quantizers) (hquantizer : 0 ≤ control.quantizer)
    (bytes : Nat) (now timestamp : K) :
    BlockedBy (control.record bytes now timestamp)
      (quantizers ++ (control.blamed (.record bytes now timestamp)).toList) := by
  have hrest := (h.forget timestamp).blockedMinimum now
  have hframe := frameQuantizer_nonneg hquantizer timestamp
  rw [record_eq, blamed]
  dsimp only
  split
  next =>
    apply BlockedBy.block _ hframe
    exact hrest
  next =>
    rw [Option.toList_none, List.append_nil]
    exact hrest

theorem update (h : BlockedBy control quantizers) (actualBitrate elapsed now : K)
    (canImprove : Bool) :
    BlockedBy (control.update actualBitrate elapsed now canImprove) quantizers := by
  have hrest := h.blockedMinimum now
  rw [VideoRateControl.update]
  dsimp only
  split
  next =>
    apply BlockedBy.setQuantizer
    exact hrest
  next => exact hrest

variable [FloorRing K]

theorem reset (h : BlockedBy control quantizers) (bitrate frameRate now : K) (keepBlock : Bool) :
    BlockedBy (control.reset bitrate frameRate now keepBlock) quantizers := by
  cases keepBlock with
  | true => exact h.blockedMinimum now
  | false =>
    have hreleased : BlockedBy { control with blockedUntil := 0 } quantizers := h
    exact hreleased.blockedMinimum now

theorem call (h : BlockedBy control quantizers) (hquantizer : 0 ≤ control.quantizer) :
    BlockedBy (control.call next) (quantizers ++ (control.blamed next).toList) := by
  cases next with
  | reset bitrate frameRate now keepBlock =>
    exact (h.reset bitrate frameRate now keepBlock).mono (List.subset_append_left _ _)
  | submit now timestamp => exact BlockedBy.mono h (List.subset_append_left _ _)
  | record bytes now timestamp => exact h.record hquantizer bytes now timestamp
  | update actualBitrate elapsed now canImprove =>
    exact (h.update actualBitrate elapsed now canImprove).mono (List.subset_append_left _ _)
  | blockedMinimum now => exact (h.blockedMinimum now).mono (List.subset_append_left _ _)

end BlockedBy

/-! ## Runs -/

variable [FloorRing K] {calls before middle later : List (RateCall K)}

/-- The calls of the worker, from its first reset on. -/
structure RateRun (calls : List (RateCall K)) : Prop where
  starts : ∃ next rest, calls = next :: rest ∧ next.Resets
  inOrder : (calls.map RateCall.now).Pairwise (· ≤ ·)
  distinct : (calls.filterMap RateCall.submitted).Nodup
  nonneg : ∀ timestamp ∈ calls.filterMap RateCall.submitted, 0 ≤ timestamp
  recordedOnce : (calls.filterMap RateCall.recorded).Nodup
  rated : ∀ next ∈ calls, next.Rated

omit [FloorRing K] in
theorem RateRun.of_append (h : RateRun (before ++ later)) (hne : before ≠ []) :
    RateRun before := by
  obtain ⟨first, rest, rfl⟩ := List.exists_cons_of_ne_nil hne
  obtain ⟨next, others, heq, hresets⟩ := h.starts
  obtain ⟨rfl, -⟩ := List.cons.inj heq
  refine ⟨⟨first, rest, rfl, hresets⟩, ?_, ?_, ?_, ?_, ?_⟩
  · have hinOrder := h.inOrder
    rw [List.map_append] at hinOrder
    exact (List.pairwise_append.mp hinOrder).1
  · have hdistinct := h.distinct
    rw [List.filterMap_append] at hdistinct
    exact (List.nodup_append.mp hdistinct).1
  · intro timestamp hmem
    apply h.nonneg
    rw [List.filterMap_append]
    exact List.mem_append_left _ hmem
  · have hrecordedOnce := h.recordedOnce
    rw [List.filterMap_append] at hrecordedOnce
    exact (List.nodup_append.mp hrecordedOnce).1
  · exact fun next hmem => h.rated next (List.mem_append_left _ hmem)

section

variable [IsStrictOrderedRing K]

theorem sound_run (h : Sound control) (hrated : ∀ next ∈ calls, next.Rated) :
    Sound (control.run calls) := by
  induction calls generalizing control with
  | nil => exact h
  | cons next calls ih =>
    obtain ⟨hnext, hrated⟩ := List.forall_mem_cons.mp hrated
    exact ih (h.call hnext) hrated

theorem blockedBy_run {quantizers : List Int} (h : BlockedBy control quantizers)
    (hsound : Sound control) (hrated : ∀ next ∈ calls, next.Rated) :
    BlockedBy (control.run calls) (quantizers ++ control.blame calls) := by
  induction calls generalizing control quantizers with
  | nil => rwa [blame, List.append_nil]
  | cons next calls ih =>
    obtain ⟨hnext, hrated⟩ := List.forall_mem_cons.mp hrated
    have hquantizer : 0 ≤ control.quantizer := le_trans (by decide) hsound.minimum_le
    rw [blame, ← List.append_assoc]
    exact ih (h.call hquantizer) (hsound.call hnext) hrated

namespace RateRun

/-- The run after its first call. -/
theorem exists_first (h : RateRun calls) : ∃ next rest, calls = next :: rest ∧
    Sound ((new : VideoRateControl K).call next) ∧
    BlockedBy ((new : VideoRateControl K).call next) [] ∧
    KeyRing.From (-1) [] ((new : VideoRateControl K).call next).ring ∧
    (new : VideoRateControl K).blamed next = none ∧ next.submitted = none := by
  obtain ⟨next, rest, rfl, hresets⟩ := h.starts
  have hrated := h.rated next List.mem_cons_self
  refine ⟨next, rest, rfl, ?_⟩
  cases next with
  | reset bitrate frameRate now keepBlock =>
    have hminimum : (new : VideoRateControl K).minQuantizer ≤ MAX_QUANTIZER :=
      (by decide : (0 : Int) ≤ MAX_QUANTIZER)
    have hblocked : BlockedBy (new : VideoRateControl K) [] := .inl rfl
    refine ⟨Sound.reset hminimum hrated.1 frameRate now keepBlock,
      hblocked.reset bitrate frameRate now keepBlock, ?_, rfl, rfl⟩
    intro slot
    exact .inl (Vector.getElem_replicate slot.isLt)
  | submit now timestamp => exact hresets.elim
  | record bytes now timestamp => exact hresets.elim
  | update actualBitrate elapsed now canImprove => exact hresets.elim
  | blockedMinimum now => exact hresets.elim

theorem sound (h : RateRun calls) : Sound ((new : VideoRateControl K).run calls) := by
  have hrated := h.rated
  obtain ⟨next, rest, rfl, hsound, -⟩ := h.exists_first
  rw [run_cons]
  exact sound_run hsound (List.forall_mem_cons.mp hrated).2

theorem blockedBy (h : RateRun calls) :
    BlockedBy ((new : VideoRateControl K).run calls) ((new : VideoRateControl K).blame calls) := by
  have hrated := h.rated
  obtain ⟨next, rest, rfl, hsound, hblocked, -, hblamed, -⟩ := h.exists_first
  rw [blame, hblamed]
  exact blockedBy_run hblocked hsound (List.forall_mem_cons.mp hrated).2

theorem ring_from (h : RateRun calls) : KeyRing.From (-1)
    (calls.filterMap RateCall.submitted) ((new : VideoRateControl K).run calls).ring := by
  obtain ⟨next, rest, rfl, -, -, hfrom, -, hsubmitted⟩ := h.exists_first
  rw [filterMap_cons_toList, hsubmitted]
  exact from_run hfrom

omit [FloorRing K] [IsStrictOrderedRing K] in
theorem ne_nil (h : RateRun (before ++ .submit now timestamp :: later)) : before ≠ [] := by
  rintro rfl
  obtain ⟨next, rest, heq, hresets⟩ := h.starts
  obtain ⟨rfl, -⟩ := List.cons.inj heq
  exact hresets

omit [FloorRing K] [IsStrictOrderedRing K] in
/-- A frame is submitted once. -/
theorem not_mem_submitted (h : RateRun (before ++ .submit now timestamp :: later)) :
    timestamp ∉ before.filterMap RateCall.submitted ∧
      timestamp ∉ later.filterMap RateCall.submitted := by
  have hdistinct := h.distinct
  rw [List.filterMap_append, filterMap_cons_toList, List.nodup_append] at hdistinct
  obtain ⟨-, hrest, hdisjoint⟩ := hdistinct
  constructor
  · intro hmem
    exact hdisjoint timestamp hmem timestamp List.mem_cons_self rfl
  · exact (List.nodup_cons.mp hrest).1

omit [FloorRing K] [IsStrictOrderedRing K] in
/-- A frame is recorded once. -/
theorem not_mem_recorded (h : RateRun (before ++ .record bytes now timestamp :: later)) :
    timestamp ∉ before.filterMap RateCall.recorded := by
  have hrecordedOnce := h.recordedOnce
  rw [List.filterMap_append, filterMap_cons_toList, List.nodup_append] at hrecordedOnce
  intro hmem
  exact hrecordedOnce.2.2 timestamp hmem timestamp List.mem_cons_self rfl

/-- The frame is still known when it is recorded. -/
theorem frameQuantizer_eq {submittedAt : K}
    (h : RateRun (before ++ .submit submittedAt timestamp ::
      (middle ++ .record bytes now timestamp :: later)))
    (hreset : ∀ next ∈ middle, ¬ next.Resets)
    (hcount : (middle.filterMap RateCall.submitted).length ≤ 63) :
    ((new : VideoRateControl K).run (before ++ .submit submittedAt timestamp :: middle)
      ).frameQuantizer timestamp = ((new : VideoRateControl K).run before).quantizer := by
  have hbefore := h.of_append h.ne_nil
  obtain ⟨hfresh, hrest⟩ := h.not_mem_submitted
  rw [List.filterMap_append, List.mem_append, not_or] at hrest
  have hunused : timestamp ≠ -1 := by
    have hnonneg : 0 ≤ timestamp := h.nonneg timestamp (by simp [RateCall.submitted])
    rintro rfl
    exact absurd hnonneg (by norm_num)
  have hrecorded : timestamp ∉ middle.filterMap RateCall.recorded := by
    rw [← List.cons_append, ← List.append_assoc] at h
    have hbeforeRecord := h.not_mem_recorded
    rw [List.filterMap_append, filterMap_cons_toList, List.mem_append, not_or,
      List.mem_append, not_or] at hbeforeRecord
    exact hbeforeRecord.2.2
  have hwritten : (((new : VideoRateControl K).run before).submit timestamp).1.ring.Holds timestamp
      (UInt8.ofInt ((new : VideoRateControl K).run before).quantizer) 1
      ((new : VideoRateControl K).run before).frameSlot :=
    KeyRing.holds_write (hbefore.ring_from.ne_of_not_mem hunused hfresh)
  have hcount' : 1 + (middle.filterMap RateCall.submitted).length ≤ QUANTIZER_HISTORY_SIZE := by
    rw [QUANTIZER_HISTORY_SIZE]
    omega
  obtain ⟨age, hholds⟩ :=
    holds_run hwritten hunused Nat.one_pos hcount' hreset hrest.1 hrecorded
  rw [run_append, run_cons, call, frameQuantizer_of_holds hholds,
    toNat_ofInt_quantizer hbefore.sound]

omit [FloorRing K] [IsStrictOrderedRing K] in
theorem now_le (h : RateRun (before ++ later)) {first next : RateCall K} (hfirst : first ∈ before)
    (hnext : next ∈ later) : first.now ≤ next.now := by
  have hinOrder := h.inOrder
  rw [List.map_append] at hinOrder
  exact (List.pairwise_append.mp hinOrder).2.2 _ (List.mem_map_of_mem hfirst) _
    (List.mem_map_of_mem hnext)

end RateRun

/-- The bounds hold after every call, the block exceeds some blamed quantizer by at most one, and
a frame that overdraws the allowance while it is known blocks its quantizer for the whole period.
At the end of the period a submit is still bound unless another call came at that time. -/
theorem quantizer_block_holds (h : RateRun calls) :
    let control := (new : VideoRateControl K).run calls
    (18 ≤ control.quantizer ∧ control.quantizer ≤ 51 ∧
      control.minQuantizer ≤ control.quantizer ∧
      0 ≤ control.available ∧ control.available ≤ control.capacity) ∧
    (control.minQuantizer = 0 ∨ ∃ quantizer ∈ (new : VideoRateControl K).blame calls,
      control.minQuantizer ≤ quantizer + 1) ∧
    ∀ before submittedAt timestamp middle bytes recordedAt later now other,
      calls = before ++ .submit submittedAt timestamp ::
        (middle ++ .record bytes recordedAt timestamp :: (later ++ [.submit now other])) →
      (∀ next ∈ middle, ¬ next.Resets) →
      (middle.filterMap RateCall.submitted).length ≤ 63 →
      ((new : VideoRateControl K).run
        (before ++ .submit submittedAt timestamp :: middle)).charged bytes recordedAt < 0 →
      (∀ next ∈ later, next.KeepsBlock) →
      (now < recordedAt + 15000 ∨ ∀ next ∈ later, next.now < recordedAt + 15000) →
      min 51 ((((new : VideoRateControl K).run before).submit timestamp).2 + 1) ≤
        (((new : VideoRateControl K).run (before ++ .submit submittedAt timestamp ::
          (middle ++ .record bytes recordedAt timestamp :: later))).submit other).2 := by
  intro control
  have hsound : Sound control := h.sound
  refine ⟨⟨hsound.minimum_le, hsound.le_maximum, hsound.blocked_le, hsound.available_nonneg,
    hsound.available_le⟩, h.blockedBy, ?_⟩
  rintro before submittedAt timestamp middle bytes recordedAt later now other rfl hreset hcount
    hcharged hkeeps hnow
  let known := (new : VideoRateControl K).run (before ++ .submit submittedAt timestamp :: middle)
  have hblocks : Blocks (known.record bytes recordedAt timestamp)
      (min MAX_QUANTIZER (known.frameQuantizer timestamp + 1))
      (recordedAt + QUANTIZER_BLOCK_MS) := blocks_record hcharged
  rw [h.frameQuantizer_eq hreset hcount] at hblocks
  have hsplit : before ++ .submit submittedAt timestamp ::
      (middle ++ .record bytes recordedAt timestamp :: later) =
      (before ++ .submit submittedAt timestamp :: middle) ++
        .record bytes recordedAt timestamp :: later := by simp
  have hcalls : before ++ .submit submittedAt timestamp ::
      (middle ++ .record bytes recordedAt timestamp :: (later ++ [.submit now other])) =
      ((before ++ .submit submittedAt timestamp :: middle) ++
        .record bytes recordedAt timestamp :: later) ++ [.submit now other] := by simp
  rw [hcalls] at h
  have hprefix := h.of_append (by simp)
  have hlater : ∀ next ∈ later, recordedAt ≤ next.now ∧
      next.now < recordedAt + QUANTIZER_BLOCK_MS ∧ next.KeepsBlock := by
    intro next hmem
    refine ⟨?_, ?_, hkeeps next hmem⟩
    · have hrecord : RateRun ((before ++ .submit submittedAt timestamp :: middle ++
          [.record bytes recordedAt timestamp]) ++ later) := by simpa using hprefix
      exact hrecord.now_le (List.mem_append_right _ List.mem_cons_self) hmem
    · obtain hnow | hnow := hnow
      · exact (h.now_le (by simp [hmem]) List.mem_cons_self).trans_lt hnow
      · exact hnow next hmem
  have hkept := hblocks.run hlater
  rw [hsplit, run_append, run_cons]
  have hend : Sound ((known.record bytes recordedAt timestamp).run later) := by
    have hsound := hprefix.sound
    rwa [run_append, run_cons] at hsound
  exact hkept.lowest_le.trans hend.blocked_le

end

/-- A frame of 100000 bytes overdraws 425000 bits, and five seconds without any traffic do not
bring its quantizer back. -/
theorem quantizer_block_holds_small :
    let start : List (RateCall ℚ) := [.reset 1000000 30 0 false, .submit 10 100]
    let calls := start ++ [.record 100000 30 100, .update 0 1 5000 true]
    RateRun (calls ++ [.submit 6000 200]) ∧ 25 ≤ (((new.run calls).submit 200).2) := by
  intro start calls
  have hrun : RateRun (calls ++ [.submit 6000 200]) := by
    refine ⟨⟨_, _, rfl, trivial⟩, by decide +kernel, by decide +kernel, by decide +kernel,
      by decide +kernel, ?_⟩
    simp [calls, start, RateCall.Rated]
  have hcharged : ((new : VideoRateControl ℚ).run start).charged 100000 30 < 0 := by
    decide +kernel
  refine ⟨hrun, (quantizer_block_holds hrun).2.2 [.reset 1000000 30 0 false] 10 100 [] 100000 30
    [.update 0 1 5000 true] 6000 200 rfl ?_ ?_ hcharged ?_ ?_⟩
  · exact List.forall_mem_nil _
  · decide
  · exact List.forall_mem_singleton.mpr trivial
  · left
    norm_num

end VRCStreamer.VideoRateControl
