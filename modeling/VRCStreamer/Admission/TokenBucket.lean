import Mathlib.Data.Rat.Lemmas
import Mathlib.Algebra.Order.Ring.Rat
import Mathlib.Tactic.NormNum
import VRCStreamer.Policing.Bucket

/-!
# Token buckets of the server

`TokenBucket` of `limits.rs` over exact numbers. Times are in seconds.
-/

namespace VRCStreamer

open Policing

structure TokenBucket where
  available : ℚ
  updatedAt : ℚ
  initialized : Bool
  deriving DecidableEq

namespace TokenBucket

/-- `updated_at` is the time of the call. -/
def new (now : ℚ) : TokenBucket := ⟨0, now, false⟩

/-- `units_per_second.saturating_mul(burst_seconds)`. -/
def capacity (unitsPerSecond burstSeconds : Nat) : ℚ :=
  (min (unitsPerSecond * burstSeconds) (2 ^ 64 - 1) : Nat)

/-- What the bucket is filled up to before a request. `duration_since` is zero for a time that
has not come yet. -/
def refilled (bucket : TokenBucket) (now : ℚ) (unitsPerSecond burstSeconds : Nat) : ℚ :=
  if bucket.initialized then
    min (bucket.available + max (now - bucket.updatedAt) 0 * unitsPerSecond)
      (capacity unitsPerSecond burstSeconds)
  else capacity unitsPerSecond burstSeconds

def allowAt (bucket : TokenBucket) (now : ℚ) (units unitsPerSecond burstSeconds : Nat) :
    Bool × TokenBucket :=
  if unitsPerSecond = 0 ∨ burstSeconds = 0 then (false, bucket)
  else
    let available := bucket.refilled now unitsPerSecond burstSeconds
    if available < units then (false, ⟨available, now, true⟩)
    else (true, ⟨available - units, now, true⟩)

end TokenBucket

/-- One call of `allow_at` on a bucket with a fixed rate. -/
structure BucketCall where
  now : ℚ
  units : Nat
  deriving DecidableEq

def BucketCall.request (call : BucketCall) : Request ℚ := ⟨call.now, call.units⟩

namespace TokenBucket

/-- A bucket after calls, with the calls that it let through. -/
def allowAll (unitsPerSecond burstSeconds : Nat) :
    TokenBucket → List BucketCall → List BucketCall × TokenBucket
  | bucket, [] => ([], bucket)
  | bucket, call :: calls =>
    let (allowed, bucket) := bucket.allowAt call.now call.units unitsPerSecond burstSeconds
    let (rest, bucket) := allowAll unitsPerSecond burstSeconds bucket calls
    (if allowed then call :: rest else rest, bucket)

/-- The units of calls. -/
def units (calls : List BucketCall) : Nat := (calls.map BucketCall.units).sum

/-! ## Calls in order -/

section Run

variable {r b : Nat} {bucket : TokenBucket} {calls : List BucketCall}

theorem allowAll_of_allowed {call : BucketCall}
    (h : (bucket.allowAt call.now call.units r b).1 = true) :
    allowAll r b bucket (call :: calls) =
      (call :: (allowAll r b (bucket.allowAt call.now call.units r b).2 calls).1,
        (allowAll r b (bucket.allowAt call.now call.units r b).2 calls).2) := by
  rw [allowAll]
  generalize bucket.allowAt call.now call.units r b = outcome at h ⊢
  obtain ⟨allowed, next⟩ := outcome
  cases h
  rfl

theorem allowAll_of_refused {call : BucketCall}
    (h : (bucket.allowAt call.now call.units r b).1 = false) :
    allowAll r b bucket (call :: calls) =
      allowAll r b (bucket.allowAt call.now call.units r b).2 calls := by
  rw [allowAll]
  generalize bucket.allowAt call.now call.units r b = outcome at h ⊢
  obtain ⟨allowed, next⟩ := outcome
  cases h
  rfl

theorem capacity_eq (h : r * b < 2 ^ 53) : capacity r b = r * b := by
  have hle : r * b ≤ 2 ^ 64 - 1 := by omega
  rw [capacity, min_eq_left hle, Nat.cast_mul]

/-- The bucket stands for the requests that it has let through, the last one first. Before its
first call it is full. -/
structure StandsFor (r b : Nat) (bucket : TokenBucket) (requests : List (Request ℚ)) : Prop where
  conforms : Conforms (r : ℚ) (r * b) requests
  fresh : bucket.initialized = false → requests = []
  holds : bucket.initialized = true →
    Holds (r : ℚ) (r * b) bucket.available bucket.updatedAt requests

/-- The next calls come no earlier than the last one. -/
def Before (bucket : TokenBucket) (calls : List BucketCall) : Prop :=
  calls.Pairwise (fun call later => call.now ≤ later.now) ∧
    (bucket.initialized = true → ∀ call ∈ calls, bucket.updatedAt ≤ call.now)

theorem standsFor_new (r b : Nat) (now : ℚ) : StandsFor r b (new now) [] :=
  ⟨trivial, fun _ => rfl, nofun⟩

namespace StandsFor

variable {requests : List (Request ℚ)} {call : BucketCall}

theorem refilled (h : StandsFor r b bucket requests) (hcap : r * b < 2 ^ 53)
    (hbefore : Before bucket (call :: calls)) :
    bucket.refilled call.now r b = Policing.available (r : ℚ) (r * b) requests call.now := by
  rw [TokenBucket.refilled, capacity_eq hcap]
  cases hinit : bucket.initialized with
  | false =>
    rw [h.fresh hinit]
    rfl
  | true =>
    have hle := hbefore.2 hinit call List.mem_cons_self
    rw [if_pos rfl, max_eq_left (sub_nonneg.mpr hle)]
    exact (h.holds hinit).refill call.now hle

/-- What one call does. -/
theorem step (h : StandsFor r b bucket requests) (hr : 1 ≤ r) (hb : 1 ≤ b) (hcap : r * b < 2 ^ 53)
    (hbefore : Before bucket (call :: calls)) :
    ((bucket.allowAt call.now call.units r b).1 = true ∧
      call.request.units ≤ Policing.available (r : ℚ) (r * b) requests call.now ∧
      StandsFor r b (bucket.allowAt call.now call.units r b).2 (call.request :: requests)) ∨
    ((bucket.allowAt call.now call.units r b).1 = false ∧
      Policing.available (r : ℚ) (r * b) requests call.now < call.request.units ∧
      StandsFor r b (bucket.allowAt call.now call.units r b).2 requests) := by
  have hzero : ¬ (r = 0 ∨ b = 0) := by omega
  have hrate : (0 : ℚ) ≤ r := Nat.cast_nonneg r
  have hold : ∃ level updated, Holds (r : ℚ) (r * b) level updated requests ∧
      updated ≤ call.now := by
    cases hinit : bucket.initialized with
    | false =>
      rw [h.fresh hinit]
      exact ⟨_, call.now, Holds.full hrate, le_refl call.now⟩
    | true => exact ⟨_, _, h.holds hinit, hbefore.2 hinit call List.mem_cons_self⟩
  obtain ⟨level, updated, hholds, hle⟩ := hold
  rw [allowAt, if_neg hzero, h.refilled hcap hbefore]
  by_cases hless : Policing.available (r : ℚ) (r * b) requests call.now < call.units
  · right
    rw [if_pos hless]
    exact ⟨rfl, hless, h.conforms, nofun, fun _ => hholds.refuse hrate hle⟩
  · left
    have hunits : call.request.units ≤ Policing.available (r : ℚ) (r * b) requests call.now :=
      not_lt.mp hless
    have hallow := @Holds.allow ℚ _ _ _ _ _ call.request _ _ hholds hle
    rw [if_neg hless]
    exact ⟨rfl, hunits, h.conforms.cons hunits, nofun, fun _ => hallow⟩

end StandsFor

theorem Before.next {call : BucketCall} (hr : 1 ≤ r) (hb : 1 ≤ b)
    (h : Before bucket (call :: calls)) :
    Before (bucket.allowAt call.now call.units r b).2 calls := by
  have hzero : ¬ (r = 0 ∨ b = 0) := by omega
  obtain ⟨hfirst, hrest⟩ := List.pairwise_cons.mp h.1
  refine ⟨hrest, fun _ => ?_⟩
  rw [allowAt, if_neg hzero]
  dsimp only
  split
  next => exact hfirst
  next => exact hfirst

/-- What a run of calls does. -/
theorem StandsFor.run {requests : List (Request ℚ)} {rest : List BucketCall}
    (h : StandsFor r b bucket requests) (hr : 1 ≤ r) (hb : 1 ≤ b) (hcap : r * b < 2 ^ 53)
    (hbefore : Before bucket (calls ++ rest)) :
    StandsFor r b (allowAll r b bucket calls).2
      ((allowAll r b bucket calls).1.reverse.map BucketCall.request ++ requests) ∧
        Before (allowAll r b bucket calls).2 rest := by
  induction calls generalizing bucket requests with
  | nil => exact ⟨h, hbefore⟩
  | cons call calls ih =>
    have hnext := hbefore.next hr hb
    obtain ⟨hallowed, -, hstep⟩ | ⟨hrefused, -, hstep⟩ := h.step hr hb hcap hbefore
    · have hrun := ih hstep hnext
      rw [allowAll_of_allowed hallowed, List.reverse_cons, List.map_append, List.append_assoc]
      exact hrun
    · have hrun := ih hstep hnext
      rw [allowAll_of_refused hrefused]
      exact hrun

end Run

theorem units_eq (calls : List BucketCall) :
    (units calls : ℚ) = total (calls.map BucketCall.request) := by
  induction calls with
  | nil => exact Nat.cast_zero
  | cons call calls ih =>
    rw [List.map_cons, total_cons, ← ih, units, List.map_cons, List.sum_cons, Nat.cast_add]
    rfl

/-! ## The bucket as a policer -/

section Policer

variable {r b : Nat} {calls : List BucketCall} {created : ℚ}

/-- What a new bucket stands for after calls. -/
theorem standsFor_allowAll (hr : 1 ≤ r) (hb : 1 ≤ b) (hcap : r * b < 2 ^ 53)
    {rest : List BucketCall}
    (hsorted : (calls ++ rest).Pairwise (fun call later => call.now ≤ later.now)) :
    StandsFor r b (allowAll r b (new created) calls).2
      ((allowAll r b (new created) calls).1.reverse.map BucketCall.request) ∧
        Before (allowAll r b (new created) calls).2 rest := by
  have hrun := (standsFor_new r b created).run hr hb hcap ⟨hsorted, nofun⟩
  rw [List.append_nil] at hrun
  exact hrun

theorem StandsFor.exists_until {bucket : TokenBucket} {requests : List (Request ℚ)}
    (h : StandsFor r b bucket requests) : ∃ now, Until requests now := by
  cases hinit : bucket.initialized with
  | false =>
    rw [h.fresh hinit]
    exact ⟨0, until_nil⟩
  | true => exact ⟨_, (h.holds hinit).until_updated⟩

theorem total_reverse_map (calls : List BucketCall) :
    total (calls.reverse.map BucketCall.request) = units calls := by
  rw [units_eq, List.map_reverse, total, total, List.map_reverse, List.sum_reverse]

/-- What is let through in a window of time. -/
theorem units_window_le (hr : 1 ≤ r) (hb : 1 ≤ b) (hcap : r * b < 2 ^ 53)
    (hsorted : calls.Pairwise (fun call later => call.now ≤ later.now)) {start d : ℚ}
    (hd : 0 ≤ d) :
    (units ((allowAll r b (new created) calls).1.filter
      (fun call => start ≤ call.now ∧ call.now ≤ start + d)) : ℚ) ≤ r * b + r * d := by
  have hsorted' : (calls ++ []).Pairwise (fun call later : BucketCall => call.now ≤ later.now) := by
    rw [List.append_nil]
    exact hsorted
  obtain ⟨hstands, -⟩ := @standsFor_allowAll r b calls created hr hb hcap [] hsorted'
  generalize (allowAll r b (new created) calls).1 = allowed at hstands ⊢
  obtain ⟨now, huntil⟩ := hstands.exists_until
  have hwindow : total ((allowed.reverse.map BucketCall.request).filter
      (fun request => start ≤ request.time ∧ request.time ≤ start + d)) ≤
        (r : ℚ) * b + r * (start + d - start) :=
    hstands.conforms.total_window_le huntil (Nat.cast_nonneg r)
      (mul_nonneg (Nat.cast_nonneg r) (Nat.cast_nonneg b)) (le_add_of_nonneg_right hd)
  rw [add_sub_cancel_left, List.filter_map, List.filter_reverse, total_reverse_map] at hwindow
  exact hwindow

/-- A call is refused exactly if it would overfill a window that ends with it. -/
theorem refused_iff (hr : 1 ≤ r) (hb : 1 ≤ b) (hcap : r * b < 2 ^ 53) {call : BucketCall}
    (hsorted : (calls ++ [call]).Pairwise (fun call later => call.now ≤ later.now)) :
    ((allowAll r b (new created) calls).2.allowAt call.now call.units r b).1 = false ↔
      ∃ early first window, (allowAll r b (new created) calls).1 ++ [call] =
        early ++ first :: window ∧
          (r * b + r * (call.now - first.now) : ℚ) < units (first :: window) := by
  obtain ⟨hstands, hbefore⟩ := @standsFor_allowAll r b calls created hr hb hcap [call] hsorted
  generalize allowAll r b (new created) calls = outcome at hstands hbefore ⊢
  obtain ⟨allowed, bucket⟩ := outcome
  have hrefused : (bucket.allowAt call.now call.units r b).1 = false ↔
      ¬ EndsWithin (r : ℚ) (r * b) ((allowed ++ [call]).reverse.map BucketCall.request)
        call.now := by
    have hlist : (allowed ++ [call]).reverse.map BucketCall.request =
        call.request :: allowed.reverse.map BucketCall.request := by simp
    have hiff : EndsWithin (r : ℚ) (r * b)
        (call.request :: allowed.reverse.map BucketCall.request) call.now ↔ _ :=
      endsWithin_cons_iff
    rw [hlist, hiff, not_le]
    obtain ⟨hallowed, hunits, -⟩ | ⟨hno, hunits, -⟩ := hstands.step hr hb hcap hbefore
    · rw [hallowed]
      exact ⟨nofun, fun hless => absurd hunits (not_le.mpr hless)⟩
    · exact ⟨fun _ => hunits, fun _ => hno⟩
  simp only [hrefused, EndsWithin, not_forall, not_le, exists_prop]
  constructor
  · rintro ⟨window, first, early, hsplit, hover⟩
    obtain ⟨front, back, hlist, rfl, hback⟩ := List.map_eq_append_iff.mp hsplit
    obtain ⟨oldest, back, rfl, rfl, -⟩ := List.map_eq_cons_iff.mp hback
    refine ⟨back.reverse, oldest, front.reverse, ?_, ?_⟩
    · rw [← List.reverse_inj, hlist]
      simp
    · have htotal := total_reverse_map (oldest :: front.reverse)
      rw [List.reverse_cons, List.map_append, List.reverse_reverse, List.map_cons,
        List.map_nil] at htotal
      rw [← htotal]
      exact hover
  · rintro ⟨early, first, window, hsplit, hover⟩
    refine ⟨window.reverse.map BucketCall.request, first.request,
      early.reverse.map BucketCall.request, ?_, ?_⟩
    · rw [hsplit]
      simp
    · have htotal := total_reverse_map (first :: window)
      rw [List.reverse_cons, List.map_append] at htotal
      rw [List.map_cons, List.map_nil] at htotal
      rw [htotal]
      exact hover

/-- The bucket lets through what a policer with its rate and its burst lets through. -/
theorem exact_policer (r b : Nat) (hr : 1 ≤ r) (hb : 1 ≤ b) (hcap : r * b < 2 ^ 53) (created : ℚ)
    (calls : List BucketCall)
    (hsorted : calls.Pairwise (fun call later => call.now ≤ later.now)) :
    (∀ start d : ℚ, 0 ≤ d → (units ((allowAll r b (new created) calls).1.filter
      (fun call => start ≤ call.now ∧ call.now ≤ start + d)) : ℚ) ≤ r * b + r * d) ∧
    ∀ before call after, calls = before ++ call :: after →
      (((allowAll r b (new created) before).2.allowAt call.now call.units r b).1 = false ↔
        ∃ early first window, (allowAll r b (new created) before).1 ++ [call] =
          early ++ first :: window ∧
            (r * b + r * (call.now - first.now) : ℚ) < units (first :: window)) := by
  refine ⟨fun start d hd => units_window_le hr hb hcap hsorted hd, ?_⟩
  rintro before call after rfl
  rw [List.append_cons] at hsorted
  exact refused_iff hr hb hcap (List.pairwise_append.mp hsorted).1

theorem exact_policer_small :
    let calls : List BucketCall := [⟨0, 2000⟩, ⟨1 / 2, 1000⟩, ⟨1, 1000⟩]
    (allowAll 1000 2 (new 0) calls).1 = [⟨0, 2000⟩, ⟨1, 1000⟩] ∧
      (units ((allowAll 1000 2 (new 0) calls).1.filter
        (fun call => 0 ≤ call.now ∧ call.now ≤ 0 + 1)) : ℚ) ≤ (1000 : Nat) * (2 : Nat) +
          (1000 : Nat) * 1 := by
  refine ⟨by decide +kernel, ?_⟩
  exact (exact_policer 1000 2 (by decide) (by decide) (by decide) 0 _ (by decide +kernel)).1 0 1
    (by decide)

end Policer

end TokenBucket

end VRCStreamer
