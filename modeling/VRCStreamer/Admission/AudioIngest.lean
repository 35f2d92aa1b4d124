import VRCStreamer.Admission.TokenBucket
import VRCStreamer.Constants

/-!
# Limits of audio messages

The part of `streamer_session` of `websocket.rs` that meters the binary messages with audio: a
message beyond the hard limits ends the session, one beyond the usual limits is dropped.
-/

namespace VRCStreamer

open Policing

/-- The buckets that a session meters audio with. -/
structure AudioIngest where
  audioIngest : TokenBucket
  audioFramesIngest : TokenBucket
  audioAbuseIngest : TokenBucket
  audioAbuseFramesIngest : TokenBucket
  deriving DecidableEq

/-- What becomes of a message. A message that is not taken has exceeded one of two limits. -/
inductive AudioVerdict
  | kicked (withinAbuseFrameRate withinAbuseByteRate : Bool)
  | dropped (withinFrameRate withinByteRate : Bool)
  | taken
deriving DecidableEq

/-- No limit on bytes was exceeded. -/
def AudioVerdict.WithinBytes : AudioVerdict → Prop
  | .kicked _ withinAbuseByteRate => withinAbuseByteRate = true
  | .dropped _ withinByteRate => withinByteRate = true
  | .taken => True

instance : DecidablePred AudioVerdict.WithinBytes
  | .kicked _ withinAbuseByteRate => inferInstanceAs (Decidable (withinAbuseByteRate = true))
  | .dropped _ withinByteRate => inferInstanceAs (Decidable (withinByteRate = true))
  | .taken => inferInstanceAs (Decidable True)

namespace AudioIngest

def new (now : ℚ) : AudioIngest := ⟨.new now, .new now, .new now, .new now⟩

/-- A message of some bytes. The usual limits count it once the hard ones have let it through. -/
def receive (ingest : AudioIngest) (message : BucketCall) : AudioVerdict × AudioIngest :=
  let abuseFrames := ingest.audioAbuseFramesIngest.allowAt message.now 1
    AAC_ABUSE_MAX_FRAMES_PER_SECOND AAC_ABUSE_BURST_SECS
  let abuseBytes := ingest.audioAbuseIngest.allowAt message.now message.units
    AAC_ABUSE_MAX_INGEST_BYTES_PER_SECOND AAC_ABUSE_BURST_SECS
  let ingest := { ingest with
    audioAbuseFramesIngest := abuseFrames.2, audioAbuseIngest := abuseBytes.2 }
  if !abuseFrames.1 || !abuseBytes.1 then (.kicked abuseFrames.1 abuseBytes.1, ingest)
  else
    let frames := ingest.audioFramesIngest.allowAt message.now 1
      AAC_MAX_FRAMES_PER_SECOND AAC_INGEST_BURST_SECS
    let bytes := ingest.audioIngest.allowAt message.now message.units
      AAC_MAX_INGEST_BYTES_PER_SECOND AAC_INGEST_BURST_SECS
    let ingest := { ingest with audioFramesIngest := frames.2, audioIngest := bytes.2 }
    if !frames.1 || !bytes.1 then (.dropped frames.1 bytes.1, ingest) else (.taken, ingest)

/-- The verdicts on messages, up to the one that ends the session. -/
def receiveAll : AudioIngest → List BucketCall → List AudioVerdict
  | _, [] => []
  | ingest, message :: messages =>
    match ingest.receive message with
    | (.kicked frames bytes, _) => [.kicked frames bytes]
    | (verdict, ingest) => verdict :: receiveAll ingest messages

/-! ## The byte limits -/

/-- Both byte buckets stand for the messages so far. -/
structure Counts (ingest : AudioIngest) (requests : List (Request ℚ)) : Prop where
  usual : ingest.audioIngest.StandsFor AAC_MAX_INGEST_BYTES_PER_SECOND AAC_INGEST_BURST_SECS
    requests
  hard : ingest.audioAbuseIngest.StandsFor AAC_ABUSE_MAX_INGEST_BYTES_PER_SECOND
    AAC_ABUSE_BURST_SECS requests

/-- Both byte buckets wait for messages. -/
structure Before (ingest : AudioIngest) (messages : List BucketCall) : Prop where
  usual : ingest.audioIngest.Before messages
  hard : ingest.audioAbuseIngest.Before messages

/-- Messages that keep both byte limits. -/
structure Fits (requests : List (Request ℚ)) : Prop where
  usual : Conforms (AAC_MAX_INGEST_BYTES_PER_SECOND : ℚ)
    (AAC_MAX_INGEST_BYTES_PER_SECOND * AAC_INGEST_BURST_SECS) requests
  hard : Conforms (AAC_ABUSE_MAX_INGEST_BYTES_PER_SECOND : ℚ)
    (AAC_ABUSE_MAX_INGEST_BYTES_PER_SECOND * AAC_ABUSE_BURST_SECS) requests

theorem counts_new (now : ℚ) : Counts (new now) [] :=
  ⟨TokenBucket.standsFor_new _ _ now, TokenBucket.standsFor_new _ _ now⟩

end AudioIngest

/-- A bucket lets a message through that fits behind the messages it stands for. -/
theorem TokenBucket.StandsFor.allowed {r b : Nat} {bucket : TokenBucket} {message : BucketCall}
    {messages : List BucketCall} {requests : List (Request ℚ)}
    (h : bucket.StandsFor r b requests) (hr : 1 ≤ r) (hb : 1 ≤ b) (hcap : r * b < 2 ^ 53)
    (hbefore : bucket.Before (message :: messages))
    (hfits : Conforms (r : ℚ) (r * b) (message.request :: requests)) :
    (bucket.allowAt message.now message.units r b).1 = true ∧
      (bucket.allowAt message.now message.units r b).2.StandsFor r b
        (message.request :: requests) ∧
      (bucket.allowAt message.now message.units r b).2.Before messages := by
  have hunits := endsWithin_cons_iff.mp hfits.1
  obtain ⟨hallowed, -, hstands⟩ | ⟨-, hless, -⟩ := h.step hr hb hcap hbefore
  · exact ⟨hallowed, hstands, hbefore.next hr hb⟩
  · exact absurd hunits (not_le.mpr hless)

/-- A bucket lets messages through that fit together. -/
theorem TokenBucket.StandsFor.allowAll_eq {r b : Nat} {bucket : TokenBucket}
    {messages : List BucketCall} {requests : List (Request ℚ)}
    (h : bucket.StandsFor r b requests) (hr : 1 ≤ r) (hb : 1 ≤ b) (hcap : r * b < 2 ^ 53)
    (hbefore : bucket.Before messages)
    (hfits : Conforms (r : ℚ) (r * b) ((messages.map BucketCall.request).reverse ++ requests)) :
    (bucket.allowAll r b messages).1 = messages := by
  induction messages generalizing bucket requests with
  | nil => rfl
  | cons message messages ih =>
    rw [List.map_cons, List.reverse_cons, List.append_assoc] at hfits
    obtain ⟨hallowed, hnext, hwait⟩ := h.allowed hr hb hcap hbefore hfits.of_append
    rw [allowAll_of_allowed hallowed]
    exact congrArg (message :: ·) (ih hnext hwait hfits)

namespace AudioIngest

variable {ingest : AudioIngest} {message : BucketCall} {messages : List BucketCall}
variable {requests : List (Request ℚ)}

/-- One message that fits. -/
theorem Counts.receive (h : Counts ingest requests) (hbefore : Before ingest (message :: messages))
    (hfits : Fits (message.request :: requests)) :
    (∃ frames, (ingest.receive message).1 = .kicked frames true) ∨
      ((∃ frames, (ingest.receive message).1 = .dropped frames true) ∨
        (ingest.receive message).1 = .taken) ∧
      Counts (ingest.receive message).2 (message.request :: requests) ∧
      Before (ingest.receive message).2 messages := by
  obtain ⟨hhard, hhardCounts, hhardBefore⟩ :=
    h.hard.allowed (by decide) (by decide) (by decide) hbefore.hard hfits.hard
  obtain ⟨husual, husualCounts, husualBefore⟩ :=
    h.usual.allowed (by decide) (by decide) (by decide) hbefore.usual hfits.usual
  rw [AudioIngest.receive]
  simp only [hhard, husual, Bool.not_true, Bool.or_false]
  split
  next => exact .inl ⟨_, rfl⟩
  next =>
    right
    split
    next => exact ⟨.inl ⟨_, rfl⟩, ⟨husualCounts, hhardCounts⟩, ⟨husualBefore, hhardBefore⟩⟩
    next => exact ⟨.inr rfl, ⟨husualCounts, hhardCounts⟩, ⟨husualBefore, hhardBefore⟩⟩

theorem Fits.of_append {front back : List (Request ℚ)} (h : Fits (front ++ back)) : Fits back :=
  ⟨h.usual.of_append, h.hard.of_append⟩

/-- Messages that fit exceed no limit on bytes. -/
theorem Counts.receiveAll (h : Counts ingest requests) (hbefore : Before ingest messages)
    (hfits : Fits ((messages.map BucketCall.request).reverse ++ requests)) :
    ∀ verdict ∈ ingest.receiveAll messages, verdict.WithinBytes := by
  induction messages generalizing ingest requests with
  | nil => exact nofun
  | cons message messages ih =>
    rw [List.map_cons, List.reverse_cons, List.append_assoc] at hfits
    have hfirst : Fits (message.request :: requests) := hfits.of_append
    have hnext := h.receive hbefore hfirst
    rw [AudioIngest.receiveAll]
    generalize ingest.receive message = outcome at hnext ⊢
    obtain ⟨verdict, next⟩ := outcome
    obtain ⟨frames, hverdict⟩ | ⟨⟨frames, hverdict⟩ | hverdict, hcounts, hwait⟩ := hnext
    · cases hverdict
      intro verdict hmem
      rw [List.mem_singleton.mp hmem]
      exact rfl
    · cases hverdict
      intro verdict hmem
      obtain rfl | hmem := List.mem_cons.mp hmem
      · exact rfl
      · exact ih hcounts hwait hfits verdict hmem
    · cases hverdict
      intro verdict hmem
      obtain rfl | hmem := List.mem_cons.mp hmem
      · exact trivial
      · exact ih hcounts hwait hfits verdict hmem

end AudioIngest

end VRCStreamer
