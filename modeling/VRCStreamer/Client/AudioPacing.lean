import VRCStreamer.Admission.AudioIngest

/-!
# Audio pacing of the client

`consumeAudioSendBudget` of `streamer.js` over exact numbers, with times in milliseconds, and what
the server makes of the packets that it lets through.
-/

namespace VRCStreamer

open Policing

def maxAudioSendBytesPerSecond : Nat := 48000
def maxAudioSendBurstBytes : Nat := maxAudioSendBytesPerSecond

/-- The fields of a publisher's session that pace its audio. -/
structure AudioSendBudget where
  audioSendBudget : ℚ
  audioSendBudgetAt : ℚ
  deriving DecidableEq

/-- A packet that is ready to be sent. -/
structure AudioPacket where
  now : ℚ
  byteLength : Nat
  deriving DecidableEq

def AudioPacket.request (packet : AudioPacket) : Request ℚ := ⟨packet.now, packet.byteLength⟩

namespace AudioSendBudget

/-- The budget of a new session. -/
def new (now : ℚ) : AudioSendBudget := ⟨maxAudioSendBurstBytes, now⟩

def consumeAudioSendBudget (session : AudioSendBudget) (packet : AudioPacket) :
    Bool × AudioSendBudget :=
  let elapsed := max 0 (packet.now - session.audioSendBudgetAt)
  let budget := min (maxAudioSendBurstBytes : ℚ)
    (session.audioSendBudget + elapsed * maxAudioSendBytesPerSecond / 1000)
  if budget < packet.byteLength then (false, ⟨budget, packet.now⟩)
  else (true, ⟨budget - packet.byteLength, packet.now⟩)

/-- The packets that are let through. -/
def letThrough : AudioSendBudget → List AudioPacket → List AudioPacket
  | _, [] => []
  | session, packet :: packets =>
    let outcome := session.consumeAudioSendBudget packet
    let rest := letThrough outcome.2 packets
    if outcome.1 then packet :: rest else rest

/-! ## The windows of the client -/

/-- The budget stands for the packets that were let through, the last one first. -/
structure StandsFor (session : AudioSendBudget) (requests : List (Request ℚ)) : Prop where
  conforms : Conforms (48 : ℚ) 48000 requests
  holds : Holds (48 : ℚ) 48000 session.audioSendBudget session.audioSendBudgetAt requests

variable {session : AudioSendBudget} {packet : AudioPacket} {packets : List AudioPacket}
variable {requests : List (Request ℚ)}

theorem standsFor_new (now : ℚ) : StandsFor (new now) [] :=
  ⟨trivial, Holds.full (by norm_num)⟩

theorem StandsFor.consume (h : StandsFor session requests)
    (hle : session.audioSendBudgetAt ≤ packet.now) :
    (session.consumeAudioSendBudget packet).2.audioSendBudgetAt = packet.now ∧
      StandsFor (session.consumeAudioSendBudget packet).2
        (if (session.consumeAudioSendBudget packet).1 then packet.request :: requests
          else requests) := by
  have hbudget : min (maxAudioSendBurstBytes : ℚ) (session.audioSendBudget +
      max 0 (packet.now - session.audioSendBudgetAt) * maxAudioSendBytesPerSecond / 1000) =
        available (48 : ℚ) 48000 requests packet.now := by
    rw [← h.holds.refill packet.now hle, max_eq_right (sub_nonneg.mpr hle), min_comm]
    norm_num [maxAudioSendBurstBytes, maxAudioSendBytesPerSecond, mul_div_assoc]
  simp only [consumeAudioSendBudget, hbudget]
  by_cases hless : available (48 : ℚ) 48000 requests packet.now < packet.byteLength
  · rw [if_pos hless]
    exact ⟨rfl, h.conforms, h.holds.refuse (by norm_num) hle⟩
  · have hunits : packet.request.units ≤ available (48 : ℚ) 48000 requests packet.request.time :=
      not_lt.mp hless
    have hholds : Holds (48 : ℚ) 48000 _ _ (packet.request :: requests) := h.holds.allow hle
    rw [if_neg hless]
    exact ⟨rfl, h.conforms.cons hunits, hholds⟩

/-- What is let through conforms to the rate and the burst of the client. -/
theorem StandsFor.letThrough (h : StandsFor session requests)
    (hsorted : packets.Pairwise (fun packet later => packet.now ≤ later.now))
    (hle : ∀ packet ∈ packets, session.audioSendBudgetAt ≤ packet.now) :
    Conforms (48 : ℚ) 48000
      (((session.letThrough packets).map AudioPacket.request).reverse ++ requests) := by
  induction packets generalizing session requests with
  | nil => exact h.conforms
  | cons packet packets ih =>
    obtain ⟨hfirst, hrest⟩ := List.pairwise_cons.mp hsorted
    obtain ⟨hnow, hnext⟩ := h.consume (hle packet List.mem_cons_self)
    simp only [AudioSendBudget.letThrough]
    generalize session.consumeAudioSendBudget packet = outcome at hnow hnext ⊢
    obtain ⟨allowed, next⟩ := outcome
    have hwait : ∀ packet ∈ packets, next.audioSendBudgetAt ≤ packet.now := by
      rw [show next.audioSendBudgetAt = packet.now from hnow]
      exact hfirst
    cases allowed with
    | true =>
      have hrun := ih hnext hrest hwait
      rw [if_pos rfl, List.map_cons, List.reverse_cons, List.append_assoc]
      exact hrun
    | false => exact ih hnext hrest hwait

end AudioSendBudget

/-! ## Delivery -/

/-- A packet that was sent, and how long it took to arrive, in seconds. -/
structure AudioDelivery where
  packet : AudioPacket
  delay : ℚ
  deriving DecidableEq

/-- The message on the server, whose clock may have started at another time. -/
def AudioDelivery.message (offset : ℚ) (delivery : AudioDelivery) : BucketCall :=
  ⟨offset + delivery.packet.now / 1000 + delivery.delay, delivery.packet.byteLength⟩

section Delivery

variable {offset : ℚ} {deliveries : List AudioDelivery}

/-- Every window of the client takes the server at most four seconds less. -/
theorem window_le {later earlier : AudioDelivery} (hlater : 0 ≤ later.delay)
    (hearlier : earlier.delay ≤ 4) :
    later.packet.now - earlier.packet.now ≤
      ((later.message offset).now - (earlier.message offset).now) * 1000 + 4000 := by
  simp only [AudioDelivery.message]
  linarith

/-- What the client lets through fits the server, however it is delayed. -/
theorem fits_of_conforms
    (hconforms : Conforms (48 : ℚ) 48000
      (deliveries.map (fun delivery => delivery.packet.request)).reverse)
    (hdelay : ∀ delivery ∈ deliveries, 0 ≤ delivery.delay ∧ delivery.delay ≤ 4)
    (horder : (deliveries.map (AudioDelivery.message offset)).Pairwise
      (fun message later => message.now ≤ later.now)) :
    AudioIngest.Fits ((deliveries.map (AudioDelivery.message offset)).map
      BucketCall.request).reverse := by
  let seen := deliveries.reverse.map (fun delivery =>
    (delivery.packet.request, (delivery.message offset).request))
  have hsent : seen.map Prod.fst =
      (deliveries.map (fun delivery => delivery.packet.request)).reverse := by
    simp [seen, Function.comp_def]
  have hreceived : seen.map Prod.snd =
      ((deliveries.map (AudioDelivery.message offset)).map BucketCall.request).reverse := by
    simp [seen, Function.comp_def]
  have hunits : ∀ entry ∈ seen, entry.2.units = entry.1.units := by
    intro entry hmem
    obtain ⟨delivery, -, rfl⟩ := List.mem_map.mp hmem
    rfl
  have hwindow : deliveries.reverse.Pairwise (fun later earlier =>
      (earlier.message offset).now ≤ (later.message offset).now ∧
      later.packet.now - earlier.packet.now ≤
        ((later.message offset).now - (earlier.message offset).now) * 1000 + 4000) := by
    rw [List.pairwise_reverse]
    apply (List.pairwise_map.mp horder).imp_of_mem
    intro earlier later hearlier hlater hle
    exact ⟨hle, window_le (hdelay later hlater).1 (hdelay earlier hearlier).2⟩
  rw [← hsent] at hconforms
  rw [← hreceived]
  have husual : Conforms (48000 : ℚ) 240000 (seen.map Prod.snd) := by
    apply hconforms.transfer (by norm_num) hunits
    apply List.pairwise_map.mpr
    apply hwindow.imp
    rintro later earlier ⟨-, hle⟩
    simp only [AudioPacket.request, BucketCall.request]
    linarith
  have hhard : Conforms (96000 : ℚ) 960000 (seen.map Prod.snd) := by
    apply hconforms.transfer (by norm_num) hunits
    apply List.pairwise_map.mpr
    apply hwindow.imp
    rintro later earlier ⟨hinorder, hle⟩
    simp only [AudioPacket.request, BucketCall.request]
    linarith
  have hrate : (AAC_MAX_INGEST_BYTES_PER_SECOND : ℚ) = 48000 := by
    have hbytes : AAC_MAX_INGEST_BYTES_PER_SECOND = 48000 := by decide
    exact (congrArg Nat.cast hbytes).trans Nat.cast_ofNat
  have hhardRate : (AAC_ABUSE_MAX_INGEST_BYTES_PER_SECOND : ℚ) = 96000 := by
    rw [AAC_ABUSE_MAX_INGEST_BYTES_PER_SECOND, Nat.cast_mul, hrate]
    norm_num
  constructor
  · rw [hrate, AAC_INGEST_BURST_SECS]
    norm_num
    exact husual
  · rw [hhardRate, AAC_ABUSE_BURST_SECS]
    norm_num
    exact hhard

end Delivery

/-- Both byte buckets of the server let every packet through that the client lets through, and so
no packet is held against the session for its bytes. -/
theorem audio_pacing_within_bytes (created : ℚ) (packets : List AudioPacket)
    (hsorted : packets.Pairwise (fun packet later => packet.now ≤ later.now))
    (hcreated : ∀ packet ∈ packets, created ≤ packet.now)
    (offset started : ℚ) (deliveries : List AudioDelivery)
    (hsent : deliveries.map AudioDelivery.packet =
      (AudioSendBudget.new created).letThrough packets)
    (hdelay : ∀ delivery ∈ deliveries, 0 ≤ delivery.delay ∧ delivery.delay ≤ 4)
    (horder : (deliveries.map (AudioDelivery.message offset)).Pairwise
      (fun message later => message.now ≤ later.now)) :
    let messages := deliveries.map (AudioDelivery.message offset)
    (TokenBucket.allowAll AAC_MAX_INGEST_BYTES_PER_SECOND AAC_INGEST_BURST_SECS
      (.new started) messages).1 = messages ∧
    (TokenBucket.allowAll AAC_ABUSE_MAX_INGEST_BYTES_PER_SECOND AAC_ABUSE_BURST_SECS
      (.new started) messages).1 = messages ∧
    ∀ verdict ∈ (AudioIngest.new started).receiveAll messages, verdict.WithinBytes := by
  intro messages
  have hconforms := (AudioSendBudget.standsFor_new created).letThrough hsorted hcreated
  rw [← hsent, List.append_nil, List.map_map] at hconforms
  have hfits : AudioIngest.Fits ((messages.map BucketCall.request).reverse ++ []) := by
    rw [List.append_nil]
    exact fits_of_conforms hconforms hdelay horder
  have hcounts := AudioIngest.counts_new started
  have hbefore : AudioIngest.Before (.new started) messages := ⟨⟨horder, nofun⟩, ⟨horder, nofun⟩⟩
  refine ⟨?_, ?_, hcounts.receiveAll hbefore hfits⟩
  · exact hcounts.usual.allowAll_eq (by decide) (by decide) (by decide) hbefore.usual hfits.usual
  · exact hcounts.hard.allowAll_eq (by decide) (by decide) (by decide) hbefore.hard hfits.hard

/-- Two bursts of a second arrive together. -/
theorem audio_pacing_within_bytes_burst :
    let packets : List AudioPacket := [⟨0, 48000⟩, ⟨1000, 48000⟩]
    let deliveries : List AudioDelivery := [⟨⟨0, 48000⟩, 4⟩, ⟨⟨1000, 48000⟩, 3⟩]
    let messages := deliveries.map (AudioDelivery.message 0)
    (AudioSendBudget.new 0).letThrough packets = packets ∧
      (TokenBucket.allowAll 48000 5 (.new 0) messages).1 = messages := by
  refine ⟨by decide +kernel, ?_⟩
  exact (audio_pacing_within_bytes 0 [⟨0, 48000⟩, ⟨1000, 48000⟩] (by decide +kernel)
    (by decide +kernel) 0 0 _ (by decide +kernel) (by decide +kernel) (by decide +kernel)).1

end VRCStreamer
