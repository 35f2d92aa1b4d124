import VRCStreamer.Client.AudioSwap
import Mathlib.Data.List.Nodup

/-!
# The events of an audio session

Every event keeps the session orderly, so the order of captured blocks, messages and swaps does
not matter.
-/

namespace VRCStreamer

open Concurrency

namespace AudioSession

variable {session session' : AudioSession} {block : PcmBlock} {rest : List PcmBlock}

namespace Orderly

/-! ## Captured blocks -/

theorem capture (h : Orderly session rest) (block : PcmBlock)
    (hblock : block.index = session.captured.length) (audioClockSamples : Nat) :
    Orderly { session with audioClockSamples, captured := session.captured ++ [block] }
      (rest ++ [block]) :=
  ⟨h.kept.capture hblock audioClockSamples, h.numbered, h.alone, h.staged, h.calm⟩

theorem withBuffers {swap : AudioEncoderSwap} (h : Orderly session rest)
    (hswap : session.audioEncoderSwap = some swap) (buffers : List PcmBlock) :
    Orderly { session with audioEncoderSwap := some { swap with buffers } } rest := by
  have hnumbered := h.numbered
  have halone := h.alone
  have hstaged := h.staged
  rw [next, hswap] at hnumbered
  rw [hswap] at halone hstaged
  exact ⟨⟨h.kept.ledger, h.kept.idle, h.kept.droppedBlocks_eq, h.kept.pcmBlocks_eq⟩, hnumbered,
    halone.imp_right nofun, hstaged, h.calm⟩

theorem buffer {swap : AudioEncoderSwap} (h : Orderly session (swap.buffers ++ [block]))
    (hswap : session.audioEncoderSwap = some swap) :
    Orderly (session.buffer swap block) (session.buffer swap block).waiting := by
  rw [AudioSession.buffer]
  split
  next oldest buffers hbuffers =>
    rw [hbuffers] at h
    split
    · have hdropped := Orderly.recordDrop [] (buffers ++ [block]) h swap.encoder
      exact hdropped.withBuffers hswap (buffers ++ [block])
    · rw [hbuffers]
      exact h.withBuffers hswap (oldest :: buffers ++ [block])
  next hbuffers =>
    rw [hbuffers] at h
    exact h.withBuffers hswap [block]

theorem waiting_eq_nil (hswap : session.audioEncoderSwap = none) : session.waiting = [] := by
  rw [waiting, hswap]
  rfl

theorem audioEncoderSwap_encode (session : AudioSession) (block : PcmBlock) :
    (session.encode block).audioEncoderSwap = session.audioEncoderSwap := by
  rw [AudioSession.encode]
  split <;> rfl

/-- A new block is buffered during a swap, and goes to the encoder otherwise. -/
theorem route (h : Orderly session (session.waiting ++ [block])) :
    let routed := match session.audioEncoderSwap with
      | some swap => session.buffer swap block
      | none => session.encode block
    Orderly routed routed.waiting := by
  rw [waiting] at h
  split
  next swap hswap =>
    rw [hswap] at h
    exact h.buffer hswap
  next hswap =>
    rw [hswap] at h
    show Orderly (session.encode block) (session.encode block).waiting
    rw [waiting_eq_nil ((audioEncoderSwap_encode session block).trans hswap)]
    exact Orderly.encode h hswap

theorem encodeAudioBlock (h : Orderly session session.waiting) (timestampSamples : Int)
    (currentTimestamp : UInt32) :
    Orderly (session.encodeAudioBlock timestampSamples currentTimestamp)
      (session.encodeAudioBlock timestampSamples currentTimestamp).waiting := by
  rw [AudioSession.encodeAudioBlock]
  split
  next => exact h
  next =>
    have hcaptured := h.capture ⟨session.captured.length, timestampSamples.toNat⟩ rfl
      (max session.audioClockSamples (timestampSamples.toNat + framesPerChunk))
    dsimp only
    split
    next =>
      have hdropped := hcaptured.recordDrop session.waiting []
        ((session.audioEncoderSwap.map (·.encoder)).getD session.encoder)
      rw [List.append_nil] at hdropped
      exact hdropped
    next => exact Orderly.route hcaptured

/-- The blocks that waited for a swap are handed on in order. -/
theorem encode_all {blocks : List PcmBlock} (h : Orderly session blocks)
    (hswap : session.audioEncoderSwap = none) :
    Orderly (blocks.foldl AudioSession.encode session)
      (blocks.foldl AudioSession.encode session).waiting := by
  induction blocks generalizing session with
  | nil =>
    show Orderly session session.waiting
    rw [waiting_eq_nil hswap]
    exact h
  | cons block blocks ih =>
    exact ih (h.encode hswap) ((audioEncoderSwap_encode session block).trans hswap)

/-! ## Swaps -/

theorem replaceAudioEncoder (h : Orderly session session.waiting) (modeKey : Nat) :
    Orderly (session.replaceAudioEncoder modeKey)
      (session.replaceAudioEncoder modeKey).waiting := by
  rw [AudioSession.replaceAudioEncoder]
  split
  next => exact h
  next =>
    split
    next => exact h
    next hidle =>
      rw [not_or, Option.not_isSome_iff_eq_none, Option.not_isSome_iff_eq_none] at hidle
      refine ⟨⟨h.kept.ledger, h.kept.idle, h.kept.droppedBlocks_eq, h.kept.pcmBlocks_eq⟩, ?_,
        .inr hidle.2, h.staged, h.calm⟩
      refine ⟨h.numbered.encoder_lt.trans (Nat.lt_succ_self _), h.numbered.current, ?_, ?_⟩
      · intro number hnumber
        exact (h.numbered.replaced_lt number hnumber).trans (Nat.lt_succ_self _)
      · intro number hnumber
        obtain rfl : session.created = number := Option.some.inj hnumber
        refine ⟨Nat.lt_succ_self _, h.numbered.encoder_lt.ne', ?_⟩
        intro hreplaced
        exact (h.numbered.replaced_lt _ hreplaced).false

theorem update {number : Nat} {f : AacEncoder → AacEncoder} (h : Orderly session rest)
    (hcurrent : number = session.encoder →
      Ledger session.captured (session.handed.map Prod.snd) (session.dropped.map Prod.snd) rest
        (items (f (session.encoders number)).worker.pipeline) (session.sent.map Prod.snd) ∧
      FlushStage session.audioEncoderSwap number (f (session.encoders number)).flushing
        (f (session.encoders number)).worker.pipeline)
    (hother : number ≠ session.encoder →
      (f (session.encoders number)).worker.pipeline = [] ∧
      (f (session.encoders number)).flushing = false)
    (hdropped : (f (session.encoders number)).droppedBlocks =
      (session.encoders number).droppedBlocks)
    (hposted : (f (session.encoders number)).pcmBlocks = (session.encoders number).pcmBlocks) :
    Orderly (session.update number f) rest where
  kept := h.kept.update (fun heq => (hcurrent heq).1) (fun hne => (hother hne).1) hdropped hposted
  numbered := h.numbered
  alone := h.alone
  staged := by
    show FlushStage session.audioEncoderSwap session.encoder
      ((session.update number f).encoders session.encoder).flushing
      ((session.update number f).pipe session.encoder)
    by_cases hnumber : session.encoder = number
    · rw [pipe, hnumber, encoders_update_self]
      exact (hcurrent hnumber.symm).2
    · rw [pipe, encoders_update_of_ne hnumber]
      exact h.staged
  calm other hne := by
    by_cases hnumber : other = number
    · subst hnumber
      rw [encoders_update_self]
      exact (hother hne).2
    · rw [encoders_update_of_ne hnumber]
      exact h.calm other hne

/-- One encoder has changed, but not in what the session's order is about. -/
theorem update_same {number : Nat} {f : AacEncoder → AacEncoder} (h : Orderly session rest)
    (hworker : (f (session.encoders number)).worker.pipeline = session.pipe number)
    (hflushing : (f (session.encoders number)).flushing = (session.encoders number).flushing)
    (hdropped : (f (session.encoders number)).droppedBlocks =
      (session.encoders number).droppedBlocks)
    (hposted : (f (session.encoders number)).pcmBlocks = (session.encoders number).pcmBlocks) :
    Orderly (session.update number f) rest := by
  refine h.update ?_ ?_ hdropped hposted
  · rintro rfl
    rw [hworker, hflushing]
    exact ⟨h.kept.ledger, h.staged⟩
  · intro hne
    rw [hworker, hflushing]
    exact ⟨h.kept.idle number hne, h.calm number hne⟩

theorem beginAudioEncoderSwap (h : Orderly session session.waiting)
    (hbegin : session.beginAudioEncoderSwap = some session') :
    Orderly session' session'.waiting := by
  obtain ⟨⟨encoder, modeKey⟩, hpreparing, hbegin⟩ := Option.bind_eq_some_iff.mp hbegin
  dsimp only at hbegin
  split at hbegin
  next => cases hbegin
  next =>
    obtain rfl := Option.some.inj hbegin
    have hswap : session.audioEncoderSwap = none :=
      h.alone.resolve_left (by rw [hpreparing]; exact Option.some_ne_none _)
    obtain ⟨hitems, hflushing⟩ : NoFlush (session.pipe session.encoder) ∧
        (session.encoders session.encoder).flushing = false := by
      have hstaged := h.staged
      rwa [hswap] at hstaged
    have hflush : (session.encoders session.encoder).flush = _ :=
      if_neg (Bool.not_eq_true _ ▸ hflushing)
    have hpipe : (session.encoders session.encoder).flush.worker.pipeline =
        session.pipe session.encoder ++ [.flush] := by
      rw [hflush, Worker.pipeline_post]
      rfl
    have hkept : Kept (session.update session.encoder .flush) session.waiting := by
      apply h.kept.update
      · intro _
        rw [hpipe, items_append, items_cons_flush, items_nil, List.append_nil]
        exact h.kept.ledger
      · exact fun hother => absurd rfl hother
      · rw [hflush]
      · rw [hflush]
    rw [waiting_eq_nil hswap] at hkept
    have hnumbered := h.numbered
    rw [next, hpreparing] at hnumbered
    refine ⟨⟨hkept.ledger, hkept.idle, hkept.droppedBlocks_eq, hkept.pcmBlocks_eq⟩, hnumbered,
      .inl rfl, ?_, ?_⟩
    · refine ⟨rfl, ?_⟩
      show FlushLast ((session.update session.encoder .flush).pipe session.encoder)
      rw [pipe, encoders_update_self, hpipe]
      exact hitems.post_flush
    · intro other hother
      show ((session.update session.encoder .flush).encoders other).flushing = false
      rw [encoders_update_of_ne (show other ≠ session.encoder from hother)]
      exact h.calm other hother

theorem abandonAudioEncoder (h : Orderly session session.waiting)
    (habandon : session.abandonAudioEncoder = some session') :
    Orderly session' session'.waiting := by
  obtain ⟨⟨encoder, modeKey⟩, hpreparing, rfl⟩ := Option.map_eq_some_iff.mp habandon
  have hnumbered := h.numbered
  rw [next, hpreparing] at hnumbered
  have hcalm : (session.encoders encoder).flushing = false :=
    h.calm encoder (hnumbered.next_ne encoder rfl).2.1
  have hclosed : Orderly (session.update encoder .close) session.waiting :=
    h.update_same rfl hcalm.symm rfl rfl
  have hswap : session.audioEncoderSwap = none :=
    h.alone.resolve_left (by rw [hpreparing]; exact Option.some_ne_none _)
  refine ⟨⟨hclosed.kept.ledger, hclosed.kept.idle, hclosed.kept.droppedBlocks_eq,
    hclosed.kept.pcmBlocks_eq⟩, ?_, .inl rfl, hclosed.staged, hclosed.calm⟩
  refine ⟨hnumbered.encoder_lt, hnumbered.current, hnumbered.replaced_lt, ?_⟩
  intro number hnumber
  have hnone : (none : Option Nat).or (session.audioEncoderSwap.map (·.encoder)) = some number :=
    hnumber
  rw [hswap] at hnone
  cases hnone

/-- Once its flush is answered, nothing is left behind the previous encoder. -/
theorem switch {swap : AudioEncoderSwap} (h : Orderly session rest)
    (hswap : session.audioEncoderSwap = some swap) (hflushed : swap.flushed = true) :
    Orderly
      { session.update swap.previous .close with
        encoder := swap.encoder
        encoderModeKey := swap.modeKey
        audioEncoderSwap := none
        replaced := session.replaced ++ [swap.previous] } rest := by
  have hstaged := h.staged
  rw [hswap, FlushStage, if_pos hflushed] at hstaged
  obtain ⟨hprevious, hempty, hflushing⟩ := hstaged
  have hnone : session.preparingAudioEncoder = none :=
    h.alone.resolve_right (by rw [hswap]; exact Option.some_ne_none _)
  have hnumbered := h.numbered
  rw [next, hnone, hswap] at hnumbered
  obtain ⟨hcreated, hne, hfresh⟩ := hnumbered.next_ne swap.encoder rfl
  have hclosed : Orderly (session.update swap.previous .close) rest := by
    rw [hprevious]
    exact h.update_same rfl hflushing.symm rfl rfl
  have hcurrent : (session.update swap.previous .close).pipe session.encoder = [] :=
    (pipe_update rfl _).trans hempty
  have hnext : (session.update swap.previous .close).pipe swap.encoder = [] :=
    hclosed.kept.idle swap.encoder hne
  refine ⟨⟨?_, ?_, hclosed.kept.droppedBlocks_eq, hclosed.kept.pcmBlocks_eq⟩, ?_, .inr rfl, ?_, ?_⟩
  · show Ledger _ _ _ _ (items ((session.update swap.previous .close).pipe swap.encoder)) _
    rw [hnext, ← hcurrent]
    exact hclosed.kept.ledger
  · intro other hother
    by_cases hold : other = session.encoder
    · rw [hold]
      exact hcurrent
    · exact hclosed.kept.idle other hold
  · refine ⟨hcreated, ?_, ?_, ?_⟩
    · rw [List.mem_append, List.mem_singleton, hprevious]
      exact fun hreplaced => hreplaced.elim hfresh hne
    · rw [hprevious]
      exact List.forall_mem_append.mpr
        ⟨hnumbered.replaced_lt, List.forall_mem_singleton.mpr hnumbered.encoder_lt⟩
    · intro number hnumber
      have habsurd : (session.preparingAudioEncoder.map Prod.fst).or none = some number := hnumber
      rw [hnone] at habsurd
      cases habsurd
  · show NoFlush ((session.update swap.previous .close).pipe swap.encoder) ∧
      ((session.update swap.previous .close).encoders swap.encoder).flushing = false
    rw [hnext]
    exact ⟨noFlush_nil, hclosed.calm swap.encoder hne⟩
  · intro other hother
    by_cases hold : other = session.encoder
    · show ((session.update swap.previous .close).encoders other).flushing = false
      rw [hold, hprevious, encoders_update_self]
      rfl
    · exact hclosed.calm other hold

theorem completeAudioEncoderSwap (h : Orderly session session.waiting)
    (hcomplete : session.completeAudioEncoderSwap = some session') :
    Orderly session' session'.waiting := by
  obtain ⟨swap, hswap, hcomplete⟩ := Option.bind_eq_some_iff.mp hcomplete
  dsimp only at hcomplete
  split at hcomplete
  next hflushed =>
    obtain rfl := Option.some.inj hcomplete
    rw [waiting, hswap] at h
    exact (h.switch hswap hflushed).encode_all rfl
  next => cases hcomplete

/-! ## Messages of a worker -/

theorem flushStage_of_item {swap : Option AudioEncoderSwap} {number : Nat} {flushing : Bool}
    {requests : List (Request PcmBlock)}
    (h : FlushStage swap number flushing (.item block :: requests)) :
    FlushStage swap number flushing requests := by
  cases swap with
  | none => exact ⟨(List.forall_mem_cons.mp h.1).2, h.2⟩
  | some swap =>
    obtain ⟨hprevious, hflush⟩ := h
    refine ⟨hprevious, ?_⟩
    split at hflush
    next => exact absurd hflush.1 (List.cons_ne_nil _ _)
    next hflushed =>
      rw [if_neg hflushed]
      exact hflush.of_item

theorem flushStage_progress {swap : Option AudioEncoderSwap} {number : Nat} {flushing : Bool}
    {old new : List (Request PcmBlock)} (hprogress : Progress old new)
    (h : FlushStage swap number flushing old) : FlushStage swap number flushing new := by
  cases swap with
  | none => exact ⟨hprogress.noFlush h.1, h.2⟩
  | some swap =>
    obtain ⟨hprevious, hflush⟩ := h
    refine ⟨hprevious, ?_⟩
    split at hflush
    next hflushed =>
      rw [if_pos hflushed]
      exact ⟨hprogress.nil hflush.1, hflush.2⟩
    next hflushed =>
      rw [if_neg hflushed]
      exact hprogress.flushLast hflush

theorem flushStage_flushed {swap : AudioEncoderSwap} {number : Nat} {flushing : Bool}
    {requests : List (Request PcmBlock)} (hflushed : swap.flushed = true)
    (hprevious : swap.previous = number) (hrequests : requests = [])
    (hflushing : flushing = false) :
    FlushStage (some swap) number flushing requests := by
  refine ⟨hprevious, ?_⟩
  rw [if_pos hflushed]
  exact ⟨hrequests, hflushing⟩

/-- A flush on its way is the one that a swap waits for, and the last request. -/
theorem flushStage_flush {swap : Option AudioEncoderSwap} {number : Nat} {flushing : Bool}
    {requests : List (Request PcmBlock)}
    (h : FlushStage swap number flushing (.flush :: requests)) :
    requests = [] ∧ ∃ waiting, swap = some waiting ∧ waiting.previous = number := by
  cases swap with
  | none => exact absurd rfl (h.1 .flush List.mem_cons_self)
  | some swap =>
    obtain ⟨hprevious, hflush⟩ := h
    split at hflush
    next => exact absurd hflush.1 (List.cons_ne_nil _ _)
    next => exact ⟨hflush.eq_nil, swap, rfl, hprevious⟩

theorem sendAudioPacket {number : Nat} (conditions : SendConditions) (h : Orderly session rest)
    (hsent : session.encoder = number →
      Orderly { session with sent := session.sent ++ [(number, block)] } rest) :
    Orderly (session.sendAudioPacket number block conditions) rest := by
  rw [AudioSession.sendAudioPacket]
  split
  next => exact h
  next hcurrent =>
    split
    next => exact h.recordPacketDrop number
    next =>
      split
      next => exact h
      next =>
        split
        next => exact h.recordPacketDrop number
        next =>
          rw [not_or, not_not] at hcurrent
          exact hsent hcurrent.1

theorem waiting_sendAudioPacket (session : AudioSession) (number : Nat) (block : PcmBlock)
    (conditions : SendConditions) :
    (session.sendAudioPacket number block conditions).waiting = session.waiting := by
  rw [AudioSession.sendAudioPacket]
  repeat' split
  all_goals rfl

/-- A message on its way comes from the current encoder. -/
theorem eq_encoder_of_pipe {number : Nat} {request : Request PcmBlock}
    {requests : List (Request PcmBlock)} (h : Orderly session rest)
    (hpipe : session.pipe number = request :: requests) : number = session.encoder := by
  by_contra hne
  rw [h.kept.idle number hne] at hpipe
  cases hpipe

theorem withSent {packet : Nat × PcmBlock} (h : Orderly session rest)
    (hledger : Ledger session.captured (session.handed.map Prod.snd)
      (session.dropped.map Prod.snd) rest (items (session.pipe session.encoder))
      (session.sent.map Prod.snd ++ [packet.2])) :
    Orderly { session with sent := session.sent ++ [packet] } rest := by
  refine ⟨⟨?_, h.kept.idle, h.kept.droppedBlocks_eq, h.kept.pcmBlocks_eq⟩, h.numbered, h.alone,
    h.staged, h.calm⟩
  show Ledger _ _ _ _ _ ((session.sent ++ [packet]).map Prod.snd)
  rw [List.map_append]
  exact hledger

theorem output {worker : Worker PcmBlock} {queue : Nat} (h : Orderly session rest)
    (hpipe : session.pipe session.encoder = .item block :: worker.pipeline)
    (conditions : SendConditions) :
    Orderly ((session.update session.encoder fun encoder =>
        { encoder with worker }.onmessage (.output block queue)).sendAudioPacket
      session.encoder block conditions) rest := by
  have hledger := h.kept.ledger
  have hstaged := h.staged
  rw [hpipe] at hstaged
  rw [hpipe, items_cons_item] at hledger
  have hlost : Orderly (session.update session.encoder fun encoder =>
      { encoder with worker }.onmessage (.output block queue)) rest := by
    refine h.update ?_ (fun hne => absurd rfl hne) rfl rfl
    intro _
    exact ⟨hledger.lose (List.sublist_cons_self _ _), flushStage_of_item hstaged⟩
  refine hlost.sendAudioPacket conditions ?_
  intro _
  apply hlost.withSent
  show Ledger _ _ _ _ (items ((session.update session.encoder _).pipe session.encoder)) _
  rw [pipe, encoders_update_self]
  exact hledger.send

/-- The answer to the flush of a swap. -/
theorem flushed {f : AacEncoder → AacEncoder} (h : Orderly session rest)
    (hpipe : session.pipe session.encoder =
      .flush :: (f (session.encoders session.encoder)).worker.pipeline)
    (hflushing : (f (session.encoders session.encoder)).flushing = false)
    (hdropped : (f (session.encoders session.encoder)).droppedBlocks =
      (session.encoders session.encoder).droppedBlocks)
    (hposted : (f (session.encoders session.encoder)).pcmBlocks =
      (session.encoders session.encoder).pcmBlocks) :
    Orderly
      { session.update session.encoder f with
        audioEncoderSwap := session.audioEncoderSwap.map fun swap =>
          if swap.previous = session.encoder then { swap with flushed := true } else swap }
      rest := by
  have hledger := h.kept.ledger
  have hstaged := h.staged
  rw [hpipe] at hstaged
  rw [hpipe, items_cons_flush] at hledger
  obtain ⟨hempty, swap, hswap, hprevious⟩ := flushStage_flush hstaged
  have hkept : Kept (session.update session.encoder f) rest :=
    h.kept.update (fun _ => hledger) (fun hne => absurd rfl hne) hdropped hposted
  have hmap : (session.audioEncoderSwap.map fun swap =>
      if swap.previous = session.encoder then { swap with flushed := true } else swap) =
      some { swap with flushed := true } := by
    rw [hswap, Option.map_some, if_pos hprevious]
  have hnumbered := h.numbered
  have halone := h.alone
  rw [next, hswap] at hnumbered
  rw [hswap] at halone
  rw [hmap]
  refine ⟨⟨hkept.ledger, hkept.idle, hkept.droppedBlocks_eq, hkept.pcmBlocks_eq⟩, hnumbered,
    halone.imp_right nofun, flushStage_flushed rfl hprevious ?_ ?_, ?_⟩
  · show (session.update session.encoder f).pipe session.encoder = []
    rw [pipe, encoders_update_self]
    exact hempty
  · show ((session.update session.encoder f).encoders session.encoder).flushing = false
    rw [encoders_update_self]
    exact hflushing
  · intro other hother
    show ((session.update session.encoder f).encoders other).flushing = false
    rw [encoders_update_of_ne (show other ≠ session.encoder from hother)]
    exact h.calm other hother

theorem deliver {number : Nat} {conditions : SendConditions}
    (h : Orderly session session.waiting)
    (hdeliver : session.deliver number conditions = some session') :
    Orderly session' session'.waiting := by
  obtain ⟨⟨answer, worker⟩, hanswer, rfl⟩ := Option.map_eq_some_iff.mp hdeliver
  have hpipe := Worker.pipeline_of_deliver hanswer
  cases answer with
  | output block queue =>
    show Orderly (AudioSession.sendAudioPacket _ number block conditions)
      (AudioSession.sendAudioPacket _ number block conditions).waiting
    rw [waiting_sendAudioPacket]
    obtain rfl := h.eq_encoder_of_pipe hpipe
    exact h.output hpipe conditions
  | accepted queue => exact h.update_same hpipe.symm rfl rfl rfl
  | flushed =>
    obtain rfl := h.eq_encoder_of_pipe hpipe
    have hbuffers : ((session.audioEncoderSwap.map fun swap =>
        if swap.previous = session.encoder then { swap with flushed := true } else swap).map
          (·.buffers)).getD [] = session.waiting := by
      rw [waiting, Option.map_map]
      congr 2
      funext swap
      by_cases hprevious : swap.previous = session.encoder
      · rw [Function.comp_apply, if_pos hprevious]
      · rw [Function.comp_apply, if_neg hprevious]
    show Orderly _ (((session.audioEncoderSwap.map fun swap =>
        if swap.previous = session.encoder then { swap with flushed := true } else swap).map
          (·.buffers)).getD [])
    rw [hbuffers]
    exact h.flushed hpipe rfl rfl rfl

theorem work {number : Nat} {workerStep : WorkerStep} (h : Orderly session session.waiting)
    (hwork : session.handle (.work number workerStep) = some session') :
    Orderly session' session'.waiting := by
  obtain ⟨worker, hworker, rfl⟩ := Option.map_eq_some_iff.mp hwork
  have hprogress := Worker.progress hworker
  refine h.update ?_ ?_ rfl rfl
  · rintro rfl
    exact ⟨h.kept.ledger.progress hprogress, flushStage_progress hprogress h.staged⟩
  · intro hne
    exact ⟨hprogress.nil (h.kept.idle number hne), h.calm number hne⟩

theorem handle {event : AudioEvent} (h : Orderly session session.waiting)
    (hevent : session.handle event = some session') : Orderly session' session'.waiting := by
  cases event with
  | encodeAudioBlock timestampSamples currentTimestamp =>
    obtain rfl := Option.some.inj hevent
    exact h.encodeAudioBlock timestampSamples currentTimestamp
  | replaceAudioEncoder modeKey =>
    obtain rfl := Option.some.inj hevent
    exact h.replaceAudioEncoder modeKey
  | beginAudioEncoderSwap => exact h.beginAudioEncoderSwap hevent
  | abandonAudioEncoder => exact h.abandonAudioEncoder hevent
  | completeAudioEncoderSwap => exact h.completeAudioEncoderSwap hevent
  | deliver number conditions => exact h.deliver hevent
  | work number workerStep => exact h.work hevent

end Orderly

theorem orderly_new (encoderModeKey audioClockSamples : Nat) :
    Orderly (.new encoderModeKey audioClockSamples) [] where
  kept := ⟨.nil, fun _ _ => rfl, fun _ => rfl, fun _ => rfl⟩
  numbered := ⟨Nat.zero_lt_one, List.not_mem_nil, List.forall_mem_nil _, nofun⟩
  alone := .inl rfl
  staged := ⟨noFlush_nil, rfl⟩
  calm _ _ := rfl

variable {encoderModeKey audioClockSamples : Nat}

theorem orderly_of_reachable
    (h : (audioEncoders encoderModeKey audioClockSamples).Reachable session) :
    Orderly session session.waiting :=
  h.invariant (P := fun session => Orderly session session.waiting)
    (orderly_new encoderModeKey audioClockSamples) (fun _ _ _ h hevent => h.handle hevent)

/-! ## What is captured, sent and replaced -/

def history (session : AudioSession) : List PcmBlock × List (Nat × PcmBlock) × List Nat :=
  (session.captured, session.sent, session.replaced)

theorem history_encode (session : AudioSession) (block : PcmBlock) :
    (session.encode block).history = session.history := by
  rw [AudioSession.encode]
  split
  · rfl
  · rfl

theorem history_buffer (session : AudioSession) (swap : AudioEncoderSwap) (block : PcmBlock) :
    (session.buffer swap block).history = session.history := by
  rw [AudioSession.buffer]
  split
  · split
    · rfl
    · rfl
  · rfl

theorem history_encode_all (blocks : List PcmBlock) (session : AudioSession) :
    (blocks.foldl AudioSession.encode session).history = session.history := by
  induction blocks generalizing session with
  | nil => rfl
  | cons block blocks ih => exact (ih (session.encode block)).trans (history_encode session block)

def Valid (timestampSamples : Int) : Prop :=
  0 ≤ timestampSamples ∧ timestampSamples ≤ MAX_SAFE_INTEGER

/-- A block with a valid timestamp is captured, whatever becomes of it. -/
theorem history_encodeAudioBlock (session : AudioSession) {timestampSamples : Int}
    (hvalid : Valid timestampSamples) (currentTimestamp : UInt32) :
    (session.encodeAudioBlock timestampSamples currentTimestamp).history =
      (session.captured ++ [⟨session.captured.length, timestampSamples.toNat⟩], session.sent,
        session.replaced) := by
  have hchecked : ¬ (timestampSamples < 0 ∨ MAX_SAFE_INTEGER < timestampSamples) := by
    rw [not_or, Int.not_lt, Int.not_lt]
    exact hvalid
  rw [AudioSession.encodeAudioBlock, if_neg hchecked]
  dsimp only
  split
  · rfl
  · split
    next swap _ => exact history_buffer _ swap _
    next => exact history_encode _ _

/-- Only the current encoder's packets are sent, and encoders stay replaced. -/
def Extends (session session' : AudioSession) : Prop :=
  session.replaced ⊆ session'.replaced ∧
    ∃ packets, session'.sent = session.sent ++ packets ∧
      ∀ packet ∈ packets, packet.1 ∉ session.replaced

namespace Extends

theorem of_eq (hsent : session'.sent = session.sent)
    (hreplaced : session'.replaced = session.replaced) : session.Extends session' :=
  ⟨hreplaced ▸ List.Subset.refl _, [], hsent.trans (List.append_nil _).symm, List.forall_mem_nil _⟩

theorem of_history (h : session'.history = session.history) : session.Extends session' :=
  of_eq (congrArg (·.2.1) h) (congrArg (·.2.2) h)

theorem trans {session'' : AudioSession} (h : session.Extends session')
    (h' : session'.Extends session'') : session.Extends session'' := by
  obtain ⟨hreplaced, packets, hsent, hcurrent⟩ := h
  obtain ⟨hreplaced', packets', hsent', hcurrent'⟩ := h'
  refine ⟨List.Subset.trans hreplaced hreplaced', packets ++ packets', ?_, ?_⟩
  · rw [hsent', hsent, List.append_assoc]
  · intro packet hpacket
    rcases List.mem_append.mp hpacket with hpacket | hpacket
    · exact hcurrent packet hpacket
    · exact fun hmem => hcurrent' packet hpacket (hreplaced hmem)

theorem encodeAudioBlock (session : AudioSession) (timestampSamples : Int)
    (currentTimestamp : UInt32) :
    session.Extends (session.encodeAudioBlock timestampSamples currentTimestamp) := by
  by_cases hvalid : Valid timestampSamples
  · have hhistory := history_encodeAudioBlock session hvalid currentTimestamp
    exact of_eq (congrArg (·.2.1) hhistory) (congrArg (·.2.2) hhistory)
  · have hchecked : timestampSamples < 0 ∨ MAX_SAFE_INTEGER < timestampSamples := by
      rw [Valid, not_and_or, Int.not_le, Int.not_le] at hvalid
      exact hvalid
    rw [AudioSession.encodeAudioBlock, if_pos hchecked]
    exact of_eq rfl rfl

theorem sendAudioPacket {number : Nat} (conditions : SendConditions)
    (hcurrent : session.encoder ∉ session.replaced) :
    session.Extends (session.sendAudioPacket number block conditions) := by
  rw [AudioSession.sendAudioPacket]
  split
  next => exact of_eq rfl rfl
  next hopen =>
    rw [not_or, not_not] at hopen
    split
    next => exact of_eq rfl rfl
    next =>
      split
      next => exact of_eq rfl rfl
      next =>
        split
        next => exact of_eq rfl rfl
        next =>
          refine ⟨List.Subset.refl _, [(number, block)], rfl, List.forall_mem_singleton.mpr ?_⟩
          rw [← hopen.1]
          exact hcurrent

theorem handle {event : AudioEvent} (hcurrent : session.encoder ∉ session.replaced)
    (hevent : session.handle event = some session') : session.Extends session' := by
  cases event with
  | encodeAudioBlock timestampSamples currentTimestamp =>
    obtain rfl := Option.some.inj hevent
    exact encodeAudioBlock session timestampSamples currentTimestamp
  | replaceAudioEncoder modeKey =>
    obtain rfl := Option.some.inj hevent
    rw [AudioSession.replaceAudioEncoder]
    split
    · exact of_eq rfl rfl
    · split
      · exact of_eq rfl rfl
      · exact of_eq rfl rfl
  | beginAudioEncoderSwap =>
    obtain ⟨preparing, -, hbegin⟩ := Option.bind_eq_some_iff.mp hevent
    dsimp only at hbegin
    split at hbegin
    · cases hbegin
    · obtain rfl := Option.some.inj hbegin
      exact of_eq rfl rfl
  | abandonAudioEncoder =>
    obtain ⟨preparing, -, rfl⟩ := Option.map_eq_some_iff.mp hevent
    exact of_eq rfl rfl
  | completeAudioEncoderSwap =>
    obtain ⟨swap, -, hcomplete⟩ := Option.bind_eq_some_iff.mp hevent
    dsimp only at hcomplete
    split at hcomplete
    · obtain rfl := Option.some.inj hcomplete
      refine Extends.trans ?_ (of_history (history_encode_all swap.buffers _))
      refine ⟨?_, [], (List.append_nil _).symm, List.forall_mem_nil _⟩
      exact List.subset_append_left _ _
    · cases hcomplete
  | deliver number conditions =>
    obtain ⟨⟨answer, worker⟩, -, rfl⟩ := Option.map_eq_some_iff.mp hevent
    cases answer with
    | output block queue =>
      refine Extends.trans ?_ (sendAudioPacket conditions ?_)
      · exact of_eq rfl rfl
      · exact hcurrent
    | accepted queue => exact of_eq rfl rfl
    | flushed => exact of_eq rfl rfl
  | work number workerStep =>
    obtain ⟨worker, -, rfl⟩ := Option.map_eq_some_iff.mp hevent
    exact of_eq rfl rfl

theorem of_run {ok : AudioSession → AudioEvent → Prop}
    (h : (audioEncoders encoderModeKey audioClockSamples).Reachable session)
    (hrun : (audioEncoders encoderModeKey audioClockSamples).Run ok session session') :
    session.Extends session' := by
  refine hrun.invariant_of_reachable (P := session.Extends) h (of_eq rfl rfl) ?_
  intro previous event next hreachable hextends _ hevent
  exact hextends.trans (handle (orderly_of_reachable hreachable).numbered.current hevent)

end Extends

/-! ## Nothing is lost or reordered -/

theorem count_of_accounted {captured handed dropped waiting : List PcmBlock}
    (hnumbered : captured.map PcmBlock.index = List.range captured.length)
    (haccounted : captured.Perm (handed ++ (dropped ++ waiting))) (hblock : block ∈ captured) :
    handed.count block + dropped.count block + waiting.count block = 1 := by
  have hnodup : captured.Nodup := by
    apply List.Nodup.of_map PcmBlock.index
    rw [hnumbered]
    exact List.nodup_range
  have hcount : captured.count block = 1 := List.count_eq_one_of_mem hnodup hblock
  rw [haccounted.count_eq, List.count_append, List.count_append] at hcount
  rw [Nat.add_assoc]
  exact hcount

end AudioSession

/-- A captured block waits only while a swap is under way. -/
theorem audioEncoders_lose_nothing (encoderModeKey audioClockSamples : Nat)
    (session : AudioSession)
    (h : (audioEncoders encoderModeKey audioClockSamples).Reachable session) :
    (∀ timestampSamples currentTimestamp, AudioSession.Valid timestampSamples →
      (session.encodeAudioBlock timestampSamples currentTimestamp).captured =
        session.captured ++ [⟨session.captured.length, timestampSamples.toNat⟩]) ∧
    (∀ block ∈ session.captured,
      (session.handed.map Prod.snd).count block + (session.dropped.map Prod.snd).count block +
        session.waiting.count block = 1) ∧
    (session.audioEncoderSwap = none → session.waiting = []) ∧
    (∀ number,
      (session.encoders number).pcmBlocks = (session.handed.map Prod.fst).count number ∧
      (session.encoders number).droppedBlocks =
        (session.dropped.map Prod.fst).count number + session.packetDrops.count number) ∧
    session.handed.Pairwise (fun a b => a.2.index < b.2.index) ∧
    session.sent.Pairwise (fun a b => a.2.index ≤ b.2.index) ∧
    ∀ session', (audioEncoders encoderModeKey audioClockSamples).Run (fun _ _ => True)
        session session' →
      ∃ packets, session'.sent = session.sent ++ packets ∧
        ∀ packet ∈ packets, packet.1 ∉ session.replaced := by
  have horderly := AudioSession.orderly_of_reachable h
  obtain ⟨ledger, -, hdropped, hposted⟩ := horderly.kept
  refine ⟨?_, ?_, AudioSession.Orderly.waiting_eq_nil,
    fun number => ⟨hposted number, hdropped number⟩, ?_, ?_,
    fun session' hrun => (AudioSession.Extends.of_run h hrun).2⟩
  · intro timestampSamples currentTimestamp hvalid
    exact congrArg Prod.fst (session.history_encodeAudioBlock hvalid currentTimestamp)
  · intro block hblock
    exact AudioSession.count_of_accounted ledger.numbered ledger.accounted hblock
  · have hhanded := (List.pairwise_append.mp ledger.handedInOrder).1
    rw [List.pairwise_map] at hhanded
    exact hhanded
  · have hsent := (List.pairwise_append.mp ledger.sentInOrder).1
    rw [List.pairwise_map] at hsent
    exact hsent

/-- One swap, with a block before it and one while it is under way. -/
theorem audioEncoders_lose_nothing_swap :
    ∃ session, session.replaced = [0] ∧ session.handed = [(0, ⟨0, 0⟩), (1, ⟨1, 1024⟩)] ∧
      session.sent = [(0, ⟨0, 0⟩)] ∧
      (∀ block ∈ session.captured,
        (session.handed.map Prod.snd).count block + (session.dropped.map Prod.snd).count block +
          session.waiting.count block = 1) ∧
      ∀ session', (audioEncoders 0 0).Run (fun _ _ => True) session session' →
        ∃ packets, session'.sent = session.sent ++ packets ∧
          ∀ packet ∈ packets, packet.1 ∉ session.replaced := by
  let conditions : SendConditions := ⟨1024, true, true, false, true⟩
  let steps : List AudioEvent :=
    [.encodeAudioBlock 0 0, .replaceAudioEncoder 1, .beginAudioEncoderSwap,
      .encodeAudioBlock 1024 1024, .work 0 (.take 1), .work 0 (.output 0), .work 0 .finish,
      .work 0 (.take 0), .work 0 .finish, .deliver 0 conditions, .deliver 0 conditions,
      .deliver 0 conditions, .completeAudioEncoderSwap]
  obtain ⟨session, hexec, hview⟩ := (Option.any_eq_true
    (fun session : AudioSession => (session.replaced = [0] ∧
      session.handed = [(0, ⟨0, 0⟩), (1, ⟨1, 1024⟩)] ∧ session.sent = [(0, ⟨0, 0⟩)] : Bool))
    ((audioEncoders 0 0).exec (audioEncoders 0 0).start steps)).mp (by decide +kernel)
  obtain ⟨hreplaced, hhanded, hsent⟩ := of_decide_eq_true hview
  have hreachable := System.reachable_of_exec hexec
  obtain ⟨-, hcount, -, -, -, -, hrun⟩ := audioEncoders_lose_nothing 0 0 session hreachable
  exact ⟨session, hreplaced, hhanded, hsent, hcount, hrun⟩

end VRCStreamer
