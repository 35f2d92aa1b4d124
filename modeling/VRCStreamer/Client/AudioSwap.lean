import VRCStreamer.Client.AacEncoder
import Mathlib.Data.List.Range

/-!
# Swapping the AAC encoder

Where the captured blocks are while encoders are swapped. `Ledger` is about the blocks alone: what
was captured is handed on, dropped or waiting, and what was handed on is sent in order. The session
keeps such a ledger, whatever the order of its events.
-/

namespace VRCStreamer

open Concurrency

/-! ## The ledger of blocks -/

/-- `moving` are the blocks of the packets between the encoder and the socket. -/
structure Ledger (captured handed dropped waiting moving sent : List PcmBlock) : Prop where
  numbered : captured.map PcmBlock.index = List.range captured.length
  accounted : captured.Perm (handed ++ (dropped ++ waiting))
  handedInOrder : (handed ++ waiting).Pairwise (fun a b => a.index < b.index)
  sentInOrder : (sent ++ (moving ++ waiting)).Pairwise (fun a b => a.index ≤ b.index)
  captured_of_moving : ∀ block ∈ sent ++ moving, block.index < captured.length

namespace Ledger

variable {captured handed dropped waiting moving sent : List PcmBlock} {block : PcmBlock}

theorem nil : Ledger [] [] [] [] [] [] :=
  ⟨rfl, .refl _, .nil, .nil, List.forall_mem_nil _⟩

theorem index_lt (h : Ledger captured handed dropped waiting moving sent)
    (hmem : block ∈ captured) : block.index < captured.length := by
  have hindex : block.index ∈ captured.map PcmBlock.index := List.mem_map_of_mem hmem
  rwa [h.numbered, List.mem_range] at hindex

/-- A new block waits behind the others. -/
theorem capture (h : Ledger captured handed dropped waiting moving sent)
    (hblock : block.index = captured.length) :
    Ledger (captured ++ [block]) handed dropped (waiting ++ [block]) moving sent where
  numbered := by
    rw [List.map_append, h.numbered, List.length_append, List.length_singleton, List.range_succ,
      List.map_singleton, hblock]
  accounted := by
    rw [← List.append_assoc, ← List.append_assoc, List.append_assoc handed]
    exact h.accounted.append_right [block]
  handedInOrder := by
    rw [← List.append_assoc, List.pairwise_append]
    refine ⟨h.handedInOrder, List.pairwise_singleton _ _, ?_⟩
    intro earlier hearlier last hlast
    rw [List.mem_singleton.mp hlast, hblock]
    apply h.index_lt
    rw [h.accounted.mem_iff]
    simp only [List.mem_append] at hearlier ⊢
    exact hearlier.imp_right .inr
  sentInOrder := by
    rw [← List.append_assoc, ← List.append_assoc, List.append_assoc sent, List.pairwise_append]
    refine ⟨h.sentInOrder, List.pairwise_singleton _ _, ?_⟩
    intro earlier hearlier last hlast
    rw [List.mem_singleton.mp hlast, hblock]
    rw [← List.append_assoc, List.mem_append] at hearlier
    rcases hearlier with hearlier | hearlier
    · exact (h.captured_of_moving earlier hearlier).le
    · apply (h.index_lt _).le
      rw [h.accounted.mem_iff]
      simp only [List.mem_append]
      exact .inr (.inr hearlier)
  captured_of_moving earlier hearlier := by
    rw [List.length_append]
    exact Nat.lt_add_right _ (h.captured_of_moving earlier hearlier)

/-- A waiting block is dropped. -/
theorem drop {front back : List PcmBlock}
    (h : Ledger captured handed dropped (front ++ block :: back) moving sent) :
    Ledger captured handed (dropped ++ [block]) (front ++ back) moving sent where
  numbered := h.numbered
  accounted := by
    refine h.accounted.trans (List.Perm.append_left handed ?_)
    rw [List.append_assoc, List.singleton_append]
    exact List.Perm.append_left dropped List.perm_middle
  handedInOrder := by
    refine h.handedInOrder.sublist ((List.Sublist.refl _).append ?_)
    exact (List.Sublist.refl _).append (List.sublist_cons_self _ _)
  sentInOrder := by
    refine h.sentInOrder.sublist ((List.Sublist.refl _).append ((List.Sublist.refl _).append ?_))
    exact (List.Sublist.refl _).append (List.sublist_cons_self _ _)
  captured_of_moving := h.captured_of_moving

/-- The first waiting block is handed to the encoder. -/
theorem hand (h : Ledger captured handed dropped (block :: waiting) moving sent) :
    Ledger captured (handed ++ [block]) dropped waiting (moving ++ [block]) sent where
  numbered := h.numbered
  accounted := by
    refine h.accounted.trans ?_
    rw [List.append_assoc, List.singleton_append]
    exact List.Perm.append_left handed List.perm_middle
  handedInOrder := by
    rw [List.append_assoc]
    exact h.handedInOrder
  sentInOrder := by
    rw [List.append_assoc moving]
    exact h.sentInOrder
  captured_of_moving moved hmoved := by
    rw [← List.append_assoc, List.mem_append, List.mem_singleton] at hmoved
    rcases hmoved with hmoved | rfl
    · exact h.captured_of_moving moved hmoved
    · apply h.index_lt
      rw [h.accounted.mem_iff]
      simp

theorem progress {old new : List (Request PcmBlock)} (hprogress : Progress old new)
    (h : Ledger captured handed dropped waiting (items old) sent) :
    Ledger captured handed dropped waiting (items new) sent where
  numbered := h.numbered
  accounted := h.accounted
  handedInOrder := h.handedInOrder
  sentInOrder := hprogress.pairwise (fun block => Nat.le_refl block.index) h.sentInOrder
  captured_of_moving moved hmoved := by
    apply h.captured_of_moving
    rw [List.mem_append] at hmoved ⊢
    exact hmoved.imp_right (hprogress.items_subset ·)

/-- A packet is sent. -/
theorem send (h : Ledger captured handed dropped waiting (block :: moving) sent) :
    Ledger captured handed dropped waiting moving (sent ++ [block]) where
  numbered := h.numbered
  accounted := h.accounted
  handedInOrder := h.handedInOrder
  sentInOrder := by
    rw [List.append_assoc]
    exact h.sentInOrder
  captured_of_moving := by
    rw [List.append_assoc]
    exact h.captured_of_moving

/-- Packets are not sent. -/
theorem lose {kept : List PcmBlock} (hkept : kept.Sublist moving)
    (h : Ledger captured handed dropped waiting moving sent) :
    Ledger captured handed dropped waiting kept sent where
  numbered := h.numbered
  accounted := h.accounted
  handedInOrder := h.handedInOrder
  sentInOrder :=
    h.sentInOrder.sublist ((List.Sublist.refl _).append (hkept.append (List.Sublist.refl _)))
  captured_of_moving moved hmoved :=
    h.captured_of_moving moved (((List.Sublist.refl _).append hkept).subset hmoved)

end Ledger

namespace AudioSession

variable {session : AudioSession} {block : PcmBlock} {number : Nat} {rest : List PcmBlock}

/-- What is on its way through the worker of an encoder. -/
def pipe (session : AudioSession) (number : Nat) : List (Request PcmBlock) :=
  (session.encoders number).worker.pipeline

/-- The blocks in the buffer of a swap. -/
def waiting (session : AudioSession) : List PcmBlock :=
  (session.audioEncoderSwap.map (·.buffers)).getD []

@[simp] theorem encoders_update_self (f : AacEncoder → AacEncoder) :
    (session.update number f).encoders number = f (session.encoders number) :=
  Function.update_self ..

theorem encoders_update_of_ne {other : Nat} (h : other ≠ number) (f : AacEncoder → AacEncoder) :
    (session.update number f).encoders other = session.encoders other :=
  Function.update_of_ne h ..

theorem count_other {other : Nat} (h : other ≠ number) : [number].count other = 0 :=
  List.count_eq_zero.mpr fun hmem => h (List.mem_singleton.mp hmem)

/-- What a change of one encoder leaves alone in it, it leaves alone in all. -/
theorem encoders_update {β : Type*} (field : AacEncoder → β) {f : AacEncoder → AacEncoder}
    (h : field (f (session.encoders number)) = field (session.encoders number)) (other : Nat) :
    field ((session.update number f).encoders other) = field (session.encoders other) := by
  by_cases hother : other = number
  · rw [hother, encoders_update_self, h]
  · rw [encoders_update_of_ne hother]

theorem pipe_update {f : AacEncoder → AacEncoder}
    (h : (f (session.encoders number)).worker = (session.encoders number).worker) (other : Nat) :
    (session.update number f).pipe other = session.pipe other :=
  encoders_update (fun encoder => encoder.worker.pipeline) (congrArg Worker.pipeline h) other

/-- A counter of one encoder goes up by one. -/
theorem count_update (field : AacEncoder → Nat) {f : AacEncoder → AacEncoder}
    (h : field (f (session.encoders number)) = field (session.encoders number) + 1) (other : Nat) :
    field ((session.update number f).encoders other) =
      field (session.encoders other) + [number].count other := by
  by_cases hother : other = number
  · rw [hother, encoders_update_self, h, List.count_singleton_self]
  · rw [encoders_update_of_ne hother, count_other hother, Nat.add_zero]

/-! ## The blocks of the session -/

/-- The session keeps the ledger, and every encoder counts what it was handed and what was
dropped. Only the current encoder has work. -/
structure Kept (session : AudioSession) (waiting : List PcmBlock) : Prop where
  ledger : Ledger session.captured (session.handed.map Prod.snd) (session.dropped.map Prod.snd)
    waiting (items (session.pipe session.encoder)) (session.sent.map Prod.snd)
  idle : ∀ number, number ≠ session.encoder → session.pipe number = []
  droppedBlocks_eq : ∀ number, (session.encoders number).droppedBlocks =
    (session.dropped.map Prod.fst).count number + session.packetDrops.count number
  pcmBlocks_eq : ∀ number, (session.encoders number).pcmBlocks =
    (session.handed.map Prod.fst).count number

namespace Kept

theorem recordDrop (front back : List PcmBlock) (h : Kept session (front ++ block :: back))
    (number : Nat) : Kept (session.recordDrop number block) (front ++ back) where
  ledger := by
    show Ledger session.captured _ ((session.dropped ++ [(number, block)]).map Prod.snd) _
      (items ((session.update number .recordDrop).pipe session.encoder)) _
    rw [pipe_update rfl, List.map_append]
    exact h.ledger.drop
  idle other hother := (pipe_update rfl other).trans (h.idle other hother)
  droppedBlocks_eq other := by
    show ((session.update number .recordDrop).encoders other).droppedBlocks =
      ((session.dropped ++ [(number, block)]).map Prod.fst).count other + _
    rw [count_update AacEncoder.droppedBlocks rfl, h.droppedBlocks_eq, List.map_append,
      List.count_append]
    exact Nat.add_right_comm ..
  pcmBlocks_eq other :=
    (encoders_update AacEncoder.pcmBlocks rfl other).trans (h.pcmBlocks_eq other)

theorem recordPacketDrop (h : Kept session rest) (number : Nat) :
    Kept (session.recordPacketDrop number) rest where
  ledger := by
    show Ledger session.captured _ _ _
      (items ((session.update number .recordDrop).pipe session.encoder)) _
    rw [pipe_update rfl]
    exact h.ledger
  idle other hother := (pipe_update rfl other).trans (h.idle other hother)
  droppedBlocks_eq other := by
    show ((session.update number .recordDrop).encoders other).droppedBlocks =
      _ + (session.packetDrops ++ [number]).count other
    rw [count_update AacEncoder.droppedBlocks rfl, h.droppedBlocks_eq, List.count_append]
    exact Nat.add_assoc ..
  pcmBlocks_eq other :=
    (encoders_update AacEncoder.pcmBlocks rfl other).trans (h.pcmBlocks_eq other)

/-- A block goes to the current encoder, or is counted by it. -/
theorem encode (h : Kept session (block :: rest)) : Kept (session.encode block) rest := by
  rw [AudioSession.encode]
  split
  next => exact Kept.recordDrop [] rest h session.encoder
  next hposted =>
    have hencode : (session.encoders session.encoder).encode block = _ := if_neg hposted
    constructor
    · have hpipe : (session.update session.encoder (·.encode block)).pipe session.encoder =
          session.pipe session.encoder ++ [.item block] := by
        rw [pipe, encoders_update_self, hencode, Worker.pipeline_post]
        rfl
      show Ledger session.captured ((session.handed ++ [(session.encoder, block)]).map Prod.snd) _
        _ (items ((session.update session.encoder (·.encode block)).pipe session.encoder)) _
      rw [hpipe, List.map_append, items_append]
      exact h.ledger.hand
    · intro other hother
      show (session.update session.encoder (·.encode block)).pipe other = []
      rw [pipe, encoders_update_of_ne (show other ≠ session.encoder from hother)]
      exact h.idle other hother
    · intro other
      show ((session.update session.encoder (·.encode block)).encoders other).droppedBlocks = _
      rw [encoders_update AacEncoder.droppedBlocks (by rw [hencode])]
      exact h.droppedBlocks_eq other
    · intro other
      show ((session.update session.encoder (·.encode block)).encoders other).pcmBlocks =
        ((session.handed ++ [(session.encoder, block)]).map Prod.fst).count other
      rw [count_update AacEncoder.pcmBlocks (by rw [hencode]), h.pcmBlocks_eq, List.map_append,
        List.count_append]
      rfl

/-- The requests of one encoder have changed in a way that the ledger allows. -/
theorem update (h : Kept session rest) {f : AacEncoder → AacEncoder}
    (hledger : number = session.encoder → Ledger session.captured (session.handed.map Prod.snd)
      (session.dropped.map Prod.snd) rest (items (f (session.encoders number)).worker.pipeline)
      (session.sent.map Prod.snd))
    (hidle : number ≠ session.encoder → (f (session.encoders number)).worker.pipeline = [])
    (hdropped : (f (session.encoders number)).droppedBlocks =
      (session.encoders number).droppedBlocks)
    (hposted : (f (session.encoders number)).pcmBlocks = (session.encoders number).pcmBlocks) :
    Kept (session.update number f) rest where
  ledger := by
    show Ledger _ _ _ _ (items ((session.update number f).pipe session.encoder)) _
    by_cases hnumber : session.encoder = number
    · rw [pipe, hnumber, encoders_update_self]
      exact hledger hnumber.symm
    · rw [pipe, encoders_update_of_ne hnumber]
      exact h.ledger
  idle other hother := by
    by_cases hnumber : other = number
    · subst hnumber
      rw [pipe, encoders_update_self]
      exact hidle hother
    · rw [pipe, encoders_update_of_ne hnumber]
      exact h.idle other hother
  droppedBlocks_eq other :=
    (encoders_update AacEncoder.droppedBlocks hdropped other).trans (h.droppedBlocks_eq other)
  pcmBlocks_eq other :=
    (encoders_update AacEncoder.pcmBlocks hposted other).trans (h.pcmBlocks_eq other)

theorem capture (h : Kept session rest) (hblock : block.index = session.captured.length)
    (audioClockSamples : Nat) :
    Kept { session with audioClockSamples, captured := session.captured ++ [block] }
      (rest ++ [block]) :=
  ⟨h.ledger.capture hblock, h.idle, h.droppedBlocks_eq, h.pcmBlocks_eq⟩

end Kept

/-! ## The encoders of the session -/

/-- Which encoder is which: `next` is being prepared or swapped in. -/
structure Numbered (encoder created : Nat) (replaced : List Nat) (next : Option Nat) : Prop where
  encoder_lt : encoder < created
  current : encoder ∉ replaced
  replaced_lt : ∀ number ∈ replaced, number < created
  next_ne : ∀ number, next = some number →
    number < created ∧ number ≠ encoder ∧ number ∉ replaced

/-- Without a swap only blocks are on their way. With one the flush is behind all of them, or has
been answered. -/
def FlushStage (swap : Option AudioEncoderSwap) (encoder : Nat) (flushing : Bool)
    (requests : List (Request PcmBlock)) : Prop :=
  match swap with
  | none => NoFlush requests ∧ flushing = false
  | some swap => swap.previous = encoder ∧
    if swap.flushed then requests = [] ∧ flushing = false else FlushLast requests

/-- The number of the encoder that is being prepared or swapped in. -/
def next (session : AudioSession) : Option Nat :=
  (session.preparingAudioEncoder.map Prod.fst).or (session.audioEncoderSwap.map (·.encoder))

structure Orderly (session : AudioSession) (rest : List PcmBlock) : Prop where
  kept : Kept session rest
  numbered : Numbered session.encoder session.created session.replaced session.next
  alone : session.preparingAudioEncoder = none ∨ session.audioEncoderSwap = none
  staged : FlushStage session.audioEncoderSwap session.encoder
    (session.encoders session.encoder).flushing (session.pipe session.encoder)
  calm : ∀ number, number ≠ session.encoder → (session.encoders number).flushing = false

namespace Orderly

/-- A drop that an encoder counts changes nothing else about it. -/
theorem staged_recordDrop (h : Orderly session rest) (number : Nat) :
    FlushStage session.audioEncoderSwap session.encoder
      ((session.update number .recordDrop).encoders session.encoder).flushing
      ((session.update number .recordDrop).pipe session.encoder) := by
  rw [encoders_update AacEncoder.flushing rfl, pipe_update rfl]
  exact h.staged

theorem calm_recordDrop (h : Orderly session rest) (number other : Nat)
    (hother : other ≠ session.encoder) :
    ((session.update number .recordDrop).encoders other).flushing = false :=
  (encoders_update AacEncoder.flushing rfl other).trans (h.calm other hother)

theorem recordDrop (front back : List PcmBlock) (h : Orderly session (front ++ block :: back))
    (number : Nat) : Orderly (session.recordDrop number block) (front ++ back) where
  kept := h.kept.recordDrop front back number
  numbered := h.numbered
  alone := h.alone
  staged := h.staged_recordDrop number
  calm := h.calm_recordDrop number

theorem recordPacketDrop (h : Orderly session rest) (number : Nat) :
    Orderly (session.recordPacketDrop number) rest where
  kept := h.kept.recordPacketDrop number
  numbered := h.numbered
  alone := h.alone
  staged := h.staged_recordDrop number
  calm := h.calm_recordDrop number

/-- Without a swap a block may be handed on. -/
theorem encode (h : Orderly session (block :: rest)) (hswap : session.audioEncoderSwap = none) :
    Orderly (session.encode block) rest := by
  have hkept := h.kept.encode
  have hdropped := Orderly.recordDrop [] rest h session.encoder
  rw [AudioSession.encode] at hkept ⊢
  split at hkept
  next hrefuses =>
    rw [if_pos hrefuses]
    exact hdropped
  next hposted =>
    have hencode : (session.encoders session.encoder).encode block = _ := if_neg hposted
    rw [if_neg hposted]
    refine ⟨hkept, h.numbered, h.alone, ?_, ?_⟩
    · have hstaged := h.staged
      rw [hswap] at hstaged
      show FlushStage session.audioEncoderSwap session.encoder
        ((session.update session.encoder (·.encode block)).encoders session.encoder).flushing
        ((session.update session.encoder (·.encode block)).pipe session.encoder)
      rw [hswap, pipe, encoders_update_self, hencode, Worker.pipeline_post]
      exact ⟨hstaged.1.post_item block, hstaged.2⟩
    · intro other hother
      show ((session.update session.encoder (·.encode block)).encoders other).flushing = false
      rw [encoders_update_of_ne (show other ≠ session.encoder from hother)]
      exact h.calm other hother

end Orderly

end AudioSession

end VRCStreamer
