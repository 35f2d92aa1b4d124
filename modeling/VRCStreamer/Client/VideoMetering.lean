import VRCStreamer.Client.VideoQuality

/-!
# Frames are metered by their preset

A change of the quality is a handshake: the page asks, the worker swaps the encoder while it is
paused, and the page announces the quality to the server before it resumes the worker. `Exchange`
lists the stages of it. Only during the first start of a video is the quality changed without one.
-/

namespace VRCStreamer

open Concurrency

variable {presets : List VideoPreset} {config : VideoPreset}

/-- The condition of the steps: while a video with a worker is starting, the quality is not
changed. -/
def KeepsStartQuality (s : VideoSession presets) (a : QualityAction presets) : Prop :=
  ∀ index, a = .setVideoQuality index → s.slot = .starting → s.link ≠ none →
    presets.get index = s.config

/-- The server meters each frame on its way by its own preset, and behind all of them it has
selected `config`. -/
inductive Meters (presets : List VideoPreset) (config : VideoPreset) :
    Nat → List IngestMessage → Prop
  | nil {index : Nat} (hselected : presets[index]? = some config) : Meters presets config index []
  | videoQuality {index selected : Nat} {ws : List IngestMessage}
      (hlisted : selected < presets.length) (hws : Meters presets config selected ws) :
      Meters presets config index (.videoQuality selected :: ws)
  | frame {index : Nat} {preset : VideoPreset} {ws : List IngestMessage}
      (hpreset : presets[index]? = some preset) (hws : Meters presets config index ws) :
      Meters presets config index (.frame preset :: ws)

/-- Nothing but a start with `config`. -/
def EncoderMessage.Keeps (config : VideoPreset) : EncoderMessage → Prop
  | .init preset => preset = config
  | .reconfigure _ => False
  | .source | .resume => True

def EncoderTask.Keeps (config : VideoPreset) : EncoderTask → Prop
  | .initializing preset => preset = config
  | .cancelling => True
  | .supporting _ | .flushing _ => False

def EncoderReply.Keeps (config : VideoPreset) : EncoderReply → Prop
  | .packet preset => preset = config
  | .ready | .sourceReady => True
  | .reconfigured | .reconfigureError => False

/-- The encoder, if there is one, has `config`. -/
structure EncoderWorker.Encodes (config : VideoPreset) (w : EncoderWorker) : Prop where
  encoder : ∀ preset, w.encoder = some preset → preset = config
  encoding : ∀ preset ∈ w.encoding, preset = config

/-- The encoder has `config`, and no handler is about to swap it. -/
structure EncoderWorker.Calm (config : VideoPreset) (w : EncoderWorker) : Prop
    extends w.Encodes config where
  handling : ∀ task, w.handling = some task → task.Keeps config

/-- The stages of a change of the quality from `config`: none, the worker is asked, it tries, it has
refused, it has swapped its encoder. -/
inductive Exchange (config : VideoPreset) (pending : Option (Fin presets.length))
    (messages : List EncoderMessage) (w : EncoderWorker) (replies : List EncoderReply) : Prop
  | quiet (hmessages : ∀ message ∈ messages, message.Keeps config) (hworker : w.Calm config)
      (hreplies : ∀ reply ∈ replies, reply.Keeps config)
  | asked {index : Fin presets.length} {front back : List EncoderMessage}
      (hpending : pending = some index)
      (hmessages : messages = front ++ .reconfigure (presets.get index) :: back)
      (hfront : ∀ message ∈ front, message.Keeps config)
      (hback : ∀ message ∈ back, message = .source)
      (hworker : w.Calm config) (hreplies : ∀ reply ∈ replies, reply.Keeps config)
  | trying {index : Fin presets.length} (hpending : pending = some index)
      (hmessages : ∀ message ∈ messages, message = .source)
      (hhandling : w.handling = some (.supporting (presets.get index)) ∨
        w.handling = some (.flushing (presets.get index)) ∧ w.paused = true)
      (hworker : w.Encodes config) (hreplies : ∀ reply ∈ replies, reply.Keeps config)
  | refused {index : Fin presets.length} {front back : List EncoderReply}
      (hpending : pending = some index) (hmessages : ∀ message ∈ messages, message = .source)
      (hworker : w.Calm config) (hreplies : replies = front ++ .reconfigureError :: back)
      (hfront : ∀ reply ∈ front, reply.Keeps config) (hback : ∀ reply ∈ back, reply.Keeps config)
  -- paused up to the message that resumes it, so that it encodes nothing
  | swapped {index : Fin presets.length} {front back : List EncoderReply}
      (hpending : pending = some index) (hmessages : ∀ message ∈ messages, message = .source)
      (hencoder : w.encoder = some (presets.get index)) (hpaused : w.paused = true)
      (hencoding : w.encoding = [])
      (hhandling : ∀ task, w.handling = some task → task = .cancelling)
      (hreplies : replies = front ++ .reconfigured :: back)
      (hfront : ∀ reply ∈ front, reply.Keeps config) (hback : ∀ reply ∈ back, reply = .sourceReady)

/-- What holds in a run whose steps meet the condition. -/
structure MetersByPreset (s : VideoSession presets) : Prop where
  ws : Meters presets s.config s.videoQuality s.ws
  exchange : ∀ link, s.link = some link →
    Exchange s.config link.pendingReconfigure link.messages link.worker link.replies
  empty : s.slot = .empty → s.link = none
  metered : ∀ frame ∈ s.metered, presets[frame.1]? = some frame.2

theorem EncoderMessage.keeps_of_sources {messages : List EncoderMessage}
    (h : ∀ message ∈ messages, message = .source) (config : VideoPreset) :
    ∀ message ∈ messages, message.Keeps config := by
  intro message hmem
  obtain rfl := h message hmem
  trivial

/-! ## Messages to the server -/

namespace Meters

variable {index : Nat} {ws : List IngestMessage}

theorem send_videoQuality (h : Meters presets config index ws) (quality : Fin presets.length) :
    Meters presets (presets.get quality) index (ws ++ [.videoQuality quality]) := by
  induction h with
  | nil _ => exact .videoQuality quality.isLt (.nil (List.getElem?_eq_getElem quality.isLt))
  | videoQuality hlisted _ ih => exact .videoQuality hlisted ih
  | frame hpreset _ ih => exact .frame hpreset ih

theorem send_frame (h : Meters presets config index ws) :
    Meters presets config index (ws ++ [.frame config]) := by
  induction h with
  | nil hselected => exact .frame hselected (.nil hselected)
  | videoQuality hlisted _ ih => exact .videoQuality hlisted ih
  | frame hpreset _ ih => exact .frame hpreset ih

end Meters

/-! ## Steps of the worker -/

namespace EncoderWorker

variable {w w' : EncoderWorker} {event : EncoderEvent} {replies : List EncoderReply}

theorem Encodes.keep (h : w.Encodes config) (hencoder : w'.encoder = w.encoder)
    (hencoding : w'.encoding = w.encoding) : w'.Encodes config where
  encoder := hencoder ▸ h.encoder
  encoding := hencoding ▸ h.encoding

theorem Encodes.submit (h : w.Encodes config) (hperform : w.submit = some (w', replies)) :
    w'.Encodes config ∧ w'.handling = w.handling ∧ w'.paused = w.paused ∧ replies = [] := by
  rw [EncoderWorker.submit] at hperform
  split at hperform
  next preset hencoder _ =>
    obtain ⟨rfl, rfl⟩ := Prod.mk.inj (Option.some.inj hperform)
    refine ⟨⟨h.encoder, ?_⟩, rfl, rfl, rfl⟩
    intro other hmem
    obtain hmem | hmem := List.mem_append.mp hmem
    · exact h.encoding other hmem
    · obtain rfl := List.mem_singleton.mp hmem
      exact h.encoder other hencoder
  next => cases hperform

theorem Encodes.output (h : w.Encodes config) (hperform : w.output = some (w', replies)) :
    w'.Encodes config ∧ w'.handling = w.handling ∧ w'.paused = w.paused ∧
      ∀ reply ∈ replies, reply.Keeps config := by
  rw [EncoderWorker.output] at hperform
  split at hperform
  next => cases hperform
  next preset encoding hencoding =>
    obtain ⟨rfl, rfl⟩ := Prod.mk.inj (Option.some.inj hperform)
    have hall : ∀ other ∈ preset :: encoding, other = config := hencoding ▸ h.encoding
    refine ⟨⟨h.encoder, fun other hmem => hall other (List.mem_cons_of_mem _ hmem)⟩, rfl, rfl, ?_⟩
    intro reply hmem
    obtain rfl := List.mem_singleton.mp hmem
    exact hall preset List.mem_cons_self

theorem Calm.proceed (h : w.Calm config) (hperform : w.proceed = some (w', replies)) :
    w'.Calm config ∧ ∀ reply ∈ replies, reply.Keeps config := by
  rw [EncoderWorker.proceed] at hperform
  split at hperform
  next => cases hperform
  next preset hhandling =>
    obtain ⟨rfl, rfl⟩ := Prod.mk.inj (Option.some.inj hperform)
    have hpreset : preset = config := h.handling _ hhandling
    refine ⟨⟨⟨?_, h.encoding⟩, fun task htask => nomatch htask⟩, ?_⟩
    · intro other hother
      exact (Option.some.inj hother).symm.trans hpreset
    · intro reply hmem
      obtain rfl := List.mem_singleton.mp hmem
      trivial
  next =>
    obtain ⟨rfl, rfl⟩ := Prod.mk.inj (Option.some.inj hperform)
    refine ⟨⟨⟨h.encoder, h.encoding⟩, fun task htask => nomatch htask⟩, ?_⟩
    intro reply hmem
    obtain rfl := List.mem_singleton.mp hmem
    trivial
  next preset hhandling => exact (h.handling _ hhandling).elim
  next preset hhandling => exact (h.handling _ hhandling).elim

theorem Calm.not_refuse (h : w.Calm config) : w.refuse = none := by
  rw [EncoderWorker.refuse]
  split
  next preset hhandling => exact (h.handling _ hhandling).elim
  next preset hhandling => exact (h.handling _ hhandling).elim
  next => rfl

/-- A worker that is not about to swap its encoder. -/
theorem Calm.perform (h : w.Calm config) (hperform : w.perform event = some (w', replies)) :
    w'.Calm config ∧ ∀ reply ∈ replies, reply.Keeps config := by
  cases event with
  | proceed => exact h.proceed hperform
  | refuse => cases h.not_refuse.symm.trans hperform
  | submit =>
    obtain ⟨hencodes, hhandling, -, rfl⟩ := h.toEncodes.submit hperform
    exact ⟨⟨hencodes, hhandling ▸ h.handling⟩, List.forall_mem_nil _⟩
  | output =>
    obtain ⟨hencodes, hhandling, -, hreplies⟩ := h.toEncodes.output hperform
    exact ⟨⟨hencodes, hhandling ▸ h.handling⟩, hreplies⟩

theorem Calm.handleMessage {message : EncoderMessage} (h : w.Calm config)
    (hmessage : message.Keeps config) : (w.handleMessage message).Calm config := by
  cases message with
  | init preset =>
    refine ⟨⟨fun other hother => ?_, fun other hmem => ?_⟩, ?_⟩
    · cases hother
    · cases hmem
    · intro task htask
      obtain rfl := Option.some.inj htask
      exact hmessage
  | source =>
    rw [EncoderWorker.handleMessage]
    split
    next => exact h
    next =>
      refine ⟨h.toEncodes.keep rfl rfl, ?_⟩
      intro task htask
      obtain rfl := Option.some.inj htask
      trivial
  | reconfigure preset => exact hmessage.elim
  | resume =>
    rw [EncoderWorker.handleMessage]
    split
    next => exact h
    next => exact ⟨h.toEncodes.keep rfl rfl, h.handling⟩

/-- A worker that asks for the support of an encoder, or flushes the one it has. -/
theorem Encodes.perform_trying {preset : VideoPreset} (h : w.Encodes config)
    (hhandling : w.handling = some (.supporting preset) ∨
      w.handling = some (.flushing preset) ∧ w.paused = true)
    (hperform : w.perform event = some (w', replies)) :
    w'.Encodes config ∧ (∀ reply ∈ replies, reply.Keeps config) ∧
      (w'.handling = some (.supporting preset) ∨
        w'.handling = some (.flushing preset) ∧ w'.paused = true) ∨
    w'.Calm config ∧ replies = [.reconfigureError] ∨
    w'.encoder = some preset ∧ w'.paused = true ∧ w'.encoding = [] ∧ w'.handling = none ∧
      replies = [.reconfigured] := by
  cases event with
  | proceed =>
    rw [EncoderWorker.perform, EncoderWorker.proceed] at hperform
    obtain hsupporting | ⟨hflushing, hpaused⟩ := hhandling
    · rw [hsupporting] at hperform
      obtain ⟨rfl, rfl⟩ := Prod.mk.inj (Option.some.inj hperform)
      exact .inl ⟨h.keep rfl rfl, List.forall_mem_nil _, .inr ⟨rfl, rfl⟩⟩
    · rw [hflushing] at hperform
      obtain ⟨hempty, hresult⟩ := Option.ite_none_right_eq_some.mp hperform
      obtain ⟨rfl, rfl⟩ := Prod.mk.inj (Option.some.inj hresult)
      exact .inr (.inr ⟨rfl, hpaused, hempty, rfl, rfl⟩)
  | refuse =>
    have hrefuse : w.refuse =
        some ({ w with paused := false, handling := none }, [.reconfigureError]) := by
      obtain hsupporting | ⟨hflushing, -⟩ := hhandling
      · rw [EncoderWorker.refuse, hsupporting]
      · rw [EncoderWorker.refuse, hflushing]
    obtain ⟨rfl, rfl⟩ := Prod.mk.inj (Option.some.inj (hrefuse.symm.trans hperform))
    exact .inr (.inl ⟨⟨h.keep rfl rfl, fun task htask => nomatch htask⟩, rfl⟩)
  | submit =>
    obtain ⟨hencodes, hsame, hpaused, rfl⟩ := h.submit hperform
    rw [hsame, hpaused]
    exact .inl ⟨hencodes, List.forall_mem_nil _, hhandling⟩
  | output =>
    obtain ⟨hencodes, hsame, hpaused, hreplies⟩ := h.output hperform
    rw [hsame, hpaused]
    exact .inl ⟨hencodes, hreplies, hhandling⟩

/-- A worker that is paused and has no frames encodes nothing. -/
theorem perform_paused (hpaused : w.paused = true) (hencoding : w.encoding = [])
    (hhandling : ∀ task, w.handling = some task → task = .cancelling)
    (hperform : w.perform event = some (w', replies)) :
    w' = { w with handling := none } ∧ replies = [.sourceReady] := by
  cases event with
  | proceed =>
    rw [EncoderWorker.perform, EncoderWorker.proceed] at hperform
    cases htask : w.handling with
    | none =>
      rw [htask] at hperform
      cases hperform
    | some task =>
      obtain rfl := hhandling task htask
      rw [htask] at hperform
      obtain ⟨rfl, rfl⟩ := Prod.mk.inj (Option.some.inj hperform)
      exact ⟨rfl, rfl⟩
  | refuse =>
    rw [EncoderWorker.perform, EncoderWorker.refuse] at hperform
    split at hperform
    next htask => cases hhandling _ htask
    next htask => cases hhandling _ htask
    next => cases hperform
  | submit =>
    rw [EncoderWorker.perform, EncoderWorker.submit, hpaused] at hperform
    split at hperform
    next hsame => cases hsame
    next => cases hperform
  | output =>
    rw [EncoderWorker.perform, EncoderWorker.output, hencoding] at hperform
    cases hperform

end EncoderWorker

/-! ## Stages -/

namespace Exchange

variable {pending : Option (Fin presets.length)} {messages : List EncoderMessage}
variable {w w' : EncoderWorker} {replies new : List EncoderReply}

theorem create (config : VideoPreset) : Exchange config (none : Option (Fin presets.length))
    [.init config] { encoder := none, paused := false, encoding := [], handling := none } [] := by
  refine .quiet ?_ ⟨⟨?_, ?_⟩, ?_⟩ ?_
  · intro message hmem
    obtain rfl := List.mem_singleton.mp hmem
    exact rfl
  · exact fun preset hencoder => nomatch hencoder
  · exact List.forall_mem_nil _
  · exact fun task htask => nomatch htask
  · exact List.forall_mem_nil _

/-- The page hands a source over. -/
theorem source (h : Exchange config pending messages w replies) :
    Exchange config pending (messages ++ [.source]) w replies := by
  have hsource : ∀ message ∈ [EncoderMessage.source], message = .source :=
    fun message hmem => List.mem_singleton.mp hmem
  have hkeeps := EncoderMessage.keeps_of_sources hsource config
  cases h with
  | quiet hmessages hworker hreplies =>
    exact .quiet (List.forall_mem_append.mpr ⟨hmessages, hkeeps⟩) hworker hreplies
  | asked hpending hmessages hfront hback hworker hreplies =>
    refine .asked hpending ?_ hfront (List.forall_mem_append.mpr ⟨hback, hsource⟩) hworker hreplies
    rw [hmessages, List.append_assoc, List.cons_append]
  | trying hpending hmessages hhandling hworker hreplies =>
    exact .trying hpending (List.forall_mem_append.mpr ⟨hmessages, hsource⟩) hhandling hworker
      hreplies
  | refused hpending hmessages hworker hreplies hfront hback =>
    exact .refused hpending (List.forall_mem_append.mpr ⟨hmessages, hsource⟩) hworker hreplies
      hfront hback
  | swapped hpending hmessages hencoder hpaused hencoding hhandling hreplies hfront hback =>
    exact .swapped hpending (List.forall_mem_append.mpr ⟨hmessages, hsource⟩) hencoder hpaused
      hencoding hhandling hreplies hfront hback

/-- The page asks for a quality. -/
theorem ask (h : Exchange config pending messages w replies) (hnone : pending = none)
    (index : Fin presets.length) :
    Exchange config (some index) (messages ++ [.reconfigure (presets.get index)]) w replies := by
  cases h with
  | quiet hmessages hworker hreplies =>
    exact .asked rfl rfl hmessages (List.forall_mem_nil _) hworker hreplies
  | asked hpending => cases hnone.symm.trans hpending
  | trying hpending => cases hnone.symm.trans hpending
  | refused hpending => cases hnone.symm.trans hpending
  | swapped hpending => cases hnone.symm.trans hpending

/-- The worker does something. -/
theorem perform {event : EncoderEvent} (h : Exchange config pending messages w replies)
    (hperform : w.perform event = some (w', new)) :
    Exchange config pending messages w' (replies ++ new) := by
  cases h with
  | quiet hmessages hworker hreplies =>
    obtain ⟨hcalm, hnew⟩ := hworker.perform hperform
    exact .quiet hmessages hcalm (List.forall_mem_append.mpr ⟨hreplies, hnew⟩)
  | asked hpending hmessages hfront hback hworker hreplies =>
    obtain ⟨hcalm, hnew⟩ := hworker.perform hperform
    exact .asked hpending hmessages hfront hback hcalm
      (List.forall_mem_append.mpr ⟨hreplies, hnew⟩)
  | trying hpending hmessages hhandling hworker hreplies =>
    obtain ⟨hencodes, hnew, hstill⟩ | ⟨hcalm, rfl⟩ | ⟨hencoder, hpaused, hencoding, hidle, rfl⟩ :=
      hworker.perform_trying hhandling hperform
    · exact .trying hpending hmessages hstill hencodes
        (List.forall_mem_append.mpr ⟨hreplies, hnew⟩)
    · exact .refused hpending hmessages hcalm rfl hreplies (List.forall_mem_nil _)
    · refine .swapped hpending hmessages hencoder hpaused hencoding ?_ rfl hreplies ?_
      · intro task htask
        cases hidle.symm.trans htask
      · exact List.forall_mem_nil _
  | refused hpending hmessages hworker hreplies hfront hback =>
    obtain ⟨hcalm, hnew⟩ := hworker.perform hperform
    refine .refused hpending hmessages hcalm ?_ hfront (List.forall_mem_append.mpr ⟨hback, hnew⟩)
    rw [hreplies, List.append_assoc, List.cons_append]
  | @swapped index front back hpending hmessages hencoder hpaused hencoding hhandling hreplies
      hfront hback =>
    obtain ⟨rfl, rfl⟩ := EncoderWorker.perform_paused hpaused hencoding hhandling hperform
    have hlater : ∀ reply ∈ back ++ [.sourceReady], reply = .sourceReady :=
      List.forall_mem_append.mpr ⟨hback, fun reply hmem => List.mem_singleton.mp hmem⟩
    refine .swapped hpending hmessages hencoder hpaused hencoding (fun task htask => nomatch htask)
      ?_ hfront hlater
    rw [hreplies, List.append_assoc, List.cons_append]

/-- The worker takes up a message. -/
theorem handle {message : EncoderMessage}
    (h : Exchange config pending (message :: messages) w replies) (hidle : w.handling = none) :
    Exchange config pending messages (w.handleMessage message) replies := by
  cases h with
  | quiet hmessages hworker hreplies =>
    obtain ⟨hmessage, hmessages⟩ := List.forall_mem_cons.mp hmessages
    exact .quiet hmessages (hworker.handleMessage hmessage) hreplies
  | @asked index front back hpending hmessages hfront hback hworker hreplies =>
    cases front with
    | nil =>
      obtain ⟨rfl, rfl⟩ := List.cons.inj hmessages
      rw [EncoderWorker.handleMessage]
      split
      next =>
        exact .quiet (EncoderMessage.keeps_of_sources hback config) hworker hreplies
      next => exact .trying hpending hback (.inl rfl) (hworker.toEncodes.keep rfl rfl) hreplies
    | cons first front =>
      obtain ⟨rfl, rfl⟩ := List.cons.inj hmessages
      obtain ⟨hfirst, hfront⟩ := List.forall_mem_cons.mp hfront
      exact .asked hpending rfl hfront hback (hworker.handleMessage hfirst) hreplies
  | trying hpending hmessages hhandling =>
    obtain hsupporting | ⟨hflushing, -⟩ := hhandling
    · cases hidle.symm.trans hsupporting
    · cases hidle.symm.trans hflushing
  | refused hpending hmessages hworker hreplies hfront hback =>
    obtain ⟨rfl, hrest⟩ := List.forall_mem_cons.mp hmessages
    exact .refused hpending hrest (hworker.handleMessage trivial) hreplies hfront hback
  | swapped hpending hmessages hencoder hpaused hencoding hhandling hreplies hfront hback =>
    obtain ⟨rfl, hrest⟩ := List.forall_mem_cons.mp hmessages
    have hopen : w.encoder ≠ none := by
      rw [hencoder]
      exact Option.some_ne_none _
    rw [EncoderWorker.handleMessage, if_neg hopen]
    refine .swapped hpending hrest hencoder hpaused hencoding ?_ hreplies hfront hback
    exact fun task htask => (Option.some.inj htask).symm

/-- A reply arrives: one that changes nothing, a refusal, or the end of a change. -/
theorem reply {reply : EncoderReply}
    (h : Exchange config pending messages w (reply :: replies)) :
    reply.Keeps config ∧ Exchange config pending messages w replies ∨
    reply = .reconfigureError ∧
      Exchange config (none : Option (Fin presets.length)) messages w replies ∨
    reply = .reconfigured ∧ ∃ index, pending = some index ∧
      Exchange (presets.get index) (none : Option (Fin presets.length)) (messages ++ [.resume]) w
        replies := by
  cases h with
  | quiet hmessages hworker hreplies =>
    obtain ⟨hreply, hreplies⟩ := List.forall_mem_cons.mp hreplies
    exact .inl ⟨hreply, .quiet hmessages hworker hreplies⟩
  | asked hpending hmessages hfront hback hworker hreplies =>
    obtain ⟨hreply, hreplies⟩ := List.forall_mem_cons.mp hreplies
    exact .inl ⟨hreply, .asked hpending hmessages hfront hback hworker hreplies⟩
  | trying hpending hmessages hhandling hworker hreplies =>
    obtain ⟨hreply, hreplies⟩ := List.forall_mem_cons.mp hreplies
    exact .inl ⟨hreply, .trying hpending hmessages hhandling hworker hreplies⟩
  | @refused index front back hpending hmessages hworker hreplies hfront hback =>
    cases front with
    | nil =>
      obtain ⟨rfl, rfl⟩ := List.cons.inj hreplies
      have hkeeps := EncoderMessage.keeps_of_sources hmessages config
      exact .inr (.inl ⟨rfl, .quiet hkeeps hworker hback⟩)
    | cons first front =>
      obtain ⟨rfl, rfl⟩ := List.cons.inj hreplies
      obtain ⟨hfirst, hfront⟩ := List.forall_mem_cons.mp hfront
      exact .inl ⟨hfirst, .refused hpending hmessages hworker rfl hfront hback⟩
  | @swapped index front back hpending hmessages hencoder hpaused hencoding hhandling hreplies
      hfront hback =>
    cases front with
    | nil =>
      obtain ⟨rfl, rfl⟩ := List.cons.inj hreplies
      refine .inr (.inr ⟨rfl, index, hpending, .quiet ?_ ⟨⟨?_, ?_⟩, ?_⟩ ?_⟩)
      · refine List.forall_mem_append.mpr ⟨EncoderMessage.keeps_of_sources hmessages _, ?_⟩
        intro message hmem
        obtain rfl := List.mem_singleton.mp hmem
        trivial
      · exact fun preset hpreset => Option.some.inj (hpreset.symm.trans hencoder)
      · rw [hencoding]
        exact List.forall_mem_nil _
      · intro task htask
        obtain rfl := hhandling task htask
        trivial
      · intro reply hmem
        obtain rfl := hback reply hmem
        trivial
    | cons first front =>
      obtain ⟨rfl, rfl⟩ := List.cons.inj hreplies
      obtain ⟨hfirst, hfront⟩ := List.forall_mem_cons.mp hfront
      exact .inl ⟨hfirst, .swapped hpending hmessages hencoder hpaused hencoding hhandling rfl
        hfront hback⟩

end Exchange

/-! ## Steps of the session -/

namespace MetersByPreset

variable {s s' : VideoSession presets} {link : VideoLink presets}

theorem start (presets : List VideoPreset) (quality : Fin presets.length) :
    MetersByPreset (VideoSession.system presets quality).start where
  ws := .videoQuality quality.isLt (.nil (List.getElem?_eq_getElem quality.isLt))
  exchange _ hlink := nomatch hlink
  empty _ := rfl
  metered := List.forall_mem_nil _

/-- Only the worker and its messages change. -/
theorem relink (h : MetersByPreset s) (hlink : s.link = some link) {link' : VideoLink presets}
    (hexchange : Exchange s.config link'.pendingReconfigure link'.messages link'.worker
      link'.replies) :
    MetersByPreset { s with link := some link' } where
  ws := h.ws
  exchange other hother := by
    obtain rfl := Option.some.inj hother
    exact hexchange
  empty hempty := by cases hlink.symm.trans (h.empty hempty)
  metered := h.metered

/-- The page has closed the worker. -/
theorem unlink (h : MetersByPreset s) (slot : VideoSlot) :
    MetersByPreset ({ s with slot, link := none } : VideoSession presets) :=
  ⟨h.ws, fun _ hlink => (nomatch hlink), fun _ => rfl, h.metered⟩

theorem setVideoQuality (h : MetersByPreset s) (index : Fin presets.length)
    (hkeeps : KeepsStartQuality s (.setVideoQuality index)) :
    MetersByPreset (s.setVideoQuality index) := by
  rw [VideoSession.setVideoQuality]
  split
  next link _ hlink => exact h.relink hlink (h.exchange link hlink)
  next => exact h
  next hactive _ =>
    refine ⟨h.ws.send_videoQuality index, ?_, h.empty, h.metered⟩
    intro link hlink
    have hsame : presets.get index = s.config := by
      refine hkeeps index rfl ?_ ?_
      · cases hslot : s.slot with
        | empty => cases hlink.symm.trans (h.empty hslot)
        | starting => rfl
        | active => exact (hactive link hslot hlink).elim
      · intro hnone
        cases hlink.symm.trans hnone
    exact hsame ▸ h.exchange link hlink

theorem reconfigure (h : MetersByPreset s) (hlink : s.link = some link)
    (index : Fin presets.length) :
    MetersByPreset { s with link := some (link.reconfigure index) } := by
  refine h.relink hlink ?_
  rw [VideoLink.reconfigure]
  split
  next => exact h.exchange link hlink
  next hpending => exact (h.exchange link hlink).ask hpending index

theorem source (h : MetersByPreset s) (hlink : s.link = some link) :
    MetersByPreset { s with link := some link.source } := by
  refine h.relink hlink ?_
  rw [VideoLink.source]
  split
  next => exact h.exchange link hlink
  next => exact (h.exchange link hlink).source

theorem onMessage (h : MetersByPreset s) (hlink : s.link = some link) {reply : EncoderReply}
    {replies : List EncoderReply} (hreplies : link.replies = reply :: replies) (dropped : Bool) :
    MetersByPreset (s.onMessage { link with replies } dropped reply) := by
  have hexchange := h.exchange link hlink
  rw [hreplies] at hexchange
  obtain ⟨hkeeps, hrest⟩ | ⟨rfl, hrest⟩ | ⟨rfl, index, hpending, hrest⟩ := hexchange.reply
  · cases reply with
    | ready => exact h.relink hlink hrest
    | sourceReady => exact h.relink hlink hrest
    | packet preset =>
      obtain rfl : preset = s.config := hkeeps
      have hstill : MetersByPreset { s with link := some { link with replies } } :=
        h.relink hlink hrest
      cases dropped with
      | true => exact hstill
      | false => exact { hstill with ws := h.ws.send_frame }
    | reconfigured => exact hkeeps.elim
    | reconfigureError => exact hkeeps.elim
  · exact h.relink hlink hrest
  · rw [VideoSession.onMessage, hpending]
    refine ⟨h.ws.send_videoQuality index, ?_, ?_, h.metered⟩
    · intro other hother
      obtain rfl := Option.some.inj hother
      exact hrest
    · intro hempty
      cases hlink.symm.trans (h.empty hempty)

theorem receive (h : MetersByPreset s) {message : IngestMessage} {ws : List IngestMessage}
    (hws : s.ws = message :: ws) : MetersByPreset ({ s with ws }.receive message) := by
  have hmeters := h.ws
  rw [hws] at hmeters
  cases hmeters with
  | videoQuality hlisted hrest =>
    rw [VideoSession.receive, if_pos hlisted]
    exact ⟨hrest, h.exchange, h.empty, h.metered⟩
  | frame hpreset hrest =>
    refine ⟨hrest, h.exchange, h.empty, ?_⟩
    intro frame hmem
    obtain hmem | hmem := List.mem_append.mp hmem
    · exact h.metered frame hmem
    · obtain rfl := List.mem_singleton.mp hmem
      exact hpreset

theorem step {a : QualityAction presets} (h : MetersByPreset s) (hkeeps : KeepsStartQuality s a)
    (hstep : s.step a = some s') : MetersByPreset s' := by
  cases a with
  | setVideoQuality index =>
    obtain rfl := Option.some.inj hstep
    exact h.setVideoQuality index hkeeps
  | constrained index =>
    rw [VideoSession.step] at hstep
    split at hstep
    next => cases hstep
    next link hlink =>
      obtain ⟨-, hnext⟩ := Option.ite_none_right_eq_some.mp hstep
      obtain rfl := Option.some.inj hnext
      exact h.reconfigure hlink index
  | start =>
    rw [VideoSession.step] at hstep
    split at hstep
    next hslot =>
      obtain rfl := Option.some.inj hstep
      refine ⟨h.ws, ?_, fun hempty => (nomatch hempty), h.metered⟩
      intro link hlink
      obtain rfl := Option.some.inj hlink
      exact .create s.config
    next => cases hstep
  | setSource =>
    rw [VideoSession.step] at hstep
    split at hstep
    next => cases hstep
    next link hlink =>
      obtain ⟨-, hnext⟩ := Option.ite_none_right_eq_some.mp hstep
      obtain rfl := Option.some.inj hnext
      exact h.source hlink
  | started =>
    rw [VideoSession.step] at hstep
    split at hstep
    next =>
      obtain ⟨-, hnext⟩ := Option.ite_none_right_eq_some.mp hstep
      obtain rfl := Option.some.inj hnext
      exact ⟨h.ws, h.exchange, fun hempty => (nomatch hempty), h.metered⟩
    next => cases hstep
  | startFailed =>
    rw [VideoSession.step] at hstep
    split at hstep
    next =>
      obtain rfl := Option.some.inj hstep
      exact h.unlink .empty
    next => cases hstep
  | stop =>
    rw [VideoSession.step] at hstep
    split at hstep
    next =>
      obtain rfl := Option.some.inj hstep
      exact h.unlink .empty
    next => cases hstep
  | failed =>
    obtain rfl := Option.some.inj hstep
    exact h.unlink s.slot
  | handle =>
    rw [VideoSession.step] at hstep
    split at hstep
    next => cases hstep
    next link hlink =>
      split at hstep
      next message messages hidle hmessages =>
        obtain rfl := Option.some.inj hstep
        have hexchange := h.exchange link hlink
        rw [hmessages] at hexchange
        exact h.relink hlink (hexchange.handle hidle)
      next => cases hstep
  | encoder event =>
    rw [VideoSession.step] at hstep
    split at hstep
    next => cases hstep
    next link hlink =>
      obtain ⟨⟨worker, replies⟩, hperform, rfl⟩ := Option.map_eq_some_iff.mp hstep
      exact h.relink hlink ((h.exchange link hlink).perform hperform)
  | reply dropped =>
    rw [VideoSession.step] at hstep
    split at hstep
    next => cases hstep
    next link hlink =>
      split at hstep
      next => cases hstep
      next reply replies hreplies =>
        obtain rfl := Option.some.inj hstep
        exact h.onMessage hlink hreplies dropped
  | receive =>
    rw [VideoSession.step] at hstep
    split at hstep
    next message ws _ hws =>
      obtain rfl := Option.some.inj hstep
      exact h.receive hws
    next => cases hstep

end MetersByPreset

/-- Where the quality is kept while a video starts, every frame that the server receives is metered
by the preset it was encoded with. -/
theorem video_metered_by_preset {quality : Fin presets.length} {s : VideoSession presets}
    (hrun : (VideoSession.system presets quality).Run KeepsStartQuality
      (VideoSession.system presets quality).start s) :
    ∀ frame ∈ s.metered, presets[frame.1]? = some frame.2 := by
  have hmeters : MetersByPreset s :=
    hrun.invariant (MetersByPreset.start presets quality)
      (fun _ _ _ h hkeeps hstep => h.step hkeeps hstep)
  exact hmeters.metered

/-! ## Sample runs -/

namespace VideoSession

/-- `KeepsStartQuality`, to be computed. -/
def keepsStartQuality (s : VideoSession presets) : QualityAction presets → Bool
  | .setVideoQuality index =>
    s.slot ≠ .starting || s.link.isNone || presets.get index = s.config
  | _ => true

theorem keepsStartQuality_of_check (s : VideoSession presets) (a : QualityAction presets)
    (h : s.keepsStartQuality a = true) : KeepsStartQuality s a := by
  rintro index rfl hslot hlink
  rw [keepsStartQuality, hslot] at h
  simpa [hlink] using h

def samplePresets : List VideoPreset :=
  [{ width := 1280, height := 720, fps := 30, bitrate := 2000000 },
    { width := 1280, height := 720, fps := 60, bitrate := 4000000 }]

def lowQuality : Fin samplePresets.length := ⟨0, by decide⟩

def highQuality : Fin samplePresets.length := ⟨1, by decide⟩

def sampleSystem : System (VideoSession samplePresets) (QualityAction samplePresets) :=
  system samplePresets lowQuality

/-- The worker has its encoder, and the page knows. -/
def initSteps : List (QualityAction samplePresets) :=
  [.receive, .start, .handle, .encoder .proceed, .reply false]

def startedSteps : List (QualityAction samplePresets) :=
  [.setSource, .handle, .encoder .proceed, .reply false, .started]

/-- A frame from the encoder to the server. -/
def frameSteps : List (QualityAction samplePresets) :=
  [.encoder .submit, .encoder .output, .reply false, .receive]

/-- The quality is changed, the worker is asked, swaps its encoder and is resumed. -/
def changeSteps : List (QualityAction samplePresets) :=
  [.setVideoQuality highQuality, .constrained highQuality, .handle, .encoder .proceed,
    .encoder .proceed, .reply false, .handle, .receive]

end VideoSession

/-- A change of the quality between two frames. -/
theorem video_metered_by_preset_small : ∃ s : VideoSession VideoSession.samplePresets,
    s.metered.map Prod.fst = [0, 1] ∧
    ∀ frame ∈ s.metered, VideoSession.samplePresets[frame.1]? = some frame.2 := by
  obtain ⟨s, hexec, hview⟩ := (Option.any_eq_true
    (fun s : VideoSession VideoSession.samplePresets => s.metered.map Prod.fst = [0, 1])
    ((VideoSession.sampleSystem.guarded VideoSession.keepsStartQuality).exec
      VideoSession.sampleSystem.start
      (VideoSession.initSteps ++ VideoSession.startedSteps ++ VideoSession.frameSteps ++
        VideoSession.changeSteps ++ VideoSession.frameSteps))).mp (by decide +kernel)
  have hrun : VideoSession.sampleSystem.Run KeepsStartQuality VideoSession.sampleSystem.start s :=
    System.run_of_exec_guarded (fun s a _ => s.keepsStartQuality_of_check a) hexec
  exact ⟨s, of_decide_eq_true hview, video_metered_by_preset hrun⟩

/-- The quality is changed while a video starts: the encoder has the old preset. -/
theorem video_metered_by_other_preset : ∃ s : VideoSession VideoSession.samplePresets,
    VideoSession.sampleSystem.Reachable s ∧
    ∃ frame ∈ s.metered, VideoSession.samplePresets[frame.1]? ≠ some frame.2 := by
  obtain ⟨s, hexec, hview⟩ := (Option.any_eq_true
    (fun s : VideoSession VideoSession.samplePresets =>
      ∃ frame ∈ s.metered, VideoSession.samplePresets[frame.1]? ≠ some frame.2)
    (VideoSession.sampleSystem.exec VideoSession.sampleSystem.start
      (VideoSession.initSteps ++ [.setVideoQuality VideoSession.highQuality, .receive] ++
        VideoSession.frameSteps))).mp (by decide +kernel)
  exact ⟨s, System.reachable_of_exec hexec, of_decide_eq_true hview⟩

end VRCStreamer
