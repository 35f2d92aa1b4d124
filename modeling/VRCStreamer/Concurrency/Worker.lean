import Mathlib.Data.List.Basic

/-!
# A worker behind two queues

A worker takes requests in order, works them off in order and answers in order. An item may be
answered with any number of outputs, and a flush is answered once everything asked before it is
done. `pipeline` is what is on its way through the worker, the oldest first. A step of the worker
only repeats or drops items in it.
-/

namespace VRCStreamer.Concurrency

inductive Request (α : Type*) where
  | item (a : α)
  | flush
  deriving DecidableEq

/-- An answer may tell how much the worker has to do. -/
inductive Answer (α : Type*) where
  | output (a : α) (load : Nat)
  | accepted (load : Nat)
  | flushed
  deriving DecidableEq

structure Worker (α : Type*) where
  inbox : List (Request α)
  working : List (Request α)
  outbox : List (Answer α)

inductive WorkerStep where
  | take (load : Nat)
  | output (load : Nat)
  | finish
  deriving DecidableEq

variable {α : Type*}

/-- What an answer is about, except that an item was taken. -/
def Answer.request : Answer α → Option (Request α)
  | output a _ => some (.item a)
  | accepted _ => none
  | flushed => some .flush

/-- The items among requests. -/
def items (requests : List (Request α)) : List α :=
  requests.filterMap fun
    | .item a => some a
    | .flush => none

@[simp] theorem items_nil : items ([] : List (Request α)) = [] := rfl

@[simp] theorem items_cons_item (a : α) (requests : List (Request α)) :
    items (.item a :: requests) = a :: items requests := rfl

@[simp] theorem items_cons_flush (requests : List (Request α)) :
    items (.flush :: requests) = items requests := rfl

@[simp] theorem items_append (xs ys : List (Request α)) :
    items (xs ++ ys) = items xs ++ items ys :=
  List.filterMap_append

theorem mem_items {a : α} {requests : List (Request α)} :
    a ∈ items requests ↔ .item a ∈ requests := by
  rw [items, List.mem_filterMap]
  constructor
  · rintro ⟨request | _, hmem, heq⟩
    · exact Option.some.inj heq ▸ hmem
    · cases heq
  · intro hmem
    exact ⟨.item a, hmem, rfl⟩

namespace Worker

def idle : Worker α := ⟨[], [], []⟩

def post (worker : Worker α) (request : Request α) : Worker α :=
  { worker with inbox := worker.inbox ++ [request] }

def step (worker : Worker α) : WorkerStep → Option (Worker α)
  | .take load =>
    match worker.inbox with
    | [] => none
    | .item a :: inbox =>
      some { inbox, working := worker.working ++ [.item a],
             outbox := worker.outbox ++ [.accepted load] }
    | .flush :: inbox => some { worker with inbox, working := worker.working ++ [.flush] }
  | .output load =>
    match worker.working with
    | .item a :: _ => some { worker with outbox := worker.outbox ++ [.output a load] }
    | _ => none
  | .finish =>
    match worker.working with
    | [] => none
    | .item _ :: working => some { worker with working }
    | .flush :: working => some { worker with working, outbox := worker.outbox ++ [.flushed] }

/-- The oldest answer, and the worker without it. -/
def deliver (worker : Worker α) : Option (Answer α × Worker α) :=
  match worker.outbox with
  | [] => none
  | answer :: outbox => some (answer, { worker with outbox })

/-- What is on its way through the worker. -/
def pipeline (worker : Worker α) : List (Request α) :=
  worker.outbox.filterMap Answer.request ++ (worker.working ++ worker.inbox)

@[simp] theorem pipeline_idle : (idle : Worker α).pipeline = [] := rfl

@[simp] theorem pipeline_post (worker : Worker α) (request : Request α) :
    (worker.post request).pipeline = worker.pipeline ++ [request] := by
  simp [pipeline, post]

variable {worker next : Worker α} {answer : Answer α}

theorem pipeline_of_deliver (h : worker.deliver = some (answer, next)) :
    worker.pipeline = answer.request.toList ++ next.pipeline := by
  obtain ⟨inbox, working, outbox⟩ := worker
  cases outbox with
  | nil => cases h
  | cons answer outbox =>
    cases h
    rw [pipeline, List.filterMap_cons]
    cases answer <;> rfl

end Worker

/-! ## Progress -/

/-- An item is repeated or dropped, or nothing changes. -/
inductive Progress : List (Request α) → List (Request α) → Prop
  | same (requests : List (Request α)) : Progress requests requests
  | repeated (before : List (Request α)) (a : α) (after : List (Request α)) :
    Progress (before ++ .item a :: after) (before ++ .item a :: .item a :: after)
  | dropped (before : List (Request α)) (a : α) (after : List (Request α)) :
    Progress (before ++ .item a :: after) (before ++ after)

theorem Worker.progress {worker next : Worker α} {s : WorkerStep}
    (h : worker.step s = some next) : Progress worker.pipeline next.pipeline := by
  obtain ⟨inbox, working, outbox⟩ := worker
  cases s with
  | take load =>
    cases inbox with
    | nil => cases h
    | cons request inbox =>
      cases request with
      | item a =>
        cases h
        simpa [pipeline, Answer.request, List.filterMap_cons] using Progress.same _
      | flush =>
        cases h
        simpa [pipeline] using Progress.same _
  | output load =>
    cases working with
    | nil => cases h
    | cons request working =>
      cases request with
      | item a =>
        cases h
        simpa [pipeline, Answer.request] using
          Progress.repeated (outbox.filterMap Answer.request) a (working ++ inbox)
      | flush => cases h
  | finish =>
    cases working with
    | nil => cases h
    | cons request working =>
      cases request with
      | item a =>
        cases h
        simpa [pipeline] using
          Progress.dropped (outbox.filterMap Answer.request) a (working ++ inbox)
      | flush =>
        cases h
        simpa [pipeline, Answer.request] using Progress.same _

/-- Only items are on their way. -/
def NoFlush (requests : List (Request α)) : Prop := ∀ request ∈ requests, request ≠ .flush

/-- One flush is on its way, behind everything else. -/
def FlushLast (requests : List (Request α)) : Prop :=
  ∃ before, NoFlush before ∧ requests = before ++ [.flush]

theorem noFlush_nil : NoFlush ([] : List (Request α)) := List.forall_mem_nil _

theorem NoFlush.post_item {requests : List (Request α)} (h : NoFlush requests) (a : α) :
    NoFlush (requests ++ [.item a]) :=
  List.forall_mem_append.mpr ⟨h, List.forall_mem_singleton.mpr (fun heq => by cases heq)⟩

theorem NoFlush.post_flush {requests : List (Request α)} (h : NoFlush requests) :
    FlushLast (requests ++ [.flush]) :=
  ⟨requests, h, rfl⟩

theorem FlushLast.of_item {requests : List (Request α)} {a : α}
    (h : FlushLast (.item a :: requests)) : FlushLast requests := by
  obtain ⟨before, hbefore, heq⟩ := h
  cases before with
  | nil => cases heq
  | cons first before =>
    obtain ⟨-, rfl⟩ := List.cons.inj heq
    exact ⟨before, (List.forall_mem_cons.mp hbefore).2, rfl⟩

/-- Nothing is behind a flush. -/
theorem FlushLast.eq_nil {requests : List (Request α)} (h : FlushLast (.flush :: requests)) :
    requests = [] := by
  obtain ⟨before, hbefore, heq⟩ := h
  cases before with
  | nil => exact (List.cons.inj heq).2
  | cons first before =>
    obtain ⟨rfl, -⟩ := List.cons.inj heq
    exact absurd rfl (hbefore _ List.mem_cons_self)

namespace Progress

variable {old new : List (Request α)}

theorem nil (h : Progress old new) (hold : old = []) : new = [] := by
  cases h with
  | same => exact hold
  | repeated before a after => simp at hold
  | dropped before a after => simp at hold

theorem mem (h : Progress old new) {request : Request α} (hmem : request ∈ new) :
    request ∈ old := by
  cases h with
  | same => exact hmem
  | repeated before a after => simpa using hmem
  | dropped before a after =>
    rw [List.mem_append] at hmem
    exact List.mem_append.mpr (hmem.imp_right (List.mem_cons_of_mem _))

theorem items_subset (h : Progress old new) : items new ⊆ items old :=
  fun _ hmem => mem_items.mpr (h.mem (mem_items.mp hmem))

theorem noFlush (h : Progress old new) (hold : NoFlush old) : NoFlush new :=
  fun request hmem => hold request (h.mem hmem)

theorem split_item {requests before after : List (Request α)} {a : α}
    (h : requests ++ [.flush] = before ++ .item a :: after) :
    ∃ middle, requests = before ++ .item a :: middle ∧ after = middle ++ [.flush] := by
  rcases List.eq_nil_or_concat after with rfl | ⟨middle, last, rfl⟩
  · have hlast := (List.append_inj' h rfl).2
    simp at hlast
  · rw [List.concat_eq_append, ← List.cons_append, ← List.append_assoc] at h
    obtain ⟨hrequests, hlast⟩ := List.append_inj' h rfl
    refine ⟨middle, hrequests, ?_⟩
    rw [List.concat_eq_append, ← hlast]

/-- A flush stays behind everything else. -/
theorem flushLast (h : Progress old new) (hold : FlushLast old) : FlushLast new := by
  obtain ⟨requests, hitems, rfl⟩ := hold
  generalize hrequests : requests ++ [Request.flush] = all at h
  cases h with
  | same => exact ⟨requests, hitems, hrequests.symm⟩
  | repeated before a after =>
    obtain ⟨middle, rfl, rfl⟩ := split_item hrequests
    refine ⟨before ++ .item a :: .item a :: middle, ?_, by simp⟩
    exact (Progress.repeated before a middle).noFlush hitems
  | dropped before a after =>
    obtain ⟨middle, rfl, rfl⟩ := split_item hrequests
    refine ⟨before ++ middle, ?_, by simp⟩
    exact (Progress.dropped before a middle).noFlush hitems

theorem pairwise {r : α → α → Prop} (hrefl : ∀ a, r a a) {xs ys : List α} (h : Progress old new)
    (hold : (xs ++ (items old ++ ys)).Pairwise r) : (xs ++ (items new ++ ys)).Pairwise r := by
  cases h with
  | same => exact hold
  | repeated before a after =>
    rw [items_append, items_cons_item, List.append_assoc, ← List.append_assoc,
      List.pairwise_append] at hold ⊢
    obtain ⟨hbefore, hafter, hcross⟩ := hold
    refine ⟨hbefore, ?_, ?_⟩
    · rw [items_cons_item, List.cons_append, List.cons_append, List.pairwise_cons]
      refine ⟨?_, hafter⟩
      intro b hb
      rcases List.mem_cons.mp hb with rfl | hb
      · exact hrefl b
      · exact (List.pairwise_cons.mp hafter).1 b hb
    · intro b hb c hc
      apply hcross b hb
      simpa using hc
  | dropped before a after =>
    refine hold.sublist ?_
    rw [items_append, items_append, items_cons_item]
    refine (List.Sublist.refl _).append (List.Sublist.append ?_ (List.Sublist.refl _))
    exact (List.Sublist.refl _).append (List.sublist_cons_self _ _)

end Progress

end VRCStreamer.Concurrency
