import Mathlib.Data.List.Basic

/-!
# Broadcast channels

A channel keeps its last `capacity` messages for every receiver. Here it keeps all of them,
and a receiver is the number of messages that it is past. One that is further behind than
the capacity has lost messages and is told so.
-/

namespace VRCStreamer.Concurrency

structure Broadcast (α : Type*) where
  capacity : Nat
  sent : List α

namespace Broadcast

variable {α : Type*}

def new (capacity : Nat) : Broadcast α := ⟨capacity, []⟩

def send (tx : Broadcast α) (message : α) : Broadcast α :=
  { tx with sent := tx.sent ++ [message] }

/-- A new receiver gets what is sent from now on. -/
def subscribe (tx : Broadcast α) : Nat := tx.sent.length

/-- How many messages are queued for a receiver, lost ones included. -/
def len (tx : Broadcast α) (rx : Nat) : Nat := tx.sent.length - rx

/-- The next message and the receiver past it, or the number of messages that were lost. -/
def recv (tx : Broadcast α) (rx : Nat) : Option (Except Nat α × Nat) :=
  if tx.capacity < tx.len rx then
    some (.error (tx.len rx - tx.capacity), tx.sent.length - tx.capacity)
  else tx.sent[rx]?.map (fun message => (.ok message, rx + 1))

variable {tx : Broadcast α} {message : α} {rx i : Nat}

theorem lt_subscribe_of_getElem? (h : tx.sent[i]? = some message) : i < tx.subscribe :=
  (List.getElem?_eq_some_iff.mp h).1

theorem recv_ok {next : Nat} (h : tx.recv rx = some (.ok message, next)) :
    tx.sent[rx]? = some message ∧ next = rx + 1 := by
  rw [recv] at h
  split at h
  next => cases h
  next =>
    obtain ⟨sent, hsent, hpair⟩ := Option.map_eq_some_iff.mp h
    cases hpair
    exact ⟨hsent, rfl⟩

/-- Nothing is queued for a receiver that is past all messages. -/
theorem recv_eq_none_iff : tx.recv rx = none ↔ tx.subscribe ≤ rx := by
  rw [recv]
  split
  next hlost =>
    rw [len] at hlost
    refine ⟨(fun h => by cases h), ?_⟩
    intro hle
    rw [subscribe] at hle
    omega
  next => rw [Option.map_eq_none_iff, List.getElem?_eq_none_iff, subscribe]

/-- A receiver never gets past the channel. -/
theorem recv_le {received : Except Nat α} {next : Nat}
    (h : tx.recv rx = some (received, next)) : next ≤ tx.subscribe := by
  rw [recv] at h
  split at h
  next =>
    obtain ⟨-, rfl⟩ := Prod.mk.inj (Option.some.inj h)
    exact Nat.sub_le _ _
  next =>
    obtain ⟨sent, hsent, hpair⟩ := Option.map_eq_some_iff.mp h
    cases hpair
    exact lt_subscribe_of_getElem? hsent

/-- A receiver never goes back. -/
theorem le_of_recv {received : Except Nat α} {next : Nat}
    (h : tx.recv rx = some (received, next)) : rx ≤ next := by
  rw [recv] at h
  split at h
  next hlost =>
    obtain ⟨-, rfl⟩ := Prod.mk.inj (Option.some.inj h)
    rw [len] at hlost
    omega
  next =>
    obtain ⟨sent, -, hpair⟩ := Option.map_eq_some_iff.mp h
    cases hpair
    exact Nat.le_succ rx

end Broadcast

end VRCStreamer.Concurrency
