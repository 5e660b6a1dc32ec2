import Mathlib.Data.List.Infix

/-!
# Bounded channels

A channel with one receiver takes what is sent until it is full, and gives it out in the same order.
Either end may be dropped. When the last sender is gone, the receiver still gets what is left and
then hears of the end. When the receiver is gone, what is left is thrown away.

## Main definitions

* `Channel α`: a channel, with all that went into it and came out of it
* `Channel.send`, `Channel.recv`: one step of an end, which may have to wait
* `Channel.Fifo`: nothing is lost or reordered as long as there is a receiver

## Main results

* `Channel.Fifo.send`, `Channel.Fifo.recv`, `Channel.Fifo.dropReceiver`: the steps keep it
* `Channel.Fifo.received_eq_sent`: who hears of the end has received everything
-/

namespace Termd

structure Channel (α : Type*) where
  queue : List α := []
  /-- There is a sender. -/
  sending : Bool := true
  /-- There is a receiver. -/
  receiving : Bool := true
  sent : List α := []
  received : List α := []

namespace Channel

variable {α : Type*} {c c' : Channel α} {a : α} {capacity : ℕ}

/-- Sending to a receiver, which waits while the channel is full. -/
def send (c : Channel α) (capacity : ℕ) (a : α) : Option (Channel α) :=
  if c.queue.length < capacity then
    some { c with queue := c.queue ++ [a], sent := c.sent ++ [a] }
  else none

/-- Receiving, which waits while the channel is empty and there is a sender. -/
def recv (c : Channel α) : Option (Option α × Channel α) :=
  match c.queue with
  | a :: queue => some (some a, { c with queue, received := c.received ++ [a] })
  | [] => if c.sending then none else some (none, c)

def dropSender (c : Channel α) : Channel α := { c with sending := false }

def dropReceiver (c : Channel α) : Channel α := { c with receiving := false, queue := [] }

/-- Nothing is lost or reordered as long as there is a receiver. -/
structure Fifo (c : Channel α) : Prop where
  received_prefix : c.received <+: c.sent
  queued : c.receiving → c.received ++ c.queue = c.sent

theorem send_eq_some (h : c.send capacity a = some c') :
    c.queue.length < capacity ∧
      c' = { c with queue := c.queue ++ [a], sent := c.sent ++ [a] } := by
  rw [send] at h
  split_ifs at h with hroom
  exact ⟨hroom, (Option.some.inj h).symm⟩

theorem recv_cases {item : Option α} (h : c.recv = some (item, c')) :
    (∃ a queue, item = some a ∧ c.queue = a :: queue ∧
      c' = { c with queue, received := c.received ++ [a] }) ∨
    (item = none ∧ c.queue = [] ∧ c.sending = false ∧ c' = c) := by
  rw [recv] at h
  split at h
  next a queue hqueue =>
    obtain ⟨rfl, rfl⟩ := Prod.mk.inj (Option.some.inj h)
    exact .inl ⟨a, queue, rfl, hqueue, rfl⟩
  next hqueue =>
    split_ifs at h with hsending
    obtain ⟨rfl, rfl⟩ := Prod.mk.inj (Option.some.inj h)
    exact .inr ⟨rfl, hqueue, Bool.eq_false_iff.mpr hsending, rfl⟩

/-- Receiving has to wait. -/
theorem recv_eq_none_iff : c.recv = none ↔ c.queue = [] ∧ c.sending = true := by
  rw [recv]
  split
  next hqueue => simp [hqueue]
  next hqueue => cases hsending : c.sending <;> simp [hqueue]

namespace Fifo

theorem new : Fifo ({} : Channel α) := ⟨List.prefix_rfl, fun _ => rfl⟩

theorem send (h : c.Fifo) (hsend : c.send capacity a = some c') : c'.Fifo := by
  obtain ⟨-, rfl⟩ := send_eq_some hsend
  refine ⟨h.received_prefix.trans (List.prefix_append ..), fun hreceiving => ?_⟩
  rw [← List.append_assoc, h.queued hreceiving]

theorem recv {item : Option α} (h : c.Fifo) (hreceiving : c.receiving)
    (hrecv : c.recv = some (item, c')) : c'.Fifo := by
  obtain ⟨a, queue, -, hqueue, rfl⟩ | ⟨-, -, -, rfl⟩ := recv_cases hrecv
  · have hqueued := h.queued hreceiving
    rw [hqueue, List.append_cons] at hqueued
    exact ⟨hqueued ▸ List.prefix_append .., fun _ => hqueued⟩
  · exact h

theorem dropSender (h : c.Fifo) : c.dropSender.Fifo := ⟨h.received_prefix, h.queued⟩

theorem dropReceiver (h : c.Fifo) : c.dropReceiver.Fifo :=
  ⟨h.received_prefix, fun hreceiving => Bool.noConfusion hreceiving⟩

/-- Who hears of the end has received everything. -/
theorem received_eq_sent (h : c.Fifo) (hreceiving : c.receiving)
    (hrecv : c.recv = some (none, c')) : c.received = c.sent := by
  obtain ⟨a, queue, hitem, -⟩ | ⟨-, hqueue, -⟩ := recv_cases hrecv
  · cases hitem
  · rw [← h.queued hreceiving, hqueue, List.append_nil]

end Fifo

end Channel

end Termd
