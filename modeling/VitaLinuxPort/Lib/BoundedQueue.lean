import Mathlib.Data.List.Basic

/-!
# Bounded queues

A queue of bounded capacity is offered elements, of which it keeps those it has room for, and gives
them out from its front. Whatever the order of the offers and the takings, what is taken and what is
left are together what was there and what was accepted, in order.
-/

namespace VitaLinuxPort

namespace BoundedQueue

variable {α : Type*} {cap : Nat}

inductive Event (α : Type*) where
  | offer (a : α)
  | take

def offer (cap : Nat) (queue : List α) (a : α) : List α :=
  if queue.length < cap then queue ++ [a] else queue

def next (cap : Nat) (queue : List α) : Event α → List α
  | .offer a => offer cap queue a
  | .take => queue.tail

def run (cap : Nat) (queue : List α) (events : List (Event α)) : List α :=
  events.foldl (next cap) queue

/-- Of the elements offered those that found fewer than `cap` in the queue. -/
def accepted (cap : Nat) : List α → List (Event α) → List α
  | _, [] => []
  | queue, .offer a :: events =>
      (if queue.length < cap then [a] else []) ++ accepted cap (offer cap queue a) events
  | queue, .take :: events => accepted cap queue.tail events

/-- What is taken; an empty queue gives nothing. -/
def taken (cap : Nat) : List α → List (Event α) → List α
  | _, [] => []
  | queue, .offer a :: events => taken cap (offer cap queue a) events
  | queue, .take :: events => queue.head?.toList ++ taken cap queue.tail events

theorem taken_offer (queue : List α) (a : α) (events : List (Event α)) :
    taken cap queue (.offer a :: events) = taken cap (offer cap queue a) events :=
  rfl

theorem taken_take (queue : List α) (events : List (Event α)) :
    taken cap queue (.take :: events) = queue.head?.toList ++ taken cap queue.tail events :=
  rfl

theorem offer_eq_append (cap : Nat) (queue : List α) (a : α) :
    offer cap queue a = queue ++ if queue.length < cap then [a] else [] := by
  unfold offer
  split <;> simp

theorem length_offer_le {queue : List α} (h : queue.length ≤ cap) (a : α) :
    (offer cap queue a).length ≤ cap := by
  unfold offer
  split
  · simpa
  · exact h

theorem run_append (queue : List α) (first second : List (Event α)) :
    run cap queue (first ++ second) = run cap (run cap queue first) second :=
  List.foldl_append

theorem run_offers (queue offers : List α) :
    run cap queue (offers.map .offer) = offers.foldl (offer cap) queue := by
  rw [run, List.foldl_map]
  rfl

theorem taken_offers (queue offers : List α) : taken cap queue (offers.map .offer) = [] := by
  induction offers generalizing queue with
  | nil => rfl
  | cons a offers ih => exact ih _

theorem taken_append (queue : List α) (first second : List (Event α)) :
    taken cap queue (first ++ second) =
      taken cap queue first ++ taken cap (run cap queue first) second := by
  induction first generalizing queue with
  | nil => rfl
  | cons event first ih =>
      cases event with
      | offer a =>
          rw [List.cons_append, taken_offer, taken_offer, ih]
          rfl
      | take =>
          rw [List.cons_append, taken_take, taken_take, ih, List.append_assoc]
          rfl

/-- Nothing is lost, repeated, invented or put out of order. -/
theorem taken_append_run (queue : List α) (events : List (Event α)) :
    taken cap queue events ++ run cap queue events = queue ++ accepted cap queue events := by
  induction events generalizing queue with
  | nil => simp [taken, accepted, run]
  | cons event events ih =>
      cases event with
      | offer a =>
          have hrest := ih (offer cap queue a)
          rw [taken_offer, accepted, ← List.append_assoc, ← offer_eq_append]
          exact hrest
      | take =>
          have hrest := ih queue.tail
          have hfront : queue.head?.toList ++ queue.tail = queue := by cases queue <;> rfl
          calc taken cap queue (.take :: events) ++ run cap queue (.take :: events)
              = queue.head?.toList ++ (taken cap queue.tail events ++ run cap queue.tail events) := by
                rw [taken_take, List.append_assoc]
                rfl
            _ = queue ++ accepted cap queue.tail events := by
                rw [hrest, ← List.append_assoc, hfront]

end BoundedQueue

end VitaLinuxPort
