import TokenDump.Log.Event

/-! # Recorders

A recorder keeps the latest events in memory, at most its capacity, which leaves room for one. -/
namespace TokenDump.Log

structure Recorder where
  capacity : Nat
  /-- The events kept, the oldest first. -/
  events : List Event
  positive : 0 < capacity
  bounded : events.length ≤ capacity
deriving DecidableEq

namespace Recorder

/-- Capacity of a recorder for which none is asked. -/
def usualCapacity : Nat := 10000

/-- An empty recorder; one of capacity zero still keeps one event. -/
def ofCapacity (capacity : Nat) : Recorder where
  capacity := max capacity 1
  events := []
  positive := Nat.le_max_right capacity 1
  bounded := Nat.zero_le _

/-- Drops the oldest events until there is room for one more. -/
def makeRoom (capacity : Nat) : List Event → List Event
  | [] => []
  | e :: events => if capacity ≤ events.length + 1 then makeRoom capacity events else e :: events

theorem makeRoom_eq_drop (capacity : Nat) (events : List Event) :
    makeRoom capacity events = events.drop (events.length + 1 - capacity) := by
  induction events with
  | nil => simp [makeRoom]
  | cons e events ih =>
    rw [makeRoom, List.length_cons]
    split
    · have hdrop : events.length + 1 + 1 - capacity = events.length + 1 - capacity + 1 := by omega
      rw [ih, hdrop, List.drop_succ_cons]
    · have hdrop : events.length + 1 + 1 - capacity = 0 := by omega
      rw [hdrop, List.drop_zero]

theorem length_makeRoom_lt {capacity : Nat} (h : 0 < capacity) (events : List Event) :
    (makeRoom capacity events).length < capacity := by
  rw [makeRoom_eq_drop, List.length_drop]
  omega

/-- Keeps an event, at the cost of the oldest ones. -/
def push (r : Recorder) (e : Event) : Recorder where
  capacity := r.capacity
  events := makeRoom r.capacity r.events ++ [e]
  positive := r.positive
  bounded := by
    rw [List.length_append]
    exact length_makeRoom_lt r.positive r.events

theorem events_push (r : Recorder) (e : Event) :
    (r.push e).events = makeRoom r.capacity r.events ++ [e] := rfl

/-- Keeps events one after the other. -/
def pushAll (r : Recorder) (events : List Event) : Recorder where
  capacity := r.capacity
  events := (r.events ++ events).drop (r.events.length + events.length - r.capacity)
  positive := r.positive
  bounded := by
    rw [List.length_drop, List.length_append]
    omega

theorem pushAll_cons (r : Recorder) (e : Event) (events : List Event) :
    r.pushAll (e :: events) = (r.push e).pushAll events := by
  have hpositive := r.positive
  have hd : r.events.length + 1 - r.capacity ≤ r.events.length := by omega
  have he : r.events.length + 1 - r.capacity ≤ (r.events ++ [e]).length := by
    simp only [List.length_append]; omega
  simp only [pushAll, push, makeRoom_eq_drop, Recorder.mk.injEq, true_and]
  rw [← List.drop_append_of_le_length hd, ← List.drop_append_of_le_length he, List.append_assoc,
    List.singleton_append, List.drop_drop, List.length_drop]
  congr 1
  simp only [List.length_append, List.length_cons, List.length_nil]
  omega

def size (r : Recorder) : Nat := r.events.length

def isEmpty (r : Recorder) : Bool := r.events.isEmpty

def clear (r : Recorder) : Recorder where
  capacity := r.capacity
  events := []
  positive := r.positive
  bounded := Nat.zero_le _

/-- The events with this level and code. -/
def find (r : Recorder) (level : Level) (code : Code) : List Event :=
  r.events.filter fun e => e.level == level && e.code == code

def contains (r : Recorder) (level : Level) (code : Code) : Bool :=
  r.events.any fun e => e.level == level && e.code == code

/-- Keeps an event if the threshold admits its level. -/
def offer (r : Recorder) (threshold : Level) (e : Event) : Recorder :=
  if threshold.admits e.level then r.push e else r

end Recorder
end TokenDump.Log
