import Mathlib.Data.List.DropRight
import TokenDump.Log.Recorder

/-! # Retention

A recorder can be used directly, or through a service that lets through what its threshold admits.
Whatever was done with the two, the recorder holds the latest of the events that were accepted since
it was last cleared, as many as there is room for, and that is what it shows. -/
namespace TokenDump.Log.Recorder

/-- What is done with a recorder that stands behind a service. -/
inductive Use where
  /-- Hands an event to the service. -/
  | log (event : Event)
  /-- Hands an event to the recorder itself. -/
  | record (event : Event)
  | clear
  /-- Asks for what the recorder shows. -/
  | look
deriving DecidableEq

/-- The recorder after a use of it, or of the service with this threshold. -/
def use (threshold : Level) (r : Recorder) : Use → Recorder
  | .log e => r.offer threshold e
  | .record e => r.push e
  | .clear => r.clear
  | .look => r

def after (threshold : Level) (r : Recorder) (uses : List Use) : Recorder :=
  uses.foldl (use threshold) r

/-- The event that is accepted with a use: by the service if it is at most as verbose as the
threshold, by the recorder in any case. -/
def Use.accepted? (threshold : Level) : Use → Option Event
  | .log e => if e.level.verbosity ≤ threshold.verbosity then some e else none
  | .record e => some e
  | .clear => none
  | .look => none

/-- The events accepted since the recorder was last cleared, the oldest first. -/
def acceptedSince (threshold : Level) (uses : List Use) : List Event :=
  (uses.rtakeWhile (· ≠ .clear)).filterMap (Use.accepted? threshold)

/-- What a recorder shows that holds these events and no others. -/
structure Shows (r : Recorder) (held : List Event) : Prop where
  events : r.events = held
  size : r.size = held.length
  isEmpty : r.isEmpty = true ↔ held = []
  find : ∀ level code, r.find level code = held.filter fun e => e.level = level ∧ e.code = code
  contains : ∀ level code, r.contains level code = true ↔ r.find level code ≠ []

variable {r : Recorder} {threshold : Level} {uses : List Use} {use : Use} {e : Event}

theorem shows_events (r : Recorder) : r.Shows r.events where
  events := rfl
  size := rfl
  isEmpty := List.isEmpty_iff
  find level code := by simp only [find, Bool.decide_and, Bool.beq_eq_decide_eq]
  contains level code := by simp [contains, find]

theorem rtake_append_singleton {n : Nat} (h : 0 < n) (events : List Event) (e : Event) :
    (events.rtake n ++ [e]).rtake n = (events ++ [e]).rtake n := by
  obtain ⟨m, rfl⟩ : ∃ m, n = m + 1 := ⟨n - 1, by omega⟩
  have hshorter : (events.rtake (m + 1)).rtake m = events.rtake m := by
    simp [List.rtake_eq_reverse_take_reverse, List.take_take]
  rw [List.rtake_concat_succ, List.rtake_concat_succ, hshorter]

theorem events_push_eq_rtake (r : Recorder) (e : Event) :
    (r.push e).events = (r.events ++ [e]).rtake r.capacity := by
  have hdropped : r.events.length + 1 - r.capacity ≤ r.events.length := by
    have hpositive := r.positive
    omega
  rw [events_push, makeRoom_eq_drop, List.rtake, List.length_append, List.length_singleton,
    List.drop_append_of_le_length hdropped]

/-- At most one event has to go, and it is the oldest. -/
theorem makeRoom_events (r : Recorder) :
    makeRoom r.capacity r.events = if r.size < r.capacity then r.events else r.events.tail := by
  have hbounded := r.bounded
  unfold size
  rw [makeRoom_eq_drop]
  split
  · have hnone : r.events.length + 1 - r.capacity = 0 := by omega
    rw [hnone, List.drop_zero]
  · have hone : r.events.length + 1 - r.capacity = 1 := by omega
    rw [hone, List.drop_one]

theorem capacity_use (threshold : Level) (r : Recorder) (use : Use) :
    (r.use threshold use).capacity = r.capacity := by
  cases use with
  | log e =>
    change (r.offer threshold e).capacity = r.capacity
    unfold offer
    split <;> rfl
  | record e => rfl
  | clear => rfl
  | look => rfl

/-- What one use makes of the events that a recorder holds. -/
theorem events_use {events : List Event} (hheld : r.events = events.rtake r.capacity)
    (hclear : use ≠ .clear) :
    (r.use threshold use).events =
      (events ++ (use.accepted? threshold).toList).rtake r.capacity := by
  have hpush (e : Event) : (r.push e).events = (events ++ [e]).rtake r.capacity := by
    rw [events_push_eq_rtake, hheld, rtake_append_singleton r.positive]
  cases use with
  | log e =>
    change (r.offer threshold e).events = _
    unfold offer Level.admits Use.accepted?
    by_cases hlevel : e.level.verbosity ≤ threshold.verbosity
    · simpa [hlevel] using hpush e
    · simpa [hlevel] using hheld
  | record e => exact hpush e
  | clear => exact absurd rfl hclear
  | look => simpa [Recorder.use, Use.accepted?] using hheld

theorem after_append_singleton (threshold : Level) (r : Recorder) (uses : List Use) (use : Use) :
    r.after threshold (uses ++ [use]) = (r.after threshold uses).use threshold use := by
  rw [after, List.foldl_append, List.foldl_cons, List.foldl_nil, after]

theorem acceptedSince_append_singleton (hclear : use ≠ .clear) :
    acceptedSince threshold (uses ++ [use]) =
      acceptedSince threshold uses ++ (use.accepted? threshold).toList := by
  have hlast : (uses ++ [use]).rtakeWhile (· ≠ .clear) =
      uses.rtakeWhile (· ≠ .clear) ++ [use] :=
    List.rtakeWhile_concat_pos _ _ _ (by simpa using hclear)
  rw [acceptedSince, hlast, List.filterMap_append, acceptedSince]
  cases h : use.accepted? threshold <;> simp [h]

theorem acceptedSince_clear (threshold : Level) (uses : List Use) :
    acceptedSince threshold (uses ++ [.clear]) = [] := by
  simp [acceptedSince]

theorem capacity_after (threshold : Level) (r : Recorder) (uses : List Use) :
    (r.after threshold uses).capacity = r.capacity := by
  induction uses using List.reverseRecOn with
  | nil => rfl
  | append_singleton uses use ih => rw [after_append_singleton, capacity_use, ih]

/-- The invariant of every history: the latest accepted events are held. -/
theorem events_after (hempty : r.events = []) (threshold : Level) (uses : List Use) :
    (r.after threshold uses).events = (acceptedSince threshold uses).rtake r.capacity := by
  induction uses using List.reverseRecOn with
  | nil => simpa [after, acceptedSince] using hempty
  | append_singleton uses use ih =>
    have hcapacity := capacity_after threshold r uses
    rw [after_append_singleton]
    by_cases hclear : use = .clear
    · subst hclear
      rw [acceptedSince_clear, List.rtake_nil]
      rfl
    · rw [acceptedSince_append_singleton hclear, ← hcapacity]
      apply events_use _ hclear
      rw [hcapacity, ih]

theorem after_filter_look (threshold : Level) (r : Recorder) (uses : List Use) :
    r.after threshold (uses.filter (· ≠ .look)) = r.after threshold uses := by
  unfold after
  induction uses generalizing r with
  | nil => rfl
  | cons use uses ih =>
    by_cases hlook : use = .look
    · subst hlook
      exact ih r
    · rw [List.filter_cons_of_pos (by simpa using hlook), List.foldl_cons, List.foldl_cons, ih]

/-- A recorder is a bounded queue. After any history it shows the latest of the events accepted since
the last time it was cleared, in their order, at least one of them even at capacity zero. One more
event costs the oldest one, and only when there is no room; asking costs nothing. -/
theorem after_shows (capacity : Nat) (threshold : Level) (uses : List Use) :
    let r := (ofCapacity capacity).after threshold uses
    r.Shows ((acceptedSince threshold uses).rtake (max capacity 1)) ∧
      r.size ≤ max capacity 1 ∧
      (∀ e, (r.push e).events =
        (if r.size < max capacity 1 then r.events else r.events.tail) ++ [e]) ∧
      (ofCapacity capacity).after threshold (uses.filter (· ≠ .look)) = r := by
  intro r
  have hcapacity : r.capacity = max capacity 1 := capacity_after threshold (ofCapacity capacity) uses
  have hevents : r.events = (acceptedSince threshold uses).rtake (max capacity 1) :=
    events_after rfl threshold uses
  refine ⟨?_, ?_, fun e => ?_, after_filter_look threshold _ uses⟩
  · rw [← hevents]
    exact r.shows_events
  · rw [← hcapacity]
    exact r.bounded
  · rw [events_push, makeRoom_events, hcapacity]

end TokenDump.Log.Recorder
