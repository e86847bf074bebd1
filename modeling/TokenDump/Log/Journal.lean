import TokenDump.Log.Event

/-! # Journals

A journal stamps notices with the time and the file that is being processed, and accepts those that
its threshold admits. Without a threshold no service is installed and nothing is accepted. -/
namespace TokenDump.Log

structure Journal where
  threshold : Option Level
  /-- The file that events are about. -/
  file : Option String
  /-- The time that events are stamped with. -/
  now : Timestamp
  /-- The events accepted so far, the oldest first. -/
  accepted : List Event
deriving DecidableEq

namespace Journal

def ofThreshold (threshold : Option Level) (now : Timestamp) : Journal := ⟨threshold, none, now, []⟩

/-- Whether an event of this level would be accepted. -/
def accepts (j : Journal) (level : Level) : Bool := j.threshold.any (·.admits level)

/-- Accepts a notice as it is, whatever file is being processed. -/
def postPlain (j : Journal) (n : Notice) : Journal :=
  if j.accepts n.level then { j with accepted := j.accepted ++ [⟨n, j.now⟩] } else j

/-- A notice under the name of the file being processed, which replaces any file that the notice
names itself. -/
def placed (j : Journal) (n : Notice) : Notice :=
  match j.file with
  | some file => n.inFile file
  | none => n

/-- Accepts a notice under the name of the file being processed. -/
def dispatch (j : Journal) (n : Notice) : Journal := j.postPlain (j.placed n)

/-- Posts a notice; one for debugging is not even prepared when it would not be accepted. -/
def post (j : Journal) (n : Notice) : Journal :=
  if n.level = .debug then
    if j.accepts .debug then j.dispatch n else j
  else j.dispatch n

/-- The event that comes of posting a notice, if it is accepted. -/
def stamp? (j : Journal) (n : Notice) : Option Event :=
  if j.accepts n.level then some ⟨j.placed n, j.now⟩ else none

/-- Posts notices one after the other. -/
def postAll (j : Journal) (notices : List Notice) : Journal :=
  { j with accepted := j.accepted ++ notices.filterMap j.stamp? }

theorem level_placed (j : Journal) (n : Notice) : (j.placed n).level = n.level := by
  unfold placed
  split <;> rfl

/-- Whether a notice is prepared in vain makes no difference to what is accepted. -/
theorem post_eq_dispatch (j : Journal) (n : Notice) : j.post n = j.dispatch n := by
  by_cases h : n.level = .debug
  · cases ha : j.accepts .debug <;> simp [post, dispatch, postPlain, level_placed, h, ha]
  · simp [post, h]

@[simp] theorem postAll_nil (j : Journal) : j.postAll [] = j := by simp [postAll]

theorem postAll_cons (j : Journal) (n : Notice) (notices : List Notice) :
    j.postAll (n :: notices) = (j.post n).postAll notices := by
  rw [post_eq_dispatch]
  cases h : j.accepts n.level with
  | false => simp [postAll, dispatch, postPlain, stamp?, level_placed, h]
  | true =>
    have hs : ({ j with accepted := j.accepted ++ [⟨j.placed n, j.now⟩] } : Journal).stamp? =
        j.stamp? := rfl
    have hn : j.stamp? n = some ⟨j.placed n, j.now⟩ := by simp [stamp?, h]
    simp [postAll, dispatch, postPlain, level_placed, h, hs, hn]

def enter (j : Journal) (file : String) : Journal := { j with file := some file }

def leave (j : Journal) : Journal := { j with file := none }

/-- Runs `body` while `file` is being processed, and then goes back to the file before it. -/
def within (j : Journal) (file : String) (body : Journal → Journal) : Journal :=
  { body (j.enter file) with file := j.file }

end Journal

/-- A step of a program as far as its journal can tell. -/
inductive Action where
  | enter (file : String)
  | leave
  | ask
  | post (notice : Notice)
  | postPlain (notice : Notice)
  | within (file : String) (body : List Action)

/-- What a step left behind: the events that it had accepted and the file that was being processed
after it; for steps within a file, what each of them left behind. -/
inductive Trace where
  | step (events : List Event) (file : Option String)
  | within (body : List Trace) (file : Option String)

mutual

/-- Performs a step. -/
def Action.perform (j : Journal) : Action → Trace × Journal
  | .enter file => after j (j.enter file)
  | .leave => after j j.leave
  | .ask => after j j
  | .post notice => after j (j.post notice)
  | .postPlain notice => after j (j.postPlain notice)
  | .within file body =>
    let (traces, inner) := performAll (j.enter file) body
    (.within traces j.file, { inner with file := j.file })
where
  /-- The trace of a step that took the journal from `before` to `now`. -/
  after (before now : Journal) : Trace × Journal :=
    (.step (now.accepted.drop before.accepted.length) now.file, now)

/-- Performs steps one after the other. -/
def performAll (j : Journal) : List Action → List Trace × Journal
  | [] => ([], j)
  | action :: rest =>
    let (trace, j) := action.perform j
    let (traces, j) := performAll j rest
    (trace :: traces, j)

end

end TokenDump.Log
