import TokenDump.Proofs.Reporting

/-! # The file being processed

A program enters and leaves files, and it takes steps within a file, to any depth. Which file is in
force at a step can be read off the program: the last one that was entered on the level of the step
and not left since, or else the one around it. Steps within a file leave no mark on the steps behind
them, and every event that is posted names the file in force. -/
namespace TokenDump.Log

/-- What the step says about the file being processed. A step within a file says nothing about it to
the steps behind it. -/
def Action.setting? : Action → Option (Option String)
  | .enter file => some (some file)
  | .leave => some none
  | .ask => none
  | .post _ => none
  | .postPlain _ => none
  | .within _ _ => none

/-- The file in force behind the steps `before`, which are taken within `around`. -/
def inForce (around : Option String) (before : List Action) : Option String :=
  (before.filterMap Action.setting?).getLastD around

/-- Steps with their traces, taken within `enclosing`: on whatever level, `a` was taken within
`around`, behind the steps `before`, and has left the trace `t`. -/
inductive Performed (enclosing : Option String) (actions : List Action) (traces : List Trace) :
    Option String → List Action → Action → Trace → Prop
  | here {i : Nat} {a : Action} {t : Trace} (step : actions[i]? = some a)
      (trace : traces[i]? = some t) :
      Performed enclosing actions traces enclosing (actions.take i) a t
  | inside {around last : Option String} {before body : List Action} {file : String}
      {inner : List Trace} {i : Nat} {a : Action} {t : Trace}
      (outer : Performed enclosing actions traces around before (.within file body)
        (.within inner last))
      (step : body[i]? = some a) (trace : inner[i]? = some t) :
      Performed enclosing actions traces (some file) (body.take i) a t

/-- `m` is `n` under the name of `file`; without a file it is `n` itself. -/
structure Carries (file : Option String) (n m : Notice) : Prop where
  level : m.level = n.level
  code : m.code = n.code
  message : m.message = n.message
  span : m.span = n.span
  named : ∀ name, file = some name → m.details.lookup fileKey = some name ∧
    ∀ key, key ≠ fileKey → m.details.lookup key = n.details.lookup key
  unnamed : file = none → m.details = n.details

/-- What the trace of a step shows that was taken while `file` was in force: what the step has had
accepted, and the file in force behind it. -/
inductive Shown (j : Journal) (file : Option String) : Action → Trace → Prop
  | enter {name : String} : Shown j file (.enter name) (.step [] (some name))
  | leave : Shown j file .leave (.step [] none)
  | ask : Shown j file .ask (.step [] file)
  | posted {n m : Notice} (accepted : j.accepts n.level = true) (carried : Carries file n m) :
      Shown j file (.post n) (.step [⟨m, j.now⟩] file)
  | refused {n : Notice} (refused : j.accepts n.level = false) :
      Shown j file (.post n) (.step [] file)
  | postedPlain {n : Notice} (accepted : j.accepts n.level = true) :
      Shown j file (.postPlain n) (.step [⟨n, j.now⟩] file)
  | refusedPlain {n : Notice} (refused : j.accepts n.level = false) :
      Shown j file (.postPlain n) (.step [] file)
  | within {name : String} {body : List Action} {inner : List Trace}
      (whole : inner.length = body.length) :
      Shown j file (.within name body) (.within inner file)

mutual

/-- The events that a trace tells of, in their order. -/
def Trace.events : Trace → List Event
  | .step events _ => events
  | .within body _ => eventsAll body

def eventsAll : List Trace → List Event
  | [] => []
  | trace :: traces => trace.events ++ eventsAll traces

end

/-- The journal `k` has the service of `j`, which has accepted these events more. -/
structure Journal.Extends (j k : Journal) (events : List Event) : Prop where
  threshold : k.threshold = j.threshold
  now : k.now = j.now
  accepted : k.accepted = j.accepted ++ events

variable {j k m : Journal} {events events' : List Event} {n : Notice} {a : Action} {t : Trace}
  {file around enclosing : Option String} {actions before : List Action} {traces : List Trace}

theorem Journal.Extends.trans (h : j.Extends k events) (h' : k.Extends m events') :
    j.Extends m (events ++ events') := by
  refine ⟨h'.threshold.trans h.threshold, h'.now.trans h.now, ?_⟩
  rw [h'.accepted, h.accepted, List.append_assoc]

theorem Journal.Extends.accepts (h : j.Extends k events) (level : Level) :
    k.accepts level = j.accepts level := by
  rw [Journal.accepts, Journal.accepts, h.threshold]

theorem Journal.extends_file (j : Journal) (file : Option String) :
    j.Extends { j with file } [] := ⟨rfl, rfl, (List.append_nil _).symm⟩

theorem Journal.post_eq_postAll (j : Journal) (n : Notice) : j.post n = j.postAll [n] := by
  rw [j.postAll_cons, Journal.postAll_nil]

theorem Journal.extends_post (j : Journal) (n : Notice) :
    j.Extends (j.post n) (j.stamp? n).toList := by
  rw [Journal.post_eq_postAll]
  refine ⟨rfl, rfl, ?_⟩
  cases h : j.stamp? n <;> simp [Journal.postAll, h]

theorem Journal.file_post (j : Journal) (n : Notice) : (j.post n).file = j.file := by
  rw [Journal.post_eq_postAll]
  rfl

theorem Journal.extends_postPlain (j : Journal) (n : Notice) :
    j.Extends (j.postPlain n) (if j.accepts n.level then [⟨n, j.now⟩] else []) := by
  unfold Journal.postPlain
  split
  · exact ⟨rfl, rfl, rfl⟩
  · exact ⟨rfl, rfl, (List.append_nil _).symm⟩

theorem Journal.file_postPlain (j : Journal) (n : Notice) : (j.postPlain n).file = j.file := by
  unfold Journal.postPlain
  split <;> rfl

theorem after_of_extends (h : j.Extends k events) :
    Action.perform.after j k = (.step events k.file, k) := by
  rw [Action.perform.after, h.accepted, List.drop_left]

theorem perform_enter (j : Journal) (name : String) :
    (Action.enter name).perform j = (.step [] (some name), j.enter name) := by
  rw [Action.perform]
  exact after_of_extends (j.extends_file (some name))

theorem perform_leave (j : Journal) : Action.leave.perform j = (.step [] none, j.leave) := by
  rw [Action.perform]
  exact after_of_extends (j.extends_file none)

theorem perform_ask (j : Journal) : Action.ask.perform j = (.step [] j.file, j) := by
  rw [Action.perform]
  exact after_of_extends (j.extends_file j.file)

theorem perform_post (j : Journal) (n : Notice) :
    (Action.post n).perform j = (.step (j.stamp? n).toList j.file, j.post n) := by
  rw [Action.perform, after_of_extends (j.extends_post n), j.file_post]

theorem perform_postPlain (j : Journal) (n : Notice) : (Action.postPlain n).perform j =
    (.step (if j.accepts n.level then [⟨n, j.now⟩] else []) j.file, j.postPlain n) := by
  rw [Action.perform, after_of_extends (j.extends_postPlain n), j.file_postPlain]

theorem perform_within (j : Journal) (name : String) (body : List Action) :
    (Action.within name body).perform j =
      (.within (performAll (j.enter name) body).1 j.file,
        j.within name fun k => (performAll k body).2) := by
  rw [Action.perform, Journal.within]

theorem performAll_cons (j : Journal) (a : Action) (rest : List Action) :
    performAll j (a :: rest) = ((a.perform j).1 :: (performAll (a.perform j).2 rest).1,
      (performAll (a.perform j).2 rest).2) := by
  rw [performAll]

mutual

/-- A step has accepted what its trace tells of, whatever steps were taken within it. -/
theorem Action.perform_extends (j : Journal) :
    ∀ a : Action, j.Extends (a.perform j).2 (a.perform j).1.events
  | .enter name => by
    rw [perform_enter]
    exact j.extends_file (some name)
  | .leave => by
    rw [perform_leave]
    exact j.extends_file none
  | .ask => by
    rw [perform_ask]
    exact j.extends_file j.file
  | .post n => by
    rw [perform_post]
    exact j.extends_post n
  | .postPlain n => by
    rw [perform_postPlain]
    exact j.extends_postPlain n
  | .within name body => by
    have hbody := performAll_extends (j.enter name) body
    rw [perform_within]
    exact ⟨hbody.threshold, hbody.now, hbody.accepted⟩

theorem performAll_extends (j : Journal) : ∀ actions : List Action,
    j.Extends (performAll j actions).2 (eventsAll (performAll j actions).1)
  | [] => ⟨rfl, rfl, (List.append_nil _).symm⟩
  | a :: rest => by
    rw [performAll_cons]
    exact (a.perform_extends j).trans (performAll_extends (a.perform j).2 rest)

end

/-- A step within a file goes back to the file before it, whatever was entered and left within. -/
theorem file_perform (j : Journal) (a : Action) :
    (a.perform j).2.file = a.setting?.getD j.file := by
  cases a with
  | enter name => rfl
  | leave => rfl
  | ask => rfl
  | post n =>
    rw [perform_post]
    exact j.file_post n
  | postPlain n =>
    rw [perform_postPlain]
    exact j.file_postPlain n
  | within name body => rfl

theorem inForce_cons (around : Option String) (a : Action) (rest : List Action) :
    inForce around (a :: rest) = inForce (a.setting?.getD around) rest := by
  rw [inForce, List.filterMap_cons]
  cases a.setting? with
  | none => rfl
  | some file => exact List.getLastD_cons

theorem file_performAll (j : Journal) (actions : List Action) :
    (performAll j actions).2.file = inForce j.file actions := by
  induction actions generalizing j with
  | nil => rfl
  | cons a rest ih => rw [performAll_cons, ih, file_perform, inForce_cons]

theorem length_performAll (j : Journal) (actions : List Action) :
    (performAll j actions).1.length = actions.length := by
  induction actions generalizing j with
  | nil => rfl
  | cons a rest ih => rw [performAll_cons, List.length_cons, ih, List.length_cons]

/-- Every step is taken in the journal that the steps before it have left. -/
theorem getElem?_performAll (j : Journal) (actions : List Action) (i : Nat) :
    (performAll j actions).1[i]? =
      actions[i]?.map fun a => (a.perform (performAll j (actions.take i)).2).1 := by
  induction actions generalizing j i with
  | nil => rfl
  | cons a rest ih =>
    rw [performAll_cons]
    cases i with
    | zero => rfl
    | succ i =>
      rw [List.getElem?_cons_succ, List.getElem?_cons_succ, List.take_succ_cons, performAll_cons, ih]

/-- The journal in which a step was taken. -/
def Taken (j : Journal) (file : Option String) (a : Action) (t : Trace) : Prop :=
  ∃ k events, j.Extends k events ∧ k.file = file ∧ t = (a.perform k).1

theorem taken_of_getElem? {i : Nat} (step : actions[i]? = some a)
    (trace : (performAll j actions).1[i]? = some t) :
    Taken j (inForce j.file (actions.take i)) a t := by
  rw [getElem?_performAll, step] at trace
  refine ⟨_, _, performAll_extends j (actions.take i), file_performAll j _, ?_⟩
  exact (Option.some.inj trace).symm

theorem Performed.taken (h : Performed j.file actions (performAll j actions).1 around before a t) :
    Taken j (inForce around before) a t := by
  induction h with
  | here step trace => exact taken_of_getElem? step trace
  | @inside around last before body name inner i a t outer step trace ih =>
    obtain ⟨k, events, hextends, -, htrace⟩ := ih
    rw [perform_within] at htrace
    obtain ⟨rfl, -⟩ := Trace.within.inj htrace
    obtain ⟨m, events', hextends', hfile, ht⟩ := taken_of_getElem? step trace
    have hentered : j.Extends (k.enter name) events := ⟨hextends.threshold, hextends.now,
      hextends.accepted⟩
    exact ⟨m, _, hentered.trans hextends', hfile, ht⟩

theorem carries_placed (j : Journal) (n : Notice) : Carries j.file n (j.placed n) := by
  unfold Journal.placed
  cases j.file with
  | none => exact ⟨rfl, rfl, rfl, rfl, by simp, fun _ => rfl⟩
  | some name =>
    refine ⟨rfl, rfl, rfl, rfl, fun name' hname => ?_, by simp⟩
    obtain rfl := Option.some.inj hname
    exact ⟨Details.lookup_insert_self _ _ _, fun key hkey => Details.lookup_insert_of_ne hkey _ _⟩

/-- What one step shows. -/
theorem Taken.shown (h : Taken j file a t) : Shown j file a t := by
  obtain ⟨k, events, hextends, rfl, rfl⟩ := h
  have haccepts := hextends.accepts
  cases a with
  | enter name =>
    rw [perform_enter]
    exact .enter
  | leave =>
    rw [perform_leave]
    exact .leave
  | ask =>
    rw [perform_ask]
    exact .ask
  | post n =>
    rw [perform_post, Journal.stamp?, haccepts, hextends.now]
    cases hlevel : j.accepts n.level with
    | true => exact .posted hlevel (carries_placed k n)
    | false => exact .refused hlevel
  | postPlain n =>
    rw [perform_postPlain, haccepts, hextends.now]
    cases hlevel : j.accepts n.level with
    | true => exact .postedPlain hlevel
    | false => exact .refusedPlain hlevel
  | within name body =>
    rw [perform_within]
    exact .within (length_performAll (k.enter name) body)

/-- Files are bracketed. Every step of a program, however deep within files, shows the file that the
program text says is in force at it: asking gives that file, a posted event names it in place of any
file of its own, or is left as it is where there is none, and steps within a file end with the file
before them. -/
theorem performAll_shown (j : Journal) (actions : List Action) :
    let traces := (performAll j actions).1
    let last := (performAll j actions).2
    traces.length = actions.length ∧
      last.file = inForce j.file actions ∧
      last.accepted = j.accepted ++ eventsAll traces ∧
      ∀ around before a t, Performed j.file actions traces around before a t →
        Shown j (inForce around before) a t := by
  refine ⟨length_performAll j actions, file_performAll j actions, ?_, fun around before a t h => ?_⟩
  · exact (performAll_extends j actions).accepted
  · exact h.taken.shown

/-- A notice that names a file of its own, two levels deep, behind a file that was left for another
one. -/
theorem performAll_shown_nested :
    let j : Journal := ⟨some .info, some "outer", .epoch, []⟩
    let n : Notice := ⟨.info, .info, "m", none, [("file", "own"), ("key", "value")]⟩
    let inner : List Action := [.leave, .enter "c", .post n]
    let actions : List Action := [.ask, .within "a" [.within "b" inner, .ask], .ask]
    let t : Trace := .step [⟨n.inFile "c", .epoch⟩] (some "c")
    Performed j.file actions (performAll j actions).1 (some "b") (inner.take 2) (.post n) t ∧
      inForce (some "b") (inner.take 2) = some "c" ∧
      Shown j (inForce (some "b") (inner.take 2)) (.post n) t := by
  intro j n inner actions t
  have houter : Performed j.file actions (performAll j actions).1 j.file (actions.take 1)
      (.within "a" [.within "b" inner, .ask])
      (.within [.within [.step [] none, .step [] (some "c"), t] (some "a"), .step [] (some "a")]
        (some "outer")) := .here rfl rfl
  have hinner : Performed j.file actions (performAll j actions).1 (some "b") (inner.take 2)
      (.post n) t := .inside (.inside houter (i := 0) rfl rfl) (i := 2) rfl rfl
  exact ⟨hinner, rfl, (performAll_shown j actions).2.2.2 _ _ _ _ hinner⟩

end TokenDump.Log
