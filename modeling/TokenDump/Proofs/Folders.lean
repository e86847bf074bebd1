import Mathlib.Data.List.Basic
import Mathlib.Tactic.SplitIfs
import TokenDump.Storage.Folder

/-! # Folders after a write

A file that was created under a name is found under that name once it has been written, and nothing
else in the folder has changed. -/
namespace TokenDump.Folder

/-- The path is on the way to something, so that there is a directory if there is nothing else. -/
def known (f : Folder) (path : Path) : Bool :=
  path.isPrefixOf f.here || f.nodes.any fun (p, _) => path.isPrefixOf p

/-- The path has come of following a name: there is a way to it. -/
def Reached (f : Folder) (path : Path) : Prop := f.known path.dropLast = true

variable {f : Folder} {path target p q start : Path} {node : Node} {nodes : List (Path × Node)}
  {name part : String} {parts : List String}

theorem node?_eq (f : Folder) (path : Path) : f.node? path =
    (f.nodes.lookup path).or (if f.known path then some .directory else none) := by
  rw [node?, known]
  cases f.nodes.lookup path <;> rfl

theorem lookup_cons (p q : Path) (node : Node) (nodes : List (Path × Node)) :
    ((q, node) :: nodes).lookup p = if p = q then some node else nodes.lookup p := by
  by_cases h : p = q
  · simp [h]
  · simp [List.lookup_cons, h, beq_false_of_ne h]

theorem lookup_replace (path : Path) (node : Node) (nodes : List (Path × Node)) (p : Path) :
    (put.replace path node nodes).lookup p = if p = path then some node else nodes.lookup p := by
  induction nodes with
  | nil => rw [put.replace, lookup_cons]
  | cons entry nodes ih =>
    obtain ⟨q, n⟩ := entry
    rw [put.replace, lookup_cons]
    split
    case isTrue hq =>
      subst hq
      rw [lookup_cons]
      split <;> rfl
    case isFalse hq =>
      rw [lookup_cons, ih]
      by_cases h : p = q
      · rw [if_pos h, if_neg (h ▸ hq), if_pos h]
      · rw [if_neg h, if_neg h]

theorem any_replace (path : Path) (node : Node) (nodes : List (Path × Node)) (p : Path → Bool) :
    ((put.replace path node nodes).any fun (q, _) => p q) =
      ((nodes.any fun (q, _) => p q) || p path) := by
  induction nodes with
  | nil => simp [put.replace]
  | cons entry nodes ih =>
    obtain ⟨q, n⟩ := entry
    rw [put.replace]
    split
    case isTrue hq =>
      subst hq
      simp [Bool.or_comm]
    case isFalse hq => simp [ih, Bool.or_assoc]

theorem known_put (f : Folder) (path : Path) (node : Node) (p : Path) :
    (f.put path node).known p = (f.known p || p.isPrefixOf path) := by
  have hany := any_replace path node f.nodes (p.isPrefixOf ·)
  simp only [known, put, hany, Bool.or_assoc]

theorem known_of_isPrefix (h : f.known q = true) (hp : p <+: q) : f.known p = true := by
  simp only [known, Bool.or_eq_true, List.any_eq_true, List.isPrefixOf_iff_prefix] at h ⊢
  rcases h with h | ⟨entry, hentry, h⟩
  · exact .inl (hp.trans h)
  · exact .inr ⟨entry, hentry, hp.trans h⟩

theorem known_of_node? (h : f.node? path = some node) : f.known path = true := by
  rw [node?_eq] at h
  cases hl : f.nodes.lookup path with
  | none =>
    rw [hl] at h
    by_contra hk
    simp [hk] at h
  | some n =>
    have hmem := List.lookup_eq_some_iff.mp hl
    obtain ⟨before, after, hsplit, -⟩ := hmem
    simp [known, hsplit]

theorem node?_put_self (f : Folder) (path : Path) (node : Node) :
    (f.put path node).node? path = some node := by
  rw [node?_eq]
  simp [put, lookup_replace]

theorem prefix_dropLast (h : p <+: q) (hne : p ≠ q) : p <+: q.dropLast := by
  obtain ⟨rest, rfl⟩ := h
  have hrest : rest ≠ [] := by
    rintro rfl
    simp at hne
  rw [List.dropLast_append_of_ne_nil hrest]
  exact List.prefix_append _ _

/-- All directories on the way are there already. -/
theorem node?_put_of_ne (h : f.Reached path) (node : Node) (hne : p ≠ path) :
    (f.put path node).node? p = f.node? p := by
  have hknown : (f.put path node).known p = f.known p := by
    rw [known_put]
    by_cases hp : p <+: path
    · rw [known_of_isPrefix h (prefix_dropLast hp hne), Bool.true_or]
    · have hno : p.isPrefixOf path = false := by
        rw [← Bool.not_eq_true, List.isPrefixOf_iff_prefix]
        exact hp
      rw [hno, Bool.or_false]
  have hlookup : (f.put path node).nodes.lookup p = f.nodes.lookup p := by
    rw [put, lookup_replace, if_neg hne]
  rw [node?_eq, node?_eq, hknown, hlookup]

theorem node?_write_of_ne (h : f.Reached path) (content : Bytes) (hne : p ≠ path) :
    (f.write path content).node? p = f.node? p := by
  rw [write]
  split
  · rfl
  · exact node?_put_of_ne h _ hne

/-- Each part of a name is looked up in a directory. -/
theorem follow_cons (h : f.follow start (part :: parts) = .ok target) :
    f.node? start = some .directory ∧ ¬ partLimit < Utf8.size part.toList ∧
      f.follow (if part = "." then start else if part = ".." then start.dropLast
        else start ++ [part]) parts = .ok target := by
  rw [follow] at h
  split at h
  · simp at h
  · rename_i hnode
    split at h
    · simp at h
    · rename_i hlimit
      refine ⟨hnode, hlimit, ?_⟩
      split_ifs at h ⊢ <;> exact h
  · simp at h

theorem follow_of_directory (hnode : f.node? start = some .directory)
    (hlimit : ¬ partLimit < Utf8.size part.toList) :
    f.follow start (part :: parts) = f.follow (if part = "." then start
      else if part = ".." then start.dropLast else start ++ [part]) parts := by
  rw [follow, hnode]
  simp only [hlimit, if_false]
  split_ifs <;> rfl

theorem reached_of_known (h : f.known path = true) : f.Reached path :=
  known_of_isPrefix h (List.dropLast_prefix path)

theorem reached_follow (h : f.follow start parts = .ok target) (hs : f.Reached start) :
    f.Reached target := by
  induction parts generalizing start with
  | nil =>
    obtain rfl := Except.ok.inj h
    exact hs
  | cons part parts ih =>
    obtain ⟨hnode, -, hrest⟩ := follow_cons h
    have hknown := known_of_node? hnode
    refine ih hrest ?_
    split_ifs
    · exact hs
    · exact reached_of_known (known_of_isPrefix hknown (List.dropLast_prefix start))
    · rw [Reached, List.dropLast_concat]
      exact hknown

/-- Only directories are passed on the way, so a file at its end makes no difference. -/
theorem follow_put (h : f.follow start parts = .ok target) (hr : f.Reached target)
    (hn : f.node? target ≠ some .directory) (node : Node) :
    (f.put target node).follow start parts = .ok target := by
  induction parts generalizing start with
  | nil => exact h
  | cons part parts ih =>
    obtain ⟨hnode, hlimit, hrest⟩ := follow_cons h
    have hne : start ≠ target := by
      rintro rfl
      exact hn hnode
    have hnode' := (node?_put_of_ne hr node hne).trans hnode
    rw [follow_of_directory hnode' hlimit]
    exact ih hrest

variable {route : Route}

theorem known_route (h : f.route name = .ok route) : f.known route.start = true := by
  have hhere : f.known f.here = true := by simp [known]
  simp only [Folder.route, bind, Except.bind, throw, throwThe, MonadExceptOf.throw, pure,
    Except.pure] at h
  split_ifs at h <;> obtain rfl := Except.ok.inj h
  · exact known_of_isPrefix hhere List.nil_prefix
  · exact hhere

theorem createFile_ok (h : f.createFile name = .ok target) : ∃ route, f.route name = .ok route ∧
    route.wantsDirectory = false ∧ f.follow route.start route.parts = .ok target ∧
    f.node? target ≠ some .directory := by
  rw [createFile] at h
  cases hroute : f.route name with
  | error fault => simp [hroute, bind, Except.bind] at h
  | ok route =>
    simp only [hroute, bind, Except.bind, throw, throwThe, MonadExceptOf.throw, pure,
      Except.pure] at h
    split at h
    · split at h <;> simp at h
    · rename_i hfile
      cases hfollow : f.follow route.start route.parts with
      | error fault => simp [hfollow] at h
      | ok path =>
        simp only [hfollow] at h
        split at h
        · simp at h
        · rename_i hnode
          obtain rfl := Except.ok.inj h
          exact ⟨route, rfl, by simpa using hfile, hfollow, hnode⟩

theorem reached_createFile (h : f.createFile name = .ok target) : f.Reached target := by
  obtain ⟨route, hroute, -, hfollow, -⟩ := createFile_ok h
  exact reached_follow hfollow (reached_of_known (known_route hroute))

theorem resolve_createFile (h : f.createFile name = .ok target) :
    f.resolve name = .ok ⟨target, f.node? target, false⟩ := by
  obtain ⟨route, hroute, hfile, hfollow, -⟩ := createFile_ok h
  simp [resolve, hroute, hfollow, hfile, bind, Except.bind, pure, Except.pure]

theorem contentOf_put (h : f.createFile name = .ok target) (content : Bytes) :
    (f.put target (.file content)).contentOf name = .ok content := by
  obtain ⟨route, hroute, hfile, hfollow, hnode⟩ := createFile_ok h
  have hroute' : (f.put target (.file content)).route name = .ok route := hroute
  have hfollow' := follow_put hfollow (reached_createFile h) hnode (.file content)
  have hresolve : (f.put target (.file content)).resolve name =
      .ok ⟨target, some (.file content), false⟩ := by
    rw [← node?_put_self f target (.file content)]
    simp [resolve, hroute', hfollow', hfile, bind, Except.bind, pure, Except.pure]
  simp [contentOf, hresolve, bind, Except.bind, pure, Except.pure]

variable {size : Nat} {bytes : Bytes} {feed : Feed}

theorem flatten_pieces (h : size ≠ 0) (bytes : Bytes) : (pieces size bytes).flatten = bytes := by
  fun_induction pieces size bytes with
  | case1 bytes hstop =>
    have hnil : bytes = [] := by simpa [h] using hstop
    rw [hnil, List.flatten_nil]
  | case2 bytes hmore ih => rw [List.flatten_cons, ih, List.take_append_drop]

theorem nil_notMem_pieces (size : Nat) (bytes : Bytes) : [] ∉ pieces size bytes := by
  fun_induction pieces size bytes with
  | case1 => simp
  | case2 bytes hmore ih =>
    have htake : bytes.take size ≠ [] := by simpa [and_comm] using hmore
    simp [ih, htake.symm]

/-- What can be opened is a directory, or has a content that is handed out in pieces. -/
theorem openFile_ok (h : f.openFile name = .ok feed) : feed = [.fault .isADirectory] ∨
    ∃ content, f.contentOf name = .ok content ∧
      feed = .ofChunks (pieces readBuffer content) := by
  simp only [openFile, contentOf, bind, Except.bind, throw, throwThe, MonadExceptOf.throw, pure,
    Except.pure] at h ⊢
  cases hr : f.resolve name with
  | error fault => simp [hr] at h
  | ok place =>
    obtain ⟨path, node, wantsDirectory⟩ := place
    simp only [hr] at h ⊢
    match node with
    | none => simp at h
    | some .directory => exact .inl (Except.ok.inj h).symm
    | some (.file content) =>
      cases wantsDirectory with
      | true => simp at h
      | false => exact .inr ⟨content, rfl, (Except.ok.inj h).symm⟩
    | some (.device device) =>
      cases wantsDirectory with
      | true => simp at h
      | false => exact .inr ⟨device.content, rfl, (Except.ok.inj h).symm⟩

theorem openFile_of_content (h : f.contentOf name = .ok bytes) :
    f.openFile name = .ok (.ofChunks (pieces readBuffer bytes)) := by
  simp only [openFile, contentOf, bind, Except.bind, throw, throwThe, MonadExceptOf.throw, pure,
    Except.pure] at h ⊢
  cases hr : f.resolve name with
  | error fault => simp [hr] at h
  | ok place =>
    obtain ⟨path, node, wantsDirectory⟩ := place
    simp only [hr] at h ⊢
    match node with
    | none => simp at h
    | some .directory => simp at h
    | some (.file content) | some (.device device) =>
      cases wantsDirectory with
      | true => simp at h
      | false =>
        obtain rfl := Except.ok.inj h
        rfl

end TokenDump.Folder
