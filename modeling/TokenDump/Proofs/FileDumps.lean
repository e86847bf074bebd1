import Mathlib
import TokenDump.Proofs.Delivery
import TokenDump.Proofs.Folders
import TokenDump.Proofs.Willing
import TokenDump.Dump.File

/-! # Dumps from one file to another one

A dump between two files writes what a dump of the source into memory gives, and nothing else. As
long as the source or the destination is not there for it, the folder stays as it is. -/
namespace TokenDump.Dump

open Lexer

/-- How a dump between files ends once the source was read and the destination was created, where
`l` is the lexer on the source. -/
structure Written (settings : Settings) (elapsed : Nat) (f : Folder) (source destination : String)
    (target : Path) (l : Lexer) (result : Except DumpError Summary) (output : Bytes)
    (after : Folder) : Prop where
  /-- The lexer depends on the bytes of the source alone, not on how they are fetched. -/
  source : ∃ content, f.contentOf source = .ok content ∧ ∀ chunks : List Bytes, [] ∉ chunks →
    chunks.flatten = content → (Lexer.ofFeed (.ofChunks chunks) settings.scanning).1 = .ok l
  same : result = (toMemory settings.dumping elapsed l).result
  outcome : result = verdict settings.dumping l.drain.1 l.drain.2.1
  /-- The destination holds what the dump gives into memory, whatever it held before. -/
  content : match f.node? target with
    | some (.device device) => after = f ∧
      output = if device = .output then (toMemory settings.dumping elapsed l).delivery.taken else []
    | _ => after.contentOf destination = .ok (toMemory settings.dumping elapsed l).delivery.taken ∧
      output = []
  /-- These are the lines of all tokens, or of those before the source could not be read. -/
  lines : (toMemory settings.dumping elapsed l).delivery.taken =
    script settings.dumping (proper l.drain.1)
  /-- It makes no difference that the bytes are collected on their way, as those still collected at
  the end are stored then. -/
  buffered : let o := run settings.dumping elapsed l (.start .file .start)
    o.result = result ∧ o.delivery.taken = (toMemory settings.dumping elapsed l).delivery.taken ∧
      o.delivery.state.store.stored = o.delivery.taken.length
  elsewhere : ∀ path, path ≠ target → after.node? path = f.node? path

/-- How a dump between files may end. The source is opened and its first characters are read before
the destination is created. -/
inductive FileDump (settings : Settings) (elapsed : Nat) (f : Folder)
    (source destination : String) : Except DumpError Summary → Bytes → Folder → Prop
  | unopened {fault : Fault} (failed : f.openFile source = .error fault) :
      FileDump settings elapsed f source destination (.error (.unopened source fault)) [] f
  | unprimed {feed : Feed} {error : ReadError} (opened : f.openFile source = .ok feed)
      (failed : (Lexer.ofFeed feed settings.scanning).1 = .error error) :
      FileDump settings elapsed f source destination (.error (.unread (.unread error))) [] f
  | uncreated {feed : Feed} {l : Lexer} {fault : Fault} (opened : f.openFile source = .ok feed)
      (primed : (Lexer.ofFeed feed settings.scanning).1 = .ok l)
      (failed : f.createFile destination = .error fault) :
      FileDump settings elapsed f source destination (.error (.uncreated destination fault)) [] f
  | written {feed : Feed} {l : Lexer} {target : Path} {result : Except DumpError Summary}
      {output : Bytes} {after : Folder} (opened : f.openFile source = .ok feed)
      (primed : (Lexer.ofFeed feed settings.scanning).1 = .ok l)
      (created : f.createFile destination = .ok target)
      (rest : Written settings elapsed f source destination target l result output after) :
      FileDump settings elapsed f source destination result output after

variable {settings : Settings} {elapsed : Nat} {f : Folder} {source destination : String}
  {target : Path} {l : Lexer} {feed : Feed}

theorem toMemory_withOrigin (settings : Settings.Dumping) (elapsed : Nat) (l : Lexer)
    (origin : Option String) :
    (toMemory settings elapsed (l.withOrigin origin)).result =
        (toMemory settings elapsed l).result ∧
      (toMemory settings elapsed (l.withOrigin origin)).delivery.taken =
        (toMemory settings elapsed l).delivery.taken := by
  obtain ⟨htokens, hfailure⟩ := l.drain_withOrigin origin
  rw [toMemory_result, toMemory_result, toMemory_taken, toMemory_taken, htokens, hfailure]
  exact ⟨rfl, rfl⟩

theorem ofFeed_of_sameBytes {feed' : Feed} (h : feed.SameBytes feed')
    (settings : Settings.Scanning) : Lexer.ofFeed feed settings = Lexer.ofFeed feed' settings := by
  simp only [Lexer.ofFeed, Cursor.unprimed, h.readings]

theorem ofFeed_directory (settings : Settings.Scanning) :
    ∃ error, (Lexer.ofFeed [.fault .isADirectory] settings).1 = .error error := by
  have hkind : Fault.isADirectory.kind ≠ .interrupted := by simp [Fault.isADirectory, Fault.system]
  have hread : Feed.read [.fault .isADirectory] = (.fault .isADirectory, []) := by
    rw [Feed.read, Feed.byte, if_neg hkind]
  have hreadings : Feed.readings [.fault .isADirectory] = [.fault .isADirectory] := by
    rw [Feed.readings_of_ne_nil (by simp), hread, Feed.readings_nil]
  refine ⟨⟨.start, .isADirectory⟩, ?_⟩
  rw [Lexer.ofFeed, Cursor.unprimed, hreadings]
  rfl

/-- A source that a lexer could be opened on has a content. -/
theorem exists_content (hopen : f.openFile source = .ok feed)
    (hprime : (Lexer.ofFeed feed settings.scanning).1 = .ok l) :
    ∃ content, f.contentOf source = .ok content ∧ ∀ chunks : List Bytes, [] ∉ chunks →
      chunks.flatten = content →
      (Lexer.ofFeed (.ofChunks chunks) settings.scanning).1 = .ok l := by
  rcases Folder.openFile_ok hopen with rfl | ⟨content, hcontent, rfl⟩
  · obtain ⟨error, herror⟩ := ofFeed_directory settings.scanning
    simp [herror] at hprime
  · refine ⟨content, hcontent, fun chunks hchunks hflatten => ?_⟩
    have hpieces := Feed.chunked_ofChunks (Folder.nil_notMem_pieces Folder.readBuffer content)
    rw [Folder.flatten_pieces (by decide)] at hpieces
    have hgiven := Feed.chunked_ofChunks hchunks
    rw [hflatten] at hgiven
    rw [ofFeed_of_sameBytes ⟨content, hgiven, hpieces⟩]
    exact hprime

theorem sharedContent_of_apart {place : Folder.Place} (hplace : f.resolve destination = .ok place)
    (apart : ∀ a b, f.resolve source = .ok a → f.resolve destination = .ok b → a.path ≠ b.path) :
    sharedContent f source place.path = none := by
  rw [sharedContent]
  split
  · rename_i path content wantsDirectory hsource
    exact if_neg (apart _ _ hsource hplace)
  · rfl

theorem written_left (settings : Settings) (elapsed : Nat)
    (hopen : f.openFile source = .ok feed)
    (hprime : (Lexer.ofFeed feed settings.scanning).1 = .ok l)
    (hcreate : f.createFile destination = .ok target) (notices : List Log.Notice) :
    let o := betweenFiles.left f target notices
      (toMemory settings.dumping elapsed (l.withOrigin (some source)))
    Written settings elapsed f source destination target l o.result o.output o.folder := by
  obtain ⟨hresult, htaken⟩ := toMemory_withOrigin settings.dumping elapsed l (some source)
  refine ⟨exists_content hopen hprime, hresult, ?_, ?_, toMemory_taken _ _ _, ?_, ?_⟩
  · exact hresult.trans (toMemory_result _ _ _)
  · have hcontent := Folder.contentOf_put hcreate
      (toMemory settings.dumping elapsed l).delivery.taken
    simp only [betweenFiles.left, htaken, Folder.write]
    match f.node? target with
    | some (.device device) => simp
    | some (.file content) => exact ⟨hcontent, by simp⟩
    | some .directory => exact ⟨hcontent, by simp⟩
    | none => exact ⟨hcontent, by simp⟩
  · obtain ⟨hbuffered, hrest⟩ := run_buffered settings.dumping elapsed l
    exact ⟨hbuffered.trans hresult.symm, hrest⟩
  · intro path hne
    exact Folder.node?_write_of_ne (Folder.reached_createFile hcreate) _ hne

theorem betweenFiles_apart (settings : Settings) (elapsed : Nat) (f : Folder)
    (source destination : String)
    (apart : ∀ a b, f.resolve source = .ok a → f.resolve destination = .ok b → a.path ≠ b.path)
    (room : ∀ target, f.createFile destination = .ok target →
      f.node? target ≠ some (.device .full)) :
    let o := betweenFiles settings elapsed f source destination
    FileDump settings elapsed f source destination o.result o.output o.folder := by
  cases hopen : f.openFile source with
  | error fault =>
    simp only [betweenFiles, openLexer, hopen, ofFile]
    exact .unopened hopen
  | ok feed =>
    cases hprime : ofFeed feed settings.scanning with | mk primed notices =>
    cases primed with
    | error error =>
      simp only [betweenFiles, openLexer, hopen, ofFile, hprime]
      exact .unprimed hopen (congrArg Prod.fst hprime)
    | ok l =>
      cases hcreate : f.createFile destination with
      | error fault =>
        simp only [betweenFiles, openLexer, hopen, ofFile, hprime, hcreate]
        exact .uncreated hopen (congrArg Prod.fst hprime) hcreate
      | ok target =>
        have hshared := sharedContent_of_apart (Folder.resolve_createFile hcreate) apart
        simp only [betweenFiles, openLexer, hopen, ofFile, hprime, hcreate, hshared,
          if_neg (room target hcreate)]
        exact .written hopen (congrArg Prod.fst hprime) hcreate
          (written_left settings elapsed hopen (congrArg Prod.fst hprime) hcreate _)

/-- A dump from one file to another one. -/
theorem toFile_apart (settings : Settings) (elapsed : Nat) (f : Folder)
    (source destination : String) (journal : Log.Journal)
    (apart : ∀ a b, f.resolve source = .ok a → f.resolve destination = .ok b → a.path ≠ b.path)
    (room : ∀ target, f.createFile destination = .ok target →
      f.node? target ≠ some (.device .full)) :
    ∃ result output after log,
      toFile settings elapsed f source destination journal = (result, output, after, log) ∧
      FileDump settings elapsed f source destination result output after ∧
      log.file = journal.file :=
  ⟨_, _, _, _, rfl, betweenFiles_apart settings elapsed f source destination apart room, rfl⟩

/-- The source stops being text after two tokens, and the destination held something else. -/
theorem toFile_apart_undecodable :
    let f : Folder := ⟨[], [(["in"], .file [0x61, 0x2B, 0x62, 0xFF]), (["out"], .file [0x78])]⟩
    let settings : Settings := ⟨⟨.strict, true, true⟩, ⟨.json, true, true⟩, ⟨true, true, .debug⟩⟩
    let journal : Log.Journal := ⟨some .debug, some "before", .epoch, []⟩
    f.resolve "in" = .ok ⟨["in"], some (.file [0x61, 0x2B, 0x62, 0xFF]), false⟩ ∧
      f.resolve "out" = .ok ⟨["out"], some (.file [0x78]), false⟩ ∧
      f.createFile "out" = .ok ["out"] ∧
      ∃ result output after log,
        toFile settings 0 f "in" "out" journal = (result, output, after, log) ∧
        FileDump settings 0 f "in" "out" result output after ∧ log.file = some "before" := by
  intro f settings journal
  have hsource : f.resolve "in" =
      .ok ⟨["in"], some (.file [0x61, 0x2B, 0x62, 0xFF]), false⟩ := by cbv
  have hdestination : f.resolve "out" = .ok ⟨["out"], some (.file [0x78]), false⟩ := by cbv
  have hcreate : f.createFile "out" = .ok ["out"] := by cbv
  refine ⟨hsource, hdestination, hcreate, toFile_apart settings 0 f "in" "out" journal ?_ ?_⟩
  · intro a b ha hb
    obtain rfl := Except.ok.inj (hsource.symm.trans ha)
    obtain rfl := Except.ok.inj (hdestination.symm.trans hb)
    simp
  · intro target htarget
    obtain rfl := Except.ok.inj (hcreate.symm.trans htarget)
    decide

end TokenDump.Dump
