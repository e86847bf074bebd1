import TokenDump.Proofs.Courses
import TokenDump.Proofs.Session
import TokenDump.Proofs.Stability
import TokenDump.Dump.File

/-! # Observation

Metrics, warnings about illegal tokens and the journal watch a program and do not touch it. Lexers
that differ only in how they are watched are twins, and twins stay twins through every call and every
dump. So a program shows the same whoever watches it. -/
namespace TokenDump

namespace Lexer

open Scan

/-- Two lexers that differ only in what they have counted, and in whether they collect metrics and
log illegal tokens. -/
structure Twins (l m : Lexer) : Prop where
  cursor : l.cursor = m.cursor
  trivia : l.settings.trivia = m.settings.trivia
  origin : l.origin = m.origin
  failure : l.failure = m.failure
  isDone : l.isDone = m.isDone
  isDrained : l.isDrained = m.isDrained

/-- Two attempts to make a lexer that end with the same error or with twins. -/
inductive Matched {ε : Type} : Except ε Lexer → Except ε Lexer → Prop
  | error (error : ε) : Matched (.error error) (.error error)
  | ok {l m : Lexer} (twins : Twins l m) : Matched (.ok l) (.ok m)

variable {l m : Lexer} {trivia : Trivia} {p q : Progress} {t : Located Token}
  {settings settings' : Settings.Scanning}

/-- A scan reads its cursor and never the number of comments. -/
theorem paired_cursor : Paired (fun p q => p.cursor = q.cursor) (fun _ _ => False)
    (fun _ => True) := by
  refine ⟨⟨fun _ _ => trivial, fun _ _ => trivial⟩, fun p q h => ?_, fun p q h => h,
    fun p q h => ?_⟩
  · exact ⟨congrArg _ h, congrArg _ h, congrArg _ h⟩
  · have hresult : (move Cursor.advance p).1 = (move Cursor.advance q).1 :=
      congrArg (fun c : Cursor => c.advance.1) h
    have hcursor : (move Cursor.advance p).2.cursor = (move Cursor.advance q).2.cursor :=
      congrArg (fun c : Cursor => c.advance.2) h
    rw [← Prod.eta (move Cursor.advance p), ← Prod.eta (move Cursor.advance q), hresult]
    exact .same hcursor

theorem scanToken_congr (trivia : Trivia) (h : p.cursor = q.cursor) :
    (scanToken trivia p).1 = (scanToken trivia q).1 ∧
      (scanToken trivia p).2.cursor = (scanToken trivia q).2.cursor := by
  have halike := (parallel_scanToken paired_cursor trivia).alike p q h
  generalize scanToken trivia p = r at halike ⊢
  generalize scanToken trivia q = s at halike ⊢
  cases halike with
  | same inStep => exact ⟨rfl, inStep⟩
  | apart stopped past => exact stopped.elim

theorem Twins.passed (h : Twins l m) (hc : p.cursor = q.cursor) :
    Twins (l.passed p) (m.passed q) :=
  ⟨hc, h.trivia, h.origin, h.failure, h.isDone, h.isDrained⟩

theorem Twins.record (h : Twins l m) (t : Located Token) :
    Twins (l.record t).1 (m.record t).1 := by
  rw [record_lexer, record_lexer]
  exact ⟨h.cursor, h.trivia, h.origin, h.failure, congrArg (· || t.value.isEof) h.isDone,
    h.isDrained⟩

theorem Twins.failed (h : Twins l m) (hc : p.cursor = q.cursor) (error : ReadError) :
    Twins (l.failed p error) (m.failed q error) :=
  ⟨congrArg Cursor.close hc, h.trivia, h.origin, rfl, h.isDone, h.isDrained⟩

theorem Twins.eofHere (h : Twins l m) : l.eofHere = m.eofHere := by
  rw [Lexer.eofHere, Lexer.eofHere, position, position, h.cursor]

theorem Twins.next (h : Twins l m) :
    l.next.result = m.next.result ∧ Twins l.next.lexer m.next.lexer := by
  cases hf : l.failure with
  | some error =>
    rw [next_of_failed hf, next_of_failed (h.failure.symm.trans hf)]
    exact ⟨rfl, h⟩
  | none =>
    have hf' := h.failure.symm.trans hf
    cases hd : l.isDone with
    | true =>
      rw [next_of_done hf hd, next_of_done hf' (h.isDone.symm.trans hd)]
      exact ⟨congrArg Except.ok h.eofHere, h⟩
    | false =>
      rw [next_of_open hf hd, next_of_open hf' (h.isDone.symm.trans hd), ← h.trivia]
      obtain ⟨hresult, hcursor⟩ := scanToken_congr l.settings.trivia
        (p := ⟨l.cursor, l.tally.comments⟩) (q := ⟨m.cursor, m.tally.comments⟩) h.cursor
      generalize scanToken l.settings.trivia ⟨l.cursor, l.tally.comments⟩ = r at hresult hcursor ⊢
      generalize scanToken l.settings.trivia ⟨m.cursor, m.tally.comments⟩ = s at hresult hcursor ⊢
      obtain ⟨result, p⟩ := r
      obtain ⟨result', q⟩ := s
      obtain rfl : result = result' := hresult
      cases result with
      | ok t => exact ⟨rfl, (h.passed hcursor).record t⟩
      | error fault =>
        have hread : p.cursor.readPosition = q.cursor.readPosition :=
          congrArg Cursor.readPosition hcursor
        simp only [hread, true_and]
        exact h.failed hcursor _

theorem Twins.drained (h : Twins l m) :
    Twins { l with isDrained := true } { m with isDrained := true } :=
  ⟨h.cursor, h.trivia, h.origin, h.failure, h.isDone, rfl⟩

theorem Twins.pull (h : Twins l m) :
    l.pull.1 = m.pull.1 ∧ Twins l.pull.2.1 m.pull.2.1 := by
  obtain ⟨hresult, hnext⟩ := h.next
  cases hd : l.isDrained with
  | true =>
    rw [pull_of_drained hd, pull_of_drained (h.isDrained.symm.trans hd)]
    exact ⟨rfl, h⟩
  | false =>
    have hd' := h.isDrained.symm.trans hd
    cases hr : l.next.result with
    | error error =>
      rw [pull_of_error hd hr, pull_of_error hd' (hresult.symm.trans hr)]
      exact ⟨rfl, hnext.drained⟩
    | ok t =>
      rw [pull_of_ok hd hr, pull_of_ok hd' (hresult.symm.trans hr)]
      cases t.value.isEof with
      | true => exact ⟨rfl, hnext.drained⟩
      | false => exact ⟨rfl, hnext⟩

theorem Twins.close (h : Twins l m) : Twins l.close.1 m.close.1 :=
  ⟨congrArg Cursor.close h.cursor, h.trivia, h.origin, h.failure, rfl, h.isDrained⟩

theorem twins_ofCursor (cursor : Cursor) (h : settings.trivia = settings'.trivia) :
    Twins (ofCursor cursor settings) (ofCursor cursor settings') := ⟨rfl, h, rfl, rfl, rfl, rfl⟩

theorem matched_ofFeed (feed : Feed) (h : settings.trivia = settings'.trivia) :
    Matched (ofFeed feed settings).1 (ofFeed feed settings').1 := by
  rw [ofFeed, ofFeed]
  generalize (Cursor.unprimed feed).prime = r
  obtain ⟨result, cursor⟩ := r
  cases result with
  | error fault => exact .error _
  | ok u => exact .ok (twins_ofCursor cursor h)

theorem matched_ofFile (path : String) (opened : Except Fault Feed)
    (h : settings.trivia = settings'.trivia) :
    Matched (ofFile path opened settings).1 (ofFile path opened settings').1 := by
  cases opened with
  | error fault => exact .error _
  | ok feed =>
    have hfeed := matched_ofFeed feed h
    simp only [ofFile]
    generalize ofFeed feed settings = r at hfeed ⊢
    generalize ofFeed feed settings' = s at hfeed ⊢
    obtain ⟨made, notices⟩ := r
    obtain ⟨made', notices'⟩ := s
    cases hfeed with
    | error error => exact .error _
    | ok twins =>
      exact .ok ⟨twins.cursor, twins.trivia, rfl, twins.failure, twins.isDone, twins.isDrained⟩

end Lexer

namespace Dump

open Lexer

variable {σ : Type} {c : Channel σ} {l m last : Lexer} {d e : Delivery σ}
  {ts : List (Located Token)} {stop : Stop} {lines : Lexer → Delivery σ → Nat → Nat → Outcome σ}

/-- Two dumps that differ only in how they are watched. -/
structure Outcome.Twins (o o' : Outcome σ) : Prop where
  result : o.result = o'.result
  delivery : o.delivery = o'.delivery
  lexer : o.lexer.Twins o'.lexer

/-- The channel gives twins the same token and leaves them twins. -/
def Channel.Blind (c : Channel σ) : Prop := ∀ l m d, l.Twins m →
  (c.next l d).result = (c.next m d).result ∧ (c.next l d).lexer.Twins (c.next m d).lexer

theorem blind_plain (settings : Settings.Dumping) : (Channel.plain settings : Channel σ).Blind :=
  fun _ _ _ h => h.next

theorem twins_lookAgain (fetched : Bytes) (d : Delivery FileProgress) (h : l.Twins m) :
    (lookAgain fetched d l).Twins (lookAgain fetched d m) := by
  have hcursor : (lookAgain fetched d l).cursor = (lookAgain fetched d m).cursor := by
    rw [lookAgain, lookAgain, h.cursor]
  exact ⟨hcursor, h.trivia, h.origin, h.failure, h.isDone, h.isDrained⟩

theorem blind_inPlace (settings : Settings.Dumping) (fetched : Bytes) :
    (Channel.inPlace settings fetched).Blind := by
  intro l m d h
  obtain ⟨hresult, hnext⟩ := h.next
  simp only [Channel.inPlace, nextInPlace, hnext.cursor]
  split
  · exact (twins_lookAgain fetched d h).next
  · exact ⟨hresult, hnext⟩

/-- Twins take the same course. -/
theorem Course.twins (h : Course c l d ts stop last e) (hc : c.Blind) (hl : l.Twins m) :
    ∃ last', Course c m d ts stop last' e ∧ last.Twins last' := by
  induction h generalizing m with
  | unread failed =>
    obtain ⟨hresult, hnext⟩ := hc _ _ _ hl
    exact ⟨_, .unread (hresult.symm.trans failed), hnext⟩
  | ended given eof =>
    obtain ⟨hresult, hnext⟩ := hc _ _ _ hl
    exact ⟨_, .ended (hresult.symm.trans given) eof, hnext⟩
  | refused given proper put =>
    obtain ⟨hresult, hnext⟩ := hc _ _ _ hl
    exact ⟨_, .refused (hresult.symm.trans given) proper put, hnext⟩
  | line given proper put rest ih =>
    obtain ⟨hresult, hnext⟩ := hc _ _ _ hl
    obtain ⟨last', hrest, hlast⟩ := ih hnext
    exact ⟨last', .line (hresult.symm.trans given) proper put hrest, hlast⟩

theorem Course.twins_outcome (h : Course c l d ts stop last e) (hc : c.Blind)
    (hlines : c.Through lines) (hl : l.Twins m) (n k : Nat) :
    (lines l d n k).Twins (lines m d n k) := by
  obtain ⟨last', h', hlast⟩ := h.twins hc hl
  obtain ⟨hresult, hlexer, hdelivery⟩ := h.outcome hlines n k
  obtain ⟨hresult', hlexer', hdelivery'⟩ := h'.outcome hlines n k
  refine ⟨hresult.trans hresult'.symm, hdelivery.trans hdelivery'.symm, ?_⟩
  rwa [hlexer, hlexer']

variable {o o' : Outcome σ}

theorem Outcome.Twins.finish (h : o.Twins o') (settings : Settings.Dumping)
    (elapsed elapsed' : Nat) :
    (finish settings elapsed o).Twins (finish settings elapsed' o') := by
  rw [Dump.finish, Dump.finish, ← h.result]
  cases o.result with
  | error error => exact h
  | ok summary =>
    simp only [← h.delivery]
    generalize o.delivery.flush = r
    obtain ⟨flushed, e⟩ := r
    cases flushed with
    | error fault => exact ⟨rfl, rfl, h.lexer⟩
    | ok u => exact ⟨rfl, rfl, h.lexer⟩

theorem twins_run (h : l.Twins m) (settings : Settings.Dumping) (elapsed elapsed' : Nat)
    (d : Delivery σ) : (run settings elapsed l d).Twins (run settings elapsed' m d) := by
  obtain ⟨ts, stop, last, e, hcourse⟩ := exists_course_plain settings l d
  have hlines : (putLines settings l d 0 0).Twins (putLines settings m d 0 0) :=
    hcourse.twins_outcome (blind_plain settings) (through_putLines settings) h 0 0
  have hfinish := hlines.finish settings elapsed elapsed'
  exact ⟨hfinish.result, hfinish.delivery, hfinish.lexer⟩

theorem twins_inPlace (h : l.Twins m) (settings : Settings.Dumping) (elapsed elapsed' : Nat)
    (content : Bytes) :
    (inPlace settings elapsed content l).Twins (inPlace settings elapsed' content m) := by
  let fetched := content.take Folder.readBuffer
  let d := Delivery.start Writer.file .start
  obtain ⟨ts, stop, last, e, hcourse⟩ :=
    exists_course_inPlace settings fetched (lookAgain fetched d l) d
  have hlines := hcourse.twins_outcome (blind_inPlace settings fetched)
    (through_putLinesInPlace settings fetched) (twins_lookAgain fetched d h) 0 0
  have hfinish := hlines.finish settings elapsed elapsed'
  exact ⟨hfinish.result, hfinish.delivery, hfinish.lexer⟩

variable {s s' : Settings}

/-- A dump between files reads nothing of its settings but the trivia mode and how to dump. -/
theorem betweenFiles_watched (htrivia : s.scanning.trivia = s'.scanning.trivia)
    (hdumping : s.dumping = s'.dumping) (elapsed elapsed' : Nat) (f : Folder)
    (source destination : String) :
    let shown := betweenFiles s elapsed f source destination
    let shown' := betweenFiles s' elapsed' f source destination
    shown.result = shown'.result ∧ shown.output = shown'.output ∧
      shown.folder = shown'.folder := by
  have hopened := matched_ofFile source (f.openFile source) htrivia
  simp only [betweenFiles, openLexer, ← hdumping]
  generalize ofFile source (f.openFile source) s.scanning = r at hopened ⊢
  generalize ofFile source (f.openFile source) s'.scanning = r' at hopened ⊢
  obtain ⟨made, notices⟩ := r
  obtain ⟨made', notices'⟩ := r'
  cases hopened with
  | error error => exact ⟨rfl, rfl, rfl⟩
  | ok twins =>
    have hleft {τ : Type} {o o' : Outcome τ} (h : o.Twins o') (target : Path)
        (notices notices' : List Log.Notice) :
        let left := betweenFiles.left f target notices o
        let left' := betweenFiles.left f target notices' o'
        left.result = left'.result ∧ left.output = left'.output ∧ left.folder = left'.folder := by
      simp only [betweenFiles.left, h.result, h.delivery, and_self]
    cases f.createFile destination with
    | error fault => exact ⟨rfl, rfl, rfl⟩
    | ok target =>
      simp only
      split
      · exact hleft (twins_run twins _ _ _ _) _ _ _
      · split
        · exact hleft (twins_run twins _ _ _ _) _ _ _
        · exact hleft (twins_inPlace twins _ _ _ _) _ _ _

theorem toOutput_watched (htrivia : s.scanning.trivia = s'.scanning.trivia)
    (hdumping : s.dumping = s'.dumping) (elapsed elapsed' : Nat) (f : Folder) (source : String) :
    let shown := toOutput s elapsed f source
    let shown' := toOutput s' elapsed' f source
    shown.result = shown'.result ∧ shown.output = shown'.output := by
  have hopened := matched_ofFile source (f.openFile source) htrivia
  simp only [toOutput, openLexer, ← hdumping]
  generalize ofFile source (f.openFile source) s.scanning = r at hopened ⊢
  generalize ofFile source (f.openFile source) s'.scanning = r' at hopened ⊢
  obtain ⟨made, notices⟩ := r
  obtain ⟨made', notices'⟩ := r'
  cases hopened with
  | error error => exact ⟨rfl, rfl⟩
  | ok twins =>
    have hrun := twins_run (σ := Unit) twins s.dumping elapsed elapsed' (.start .memory ⟨⟩)
    exact ⟨hrun.result, congrArg Delivery.taken hrun.delivery⟩

end Dump

namespace Observation

open Log Dump

/-- Who watches a program: what its lexers collect and log, the service that accepts its events, and
the clock. -/
structure Watcher where
  collectMetrics : Bool
  logIllegal : Bool
  logging : Settings.Logging
  /-- The service that is installed, if any, and the events that it has accepted before. -/
  journal : Journal
  /-- The time that each dump takes, in milliseconds. -/
  elapsed : Nat

/-- The settings under which a watched lexer skips trivia in this way. -/
def Watcher.scanning (w : Watcher) (trivia : Trivia) : Settings.Scanning :=
  ⟨trivia, w.collectMetrics, w.logIllegal⟩

def Watcher.settings (w : Watcher) (trivia : Trivia) (dumping : Settings.Dumping) : Settings :=
  ⟨w.scanning trivia, dumping, w.logging⟩

/-- What a program makes its lexer on. -/
inductive Origin where
  | feed (feed : Feed)
  | text (text : String)
  | file (path : String)

def Origin.lexer (f : Folder) (settings : Settings.Scanning) :
    Origin → Except SourceError Lexer × List Notice
  | .feed given =>
    ((Lexer.ofFeed given settings).1.mapError .unread, (Lexer.ofFeed given settings).2)
  | .text given => (.ok (Lexer.ofText given settings), [])
  | .file path => Dump.openLexer f path settings

/-- What a program does with its lexer and its writer, and in its folder. -/
inductive Use (σ : Type) where
  | call (call : Lexer.Call)
  /-- Dumps what is left of the lexer to the writer. -/
  | dump (settings : Settings.Dumping)
  /-- Puts another writer in place of the one in use. -/
  | replace (d : Delivery σ)
  | dumpFile (trivia : Trivia) (settings : Settings.Dumping) (source destination : String)
  | dumpOutput (trivia : Trivia) (settings : Settings.Dumping) (source : String)

/-- What a use returns. What a lexer shows of its tally and its settings is left out. -/
inductive Reply where
  | located (result : Except ReadError (Located Token))
  | token (result : Except ReadError Token)
  | pulled (result : Option (Except ReadError Token))
  | nothing
  | dumped (result : Except DumpError Dump.Summary) (output : Bytes)

def Reply.ofAnswer : Lexer.Answer → Reply
  | .located result => .located result
  | .token result => .token result
  | .pulled result => .pulled result
  | .closed => .nothing
  | .seen .. => .nothing

variable {σ : Type}

/-- What a program works with. -/
structure State (σ : Type) where
  lexer : Lexer
  delivery : Delivery σ
  folder : Folder
  journal : Journal

/-- What can be seen after a use: what it has returned, where the lexer stands and whether it is
done, the bytes that the writer was given and how often it was flushed, and the folder. -/
structure View where
  reply : Reply
  position : Position
  isDone : Bool
  origin : Option String
  written : Bytes
  flushes : Nat
  folder : Folder

def State.view (s : State σ) (reply : Reply) : View :=
  ⟨reply, s.lexer.position, s.lexer.isDone, s.lexer.origin, s.delivery.taken, s.delivery.flushes,
    s.folder⟩

/-- What a use returns and what it leaves behind. -/
def State.use (s : State σ) (w : Watcher) : Use σ → Reply × State σ
  | .call call =>
    let e := s.lexer.perform call
    (.ofAnswer e.answer, { s with lexer := e.after, journal := s.journal.postAll e.notices })
  | .dump settings =>
    let o := Dump.run settings w.elapsed s.lexer s.delivery
    (.dumped o.result [], { s with
      lexer := o.lexer, delivery := o.delivery, journal := s.journal.postAll o.notices })
  | .replace d => (.nothing, { s with delivery := d })
  | .dumpFile trivia settings source destination =>
    let (result, output, folder, journal) :=
      Dump.toFile (w.settings trivia settings) w.elapsed s.folder source destination s.journal
    (.dumped result output, { s with folder, journal })
  | .dumpOutput trivia settings source =>
    let o := Dump.toOutput (w.settings trivia settings) w.elapsed s.folder source
    (.dumped o.result o.output, { s with
      journal := s.journal.within source (·.postAll o.notices) })

def State.views (s : State σ) (w : Watcher) : List (Use σ) → List View
  | [] => []
  | use :: uses => (s.use w use).2.view (s.use w use).1 :: views (s.use w use).2 w uses

/-- All that a program shows that makes a lexer and goes on with these uses. -/
def watched (w : Watcher) (trivia : Trivia) (f : Folder) (origin : Origin) (d : Delivery σ)
    (uses : List (Use σ)) : Except SourceError (List View) :=
  match origin.lexer f (w.scanning trivia) with
  | (.error error, _) => .error error
  | (.ok lexer, notices) =>
    .ok (State.views ⟨lexer, d, f, w.journal.postAll notices⟩ w uses)

/-- Two states of a program that differ only in how they are watched. -/
structure State.Twins (s s' : State σ) : Prop where
  lexer : s.lexer.Twins s'.lexer
  delivery : s.delivery = s'.delivery
  folder : s.folder = s'.folder

variable {s s' : State σ}

theorem State.Twins.view (h : s.Twins s') (reply : Reply) : s.view reply = s'.view reply := by
  have hposition : s.lexer.position = s'.lexer.position := congrArg Cursor.position h.lexer.cursor
  rw [State.view, State.view, hposition, h.lexer.isDone, h.lexer.origin, h.delivery, h.folder]

theorem twins_perform {l m : Lexer} (h : l.Twins m) (call : Lexer.Call) :
    Reply.ofAnswer (l.perform call).answer = Reply.ofAnswer (m.perform call).answer ∧
      (l.perform call).after.Twins (m.perform call).after := by
  cases call with
  | next => exact ⟨congrArg Reply.located h.next.1, h.next.2⟩
  | nextToken =>
    have hresult : l.nextToken.result = m.nextToken.result := by
      rw [Lexer.nextToken, Lexer.nextToken, Lexer.Step.map, Lexer.Step.map, h.next.1]
    exact ⟨congrArg Reply.token hresult, h.next.2⟩
  | pull => exact ⟨congrArg Reply.pulled h.pull.1, h.pull.2⟩
  | close => exact ⟨rfl, h.close⟩
  | look => exact ⟨rfl, h⟩

theorem Watcher.settings_watched (w w' : Watcher) (trivia : Trivia) (dumping : Settings.Dumping) :
    (w.settings trivia dumping).scanning.trivia = (w'.settings trivia dumping).scanning.trivia ∧
      (w.settings trivia dumping).dumping = (w'.settings trivia dumping).dumping := ⟨rfl, rfl⟩

/-- No use tells who is watching. -/
theorem State.Twins.use (h : s.Twins s') (w w' : Watcher) (use : Use σ) :
    (s.use w use).1 = (s'.use w' use).1 ∧ (s.use w use).2.Twins (s'.use w' use).2 := by
  cases use with
  | call call =>
    obtain ⟨hreply, hafter⟩ := twins_perform h.lexer call
    exact ⟨hreply, hafter, h.delivery, h.folder⟩
  | dump settings =>
    have hrun := Dump.twins_run h.lexer settings w.elapsed w'.elapsed s.delivery
    simp only [State.use, ← h.delivery]
    exact ⟨congrArg (Reply.dumped · []) hrun.result, hrun.lexer, hrun.delivery, h.folder⟩
  | replace d => exact ⟨rfl, h.lexer, rfl, h.folder⟩
  | dumpFile trivia settings source destination =>
    have hsettings := w.settings_watched w' trivia settings
    obtain ⟨hresult, houtput, hfolder⟩ := Dump.betweenFiles_watched hsettings.1 hsettings.2 w.elapsed
      w'.elapsed s.folder source destination
    simp only [State.use, Dump.toFile, ← h.folder, hresult, houtput, hfolder, true_and]
    exact ⟨h.lexer, h.delivery, rfl⟩
  | dumpOutput trivia settings source =>
    have hsettings := w.settings_watched w' trivia settings
    obtain ⟨hresult, houtput⟩ := Dump.toOutput_watched hsettings.1 hsettings.2 w.elapsed w'.elapsed
      s.folder source
    simp only [State.use, ← h.folder, hresult, houtput, true_and]
    exact ⟨h.lexer, h.delivery, rfl⟩

theorem State.Twins.views (h : s.Twins s') (w w' : Watcher) (uses : List (Use σ)) :
    s.views w uses = s'.views w' uses := by
  induction uses generalizing s s' with
  | nil => rfl
  | cons use uses ih =>
    obtain ⟨hreply, hafter⟩ := h.use w w' use
    rw [State.views, State.views, hreply, hafter.view, ih hafter]

theorem matched_lexer (f : Folder) (origin : Origin) {settings settings' : Settings.Scanning}
    (h : settings.trivia = settings'.trivia) :
    Lexer.Matched (origin.lexer f settings).1 (origin.lexer f settings').1 := by
  cases origin with
  | feed feed =>
    have hfeed := Lexer.matched_ofFeed feed h
    simp only [Origin.lexer]
    generalize (Lexer.ofFeed feed settings).1 = made at hfeed ⊢
    generalize (Lexer.ofFeed feed settings').1 = made' at hfeed ⊢
    cases hfeed with
    | error error => exact .error _
    | ok twins => exact .ok twins
  | text text => exact .ok (Lexer.twins_ofCursor _ h)
  | file path => exact Lexer.matched_ofFile path _ h

/-- A program shows the same whoever watches it: whether metrics are collected or illegal tokens
logged, whatever service is installed and whatever it has accepted, and however long a dump takes. -/
theorem watched_eq (w w' : Watcher) (trivia : Trivia) (f : Folder) (origin : Origin)
    (d : Delivery σ) (uses : List (Use σ)) :
    watched w trivia f origin d uses = watched w' trivia f origin d uses := by
  have htrivia : (w.scanning trivia).trivia = (w'.scanning trivia).trivia := rfl
  have hmade := matched_lexer f origin htrivia
  rw [watched, watched]
  generalize origin.lexer f (w.scanning trivia) = r at hmade ⊢
  generalize origin.lexer f (w'.scanning trivia) = r' at hmade ⊢
  obtain ⟨made, notices⟩ := r
  obtain ⟨made', notices'⟩ := r'
  cases hmade with
  | error error => rfl
  | @ok l m twins =>
    have hstart : State.Twins ⟨l, d, f, w.journal.postAll notices⟩
        ⟨m, d, f, w'.journal.postAll notices'⟩ := ⟨twins, rfl, rfl⟩
    exact congrArg Except.ok (hstart.views w w' uses)

end Observation
end TokenDump
