import TokenDump.Source.Error
import TokenDump.Log.Event
import TokenDump.Lexer.Lexeme
import TokenDump.Lexer.Tally
import TokenDump.Text.Escape

/-! # Lexers

A lexer hands out the tokens of one source, one at a time, and says what there is to report. It is
done once it has handed out the end token or was closed; a read error is final, and every later call
gives the same error again. -/
namespace TokenDump

open Lexer Log

structure Lexer where
  cursor : Cursor
  settings : Settings.Scanning
  tally : Tally
  /-- The file that the lexer was opened on. -/
  origin : Option String
  failure : Option ReadError
  isDone : Bool
  /-- Whether pulling tokens has come to its end. -/
  isDrained : Bool
deriving DecidableEq

namespace Lexer

def ofCursor (cursor : Cursor) (settings : Settings.Scanning) : Lexer :=
  { cursor, settings, tally := .zero, origin := none, failure := none, isDone := false
    isDrained := false }

def ofText (text : String) (settings : Settings.Scanning) : Lexer :=
  ofCursor (.ofText text.toList) settings

/-- A lexer on a feed. Its first two characters are read at once. -/
def ofFeed (feed : Feed) (settings : Settings.Scanning) :
    Except ReadError Lexer × List Notice :=
  let cursor := Cursor.unprimed feed
  match cursor.prime with
  | (.ok _, cursor) => (.ok (ofCursor cursor settings), [])
  | (.error fault, cursor) =>
    let error : ReadError := ⟨cursor.readPosition, fault⟩
    (.error error,
      [(Notice.error error.code "Failed to read start of source").spanning
        (.point error.position) |>.saying [("reason", fault.reason)]])

/-- A lexer on the file at `path`, given what opening it has led to. -/
def ofFile (path : String) (opened : Except Fault Feed) (settings : Settings.Scanning) :
    Except SourceError Lexer × List Notice :=
  match opened with
  | .error fault =>
    (.error (.unopened path fault),
      [(Notice.error .openFailed "Failed to open source file").saying
        [("path", path), ("reason", fault.reason)]])
  | .ok feed =>
    match ofFeed feed settings with
    | (.error error, notices) => (.error (.unread error), notices)
    | (.ok lexer, notices) =>
      (.ok { lexer with origin := some path },
        notices ++ [(Notice.debug "Opened source file").saying
          [("path", path), ("trivia_mode", settings.trivia.name)]])

/-- The position of the next character. -/
def position (l : Lexer) : Position := l.cursor.position

/-- The name of the source in reports. -/
def originName (l : Lexer) : String := l.origin.getD "<memory>"

/-- What is reported when a source cannot be read any further. -/
def failureNotice (l : Lexer) (error : ReadError) : Notice :=
  (Notice.error error.code "Failed to read source").spanning (.point error.position) |>.saying
    [("path", l.originName), ("reason", error.fault.reason)]

/-- What is reported once the source has ended on `line`. -/
def completionNotice (l : Lexer) (line : Nat) : Notice :=
  (Notice.success .scanComplete "Lexical analysis completed").saying
    [("path", l.originName), ("tokens", toString l.tally.total),
     ("illegal", toString l.tally.illegals), ("comments", toString l.tally.comments),
     ("lines", toString line)]

/-- The code for an illegal token with this text. -/
def illegalCode (text : String) : Code :=
  if text = Token.unclosedString.text then .unclosedString
  else if text = Token.unclosedComment.text then .unclosedComment
  else .illegalCharacter

def illegalNotice (t : Located Token) : Notice :=
  (Notice.warning (illegalCode t.value.text) "Illegal token").spanning t.span |>.saying
    [("text", Text.escape t.value.text)]

/-- Takes account of a token that was scanned. -/
def record (l : Lexer) (t : Located Token) : Lexer × List Notice :=
  let l := if l.settings.collectMetrics then { l with tally := l.tally.record t } else l
  if t.value.isEof then
    ({ l with isDone := true }, [l.completionNotice t.span.stop.line])
  else if t.value.isIllegal && l.settings.logIllegal then
    (l, [illegalNotice t])
  else (l, [])

/-- The end token where the lexer stands. -/
def eofHere (l : Lexer) : Located Token := ⟨.eof, .point l.position⟩

/-- What one call of a lexer gives: its result, the lexer after it, and what there is to report. -/
structure Step (α : Type) where
  result : Except ReadError α
  lexer : Lexer
  notices : List Notice

def Step.map {α β : Type} (f : α → β) (s : Step α) : Step β := ⟨s.result.map f, s.lexer, s.notices⟩

/-- The next token and the stretch of source that it covers. -/
def next (l : Lexer) : Step (Located Token) :=
  match l.failure with
  | some error => ⟨.error error, l, []⟩
  | none =>
    if l.isDone then ⟨.ok l.eofHere, l, []⟩
    else
      let (result, progress) := scanToken l.settings.trivia ⟨l.cursor, l.tally.comments⟩
      let l := { l with
        cursor := progress.cursor, tally := { l.tally with comments := progress.comments } }
      match result with
      | .ok t =>
        let (l, notices) := l.record t
        ⟨.ok t, l, notices⟩
      | .error fault =>
        let error : ReadError := ⟨l.cursor.readPosition, fault⟩
        ⟨.error error, { l with cursor := l.cursor.close, failure := some error },
          [l.failureNotice error]⟩

/-- The next token. -/
def nextToken (l : Lexer) : Step Token := l.next.map (·.value)

/-- Pulls the next token before the end. After the end or an error there is nothing more to pull. -/
def pull (l : Lexer) : Option (Except ReadError Token) × Lexer × List Notice :=
  if l.isDrained then (none, l, [])
  else
    let s := l.nextToken
    match s.result with
    | .ok t =>
      if t.isEof then (none, { s.lexer with isDrained := true }, s.notices)
      else (some (.ok t), s.lexer, s.notices)
    | .error error => (some (.error error), { s.lexer with isDrained := true }, s.notices)

/-- Lets go of the source. -/
def close (l : Lexer) : Lexer × List Notice :=
  ({ l with cursor := l.cursor.close, isDone := true },
    if l.cursor.isClosed then []
    else [(Notice.debug "Closing source").saying
      [("path", l.originName), ("position", l.position.render)]])

/-- The lexer in one line. -/
def describe (l : Lexer) : String :=
  let origin := match l.origin with
    | some path => "Some(" ++ Text.quote path ++ ")"
    | none => "None"
  let trivia := match l.settings.trivia with
    | .strict => "Strict"
    | .compatible => "Compatible"
  let p := l.position
  "Scanner \x7b origin: " ++ origin ++
    s!", position: Position \x7b offset: {p.offset}, line: {p.line}, column: {p.column} \x7d" ++
    ", preferences: ScannerPreferences \x7b trivia_mode: " ++ trivia ++
    ", collect_metrics: " ++ Notice.flag l.settings.collectMetrics ++
    ", log_illegal_tokens: " ++ Notice.flag l.settings.logIllegal ++ " \x7d, done: " ++
    Notice.flag l.isDone ++ ", .. \x7d"

theorem record_cursor (l : Lexer) (t : Located Token) : (l.record t).1.cursor = l.cursor := by
  unfold record
  cases l.settings.collectMetrics <;> simp only [Bool.false_eq_true, if_false, if_true] <;>
    split <;> try rfl
  all_goals split <;> rfl

/-- Each token but the end brings the lexer nearer to its end. -/
theorem remaining_next_lt {l : Lexer} {t : Located Token} (h : l.next.result = .ok t)
    (ht : t.value.isEof = false) :
    l.next.lexer.cursor.remaining < l.cursor.remaining := by
  unfold next at h ⊢
  split at h
  · simp at h
  · split at h
    · simp only [Except.ok.injEq] at h
      subst h
      simp [eofHere, Token.isEof, Token.eof] at ht
    · rename_i hf hd
      simp only [hf, hd]
      have hs := @remaining_scanToken_lt l.settings.trivia ⟨l.cursor, l.tally.comments⟩ t
      generalize scanToken l.settings.trivia ⟨l.cursor, l.tally.comments⟩ = r at *
      obtain ⟨res, q⟩ := r
      cases res with
      | error fault => simp at h
      | ok u =>
        simp only [Except.ok.injEq] at h
        subst h
        simpa [record_cursor] using hs rfl ht

/-- The tokens that are still to come, the end token or the error last. -/
def drain (l : Lexer) : List (Located Token) × Option ReadError × Lexer × List Notice :=
  match _h : l.next.result with
  | .error error => ([], some error, l.next.lexer, l.next.notices)
  | .ok t =>
    if _ht : t.value.isEof then ([t], none, l.next.lexer, l.next.notices)
    else
      let (tokens, failure, last, notices) := drain l.next.lexer
      (t :: tokens, failure, last, l.next.notices ++ notices)
termination_by l.cursor.remaining
decreasing_by exact remaining_next_lt _h (by simpa using _ht)

theorem remaining_pull_lt {l : Lexer} {t : Token} (h : l.pull.1 = some (.ok t)) :
    l.pull.2.1.cursor.remaining < l.cursor.remaining := by
  unfold pull at h ⊢
  split at h
  · simp at h
  · rename_i hd
    simp only [hd, nextToken, Step.map] at h ⊢
    cases hr : l.next.result with
    | error error => simp [hr, Except.map] at h
    | ok u =>
      simp only [hr, Except.map] at h ⊢
      split at h
      · simp at h
      · rename_i he
        simp only [he]
        exact remaining_next_lt hr (by simpa using he)

/-- Everything that can still be pulled; after an error that is nothing. -/
def pullAll (l : Lexer) : List (Except ReadError Token) × Lexer × List Notice :=
  match _h : l.pull.1 with
  | none => ([], l.pull.2.1, l.pull.2.2)
  | some (.error error) =>
    ([.error error], l.pull.2.1, l.pull.2.2)
  | some (.ok t) =>
    let (results, last, notices) := pullAll l.pull.2.1
    (.ok t :: results, last, l.pull.2.2 ++ notices)
termination_by l.cursor.remaining
decreasing_by exact remaining_pull_lt _h

/-- The tokens of a text, the end token last. -/
def tokenize (text : String) (settings : Settings.Scanning) : Except ReadError (List Token) :=
  match (ofText text settings).drain with
  | (_, some error, _, _) => .error error
  | (tokens, none, _, _) => .ok (tokens.map (·.value))

end Lexer
end TokenDump
