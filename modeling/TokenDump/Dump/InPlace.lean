import TokenDump.Dump.Basic
import TokenDump.Dump.Buffered

/-! # Dumps in place

A dump of a file onto itself. Creating the destination empties the file, and then it grows while it
is still being read: after the bytes that had been fetched before, the lexer finds those that the
dump itself has stored behind them by then. -/
namespace TokenDump.Dump

/-- What a reader finds in a file that was emptied after `fetched` had been read from its start and
holds `stored` now. -/
def visible (fetched stored : Bytes) : Bytes := fetched ++ stored.drop fetched.length

/-- A lexer on a file that is being written, which finds what the file holds now. -/
def lookAgain (fetched : Bytes) (d : Delivery FileProgress) (l : Lexer) : Lexer :=
  { l with cursor := l.cursor.goOnIn (visible fetched (d.taken.take d.state.stored)) }

/-- The next token of a file that is being written. What a lexer has found in it stays as it is, so
the lexer looks again only when that is used up. -/
def nextInPlace (fetched : Bytes) (d : Delivery FileProgress) (l : Lexer) :
    Lexer.Step (Located Token) :=
  let step := l.next
  if step.lexer.cursor.pending.isEmpty then (lookAgain fetched d l).next else step

/-- Delivers the lines of all tokens still to come from the file that they are delivered to. A file
that is as large as files can be takes no more of them. -/
def putLinesInPlace (settings : Settings.Dumping) (fetched : Bytes) (l : Lexer)
    (d : Delivery FileProgress) (tokens illegal : Nat) : Outcome FileProgress :=
  let step := nextInPlace fetched d l
  match step.result with
  | .error error => ⟨.error (.unread (.unread error)), step.lexer, d, step.notices⟩
  | .ok t =>
    if t.value.isEof then
      ⟨.ok ⟨tokens, illegal, t.span.stop.line⟩, step.lexer, d, step.notices⟩
    else
      let notices := step.notices ++ [tokenNotice t]
      if _hd : Folder.fileLimit ≤ d.received.size then
        ⟨.error (.unwritten .fileTooLarge), step.lexer, d,
          notices ++ [writeNotice .fileTooLarge]⟩
      else
        match _h : putLine settings t d with
        | (.error fault, d) =>
          ⟨.error (.unwritten fault), step.lexer, d, notices ++ [writeNotice fault]⟩
        | (.ok _, e) =>
          let illegal := if t.value.isIllegal then illegal + 1 else illegal
          let rest := putLinesInPlace settings fetched step.lexer e (tokens + 1) illegal
          { rest with notices := notices ++ rest.notices }
termination_by Folder.fileLimit - d.received.size
decreasing_by
  have := @size_putLine_lt _ settings t d (by rw [_h])
  rw [_h] at this
  simp only at this
  omega

/-- Dumps a file with this content onto itself, given a lexer that has just been opened on it. -/
def inPlace (settings : Settings.Dumping) (elapsed : Nat) (content : Bytes) (l : Lexer) :
    Outcome FileProgress :=
  let fetched := content.take Folder.readBuffer
  let d := Delivery.start .file .start
  let o := finish settings elapsed (putLinesInPlace settings fetched (lookAgain fetched d l) d 0 0)
  { o with notices := startNotice settings :: o.notices }

end TokenDump.Dump
