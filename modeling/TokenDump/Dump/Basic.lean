import TokenDump.Lexer.Basic
import TokenDump.Dump.Line
import TokenDump.Dump.Writer
import TokenDump.Dump.Error

/-! # Dumps

A dump pulls every token of a lexer and delivers its line, in order, the end token left out. Bytes
are flushed once, after the last line. Whether illegal tokens are tolerated is asked at the very
end. -/
namespace TokenDump.Dump

open Log

/-- What a complete dump amounts to. -/
structure Summary where
  tokens : Nat
  illegal : Nat
  /-- The line on which the source ended. -/
  lines : Nat
deriving DecidableEq

/-- What a dump left behind: its result, the lexer, the delivery, and what there is to report. -/
structure Outcome (σ : Type) where
  result : Except DumpError Summary
  lexer : Lexer
  delivery : Delivery σ
  notices : List Notice

def startNotice (settings : Settings.Dumping) : Notice :=
  (Notice.info "Starting token dump").saying
    [("format", settings.format.name), ("positions", Notice.flag settings.positions)]

def tokenNotice (t : Located Token) : Notice :=
  (Notice.debug "Token").saying [("kind", t.value.kind.name), ("at", t.span.render)]

def writeNotice (fault : Fault) : Notice :=
  (Notice.error .writeFailed "Failed to write token dump").saying [("reason", fault.reason)]

/-- `elapsed` is the time that the dump has taken, in milliseconds. -/
def completionNotice (summary : Summary) (settings : Settings.Dumping) (elapsed : Nat) : Notice :=
  (Notice.success .dumpComplete "Token dump completed").saying
    [("tokens", toString summary.tokens), ("illegal", toString summary.illegal),
     ("lines", toString summary.lines), ("format", settings.format.name),
     ("duration_ms", toString elapsed)]

variable {σ : Type}

/-- Delivers the line of a token and then the separator. -/
def putLine (settings : Settings.Dumping) (t : Located Token) (d : Delivery σ) :
    Except Fault Unit × Delivery σ :=
  match d.put (Utf8.encode (line t settings).toList) with
  | (.ok _, d) => d.put (Utf8.encode separator.toList)
  | (.error cause, d) => (.error cause, d)

/-- A line that was delivered is not empty, because of the separator. -/
theorem size_putLine_lt {settings : Settings.Dumping} {t : Located Token} {d : Delivery σ}
    (h : (putLine settings t d).1 = .ok ⟨⟩) :
    d.received.size < (putLine settings t d).2.received.size := by
  unfold putLine at h ⊢
  have hl := @Delivery.size_put _ d (Utf8.encode (line t settings).toList)
  generalize d.put (Utf8.encode (line t settings).toList) = r at *
  obtain ⟨result, e⟩ := r
  cases result with
  | error cause => simp at h
  | ok u =>
    have hs := Delivery.size_put h
    have : (Utf8.encode separator.toList).length = 1 := by decide
    simp only [true_implies] at hl
    simp only at hs ⊢
    omega

/-- Delivers the lines of all tokens still to come. `tokens` and `illegal` were delivered before. -/
def putLines (settings : Settings.Dumping) (l : Lexer) (d : Delivery σ) (tokens illegal : Nat) :
    Outcome σ :=
  match _h : l.next.result with
  | .error error =>
    ⟨.error (.unread (.unread error)), l.next.lexer, d, l.next.notices⟩
  | .ok t =>
    if _ht : t.value.isEof then
      ⟨.ok ⟨tokens, illegal, t.span.stop.line⟩, l.next.lexer, d, l.next.notices⟩
    else
      let notices := l.next.notices ++ [tokenNotice t]
      match putLine settings t d with
      | (.error fault, d) =>
        ⟨.error (.unwritten fault), l.next.lexer, d, notices ++ [writeNotice fault]⟩
      | (.ok _, d) =>
        let illegal := if t.value.isIllegal then illegal + 1 else illegal
        let rest := putLines settings l.next.lexer d (tokens + 1) illegal
        { rest with notices := notices ++ rest.notices }
termination_by l.cursor.remaining
decreasing_by exact Lexer.remaining_next_lt _h (by simpa using _ht)

/-- Flushes a delivery in which all lines have arrived, and judges the dump. -/
def finish (settings : Settings.Dumping) (elapsed : Nat) (o : Outcome σ) : Outcome σ :=
  match o.result with
  | .error _ => o
  | .ok summary =>
    match o.delivery.flush with
    | (.error fault, d) =>
      { o with
        result := .error (.unwritten fault), delivery := d
        notices := o.notices ++ [writeNotice fault] }
    | (.ok _, d) =>
      let result := if settings.failOnIllegal && 0 < summary.illegal then
          .error (.illegalTokens summary.illegal)
        else .ok summary
      { o with
        result, delivery := d
        notices := o.notices ++ [completionNotice summary settings elapsed] }

/-- Dumps what is left of a lexer. -/
def run (settings : Settings.Dumping) (elapsed : Nat) (l : Lexer) (d : Delivery σ) : Outcome σ :=
  let o := finish settings elapsed (putLines settings l d 0 0)
  { o with notices := startNotice settings :: o.notices }

/-- Dumps what is left of a lexer into memory. -/
def toMemory (settings : Settings.Dumping) (elapsed : Nat) (l : Lexer) : Outcome Unit :=
  run settings elapsed l (.start .memory ⟨⟩)

end TokenDump.Dump
