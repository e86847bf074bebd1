import TokenDump.Dump.InPlace
import TokenDump.Log.Journal

/-! # Dumps between files

A dump from one file of a folder to another. The source is opened and its first characters are read
before the destination is created, so that a source that cannot be read leaves no empty destination
behind. The lexer is closed in every case. -/
namespace TokenDump.Dump

open Log

def openedNotice (source destination : String) : Notice :=
  (Notice.success .sourceOpened "Source opened for token dump").saying
    [("path", source), ("destination", destination)]

def createNotice (destination : String) (fault : Fault) : Notice :=
  (Notice.error .createFailed "Cannot create destination").saying
    [("path", destination), ("reason", fault.reason)]

/-- What a dump to a file left behind. -/
structure FileOutcome where
  result : Except DumpError Summary
  /-- What was passed on to standard output. -/
  output : Bytes
  folder : Folder
  notices : List Notice

/-- A lexer on the file `source`. -/
def openLexer (f : Folder) (source : String) (settings : Settings.Scanning) :
    Except SourceError Lexer × List Notice :=
  Lexer.ofFile source (f.openFile source) settings

/-- The content of the file `source` if it is the file at `target`. -/
def sharedContent (f : Folder) (source : String) (target : Path) : Option Bytes :=
  match f.resolve source with
  | .ok ⟨path, some (.file content), _⟩ => if path = target then some content else none
  | _ => none

/-- Dumps the file `source` into the file `destination`. -/
def betweenFiles (settings : Settings) (elapsed : Nat) (f : Folder) (source destination : String) :
    FileOutcome :=
  match openLexer f source settings.scanning with
  | (.error error, notices) => ⟨.error (.ofSourceError error), [], f, notices⟩
  | (.ok lexer, notices) =>
    let notices := notices ++ [openedNotice source destination]
    match f.createFile destination with
    | .error fault =>
      let (_, closing) := lexer.close
      ⟨.error (.uncreated destination fault), [], f,
        notices ++ closing ++ [createNotice destination fault]⟩
    | .ok target =>
      if f.node? target = some (.device .full) then
        left f target notices (run settings.dumping elapsed lexer (.start .full .start))
      else
        match sharedContent f source target with
        | none => left f target notices (toMemory settings.dumping elapsed lexer)
        | some content => left f target notices (inPlace settings.dumping elapsed content lexer)
where
  /-- What is left when the destination has been written. -/
  left {σ : Type} (f : Folder) (target : Path) (notices : List Notice) (o : Outcome σ) :
      FileOutcome :=
    let output := if f.node? target = some (.device .output) then o.delivery.taken else []
    ⟨o.result, output, f.write target o.delivery.taken, notices ++ o.notices ++ o.lexer.close.2⟩

/-- Dumps the file `source` into the file `destination`, while `source` is the file being
processed. -/
def toFile (settings : Settings) (elapsed : Nat) (f : Folder) (source destination : String)
    (journal : Journal) : Except DumpError Summary × Bytes × Folder × Journal :=
  let o := betweenFiles settings elapsed f source destination
  (o.result, o.output, o.folder, journal.within source (·.postAll o.notices))

/-- What a dump to standard output left behind. -/
structure StreamOutcome where
  result : Except DumpError Summary
  output : Bytes
  notices : List Notice

/-- Dumps the file `source` to standard output, which takes every byte. -/
def toOutput (settings : Settings) (elapsed : Nat) (f : Folder) (source : String) : StreamOutcome :=
  match openLexer f source settings.scanning with
  | (.error error, notices) => ⟨.error (.ofSourceError error), [], notices⟩
  | (.ok lexer, notices) =>
    let o := toMemory settings.dumping elapsed lexer
    let (_, closing) := o.lexer.close
    ⟨o.result, o.delivery.taken, notices ++ o.notices ++ closing⟩

end TokenDump.Dump
