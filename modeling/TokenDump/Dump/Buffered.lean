import TokenDump.Dump.Writer
import TokenDump.Storage.Folder

/-! # Buffered writers

A writer into a file collects bytes in a buffer and stores them when it overflows, so that what the
file holds lags behind what has been written. -/
namespace TokenDump.Dump

/-- How far a file has been written that collects bytes before it stores them. -/
structure FileProgress where
  /-- Bytes stored in the file. -/
  stored : Nat
  /-- Bytes collected behind them. -/
  collected : Nat
deriving DecidableEq

namespace FileProgress

def start : FileProgress := ⟨0, 0⟩

/-- Stores what has been collected. -/
def store (p : FileProgress) : FileProgress := ⟨p.stored + p.collected, 0⟩

/-- Takes `count` more bytes. The buffer is stored before it would overflow, and what fills it by
itself is not collected at all. -/
def take (p : FileProgress) (count : Nat) : FileProgress :=
  let p := if Folder.writeBuffer < p.collected + count then p.store else p
  if Folder.writeBuffer ≤ count then { p with stored := p.stored + count }
  else { p with collected := p.collected + count }

end FileProgress

/-- A writer into a file. -/
def Writer.file : Writer FileProgress where
  write p chunk := (.took chunk.length, p.take chunk.length)
  flush p := (none, p.store)
  patience _ := 0
  patience_lt := by simp

/-- A writer into a device that has no room. It fails when bytes are to be stored. -/
def Writer.full : Writer FileProgress where
  write p chunk :=
    if (p.take chunk.length).stored = 0 then (.took chunk.length, p.take chunk.length)
    else (.failed .storageFull, p)
  flush p := (if p.collected = 0 then none else some .storageFull, p)
  patience _ := 0
  patience_lt p chunk h := by
    split at h <;> simp at h

end TokenDump.Dump
