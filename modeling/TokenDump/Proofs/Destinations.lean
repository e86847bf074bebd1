import TokenDump.Proofs.FileDumps
import TokenDump.CommandLine.Run

/-! # Runs with and without a destination

A run that names a destination leaves there what the run without one writes to standard output. The
two read the source in the same way, and fail for the same reason if they fail. -/
namespace TokenDump

namespace Dump

open Lexer

/-- A lexer can be made on the source, and this is the one. -/
def Opens (f : Folder) (source : String) (settings : Settings.Scanning) (l : Lexer) : Prop :=
  ∃ feed, f.openFile source = .ok feed ∧ (Lexer.ofFeed feed settings).1 = .ok l

/-- A file at `target` holds the dump under its name; a device keeps nothing, and it may be standard
output itself. There are no other changes. -/
structure Stored (f : Folder) (destination : String) (target : Path) (dump output : Bytes)
    (after : Folder) : Prop where
  content : match f.node? target with
    | some (.device device) => after = f ∧ output = if device = .output then dump else []
    | _ => after.contentOf destination = .ok dump ∧ output = []
  elsewhere : ∀ path, path ≠ target → after.node? path = f.node? path

variable {settings : Settings} {elapsed' : Nat} {f after : Folder} {source destination : String}
  {target : Path} {l : Lexer} {feed : Feed} {result : Except DumpError Summary} {output : Bytes}

theorem Opens.unique {l' : Lexer} (h : Opens f source settings.scanning l)
    (h' : Opens f source settings.scanning l') : l = l' := by
  obtain ⟨feed, hopen, hprime⟩ := h
  obtain ⟨feed', hopen', hprime'⟩ := h'
  obtain rfl := Except.ok.inj (hopen.symm.trans hopen')
  exact Except.ok.inj (hprime.symm.trans hprime')

theorem toOutput_opened (elapsed : Nat) (h : Opens f source settings.scanning l) :
    (toOutput settings elapsed f source).result =
        verdict settings.dumping l.drain.1 l.drain.2.1 ∧
      (toOutput settings elapsed f source).output =
        script settings.dumping (proper l.drain.1) := by
  obtain ⟨feed, hopen, hprime⟩ := h
  obtain ⟨hresult, htaken⟩ := toMemory_withOrigin settings.dumping elapsed l (some source)
  rw [toMemory_result settings.dumping elapsed l] at hresult
  rw [toMemory_taken settings.dumping elapsed l] at htaken
  generalize hr : Lexer.ofFeed feed settings.scanning = r at hprime
  obtain ⟨primed, notices⟩ := r
  obtain rfl : primed = .ok l := hprime
  simp only [toOutput, openLexer, hopen, ofFile, hr]
  exact ⟨hresult, htaken⟩

/-- Without a lexer a dump to standard output ends as one between files does. -/
theorem toOutput_unopened (elapsed : Nat) (h : ∀ l, ¬ Opens f source settings.scanning l)
    (hd : FileDump settings elapsed' f source destination result output after) :
    (toOutput settings elapsed f source).result = result ∧
      (toOutput settings elapsed f source).output = [] ∧ output = [] ∧ after = f := by
  cases hd with
  | unopened failed =>
    simp [toOutput, openLexer, failed, ofFile, DumpError.ofSourceError]
  | @unprimed feed error opened failed =>
    generalize hr : Lexer.ofFeed feed settings.scanning = r at failed
    obtain ⟨primed, notices⟩ := r
    obtain rfl : primed = .error error := failed
    simp [toOutput, openLexer, opened, ofFile, hr, DumpError.ofSourceError]
  | uncreated opened primed failed => exact absurd ⟨_, opened, primed⟩ (h _)
  | written opened primed created rest => exact absurd ⟨_, opened, primed⟩ (h _)

theorem toOutput_written (elapsed : Nat) (hcreate : f.createFile destination = .ok target)
    (h : Opens f source settings.scanning l)
    (hd : FileDump settings elapsed' f source destination result output after) :
    (toOutput settings elapsed f source).result = result ∧
      Stored f destination target (toOutput settings elapsed f source).output output after := by
  obtain ⟨hresult, houtput⟩ := toOutput_opened elapsed h
  obtain ⟨feed, hopen, hprime⟩ := h
  cases hd with
  | unopened failed => simp [hopen] at failed
  | unprimed opened failed =>
    obtain rfl := Except.ok.inj (hopen.symm.trans opened)
    simp [hprime] at failed
  | uncreated opened primed failed => simp [hcreate] at failed
  | @written feed' l' target' _ _ _ opened primed created rest =>
    obtain rfl := Except.ok.inj (hcreate.symm.trans created)
    obtain rfl := Opens.unique ⟨feed, hopen, hprime⟩ ⟨feed', opened, primed⟩
    have hcontent := rest.content
    rw [rest.lines, ← houtput] at hcontent
    exact ⟨hresult.trans rest.outcome.symm, hcontent, rest.elsewhere⟩

end Dump

namespace CommandLine

open Dump

/-- How a run ends that came to its dump: the exit code tells whether there is a failure, and the
report of the failure is the last thing said. -/
structure Concludes (s : Settings.Logging) (failure : Option Failure) (o : Outcome) : Prop where
  exitCode : o.exitCode = if failure.isSome then 1 else 0
  diagnostics : ∃ events,
    o.diagnostics = diagnostics s events ++ (failure.map Failure.report).toList

/-- Why a run fails whose dump ends in this way. -/
def Failure.ofDump : Except DumpError Summary → Option Failure
  | .ok _ => none
  | .error error => some (.dump error)

variable {env : Environment} {f : Folder} {source destination : String} {o : Options} {s : Settings}
  {arguments arguments' : List String} {target : Path}

/-- What a run with settings comes to: it says the events that its dump has had accepted, and then
why it fails. -/
theorem run_eq_of_settings (clock : Clock) (hr : request arguments = .dump source o)
    (hs : settings env f o = .ok s) :
    let d := dump s clock f source o
    let failure := Failure.ofDump d.1
    run env clock f arguments = ⟨if failure.isSome then 1 else 0, d.2.1,
      diagnostics s.logging d.2.2.2.accepted ++ (failure.map Failure.report).toList, d.2.2.1⟩ := by
  simp only [run, hr, runDump, hs]
  generalize dump s clock f source o = d
  obtain ⟨result, output, after, journal⟩ := d
  cases result with
  | ok summary => simp [Failure.ofDump]
  | error error => rfl

theorem run_eq_of_error {error : SettingsError} (clock : Clock)
    (hr : request arguments = .dump source o) (h : settings env f o = .error error) :
    run env clock f arguments = ⟨1, [], [(Failure.settings error).report], f⟩ := by
  simp only [run, hr, runDump, h]

theorem run_of_settings (clock : Clock) (hr : request arguments = .dump source o)
    (hs : settings env f o = .ok s) :
    let d := dump s clock f source o
    Concludes s.logging (Failure.ofDump d.1) (run env clock f arguments) ∧
      (run env clock f arguments).output = d.2.1 ∧
      (run env clock f arguments).folder = d.2.2.1 := by
  have hrun := run_eq_of_settings clock hr hs
  exact ⟨⟨congrArg Outcome.exitCode hrun, _, congrArg Outcome.diagnostics hrun⟩,
    congrArg Outcome.output hrun, congrArg Outcome.folder hrun⟩

/-- A run without a destination and one with it, under the same settings. -/
theorem run_destination (clock clock' : Clock) (hshown : request arguments = .dump source o)
    (hnone : o.output = none)
    (hstored : request arguments' = .dump source { o with output := some destination })
    (hs : settings env f o = .ok s)
    (apart : ∀ a b, f.resolve source = .ok a → f.resolve destination = .ok b → a.path ≠ b.path)
    (hcreate : f.createFile destination = .ok target)
    (room : f.node? target ≠ some (.device .full)) :
    let shown := run env clock f arguments
    let stored := run env clock' f arguments'
    (∃ failure, Concludes s.logging failure shown ∧ Concludes s.logging failure stored) ∧
    shown.folder = f ∧
    (∀ l, Opens f source s.scanning l →
      shown.output = script s.dumping (Lexer.proper l.drain.1) ∧
        Stored f destination target shown.output stored.output stored.folder) ∧
    ((∀ l, ¬ Opens f source s.scanning l) →
      shown.output = [] ∧ stored.output = [] ∧ stored.folder = f) := by
  intro shown stored
  have hs' : settings env f { o with output := some destination } = .ok s := hs
  obtain ⟨hends, houtput, hfolder⟩ := run_of_settings clock hshown hs
  obtain ⟨hends', houtput', hfolder'⟩ := run_of_settings clock' hstored hs'
  simp only [dump, hnone] at hends houtput hfolder
  simp only [dump, toFile] at hends' houtput' hfolder'
  have hfile : FileDump s clock'.elapsed f source destination
      (betweenFiles s clock'.elapsed f source destination).result stored.output stored.folder := by
    rw [houtput', hfolder']
    refine betweenFiles_apart s clock'.elapsed f source destination apart fun path hpath => ?_
    obtain rfl := Except.ok.inj (hcreate.symm.trans hpath)
    exact room
  have hresult : (toOutput s clock.elapsed f source).result =
      (betweenFiles s clock'.elapsed f source destination).result := by
    by_cases h : ∃ l, Opens f source s.scanning l
    · obtain ⟨l, hl⟩ := h
      exact (toOutput_written clock.elapsed hcreate hl hfile).1
    · exact (toOutput_unopened clock.elapsed (not_exists.mp h) hfile).1
  refine ⟨⟨_, hends, hresult ▸ hends'⟩, hfolder, fun l hl => ?_, fun hno => ?_⟩
  · have hscript : (toOutput s clock.elapsed f source).output =
        script s.dumping (Lexer.proper l.drain.1) := (toOutput_opened clock.elapsed hl).2
    obtain ⟨-, hcontent⟩ := toOutput_written clock.elapsed hcreate hl hfile
    rw [← houtput] at hscript hcontent
    exact ⟨hscript, hcontent⟩
  · obtain ⟨-, hempty, hempty', hsame⟩ := toOutput_unopened clock.elapsed hno hfile
    exact ⟨houtput.trans hempty, hempty', hsame⟩

/-- The source fails in its middle, and the destination held something else. -/
theorem run_destination_undecodable :
    let f : Folder := ⟨[], [(["in"], .file [0x61, 0x2B, 0x62, 0xFF]), (["out"], .file [0x78])]⟩
    let env : Environment := [("MINIC_DRIVER_OUTPUT_FORMAT", [0x6A, 0x73, 0x6F, 0x6E])]
    let s : Settings := ⟨⟨.strict, true, true⟩, ⟨.json, true, false⟩, ⟨false, true, .warning⟩⟩
    let clock : Clock := ⟨.epoch, 0⟩
    let shown := run env clock f ["in", "--positions"]
    let stored := run env clock f ["--positions", "in", "-o", "out"]
    settings env f { Options.none with source := some "in", positions := true } = .ok s ∧
      (∃ failure, Concludes s.logging failure shown ∧ Concludes s.logging failure stored) ∧
      ∃ l, Opens f "in" s.scanning l ∧
        shown.output = script s.dumping (Lexer.proper l.drain.1) ∧
          Stored f "out" ["out"] shown.output stored.output stored.folder := by
  intro f env s clock shown stored
  have hs : settings env f { Options.none with source := some "in", positions := true } = .ok s := by
    decide +kernel
  have hsource : f.resolve "in" =
      .ok ⟨["in"], some (.file [0x61, 0x2B, 0x62, 0xFF]), false⟩ := by cbv
  have hdestination : f.resolve "out" = .ok ⟨["out"], some (.file [0x78]), false⟩ := by cbv
  have hcreate : f.createFile "out" = .ok ["out"] := by cbv
  have hshown : request ["in", "--positions"] =
      .dump "in" { Options.none with source := some "in", positions := true } := by decide +kernel
  have hstored : request ["--positions", "in", "-o", "out"] = .dump "in"
      { Options.none with source := some "in", positions := true, output := some "out" } := by
    decide +kernel
  have apart : ∀ a b, f.resolve "in" = .ok a → f.resolve "out" = .ok b → a.path ≠ b.path := by
    intro a b ha hb
    obtain rfl := Except.ok.inj (hsource.symm.trans ha)
    obtain rfl := Except.ok.inj (hdestination.symm.trans hb)
    simp
  obtain ⟨hends, -, hopens, -⟩ :=
    run_destination clock clock hshown rfl hstored hs apart hcreate (by decide)
  have hopen : f.openFile "in" = .ok [.bytes [0x61, 0x2B, 0x62, 0xFF]] := by cbv
  let c : Cursor := ⟨[.char 'b', .fault (Feed.badLead 0xFF)], some 'a', some '+', .start, false⟩
  have hprime : (Lexer.ofFeed [.bytes [0x61, 0x2B, 0x62, 0xFF]] s.scanning).1 =
      .ok (.ofCursor c s.scanning) := by decide +kernel
  exact ⟨hs, hends, _, ⟨_, hopen, hprime⟩, hopens _ ⟨_, hopen, hprime⟩⟩

end CommandLine
end TokenDump
