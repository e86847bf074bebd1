import TokenDump.CommandLine.Options
import TokenDump.Settings.Document
import TokenDump.Dump.File

/-! # Runs

A run of the command line: the settings are put together, logging is set up, the source is dumped,
and a failure is reported at the end. Standard output holds nothing but the dump. -/
namespace TokenDump.CommandLine

open Log

def programName : String := "minic-lex"
def programVersion : String := "0.1.0"

/-- The settings of a run: what the command line sets, over what the configuration file gives, over
the usual settings. -/
def Options.apply (o : Options) (s : Settings) : Settings where
  scanning := { s.scanning with trivia := o.trivia.getD s.scanning.trivia }
  dumping := { s.dumping with
    format := o.format.getD s.dumping.format
    positions := o.positions || s.dumping.positions
    failOnIllegal := o.failOnIllegal || s.dumping.failOnIllegal }
  logging := { s.logging with
    threshold := o.level.getD s.logging.threshold
    structured := o.jsonLogs || s.logging.structured }

/-- The settings of a run in a folder. -/
def settings (env : Environment) (f : Folder) (o : Options) : Except SettingsError Settings :=
  let usual := Settings.ofEnvironment env
  let configured := match o.config with
    | some path => Settings.ofFile usual path (f.contentOf path)
    | none => .ok usual
  configured.map o.apply

/-- Why a run fails. -/
inductive Failure where
  | settings (error : SettingsError)
  | dump (error : DumpError)
deriving DecidableEq

namespace Failure

def message : Failure → String
  | .settings error => error.message
  | .dump error => error.message

def code : Failure → Code
  | .settings error => error.code
  | .dump error => error.code

/-- The final report of a failure, with what the registry knows about it. -/
def report (f : Failure) : String := (Notice.error f.code f.message).renderDetailed

end Failure

/-- Clock readings that a run needs: the time of its events, and the duration of its dump in
milliseconds. -/
structure Clock where
  now : Timestamp
  elapsed : Nat

/-- What a run leaves behind. -/
structure Outcome where
  exitCode : Nat
  output : Bytes
  /-- What was written to standard error, each entry with a line break after it. -/
  diagnostics : List String
  folder : Folder

/-- How accepted events are written to standard error. -/
def diagnostics (s : Settings.Logging) (events : List Event) : List String :=
  if !s.console then []
  else if s.structured then events.map (·.renderJson)
  else events.map (·.render)

def readyNotice : Notice := .success .loggingReady "Global logging system initialized"

/-- Dumps `source` as the options say, with settings that have been put together. -/
def dump (s : Settings) (clock : Clock) (f : Folder) (source : String) (o : Options) :
    Except DumpError Dump.Summary × Bytes × Folder × Journal :=
  let journal := (Journal.ofThreshold (some s.logging.threshold) clock.now).postPlain readyNotice
  match o.output with
  | some destination => Dump.toFile s clock.elapsed f source destination journal
  | none =>
    let out := Dump.toOutput s clock.elapsed f source
    (out.result, out.output, f, journal.within source (·.postAll out.notices))

/-- The help text. -/
def usage : String :=
  "Dump the token stream of a minic source file\n\n" ++
  "Usage: minic-lex [OPTIONS] <SOURCE>\n\n" ++
  "Arguments:\n  <SOURCE>  Source file to scan\n\n" ++
  "Options:\n" ++
  "  -o, --output <DEST>          Destination file (defaults to stdout)\n" ++
  "      --format <FORMAT>        Output format [possible values: text, json]\n" ++
  "      --positions              Append the start position of each token\n" ++
  "      --trivia <TRIVIA>        Comment and whitespace skipping policy " ++
  "[possible values: strict, compatible]\n" ++
  "      --fail-on-illegal        Exit with failure when the source contains illegal tokens\n" ++
  "      --config <FILE>          TOML configuration file\n" ++
  "      --log-level <LOG_LEVEL>  Minimum log level " ++
  "[possible values: error, warning, info, debug]\n" ++
  "      --json-logs              Emit logs as JSON lines\n" ++
  "  -h, --help                   Print help\n" ++
  "  -V, --version                Print version\n"

/-- A dump with options that make sense. -/
def runDump (env : Environment) (clock : Clock) (f : Folder) (source : String) (o : Options) :
    Outcome :=
  match settings env f o with
  | .error error => ⟨1, [], [(Failure.settings error).report], f⟩
  | .ok s =>
    let (result, output, f, journal) := dump s clock f source o
    let lines := diagnostics s.logging journal.accepted
    match result with
    | .ok _ => ⟨0, output, lines, f⟩
    | .error error => ⟨1, output, lines ++ [(Failure.dump error).report], f⟩

/-- A run with the arguments after the program's name. -/
def run (env : Environment) (clock : Clock) (f : Folder) (arguments : List String) : Outcome :=
  match request arguments with
  | .misuse => ⟨2, [], ["error: invalid arguments", usage], f⟩
  | .help => ⟨0, Utf8.encode usage.toList, [], f⟩
  | .version => ⟨0, Utf8.encode (programName ++ " " ++ programVersion ++ "\n").toList, [], f⟩
  | .dump source options => runDump env clock f source options

end TokenDump.CommandLine
