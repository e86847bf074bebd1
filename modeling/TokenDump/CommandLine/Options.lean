import TokenDump.Settings.Basic

/-! # Command line options

The arguments of a run. An option with a value takes it from behind an equals sign, or from the
next argument; options may stand before and after the source, each at most once; two hyphens end
them. Arguments are taken in order, so that a request for help or the version counts only if
nothing before it is wrong. -/
namespace TokenDump.CommandLine

structure Options where
  source : Option String
  output : Option String
  format : Option Format
  positions : Bool
  trivia : Option Trivia
  failOnIllegal : Bool
  config : Option String
  level : Option Log.Level
  jsonLogs : Bool
deriving DecidableEq

namespace Options

def none : Options := ⟨.none, .none, .none, false, .none, false, .none, .none, false⟩

end Options

/-- What the arguments ask for. -/
inductive Request where
  | dump (source : String) (options : Options)
  | help
  | version
  | misuse
deriving DecidableEq

/-- The names of the files that a request is about. -/
def Request.files : Request → List String
  | .dump source options => source :: options.output.toList ++ options.config.toList
  | .help | .version | .misuse => []

/-- The options that take a value. -/
inductive Valued where
  | output | format | trivia | config | level
deriving DecidableEq

/-- The options that take none. -/
inductive Switch where
  | positions | failOnIllegal | jsonLogs | help | version
deriving DecidableEq

inductive Flag where
  | valued (v : Valued)
  | switch (s : Switch)
deriving DecidableEq

def longFlags : List (String × Flag) :=
  [("output", .valued .output), ("format", .valued .format), ("positions", .switch .positions),
   ("trivia", .valued .trivia), ("fail-on-illegal", .switch .failOnIllegal),
   ("config", .valued .config), ("log-level", .valued .level), ("json-logs", .switch .jsonLogs),
   ("help", .switch .help), ("version", .switch .version)]

def shortFlags : List (Char × Flag) :=
  [('o', .valued .output), ('h', .switch .help), ('V', .switch .version)]

/-- The names of levels that the command line knows. -/
def levelNames : List (String × Log.Level) :=
  [("error", .error), ("warning", .warning), ("info", .info), ("debug", .debug)]

def formatNames : List (String × Format) := [("text", .text), ("json", .json)]

def triviaNames : List (String × Trivia) := [("strict", .strict), ("compatible", .compatible)]

/-- A name of a file, which may not be empty. -/
def fileName? (text : String) : Option String := if text.isEmpty then none else some text

/-- Gives a value to an option that has none yet. -/
def once {α : Type} (present : Option α) (value : Option α) : Option (Option α) :=
  match present with
  | some _ => none
  | none => value.map some

def setValue (o : Options) (flag : Valued) (text : String) : Option Options :=
  match flag with
  | .output => (once o.output (fileName? text)).map fun v => { o with output := v }
  | .format => (once o.format (formatNames.lookup text)).map fun v => { o with format := v }
  | .trivia => (once o.trivia (triviaNames.lookup text)).map fun v => { o with trivia := v }
  | .config => (once o.config (fileName? text)).map fun v => { o with config := v }
  | .level => (once o.level (levelNames.lookup text)).map fun v => { o with level := v }

/-- Sets a switch that is not set yet; a request for help or the version is the outcome at once. -/
def setSwitch (o : Options) : Switch → Except Request Options
  | .positions => if o.positions then .error .misuse else .ok { o with positions := true }
  | .failOnIllegal =>
    if o.failOnIllegal then .error .misuse else .ok { o with failOnIllegal := true }
  | .jsonLogs => if o.jsonLogs then .error .misuse else .ok { o with jsonLogs := true }
  | .help => .error .help
  | .version => .error .version

def setSource (o : Options) (text : String) : Option Options :=
  (once o.source (fileName? text)).map fun v => { o with source := v }

def orMisuse {α : Type} (a : Option α) : Except Request α :=
  match a with
  | some a => .ok a
  | none => .error .misuse

/-- Options so far, and the option that waits for its value. -/
abbrev State := Options × Option Valued

/-- Takes the letters behind a single hyphen. A letter that takes a value takes the rest, after an
equals sign if there is one. -/
def takeLetters (o : Options) : List Char → Except Request State
  | [] => .ok (o, none)
  | c :: rest =>
    match shortFlags.lookup c with
    | none => .error .misuse
    | some (.switch s) => do takeLetters (← setSwitch o s) rest
    | some (.valued v) =>
      match rest with
      | [] => .ok (o, some v)
      | '=' :: text => do return (← orMisuse (setValue o v (String.ofList text)), none)
      | text => do return (← orMisuse (setValue o v (String.ofList text)), none)

/-- Takes what stands behind two hyphens. -/
def takeLong (o : Options) (text : List Char) : Except Request State :=
  let name := String.ofList (text.takeWhile (· != '='))
  let value? := match text.dropWhile (· != '=') with
    | _ :: value => some (String.ofList value)
    | [] => none
  match longFlags.lookup name, value? with
  | some (.switch s), none => do return (← setSwitch o s, none)
  | some (.valued v), some value => do return (← orMisuse (setValue o v value), none)
  | some (.valued v), none => .ok (o, some v)
  | _, _ => .error .misuse

/-- Takes one argument before the end of the options. A value of its own does not start with a
hyphen, unless it is nothing else. -/
def takeArgument (s : State) (argument : String) : Except Request State :=
  match s, argument.toList with
  | (o, some v), '-' :: rest =>
    if rest.isEmpty then do return (← orMisuse (setValue o v argument), none) else .error .misuse
  | (o, some v), _ => do return (← orMisuse (setValue o v argument), none)
  | (o, none), '-' :: '-' :: text => takeLong o text
  | (o, none), ['-'] => do return (← orMisuse (setSource o argument), none)
  | (o, none), '-' :: letters => takeLetters o letters
  | (o, none), _ => do return (← orMisuse (setSource o argument), none)

/-- Takes the arguments in order; after two hyphens all of them are sources. -/
def takeAll (s : State) : List String → Except Request Options
  | [] => if s.2.isSome then .error .misuse else .ok s.1
  | "--" :: rest =>
    if s.2.isSome then .error .misuse
    else rest.foldlM (fun o argument => orMisuse (setSource o argument)) s.1
  | argument :: rest => do takeAll (← takeArgument s argument) rest

/-- What a list of arguments asks for. Exactly one source is needed. -/
def request (arguments : List String) : Request :=
  match takeAll (Options.none, none) arguments with
  | .error request => request
  | .ok options =>
    match options.source with
    | some source => .dump source options
    | none => .misuse

end TokenDump.CommandLine
