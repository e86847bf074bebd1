import TokenDump.Proofs.Destinations
import TokenDump.Proofs.Encoding
import TokenDump.Proofs.Shapes

/-! # Which settings hold

Each setting is what its option says, or else what the configuration file says, or else what its
variable says, or else its built-in value, whatever is said about the other settings. A
configuration file that says something of a wrong shape ends the run before anything is dumped. -/
namespace TokenDump

open Toml CommandLine

namespace Environment

/-- The variable is there, and what it holds is this text. -/
def Says (env : Environment) (name text : String) : Prop :=
  env.lookup name = some (Utf8.encode text.toList)

variable {α : Type} {env : Environment} {name text : String} {read : String → Option α} {usual : α}

theorem text?_eq_some_iff : env.text? name = some text ↔ env.Says (family ++ name) text := by
  rw [text?, Option.bind_eq_some_iff]
  constructor
  · rintro ⟨bytes, hbytes, htext⟩
    obtain ⟨cs, hcs, rfl⟩ := Option.map_eq_some_iff.mp htext
    rw [Says, hbytes, Utf8.decode?_eq_some_iff.mp hcs, String.toList_ofList]
  · intro h
    exact ⟨_, h, by rw [Utf8.decode?_encode, Option.map_some, String.ofList_toList]⟩

end Environment

/-- A setting: where a document, the environment and the command line give it, and what it is if
they do not. -/
structure Setting (α : Type) where
  group : Settings.Group
  key : String
  means : Value → α → Prop
  variableName : String
  parse : String → Option α
  builtin : α
  option : Options → Option α

namespace Setting

open Settings

/-- An option that can only turn its setting on. -/
def turnedOn (given : Bool) : Option Bool := if given then some true else none

/-- A setting that is a truth value. -/
def truth (group : Group) (key name : String) (builtin : Bool) (option : Options → Option Bool) :
    Setting Bool :=
  ⟨group, key, fun v b => v = .boolean b, name, flag?, builtin, option⟩

def trivia : Setting Trivia where
  group := .scanner
  key := "trivia_mode"
  means := Names Trivia.spellings
  variableName := "MINIC_SCANNER_TRIVIA_MODE"
  parse := Trivia.ofName?
  builtin := .strict
  option := Options.trivia

def collectMetrics : Setting Bool :=
  truth .scanner "collect_metrics" "MINIC_SCANNER_COLLECT_METRICS" true fun _ => none

def logIllegal : Setting Bool :=
  truth .scanner "log_illegal_tokens" "MINIC_SCANNER_LOG_ILLEGAL" true fun _ => none

def format : Setting Format where
  group := .driver
  key := "output_format"
  means := Names Format.spellings
  variableName := "MINIC_DRIVER_OUTPUT_FORMAT"
  parse := Format.ofName?
  builtin := .text
  option := Options.format

def positions : Setting Bool :=
  truth .driver "include_positions" "MINIC_DRIVER_INCLUDE_POSITIONS" false fun o =>
    turnedOn o.positions

def failOnIllegal : Setting Bool :=
  truth .driver "fail_on_illegal" "MINIC_DRIVER_FAIL_ON_ILLEGAL" false fun o =>
    turnedOn o.failOnIllegal

def structured : Setting Bool :=
  truth .logging "use_structured_logging" "MINIC_LOGGING_USE_STRUCTURED" false fun o =>
    turnedOn o.jsonLogs

def console : Setting Bool :=
  truth .logging "enable_console_logging" "MINIC_LOGGING_ENABLE_CONSOLE" true fun _ => none

def threshold : Setting Log.Level where
  group := .logging
  key := "min_log_level"
  means := Names Log.Level.spellings
  variableName := "MINIC_LOGGING_MIN_LEVEL"
  parse := Log.Level.ofName?
  builtin := .warning
  option := Options.level

variable {α : Type}

/-- The document has a value for the setting. -/
def Gives (x : Setting α) (document : Document) (v : Value) : Prop :=
  ∃ group entries, (x.group.name, group) ∈ document ∧
    group.entries? (keys x.group.shapes) = some entries ∧ (x.key, v) ∈ entries

/-- The value that a setting has, and the place that it comes from. -/
inductive Effective (x : Setting α) (o : Options) (document : Document) (env : Environment) :
    α → Prop
  | option {a : α} (given : x.option o = some a) : Effective x o document env a
  | document {v : Value} {a : α} (option : x.option o = none) (given : x.Gives document v)
      (means : x.means v a) : Effective x o document env a
  | environment {text : String} {a : α} (option : x.option o = none)
      (absent : ∀ v, ¬ x.Gives document v) (given : env.Says x.variableName text)
      (parses : x.parse text = some a) : Effective x o document env a
  | builtin (option : x.option o = none) (absent : ∀ v, ¬ x.Gives document v)
      (silent : ∀ text, env.Says x.variableName text → x.parse text = none) :
      Effective x o document env x.builtin

end Setting

/-- The settings that hold under these options, with this document in this environment. -/
structure Settings.Hold (o : Options) (document : Document) (env : Environment) (s : Settings) :
    Prop where
  trivia : Setting.trivia.Effective o document env s.scanning.trivia
  collectMetrics : Setting.collectMetrics.Effective o document env s.scanning.collectMetrics
  logIllegal : Setting.logIllegal.Effective o document env s.scanning.logIllegal
  format : Setting.format.Effective o document env s.dumping.format
  positions : Setting.positions.Effective o document env s.dumping.positions
  failOnIllegal : Setting.failOnIllegal.Effective o document env s.dumping.failOnIllegal
  structured : Setting.structured.Effective o document env s.logging.structured
  console : Setting.console.Effective o document env s.logging.console
  threshold : Setting.threshold.Effective o document env s.logging.threshold

namespace Environment

variable {α : Type} {env : Environment} {name text : String} {read : String → Option α} {usual a : α}

theorem get_of_saying (h : env.Says (family ++ name) text) (hr : read text = some a) :
    env.get name read usual = a := by
  rw [get, text?_eq_some_iff.mpr h, Option.bind_some, hr, Option.getD_some]

theorem get_of_silent (h : ∀ text, env.Says (family ++ name) text → read text = none) :
    env.get name read usual = usual := by
  have hnone : (env.text? name).bind read = none :=
    Option.bind_eq_none_iff.mpr fun text htext => h text (text?_eq_some_iff.mp htext)
  rw [get, hnone, Option.getD_none]

/-- What is got of a variable is what it says, unless it says nothing. -/
theorem get_cases (env : Environment) (name : String) (read : String → Option α) (usual : α) :
    (∃ text, env.Says (family ++ name) text ∧ read text = some (env.get name read usual)) ∨
      (∀ text, env.Says (family ++ name) text → read text = none) ∧
        env.get name read usual = usual := by
  by_cases hsays : ∃ text, env.Says (family ++ name) text ∧ (read text).isSome
  · obtain ⟨text, htext, hsome⟩ := hsays
    obtain ⟨a, ha⟩ := Option.isSome_iff_exists.mp hsome
    exact .inl ⟨text, htext, by rw [get_of_saying htext ha, ha]⟩
  · have hsilent : ∀ text, env.Says (family ++ name) text → read text = none := by
      intro text htext
      by_contra hread
      exact hsays ⟨text, htext, Option.isSome_iff_ne_none.mpr hread⟩
    exact .inr ⟨hsilent, get_of_silent hsilent⟩

end Environment

namespace Setting

open Settings

variable {α β : Type} {x : Setting α} {get : Settings → α} {usual s : Settings} {o : Options}
  {document : Document} {env : Environment} {a : α}

/-- The setting is read from each of its places as it says, and nothing else is read there. -/
structure Lawful (x : Setting α) (get : Settings → α) : Prop where
  means_inj : ∀ v a b, x.means v a → x.means v b → a = b
  environment : ∃ suffix, x.variableName = Environment.family ++ suffix ∧
    ∀ env, get (.ofEnvironment env) = env.get suffix x.parse x.builtin
  document : ∀ usual s document, Value.Tidy (.table document) →
    ofDocument usual document = .ok s →
      (∀ v, x.Gives document v → x.means v (get s)) ∧
        ((∀ v, ¬ x.Gives document v) → get s = get usual)
  option : ∀ o s, get (o.apply s) = (x.option o).getD (get s)

/-- A setting has the value that it should have, and no other one. -/
theorem Lawful.effective_iff (hx : x.Lawful get) (tidy : Value.Tidy (.table document))
    (h : ofDocument (.ofEnvironment env) document = .ok s) :
    x.Effective o document env a ↔ a = get (o.apply s) := by
  obtain ⟨hgiven, husual⟩ := hx.document _ _ _ tidy h
  obtain ⟨suffix, hname, henv⟩ := hx.environment
  rw [hx.option]
  constructor
  · intro heffective
    cases heffective with
    | option given => rw [given, Option.getD_some]
    | document option given means =>
      rw [option, Option.getD_none]
      exact hx.means_inj _ _ _ means (hgiven _ given)
    | environment option absent given parses =>
      rw [option, Option.getD_none, husual absent, henv]
      exact (Environment.get_of_saying (hname ▸ given) parses).symm
    | builtin option absent silent =>
      rw [option, Option.getD_none, husual absent, henv]
      exact (Environment.get_of_silent (hname ▸ silent)).symm
  · rintro rfl
    cases hoption : x.option o with
    | some a => exact .option hoption
    | none =>
      rw [Option.getD_none]
      by_cases hdocument : ∃ v, x.Gives document v
      · obtain ⟨v, hv⟩ := hdocument
        exact .document hoption hv (hgiven v hv)
      · have habsent := not_exists.mp hdocument
        rw [husual habsent, henv]
        rcases env.get_cases suffix x.parse x.builtin with ⟨text, htext, hparse⟩ | ⟨hsilent, hget⟩
        · exact .environment hoption habsent (hname ▸ htext) hparse
        · rw [hget]
          exact .builtin hoption habsent (hname ▸ hsilent)

/-- A setting that has a place of its own in the record of its group. -/
theorem document_of_places {inner : List (Place β)} {apart' : inner.Pairwise Place.Apart}
    {group : Settings → β} {putGroup : Settings → β → Settings} {name : String}
    {get_putGroup : ∀ s c, group (putGroup s c) = c} {leaf : β → α} {put : β → α → β}
    {read : Value → Except ShapeError α} {get_put : ∀ c a, leaf (put c a) = a}
    (hgroup : Place.nested x.group.name group putGroup name inner apart' get_putGroup ∈ places)
    (hleaf : Place.replaced x.key leaf put read get_put ∈ inner)
    (hkeys : x.group.shapes.Describe inner) (hmeans : ∀ v a, read v = .ok a ↔ x.means v a)
    (tidy : Value.Tidy (.table document)) (h : ofDocument usual document = .ok s) :
    (∀ v, x.Gives document v → x.means v (leaf (group s))) ∧
      ((∀ v, ¬ x.Gives document v) → leaf (group s) = leaf (group usual)) := by
  cases tidy with
  | table distinct tidy =>
    obtain ⟨hthere, hmissing⟩ := readEntries_place apart hgroup distinct h
    have hinner : ∀ v, (x.group.name, v) ∈ document → ∃ entries,
        v.entries? (keys x.group.shapes) = some entries ∧
          (∀ w, (x.key, w) ∈ entries → x.means w (leaf (group s))) ∧
          ((∀ w, (x.key, w) ∉ entries) → leaf (group s) = leaf (group usual)) := by
      intro v hv
      obtain ⟨entries, hentries, hread⟩ :=
        (record_ok_iff (nodup_slots apart')).mp (hthere v hv)
      have hnodup := nodup_entries (nodup_slots apart') (tidy _ hv) hentries
      obtain ⟨hown, hkept⟩ := readEntries_place apart' hleaf hnodup hread
      exact ⟨entries, hkeys.keys_eq ▸ hentries, fun w hw => (hmeans w _).mp (hown w hw), hkept⟩
    constructor
    · rintro w ⟨v, entries, hv, hentries, hw⟩
      obtain ⟨entries', hentries', hown, -⟩ := hinner v hv
      obtain rfl := Option.some.inj (hentries.symm.trans hentries')
      exact hown w hw
    · intro habsent
      by_cases hv : ∃ v, (x.group.name, v) ∈ document
      · obtain ⟨v, hv⟩ := hv
        obtain ⟨entries, hentries, -, hkept⟩ := hinner v hv
        exact hkept fun w hw => habsent w ⟨v, entries, hv, hentries, hw⟩
      · exact congrArg leaf (hmissing (not_exists.mp hv))

theorem names_inj {spellings : List (String × α)} (hn : (keys spellings).Nodup) {v : Value}
    {a b : α} (h : Names spellings v a) (h' : Names spellings v b) : a = b := by
  have ha := (choice_ok_iff hn).mpr h
  have hb := (choice_ok_iff hn).mpr h'
  exact Except.ok.inj (ha.symm.trans hb)

theorem boolean_inj {v : Value} {a b : Bool} (h : v = .boolean a) (h' : v = .boolean b) : a = b :=
  Value.boolean.inj (h.symm.trans h')

theorem turnedOn_getD (given usual : Bool) : (turnedOn given).getD usual = (given || usual) := by
  cases given
  · rfl
  · rfl

theorem lawful_trivia : trivia.Lawful (·.scanning.trivia) where
  means_inj _ _ _ := names_inj Trivia.nodup_spellings
  environment := ⟨"SCANNER_TRIVIA_MODE", rfl, fun _ => rfl⟩
  document _ _ _ := document_of_places (.head _) (.head _) scanner_describe
    fun _ _ => choice_ok_iff Trivia.nodup_spellings
  option _ _ := rfl

theorem lawful_collectMetrics : collectMetrics.Lawful (·.scanning.collectMetrics) where
  means_inj _ _ _ := boolean_inj
  environment := ⟨"SCANNER_COLLECT_METRICS", rfl, fun _ => rfl⟩
  document _ _ _ := document_of_places (.head _) (.tail _ (.head _)) scanner_describe
    fun _ _ => boolean?_ok_iff
  option _ _ := rfl

theorem lawful_logIllegal : logIllegal.Lawful (·.scanning.logIllegal) where
  means_inj _ _ _ := boolean_inj
  environment := ⟨"SCANNER_LOG_ILLEGAL", rfl, fun _ => rfl⟩
  document _ _ _ := document_of_places (.head _) (.tail _ (.tail _ (.head _))) scanner_describe
    fun _ _ => boolean?_ok_iff
  option _ _ := rfl

theorem lawful_format : format.Lawful (·.dumping.format) where
  means_inj _ _ _ := names_inj Format.nodup_spellings
  environment := ⟨"DRIVER_OUTPUT_FORMAT", rfl, fun _ => rfl⟩
  document _ _ _ := document_of_places (.tail _ (.head _)) (.head _) driver_describe
    fun _ _ => choice_ok_iff Format.nodup_spellings
  option _ _ := rfl

theorem lawful_positions : positions.Lawful (·.dumping.positions) where
  means_inj _ _ _ := boolean_inj
  environment := ⟨"DRIVER_INCLUDE_POSITIONS", rfl, fun _ => rfl⟩
  document _ _ _ := document_of_places (.tail _ (.head _)) (.tail _ (.head _)) driver_describe
    fun _ _ => boolean?_ok_iff
  option _ _ := (turnedOn_getD _ _).symm

theorem lawful_failOnIllegal : failOnIllegal.Lawful (·.dumping.failOnIllegal) where
  means_inj _ _ _ := boolean_inj
  environment := ⟨"DRIVER_FAIL_ON_ILLEGAL", rfl, fun _ => rfl⟩
  document _ _ _ := document_of_places (.tail _ (.head _)) (.tail _ (.tail _ (.head _)))
    driver_describe fun _ _ => boolean?_ok_iff
  option _ _ := (turnedOn_getD _ _).symm

theorem lawful_structured : structured.Lawful (·.logging.structured) where
  means_inj _ _ _ := boolean_inj
  environment := ⟨"LOGGING_USE_STRUCTURED", rfl, fun _ => rfl⟩
  document _ _ _ := document_of_places (.tail _ (.tail _ (.head _))) (.head _) logging_describe
    fun _ _ => boolean?_ok_iff
  option _ _ := (turnedOn_getD _ _).symm

theorem lawful_console : console.Lawful (·.logging.console) where
  means_inj _ _ _ := boolean_inj
  environment := ⟨"LOGGING_ENABLE_CONSOLE", rfl, fun _ => rfl⟩
  document _ _ _ := document_of_places (.tail _ (.tail _ (.head _))) (.tail _ (.head _))
    logging_describe fun _ _ => boolean?_ok_iff
  option _ _ := rfl

theorem lawful_threshold : threshold.Lawful (·.logging.threshold) where
  means_inj _ _ _ := names_inj Log.Level.nodup_spellings
  environment := ⟨"LOGGING_MIN_LEVEL", rfl, fun _ => rfl⟩
  document _ _ _ := document_of_places (.tail _ (.tail _ (.head _)))
    (.tail _ (.tail _ (.head _))) logging_describe fun _ _ => choice_ok_iff Log.Level.nodup_spellings
  option _ _ := rfl

end Setting

attribute [ext] Settings Settings.Scanning Settings.Dumping Settings.Logging

namespace CommandLine

open Settings

variable {env : Environment} {f : Folder} {o : Options} {s s' : Settings} {document : Document}
  {path source : String} {arguments : List String}

/-- The document that configures a run: the file that the options name is the text of it, or no file
is named and there is nothing in it. -/
inductive Configured (f : Folder) : Option String → Document → Prop
  | unnamed : Configured f none []
  | named {path text : String} {document : Document}
      (content : f.contentOf path = .ok (Utf8.encode text.toList))
      (toml : parse? text = some document) : Configured f (some path) document

/-- The file can be read, and it holds a text. -/
def HoldsText (f : Folder) (path : String) : Prop :=
  ∃ text : String, f.contentOf path = .ok (Utf8.encode text.toList)

theorem hold_iff (tidy : Value.Tidy (.table document))
    (h : ofDocument (.ofEnvironment env) document = .ok s) :
    Hold o document env s' ↔ s' = o.apply s := by
  constructor
  · intro hold
    have hscanning : s'.scanning = (o.apply s).scanning := Scanning.ext
      ((Setting.lawful_trivia.effective_iff tidy h).mp hold.trivia)
      ((Setting.lawful_collectMetrics.effective_iff tidy h).mp hold.collectMetrics)
      ((Setting.lawful_logIllegal.effective_iff tidy h).mp hold.logIllegal)
    have hdumping : s'.dumping = (o.apply s).dumping := Dumping.ext
      ((Setting.lawful_format.effective_iff tidy h).mp hold.format)
      ((Setting.lawful_positions.effective_iff tidy h).mp hold.positions)
      ((Setting.lawful_failOnIllegal.effective_iff tidy h).mp hold.failOnIllegal)
    have hlogging : s'.logging = (o.apply s).logging := Logging.ext
      ((Setting.lawful_structured.effective_iff tidy h).mp hold.structured)
      ((Setting.lawful_console.effective_iff tidy h).mp hold.console)
      ((Setting.lawful_threshold.effective_iff tidy h).mp hold.threshold)
    exact Settings.ext hscanning hdumping hlogging
  · rintro rfl
    exact {
      trivia := (Setting.lawful_trivia.effective_iff tidy h).mpr rfl
      collectMetrics := (Setting.lawful_collectMetrics.effective_iff tidy h).mpr rfl
      logIllegal := (Setting.lawful_logIllegal.effective_iff tidy h).mpr rfl
      format := (Setting.lawful_format.effective_iff tidy h).mpr rfl
      positions := (Setting.lawful_positions.effective_iff tidy h).mpr rfl
      failOnIllegal := (Setting.lawful_failOnIllegal.effective_iff tidy h).mpr rfl
      structured := (Setting.lawful_structured.effective_iff tidy h).mpr rfl
      console := (Setting.lawful_console.effective_iff tidy h).mpr rfl
      threshold := (Setting.lawful_threshold.effective_iff tidy h).mpr rfl }

theorem Configured.tidy (h : Configured f o.config document) : Value.Tidy (.table document) := by
  generalize o.config = path at h
  cases h with
  | unnamed => exact .table List.nodup_nil (by simp)
  | named content toml => exact tidy_parse toml

theorem Configured.settings_eq (h : Configured f o.config document) : settings env f o =
    ((ofDocument (.ofEnvironment env) document).mapError .misshapen).map o.apply := by
  rw [settings]
  generalize o.config = path at h
  cases h with
  | unnamed => rfl
  | named content toml =>
    simp [content, ofFile, Utf8.decode?_encode, ofText, toml]

theorem settings_of_file (hpath : o.config = some path) : settings env f o =
    (ofFile (.ofEnvironment env) path (f.contentOf path)).map o.apply := by
  simp only [settings, hpath]

/-- What a run comes to whose file gives no document of the right shape. -/
theorem settings_error (env : Environment) (hpath : o.config = some path)
    (h : ∀ document, Configured f (some path) document → ¬ RightShape document) :
    ∃ error, settings env f o = .error error ∧
      (HoldsText f path ∧ error.code.text = "E061" ∨
        ¬ HoldsText f path ∧ error.code.text = "E060") := by
  rw [settings_of_file hpath]
  cases hcontent : f.contentOf path with
  | error fault =>
    refine ⟨.unreadable path fault, rfl, .inr ⟨?_, rfl⟩⟩
    rintro ⟨text, htext⟩
    simp [hcontent] at htext
  | ok bytes =>
    cases hdecode : Utf8.decode? bytes with
    | none =>
      refine ⟨.unreadable path notText, by simp [ofFile, hdecode, Except.map], .inr ⟨?_, rfl⟩⟩
      rintro ⟨text, htext⟩
      obtain rfl := Except.ok.inj (hcontent.symm.trans htext)
      simp [Utf8.decode?_encode] at hdecode
    | some cs =>
      obtain rfl := Utf8.decode?_eq_some_iff.mp hdecode
      have htext : f.contentOf path = .ok (Utf8.encode (String.ofList cs).toList) := by
        rw [hcontent, String.toList_ofList]
      have hfile : ofFile (.ofEnvironment env) path (.ok (Utf8.encode cs)) =
          ofText (.ofEnvironment env) (String.ofList cs) := by simp [ofFile, hdecode]
      rw [hfile, ofText]
      cases hparse : parse? (String.ofList cs) with
      | none => exact ⟨.malformed, rfl, .inl ⟨⟨_, htext⟩, rfl⟩⟩
      | some document =>
        cases hread : ofDocument (.ofEnvironment env) document with
        | error error =>
          exact ⟨.misshapen error, by simp [hread, Except.mapError, Except.map],
            .inl ⟨⟨_, htext⟩, rfl⟩⟩
        | ok s =>
          have hshape := (ofDocument_ok_iff _ _).mp ⟨s, hread⟩
          exact absurd hshape (h document (.named htext hparse))

/-- The settings of a run are those that hold, all nine of them, and it dumps, reports and logs under
them. Where the configuration file gives none, there are no settings: the run fails and leaves all
files alone. -/
theorem run_settings (clock : Clock) (hr : request arguments = .dump source o) :
    (∀ document, Configured f o.config document → RightShape document →
      ∃ s, settings env f o = .ok s ∧ (∀ s', Hold o document env s' ↔ s' = s) ∧
        let d := dump s clock f source o
        Concludes s.logging (Failure.ofDump d.1) (run env clock f arguments) ∧
          (run env clock f arguments).diagnostics = diagnostics s.logging d.2.2.2.accepted ++
            ((Failure.ofDump d.1).map Failure.report).toList ∧
          (run env clock f arguments).output = d.2.1 ∧
          (run env clock f arguments).folder = d.2.2.1) ∧
    ∀ path, o.config = some path →
      (∀ document, Configured f (some path) document → ¬ RightShape document) →
        ∃ error, settings env f o = .error error ∧
          run env clock f arguments = ⟨1, [], [(Failure.settings error).report], f⟩ ∧
          (HoldsText f path ∧ error.code.text = "E061" ∨
            ¬ HoldsText f path ∧ error.code.text = "E060") := by
  refine ⟨fun document hconfigured hshape => ?_, fun path hpath h => ?_⟩
  · obtain ⟨s, hs⟩ := (ofDocument_ok_iff (.ofEnvironment env) document).mpr hshape
    have hsettings : settings env f o = .ok (o.apply s) := by
      rw [hconfigured.settings_eq, hs]
      rfl
    obtain ⟨hends, houtput, hfolder⟩ := run_of_settings clock hr hsettings
    exact ⟨o.apply s, hsettings, fun _ => hold_iff hconfigured.tidy hs, hends,
      congrArg Outcome.diagnostics (run_eq_of_settings clock hr hsettings), houtput, hfolder⟩
  · obtain ⟨error, herror, hcode⟩ := settings_error env hpath h
    exact ⟨error, herror, run_eq_of_error clock hr herror, hcode⟩

/-- The file decides over the environment on one setting, and the command line adds another one. A
file that is not there ends the run. -/
theorem run_settings_layers :
    let text := "[driver]\noutput_format = \"text\"\nwidth = true\n"
    let f : Folder := ⟨[], [(["in"], .file [0x61]), (["conf"], .file (Utf8.encode text.toList))]⟩
    let env : Environment := [("MINIC_DRIVER_OUTPUT_FORMAT", [0x6A, 0x73, 0x6F, 0x6E]),
      ("MINIC_SCANNER_TRIVIA_MODE", [0x63, 0x6F, 0x6D, 0x70, 0x61, 0x74])]
    let document : Document :=
      [("driver", .table [("output_format", .string "text"), ("width", .boolean true)])]
    let arguments := ["in", "--config", "conf", "--positions"]
    let o : Options :=
      { Options.none with source := some "in", config := some "conf", positions := true }
    let s : Settings := ⟨⟨.compatible, true, true⟩, ⟨.text, true, false⟩, ⟨false, true, .warning⟩⟩
    let clock : Clock := ⟨.epoch, 0⟩
    request arguments = .dump "in" o ∧ Configured f o.config document ∧ RightShape document ∧
      settings env f o = .ok s ∧ (∀ s', Hold o document env s' ↔ s' = s) ∧
      (run env clock f arguments).diagnostics =
        diagnostics s.logging (dump s clock f "in" o).2.2.2.accepted ++
          ((Failure.ofDump (dump s clock f "in" o).1).map Failure.report).toList ∧
      (run env clock f arguments).output = (dump s clock f "in" o).2.1 ∧
      ∃ error, settings env f { Options.none with source := some "in", config := some "gone" } =
          .error error ∧
        run env clock f ["--config=gone", "in"] = ⟨1, [], [(Failure.settings error).report], f⟩ ∧
        error.code.text = "E060" := by
  intro text f env document arguments o s clock
  have hr : request arguments = .dump "in" o := by decide +kernel
  have hfile (bytes : Bytes) :
      let f : Folder := ⟨[], [(["in"], .file [0x61]), (["conf"], .file bytes)]⟩
      f.contentOf "conf" = .ok bytes ∧ f.contentOf "gone" = .error .notFound := by
    constructor
    · cbv
    · cbv
  have hparse : parse? text = some document := by cbv
  have hread : ofDocument (.ofEnvironment env) document =
      .ok ⟨⟨.compatible, true, true⟩, ⟨.text, false, false⟩, ⟨false, true, .warning⟩⟩ := by
    decide +kernel
  have hconfigured : Configured f o.config document := .named (hfile _).1 hparse
  have hshape := (ofDocument_ok_iff _ _).mp ⟨_, hread⟩
  obtain ⟨s', hsettings, hhold, -, hdiagnostics, houtput, -⟩ :=
    (run_settings clock hr).1 document hconfigured hshape
  obtain rfl : s = s' := (hhold s).mp ((hold_iff hconfigured.tidy hread).mpr rfl)
  have hgone : ∀ text : String, f.contentOf "gone" ≠ .ok (Utf8.encode text.toList) := by
    intro text htext
    rw [(hfile _).2] at htext
    cases htext
  have hnone : ∀ document, Configured f (some "gone") document → ¬ RightShape document := by
    rintro _ (_ | ⟨content, _⟩) _
    exact hgone _ content
  have hr' : request ["--config=gone", "in"] =
      .dump "in" { Options.none with source := some "in", config := some "gone" } := by
    decide +kernel
  obtain ⟨error, herror, hfails, ⟨⟨text', htext'⟩, -⟩ | ⟨-, hcode⟩⟩ :=
    (@run_settings env f _ _ _ clock hr').2 "gone" rfl hnone
  · exact absurd htext' (hgone text')
  · exact ⟨hr, hconfigured, hshape, hsettings, hhold, hdiagnostics, houtput, error, herror, hfails,
      hcode⟩

end CommandLine
end TokenDump
