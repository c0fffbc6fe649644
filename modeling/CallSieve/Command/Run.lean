import CallSieve.Command.Arguments
import CallSieve.Config.Source
import CallSieve.Config.Starter
import CallSieve.Disk

namespace CallSieve

/-- Where the user keeps files. -/
structure Environment where
  home : Option FilePath
  /-- The directory that holds the configuration of the user. -/
  configDir : Option FilePath
  deriving DecidableEq, Repr

def Environment.globalDir (env : Environment) : Option FilePath :=
  env.configDir <|> env.home.map (·.child ".methodmatch")

namespace ConfigSource

def log : ConfigSource → List LogEntry
  | explicit _ | default => []
  | project path => [⟨.debug, "Found project config: " ++ path.render⟩]
  | global path =>
    [⟨.debug, "Found global config: " ++ path.render⟩, ⟨.info, "Using global config: " ++ path.render⟩]

end ConfigSource

section
variable {m : Type → Type} [Monad m] (disk : Disk m)

/-- The source of the configuration of a check. Its directories are those of the
    canonical path where there is one. -/
def Check.source (env : Environment) (given : Option FilePath) (c : Check) : m ConfigSource := do
  let start := (← disk.canonical? c.directory).getD c.directory
  let files ← (ConfigSource.candidates start env.globalDir).filterM disk.isFile
  return .locate files.contains start given env.globalDir

def ConfigSource.load (source : ConfigSource) : m (Except Ending (Config TypeRef)) := do
  match source.path? with
  | none => return .ok .default
  | some path =>
    let failed (behind : String) := Ending.failed ("Failed to load config: " ++ path.render) (some behind)
    match ← disk.read path with
    | .error e => return .error (failed e)
    | .ok text => return (Config.parse text).mapError fun e => failed e.message

def Snapshot.loadFrom (path : FilePath) : m (Except Ending Snapshot) := do
  let failed (behind : String) := Ending.failed ("Failed to load snapshot: " ++ path.render) (some behind)
  match ← disk.read path with
  | .error e => return .error (failed e)
  | .ok text => return (Snapshot.parse text).mapError fun e => failed e.message

def Selection.log (items : List String) : List LogEntry :=
  (pick items).unknown.map fun item => ⟨.warn, "unknown preset, skipping preset=" ++ Text.quoted item⟩

/-- The outcome of a check of which everything is loaded. The report is printed first,
    and if it cannot be, nothing is said of its findings. -/
def Check.outcome (c : Check) (threshold : Severity) (groups : List (MatcherGroup TypeRef)) (s : Snapshot) : Outcome :=
  let report := c.report groups s
  let log := [⟨.info, "Checking " ++ toString s.sites.length ++ " sites in " ++ c.snapshot.quoted ++ " with "
    ++ toString groups.length ++ " matcher group(s)"⟩]
  match report.tryPrint c.isText c.format with
  | .error e => { ending := .failed e.message none, log }
  | .ok output => { ending := if report.hasFindingsAt threshold then .findings else .done, output, log }

/-- Loads the configuration, builds the groups, and then loads the snapshot and checks it. -/
def Check.run (env : Environment) (given : Option FilePath) (c : Check) : m Outcome := do
  let source ← c.source disk env given
  match ← source.load disk with
  | .error ending => return { ending, log := source.log }
  | .ok config =>
    let log := source.log ++ Selection.log (c.selection config)
    match c.groups config with
    | .error e => return { ending := .failed "Failed to build presets" (some e.message), log }
    | .ok groups =>
      match ← Snapshot.loadFrom disk c.snapshot with
      | .error ending => return { ending, log }
      | .ok s =>
        let outcome := c.outcome config.failOn groups s
        return { outcome with log := log ++ outcome.log }

def ConfigStarter.run (force : Bool) : m Outcome := do
  let path := FilePath.ofString name
  if (← disk.isPresent path) && !force then
    return { ending := .failed ("Configuration file already exists at " ++ name ++ ". Use --force to overwrite.") none }
  match ← disk.write path text with
  | .error e => return { ending := .failed e.message none }
  | .ok () =>
    return {
      ending := .done
      output := "Created " ++ name ++ "\n\nNext steps:\n  1. Edit " ++ name
        ++ " to add matchers\n  2. Run: methodmatch check <snapshot.toml>\n" }

/-- The catalog, with a hint how to select from it. -/
def Catalog.overview : String :=
  listing ++ "\nUse --presets to select presets, entry names or codes, e.g.:\n"
    ++ "  methodmatch check snapshot.toml --presets security,stream-peek\n"
    ++ "  methodmatch check snapshot.toml --presets S2077,S3864\n"

def Invocation.run (env : Environment) (i : Invocation) : m Outcome := do
  let outcome ← match i.command with
    | .check c => c.run disk env i.config
    | .listPresets => pure { ending := .done, output := Catalog.overview }
    | .init force => ConfigStarter.run disk force
  return { outcome with log := outcome.log.filter fun e => i.verbose || e.level ≠ .debug }

def programVersion : String := "methodmatch 0.4.2\n"

def usage : String :=
  "Usage: methodmatch [-v] [-c CONFIG] <COMMAND>\n\nCommands:\n"
    ++ "  check [-f text|json|compact] [--presets PRESETS] [--symbols] <SNAPSHOT>\n"
    ++ "  list-presets\n"
    ++ "  init [--force]\n"
    ++ "  help [COMMAND]\n"

def run (env : Environment) (arguments : List String) : m Outcome :=
  match Invocation.ofArguments arguments with
  | .ok i => i.run disk env
  | .error .help => return { ending := .done, output := usage }
  | .error .version => return { ending := .done, output := programVersion }
  | .error (.misuse e) => return { ending := .misused e.message }

end

end CallSieve
