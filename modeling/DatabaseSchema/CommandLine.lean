import DatabaseSchema.CommandLine.Arguments
import DatabaseSchema.Connection
import DatabaseSchema.Json.Forms
import DatabaseSchema.Settings.Load
import DatabaseSchema.Snapshot

namespace DatabaseSchema

inductive CommandError where
  | settings (e : SettingsError)
  | connection (e : ConnectionError)
  | schema (e : SchemaError)
  deriving DecidableEq, Repr

def CommandError.message : CommandError → String
  | settings e => e.message
  | connection e => e.message
  | schema e => e.message

structure Shown where
  events : List Event := []
  output : String := ""

-- Work that reports and prints. A failure does not take back what was shown before.
abbrev Work := ExceptT CommandError (StateM Shown)

namespace Work

def report (events : List Event) : Work Unit :=
  modify fun w => { w with events := w.events ++ events }

def print (text : String) : Work Unit :=
  modify fun w => { w with output := w.output ++ text }

def printLine (text : String) : Work Unit :=
  print (text ++ "\n")

def settings (r : Except SettingsError α) : Work α :=
  match r with
  | .ok a => return a
  | .error e => throw (.settings e)

def connection (r : Except ConnectionError α) : Work α :=
  match r with
  | .ok a => return a
  | .error e => throw (.connection e)

def read (act : Act α) (source : Source) (s : Session) : Work α := do
  let (r, s) := act.run source s
  report s.events
  match r with
  | .ok a => return a
  | .error e => throw (.schema e)

end Work

def Command.perform (source : Source) (s : Session) : Command → Work Unit
  | tables => do
      let names ← Work.read Provider.tableNames source s
      names.forM Work.printLine
  | views => do
      let names ← Work.read Provider.viewNames source s
      names.forM Work.printLine
  | describe name => do
      let t ← Work.read (do Table.snapshotOf (← Provider.getTable name)) source s
      Work.print t.text
  | dump .text => do
      let schema ← Work.read Provider.snapshot source s
      Work.print schema.text
  | dump .json => do
      let schema ← Work.read Provider.snapshot source s
      Work.printLine schema.jsonText

inductive Origin where
  | given (path : String)
  | named (name : String)
  | usual (name : String) (c : ConnectionSettings)
  | environment
  deriving DecidableEq, Repr

namespace Origin

def ofInvocation (i : Invocation) (s : Settings) : Origin :=
  match i.database, i.connection, s.defaultConnection? with
  | some path, _, _ => .given path
  | none, some name, _ => .named name
  | none, none, some (name, c) => .usual name c
  | none, none, none => .environment

def connection (o : Origin) (e : Environment) (s : Settings) : Work Connection :=
  match o with
  | .given path => return { path }
  | .named name => Work.settings do (← s.connection name).connection e
  | .usual name c => do
      Work.report [.usingConnection name]
      Work.settings (c.connection e)
  | .environment => Work.connection (Connection.ofEnvironment e)

end Origin

structure Host where
  environment : Environment := {}
  files : Files := []
  sizeLimit : Pattern.SizeLimit := .ofSize
  databases : Databases

namespace Invocation

def settings (i : Invocation) (e : Environment) (files : Files) : Except SettingsError Settings :=
  match i.settingsFile with
  | some path => Settings.read files path
  | none => Settings.load e files

def connect (i : Invocation) (e : Environment) (s : Settings) : Work Connection := do
  let c ← (Origin.ofInvocation i s).connection e s
  return { c with schema := i.schema <|> c.schema }

def openProvider (i : Invocation) (host : Host) : Work (Source × Session) := do
  let s ← Work.settings (i.settings host.environment host.files)
  let policy ← Work.settings (s.metadata.policy host.sizeLimit)
  let c ← i.connect host.environment s
  Work.report [c.opening]
  let source ← Work.connection (c.source host.databases)
  return (source, c.session policy.toPolicy)

def perform (i : Invocation) (host : Host) : Work Unit := do
  let (source, s) ← i.openProvider host
  i.command.perform source s

end Invocation

structure Outcome where
  code : UInt32
  output : String := ""
  complaint : Option String := none
  events : List Event := []
  deriving DecidableEq, Repr

namespace CommandLine

def versionText : String := "schemalens 0.1.0\n"

def helpText : String :=
  "Usage: schemalens [OPTIONS] <COMMAND>\n\n"
    ++ "Commands:\n"
    ++ "  tables [DB]           List table names\n"
    ++ "  views [DB]            List view names\n"
    ++ "  describe <TABLE> [DB] Show one table\n"
    ++ "  dump [DB]             Show every table and view\n\n"
    ++ "Options: --config <FILE>, --connection <NAME>, --log-level <LEVEL>, --schema <NAME>,\n"
    ++ "  --format <text|json>\n"

def refuse : Refusal → Outcome
  | .help => { code := 0, output := helpText }
  | .version => { code := 0, output := versionText }
  | .misuse => { code := 2 }

def verbosityOf (args : List String) : Verbosity :=
  match parse args with
  | .ok i => i.verbosity
  | .error _ => .warn

def settingsPaths (e : Environment) (args : List String) : List String :=
  match parse args with
  | .error _ => []
  | .ok i =>
      match i.settingsFile <|> e.value? Settings.pathVariable with
      | some path => [path]
      | none => Settings.localPath :: (Settings.userPath? e).toList

def databasePaths (e : Environment) (files : Files) (args : List String) : List String :=
  match parse args with
  | .error _ => []
  | .ok i =>
      match (do i.connect e (← Work.settings (i.settings e files))).run {} with
      | (.ok c, _) => [c.path]
      | (.error _, _) => []

def run (host : Host) (args : List String) : Outcome :=
  match parse args with
  | .error r => refuse r
  | .ok i =>
      match (i.perform host).run {} with
      | (.ok (), shown) => { code := 0, output := shown.output, events := shown.events }
      | (.error failure, shown) =>
          { code := 1
            output := shown.output
            complaint := some ("Error: " ++ failure.message)
            events := shown.events }

end CommandLine

end DatabaseSchema
