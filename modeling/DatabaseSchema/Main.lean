import DatabaseSchema.CommandLine
import DatabaseSchema.Sqlite.Disk

namespace DatabaseSchema

def assignment? (line : ByteArray) : Option (String × String) := do
  let s ← String.fromUTF8? line
  let (name, value) ← Text.splitFirst? '=' s.toList
  return (String.ofList name, String.ofList value)

def splitAtNul (bytes : List UInt8) : List (List UInt8) :=
  bytes.foldr
    (fun b parts =>
      match b, parts with
      | 0, parts => [] :: parts
      | b, [] => [[b]]
      | b, part :: parts => (b :: part) :: parts)
    []

def settingsDirectory? (entries : List (String × String)) : Option String :=
  match entries.lookup "XDG_CONFIG_HOME" with
  | some path => if path.toList.head? = some '/' then some path else below
  | none => below
where
  below : Option String := (entries.lookup "HOME").map (· ++ "/.config")

def readEnvironment : IO Environment := do
  let bytes ← IO.FS.readBinFile "/proc/self/environ"
  let lines := (splitAtNul bytes.toList).map fun part => ByteArray.mk part.toArray
  let entries := lines.filterMap assignment?
  return { entries, settingsDirectory := settingsDirectory? entries }

def readFile? (path : String) : IO (Option File) := do
  try
    return some (.content (← IO.FS.readBinFile path))
  catch
    | .inappropriateType .. => return some .directory
    | _ => return none

def readFiles (paths : List String) : IO Files := do
  let found ← (paths.flatMap Location.stages).mapM fun path => do
    return (← readFile? path).map fun f => (path, f)
  return Files.ofPaths (found.filterMap id)

def asDatabase? : File → Option Sqlite.Database
  | .content bytes =>
      ((String.fromUTF8? bytes).bind Json.parse? |>.bind Sqlite.script?).map fun statements =>
        (Sqlite.Database.build statements).saved
  | .directory => none

def diskOf (files : Files) : Sqlite.Disk :=
  { contents := files.filterMap fun f => (asDatabase? f.2).map fun d => (f.1, d), files }

end DatabaseSchema

open DatabaseSchema in
def main (args : List String) : IO UInt32 := do
  let e ← readEnvironment
  let files ← readFiles (CommandLine.settingsPaths e args)
  let found ← readFiles (CommandLine.databasePaths e files args)
  let host : Host := { environment := e, files, databases := (diskOf found).databases }
  let o := CommandLine.run host args
  for event in o.events do
    if (CommandLine.verbosityOf args).shows event.level then IO.eprintln event.line
  for complaint in o.complaint do
    IO.eprintln complaint
  IO.print o.output
  return o.code
