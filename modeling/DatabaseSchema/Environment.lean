import DatabaseSchema.Text

namespace DatabaseSchema

structure Environment where
  entries : List (String × String) := []
  settingsDirectory : Option String := none
  deriving DecidableEq, Repr

namespace Environment

def restAfter? : List Char → List Char → Option (List Char)
  | [], cs => some cs
  | _ :: _, [] => none
  | a :: start, c :: cs => if a = c then restAfter? start cs else none

-- What the line `variable=value` says of `name`: the text after `name=`, if it begins with that.
def valueIn? (name : String) (line : String × String) : Option String :=
  (restAfter? (name.toList ++ ['=']) (line.1.toList ++ '=' :: line.2.toList)).map String.ofList

def value? (e : Environment) (name : String) : Option String :=
  e.entries.findSome? (valueIn? name)

end Environment

inductive File where
  | directory
  | content (bytes : ByteArray)

abbrev Location := List String

namespace Location

-- The directory above. The root is above itself, and there is always one above the directory
-- where paths begin.
def parent : Location → Location
  | [] => [".."]
  | ["/"] => ["/"]
  | ".." :: l => ".." :: ".." :: l
  | _ :: l => l

def isIdle (part : String) : Bool :=
  part == "" || part == "."

def next (l : Location) (part : String) : Location :=
  if isIdle part then l
  else if part = ".." then l.parent
  else part :: l

def parts (path : String) : List String :=
  (Text.splitOn '/' path.toList).map String.ofList

def start (path : String) : Location :=
  if path.toList.head? = some '/' then ["/"] else []

def stages (path : String) : List String :=
  let ps := parts path
  (List.range ps.length).map fun n => "/".intercalate (ps.take (n + 1))

def ofPath (path : String) : Location :=
  (parts path).foldl next (start path)

end Location

abbrev Files := List (Location × File)

namespace Files

def ofPaths (files : List (String × File)) : Files :=
  files.map fun f => (Location.ofPath f.1, f.2)

def at? (files : Files) (l : Location) : Option File :=
  match files.lookup l with
  | some f => some f
  | none =>
      if l.all (· == "..") || l == ["/"] || files.any fun f => l.isSuffixOf f.1 then
        some .directory
      else none

def isDirectory (files : Files) (l : Location) : Bool :=
  match files.at? l with
  | some .directory => true
  | _ => false

def follow (files : Files) : Location → List String → Option File
  | l, [] => files.at? l
  | l, part :: parts =>
      if files.isDirectory l then files.follow (l.next part) parts else none

def find? (files : Files) (path : String) : Option File :=
  if path.isEmpty then none else files.follow (Location.start path) (Location.parts path)

end Files

end DatabaseSchema
