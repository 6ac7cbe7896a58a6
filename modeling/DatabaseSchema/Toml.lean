namespace DatabaseSchema

inductive TableForm where
  | implicit
  | dotted
  | header
  | inline
  deriving DecidableEq, Repr

inductive Toml where
  | text (s : String)
  | integer (n : Int)
  | float
  | boolean (b : Bool)
  | moment
  | array (items : List Toml)
  | tables (items : List Toml)
  | table (form : TableForm) (entries : List (String × Toml))
  deriving Repr

namespace Toml

abbrev Entries := List (String × Toml)

mutual

def nesting : Toml → Nat
  | .array items => nestingOfItems items + 1
  | .tables items => nestingOfItems items
  | .table form entries => nestingOfEntries entries + if form = .inline then 1 else 0
  | _ => 0

def nestingOfItems : List Toml → Nat
  | [] => 0
  | v :: vs => max (nesting v) (nestingOfItems vs)

def nestingOfEntries : List (String × Toml) → Nat
  | [] => 0
  | (_, v) :: es => max (nesting v) (nestingOfEntries es)

end

def replaceEntry (key : String) (value : Toml) (entries : Entries) : Entries :=
  entries.map fun e => if e.1 == key then (key, value) else e

abbrev Change := TableForm → Entries → Option Entries

-- Follows a path from a table and changes the table at its end. Tables that are missing on the
-- way are made. A path of a dotted key may not lead through a table that has a header; no path
-- may lead through a table in braces. In a list of tables it leads through the last one.
def changeAt (dotted : Bool) (change : Change) : List String → Change
  | [], form, entries => change form entries
  | key :: path, _, entries =>
      match entries.lookup key with
      | none => do
          let form : TableForm := if dotted then .dotted else .implicit
          let inner ← changeAt dotted change path form []
          return entries ++ [(key, .table form inner)]
      | some (.table form inner) =>
          if form = .inline ∨ (dotted ∧ form = .header) then none
          else do
            let inner ← changeAt dotted change path form inner
            return replaceEntry key (.table form inner) entries
      | some (.tables items) =>
          match items.getLast? with
          | some (.table form inner) => do
              if dotted ∧ form = .header then none
              else
                let inner ← changeAt dotted change path form inner
                return replaceEntry key (.tables (items.dropLast ++ [.table form inner])) entries
          | _ => none
      | some _ => none

-- Adds an entry that is not there yet. A table made by dotted keys takes entries only from dotted
-- keys, any other only from keys without dots.
def addEntry (path : List String) (key : String) (value : Toml) : Change :=
  changeAt true
    (fun form entries =>
      if (form = .dotted) = path.isEmpty then none
      else if (entries.lookup key).isSome then none
      else some (entries ++ [(key, value)]))
    path

def openTable (key : String) : Change := fun _ entries =>
  match entries.lookup key with
  | none => some (entries ++ [(key, .table .header [])])
  | some (.table .implicit inner) => some (replaceEntry key (.table .header inner) entries)
  | some _ => none

def openListedTable (key : String) : Change := fun _ entries =>
  match entries.lookup key with
  | none => some (entries ++ [(key, .tables [.table .header []])])
  | some (.tables items) =>
      some (replaceEntry key (.tables (items ++ [.table .header []])) entries)
  | some _ => none

def splitLast? : List String → Option (List String × String)
  | [] => none
  | [key] => some ([], key)
  | key :: path => (splitLast? path).map fun (before, last) => (key :: before, last)

end Toml

end DatabaseSchema
