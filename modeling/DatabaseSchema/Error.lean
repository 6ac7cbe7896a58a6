import DatabaseSchema.Row
import DatabaseSchema.Text

namespace DatabaseSchema

inductive Subject where
  | tables
  | columns
  | views
  | primaryKey (table : String)
  | indexes (table : String)
  deriving DecidableEq, Repr

def Subject.text : Subject → String
  | tables => "table"
  | columns => "column"
  | views => "view"
  | primaryKey table => "primary keys for table [" ++ table ++ "]"
  | indexes table => "indexes for table [" ++ table ++ "]"

inductive Part where
  | table (table : String)
  | column (column table : String)
  | primaryKey (table : String)
  | index (index table : String)
  deriving DecidableEq, Repr

def Part.text : Part → String
  | table t => "table [" ++ t ++ "]"
  | column c t => "column [" ++ c ++ "] on table [" ++ t ++ "]"
  | primaryKey t => "primary key of table [" ++ t ++ "]"
  | index i t => "index [" ++ i ++ "] on table [" ++ t ++ "]"

inductive Cause where
  | source (message : String)
  | cell (e : CellError)
  deriving DecidableEq, Repr

def Cause.text : Cause → String
  | source message => message
  | cell e => e.message

inductive NameKind where
  | table
  | column
  | view
  | other (kind : String)
  deriving DecidableEq, Repr

def NameKind.text : NameKind → String
  | table => "table"
  | column => "column"
  | view => "view"
  | other kind => kind

inductive SchemaError where
  | query (subject : Subject) (cause : Cause)
  | read (part : Part) (cause : CellError)
  | unknownType (name : String) (code width : Int32)
  | tableNotFound (name : String)
  | viewNotFound (name : String)
  | missingKeyColumn (table column : String) (columns : List String)
  | duplicateName (kind : NameKind) (name : String)
  deriving DecidableEq, Repr

namespace SchemaError

def message : SchemaError → String
  | query subject cause => "error reading " ++ subject.text ++ " metadata: " ++ cause.text
  | read part cause => "error reading metadata for " ++ part.text ++ ": " ++ cause.message
  | unknownType name code width =>
      "Unknown SQL data type [" ++ name ++ "] (type " ++ toString code.toInt ++ " width "
        ++ toString width.toInt ++ ")"
  | tableNotFound name => "table [" ++ name ++ "] not found"
  | viewNotFound name => "view [" ++ name ++ "] not found"
  | missingKeyColumn table column columns =>
      "could not find primary key column [" ++ column ++ "] in columns "
        ++ Text.quotedList columns ++ " of table [" ++ table ++ "]"
  | duplicateName kind name => "duplicate " ++ kind.text ++ " [" ++ name ++ "]"

def cause? : SchemaError → Option String
  | query _ cause => some cause.text
  | read _ cause => some cause.message
  | _ => none

def isNotFound : SchemaError → Bool
  | tableNotFound _ | viewNotFound _ => true
  | _ => false

def isInconsistency : SchemaError → Bool
  | missingKeyColumn .. | duplicateName .. => true
  | _ => false

end SchemaError

end DatabaseSchema
