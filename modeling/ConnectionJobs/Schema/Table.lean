/-!
# Tables

The schema of the database as data: tables with columns, checks and indexes. A migration is made of changes to
a schema, and a schema is what the changes so far have left.
-/

namespace ConnectionJobs.Schema

/-- The types of columns. -/
inductive ColumnType where
  /-- An integer of sixty-four bits. -/
  | bigint
  /-- A text. -/
  | text
  /-- A text of at most some characters. -/
  | varchar (length : Nat)
  /-- A JSON document. -/
  | document
  /-- A time with its zone. -/
  | timestamp
  /-- An identifier. -/
  | uuid
  deriving DecidableEq, Repr, Inhabited

/-- **A column.** -/
structure Column where
  /-- The name. -/
  name : String
  /-- The type. -/
  type : ColumnType
  /-- The column may be null. -/
  nullable : Bool
  /-- The database numbers the rows in this column. -/
  numbered : Bool
  /-- The expression of the default value. -/
  defaultValue : Option String
  deriving DecidableEq, Repr, Inhabited

/-- **A check** that every row must pass. -/
structure Check where
  /-- The name. -/
  name : String
  /-- The condition. -/
  condition : String
  deriving DecidableEq, Repr, Inhabited

/-- **A table.** -/
structure Table where
  /-- The name. -/
  name : String
  /-- The columns. -/
  columns : List Column
  /-- The columns of the primary key. -/
  primaryKey : List String
  /-- The name of the primary key, when it has one. -/
  primaryKeyName : Option String
  /-- The checks. -/
  checks : List Check
  deriving DecidableEq, Repr, Inhabited

/-- **An index.** -/
structure Index where
  /-- The name. -/
  name : String
  /-- The table. -/
  table : String
  /-- The columns. -/
  columns : List String
  /-- No two rows have the same values in the columns. -/
  unique : Bool
  /-- The condition of the rows the index is about. -/
  condition : Option String
  deriving DecidableEq, Repr, Inhabited

/-- **A change** of a schema. -/
inductive Change where
  /-- A table is created. -/
  | createTable (table : Table)
  /-- An index is created. -/
  | createIndex (index : Index)
  /-- A table is dropped, with its indexes. -/
  | dropTable (name : String)
  /-- An index of a table is dropped. -/
  | dropIndex (name table : String)
  deriving DecidableEq, Repr, Inhabited

/-- **A schema**: tables and indexes. -/
structure Layout where
  /-- The tables. -/
  tables : List Table
  /-- The indexes. -/
  indexes : List Index
  deriving DecidableEq, Repr, Inhabited

namespace Layout

/-- The schema without anything. -/
def empty : Layout := ⟨[], []⟩

/-- A table of this name exists. -/
def has (s : Layout) (name : String) : Bool := s.tables.any fun t => t.name == name

/-- **Apply a change.** -/
def apply (s : Layout) : Change → Layout
  | .createTable table => { s with tables := s.tables ++ [table] }
  | .createIndex index => { s with indexes := s.indexes ++ [index] }
  | .dropTable name =>
    ⟨s.tables.filter fun t => t.name != name, s.indexes.filter fun i => i.table != name⟩
  | .dropIndex name _ => { s with indexes := s.indexes.filter fun i => i.name != name }

/-- Apply changes, in order. -/
def applyAll (s : Layout) (changes : List Change) : Layout := changes.foldl apply s

/-- The indexes of a table. -/
def indexesOf (s : Layout) (table : String) : List Index := s.indexes.filter fun i => i.table == table

end Layout

end ConnectionJobs.Schema
