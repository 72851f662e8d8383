import ConnectionJobs.Database.Dialect
import ConnectionJobs.Schema.Table

/-!
# Statements that change a schema

Every change of a schema has a statement in the dialect of the database. Dialects differ in the names of types,
in the numbering of rows, in how a default is written and in whether an index may cover some rows only; and a
script of statements differs in what ends a statement and what encloses a transaction.
-/

namespace ConnectionJobs.Schema

open Database (Dialect)

/-- The dialects that know the types of the columns. The others can take tables away but not create them. -/
def knowsTypes (d : Dialect) : Bool := d == .postgresql || d == .sqlite

/-- The name of a column type. -/
def ColumnType.sql (d : Dialect) : ColumnType → String
  | bigint => "BIGINT"
  | text => "TEXT"
  | varchar length => "VARCHAR(" ++ toString length ++ ")"
  | document => "JSONB"
  | timestamp => if d == .sqlite then "DATETIME" else "TIMESTAMP WITH TIME ZONE"
  | uuid => "UUID"

/-- A default value. SQLite wants any but a text in quotation marks between parentheses. -/
def defaultSql (d : Dialect) (value : String) : String :=
  if d == .sqlite && value.toList.head? != some '\'' then "(" ++ value ++ ")" else value

/-- The definition of a column. SQLite numbers the rows without being told. -/
def Column.sql (d : Dialect) (c : Column) : String :=
  c.name ++ " " ++ c.type.sql d ++
    (match c.defaultValue with
      | some value => " DEFAULT " ++ defaultSql d value
      | none => "") ++
    (if c.numbered && d != .sqlite then " GENERATED BY DEFAULT AS IDENTITY"
     else if c.nullable then "" else " NOT NULL")

/-- The definition of the primary key of a table. -/
def Table.primaryKeySql (t : Table) : String :=
  (match t.primaryKeyName with
    | some name => "CONSTRAINT " ++ name ++ " "
    | none => "") ++ "PRIMARY KEY (" ++ String.intercalate ", " t.primaryKey ++ ")"

/-- The definition of a check. -/
def Check.sql (c : Check) : String := "CONSTRAINT " ++ c.name ++ " CHECK (" ++ c.condition ++ ")"

/-- The lines of the definition of a table. -/
def Table.lines (d : Dialect) (t : Table) : List String :=
  t.columns.map (Column.sql d) ++ [t.primaryKeySql] ++ t.checks.map Check.sql

/-- The condition of an index. Only PostgreSQL has one. -/
def Index.conditionSql (d : Dialect) (i : Index) : String :=
  match i.condition with
  | some condition => if d == .postgresql then " WHERE " ++ condition else ""
  | none => ""

/-- An index is looked for among those of its table. -/
def namesTable (d : Dialect) : Bool := d == .mysql || d == .mariadb || d == .mssql

/-- **The statement of a change.** -/
def Change.sql (d : Dialect) : Change → String
  | createTable t =>
    "CREATE TABLE " ++ t.name ++ " (\n" ++ String.intercalate ", \n" ((t.lines d).map ("    " ++ ·)) ++ "\n)"
  | createIndex i =>
    "CREATE " ++ (if i.unique then "UNIQUE " else "") ++ "INDEX " ++ i.name ++ " ON " ++ i.table ++ " (" ++
      String.intercalate ", " i.columns ++ ")" ++ i.conditionSql d
  | dropTable name => "DROP TABLE " ++ name
  | dropIndex name table => "DROP INDEX " ++ name ++ (if namesTable d then " ON " ++ table else "")

/-! ## Scripts -/

/-- Each statement of a script is a paragraph. -/
def paragraph (text : String) : String := text ++ "\n\n"

/-- What stands between the statements of a script. -/
def separator (d : Dialect) : String :=
  match d with
  | .mssql => paragraph "GO"
  | .oracle => paragraph "/"
  | _ => ""

/-- **A statement in a script.** -/
def scripted (d : Dialect) (statement : String) : String :=
  paragraph (if d == .oracle then statement else statement ++ ";") ++ separator d

/-- **A script as one transaction**, in the dialects in which a schema can be changed within one. -/
def transaction (d : Dialect) (script : String) : String :=
  match d with
  | .postgresql => paragraph "BEGIN;" ++ script ++ paragraph "COMMIT;"
  | .mssql => paragraph "BEGIN TRANSACTION;" ++ script ++ paragraph "COMMIT;" ++ separator d
  | _ => script

end ConnectionJobs.Schema
