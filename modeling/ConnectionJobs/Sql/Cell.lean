import ConnectionJobs.Failure
import ConnectionJobs.Json.Shown
import ConnectionJobs.Text.Numeral

/-!
# Cells and rows

What comes back from the database is a table of cells, and a driver is free to hand a value over in several
forms: a document as text, as bytes or decoded, a number as text. This file takes the typed value out of a
cell, or says why it cannot.
-/

namespace ConnectionJobs.Sql

/-- **A cell**: a value the driver has decoded, or bytes holding UTF-8 text. -/
inductive Cell where
  /-- A decoded value. -/
  | value (json : Json)
  /-- Bytes, as the text they encode. -/
  | bytes (text : String)
  deriving Inhabited

namespace Cell

/-- A cell without a value. -/
def isNull : Cell → Bool
  | value .null => true
  | _ => false

/-- **A cell that counts as true.** -/
def isTruthy : Cell → Bool
  | value json => !json.isFalsy
  | bytes text => !text.isEmpty

/-- A cell as a message of its own. -/
def plain : Cell → String
  | value json => json.plain
  | bytes text => Text.quotedBytes text

/-- The integer that bytes denote. Bytes beyond ASCII denote none. -/
def integerOfBytes (text : String) : Except Text.NotInteger Int :=
  let shown := Text.quotedBytes text
  if text.toList.all fun c => c.toNat < 128 then Text.readShownInteger 10 text.toList shown
  else .error (.malformed 10 shown)

/-- **The integer in a cell**: a number without its fraction, a truth value, or a text denoting an integer. -/
def integer : Cell → Except CellProblem Int
  | value (.integer n) => .ok n
  | value (.boolean b) => .ok (if b then 1 else 0)
  | value (.real x) =>
    if x.isNaN then .error .nanInteger
    else if !x.isFinite then .error .infiniteInteger
    else .ok x.integerPart
  | value (.text s) => (Text.readInteger 10 s).mapError .notInteger
  | value json => .error (.neverInteger json.kindName)
  | bytes text => (integerOfBytes text).mapError .notInteger

/-- **The identifier in a cell**, from however the cell is shown. -/
def uuid (cell : Cell) : Except CellProblem Uuid :=
  (Uuid.readLenient cell.plain).mapError .notIdentifier

/-- The text in a cell, when it holds one. -/
def text? : Cell → Option String
  | value (.text s) => some s
  | _ => none

/-- The text in a cell that may be null: `none` when it holds anything else. -/
def nullableText? : Cell → Option (Option String)
  | value .null => some none
  | value (.text s) => some (some s)
  | _ => none

/-- A cell whose value can be the key of a collection: anything but a list or an object. -/
def hashable : Cell → Except CellProblem Cell
  | value (.array items) => .error (.unhashable (Json.array items).kindName)
  | value (.object members) => .error (.unhashable (Json.object members).kindName)
  | cell => .ok cell

/-- The integer a value counts as in a comparison: a truth value counts as zero or one. -/
def comparable : Json → Option Int
  | .integer n => some n
  | .boolean b => some (if b then 1 else 0)
  | .real x => if x.isInteger then some x.integerPart else none
  | _ => none

/-- **Two cells name the same thing.** Numbers are compared by value, and a NaN is no number's equal. -/
def sameAs : Cell → Cell → Bool
  | value a, value b =>
    match comparable a, comparable b with
    | some m, some n => m == n
    | none, none =>
      match a with
      | .real x => !x.isNaN && a == b
      | _ => a == b
    | _, _ => false
  | bytes a, bytes b => a == b
  | _, _ => false

end Cell

/-- **A row**: cells under column names. -/
structure Row where
  /-- The names of the columns. -/
  columns : List String
  /-- The cells. -/
  cells : List Cell
  deriving Inhabited

/-- **The position of a column**, the last one of several with one name. -/
def Row.position? (row : Row) (column : String) : Option Nat :=
  (row.columns.zipIdx.filter fun (name, _) => name = column).getLast?.map Prod.snd

/-- **The cell of a column.** A row may have fewer cells than there are columns. -/
def Row.cell (row : Row) (column : String) : Except CellProblem Cell :=
  match row.position? column with
  | none => .error (.noColumn column)
  | some position =>
    match row.cells[position]? with
    | some cell => .ok cell
    | none => .error .shortRow

/-- **A table**: what a statement answers. -/
structure Table where
  /-- The names of the columns. -/
  columns : List String
  /-- The rows. -/
  rows : List (List Cell)
  deriving Inhabited

/-- The rows of a table. -/
def Table.toRows (table : Table) : List Row := table.rows.map fun cells => ⟨table.columns, cells⟩

/-- The first row, if there is one. -/
def Table.first? (table : Table) : Option Row := table.toRows.head?

/-- **The only row**; it is a fault when there is none and when there are several. -/
def Table.one (table : Table) : Except Fault Row :=
  match table.toRows with
  | [] => .error .noRow
  | [row] => .ok row
  | _ :: _ :: _ => .error .severalRows

end ConnectionJobs.Sql
