import ConnectionJobs.Log.Directive

/-!
# Message templates

A log record carries a message template and arguments. The template is text with directives, each after a percent
sign; a percent sign that is doubled stands for itself. Arguments come as a list, or as a table when the directives
name keys.

A template and arguments that do not fit each other are a mistake of the caller. Template and arguments are read
together from left to right: the key of a directive is looked up before its flags are read, and a width or
precision that comes from the arguments is taken before what follows it is read. So the first mistake from the
left is the one that is reported.
-/

namespace ConnectionJobs.Log

/-! ## Arguments -/

/-- **The arguments** of a template, as far as they are not used up. -/
structure Arguments where
  /-- The members, when the arguments are a table. -/
  table : Option Members
  /-- The values that directives without a key take, in order. -/
  pending : List Json

/-- **The arguments of a record**: a single table that is not empty stands for its members, and as a whole it is
what a directive without a key takes. -/
def Arguments.ofValues : List Json → Arguments
  | [.object (m :: ms)] => ⟨some (m :: ms), [.object (m :: ms)]⟩
  | values => ⟨none, values⟩

/-- Take the next argument. -/
def Arguments.next (a : Arguments) : Except TemplateProblem (Json × Arguments) :=
  match a.pending with
  | value :: rest => .ok (value, { a with pending := rest })
  | [] => .error (.argument "not enough arguments for format string")

/-- **Look up a key.** What is under it is what the directive takes next. -/
def Arguments.lookUp (a : Arguments) (members : Members) (key : String) :
    Except TemplateProblem Arguments :=
  match Keyed.find? key members with
  | some value => .ok { a with pending := [value] }
  | none => .error (.key key)

/-- Arguments of a list are left over. -/
def Arguments.isLeftOver (a : Arguments) : Bool := a.table.isNone && !a.pending.isEmpty

/-! ## Parts of directives -/

/-- **What was read**, with the arguments that remain and the rest of the template. -/
abbrev Taken (α : Type) := α × Arguments × List Char

/-- The template ends inside a directive. -/
def incomplete : TemplateProblem := .template "incomplete format"

/-- Read a key up to its closing parenthesis, `depth` of which are still open. -/
def readKey (depth : Nat) (acc : List Char) : List Char → Option (String × List Char)
  | [] => none
  | c :: cs =>
    if c == ')' then
      if depth = 0 then some (String.ofList acc.reverse, cs) else readKey (depth - 1) (c :: acc) cs
    else if c == '(' then readKey (depth + 1) (c :: acc) cs
    else readKey depth (c :: acc) cs

/-- Read a key in parentheses, if there is one, and look it up. -/
def takeKey (a : Arguments) : List Char → Except TemplateProblem (Taken Unit)
  | '(' :: cs =>
    match a.table with
    | none => .error (.argument "format requires a mapping")
    | some members =>
      match readKey 0 [] cs with
      | none => .error (.template "incomplete format key")
      | some (key, rest) => (a.lookUp members key).map fun found => ((), found, rest)
  | cs => .ok ((), a, cs)

/-- A flag of a directive. -/
def isFlag (c : Char) : Bool := c == '-' || c == '+' || c == ' ' || c == '#' || c == '0'

/-- A digit from zero to nine. -/
def isDigit (c : Char) : Bool := '0' ≤ c && c ≤ '9'

/-- The number a sequence of digits denotes. -/
def numberOf (cs : List Char) : Nat := cs.foldl (fun acc c => acc * 10 + (c.toNat - 0x30)) 0

/-- **A kind of measure**: its limit, what it is called in messages, and what the number it must fit in is
called. -/
structure Measure where
  /-- The measure is below this number, and not below its negation. -/
  limit : Nat
  /-- What the measure is called. -/
  name : String
  /-- What the machine number is called. -/
  machineName : String

/-- The width of a directive. -/
def widthMeasure : Measure := ⟨9223372036854775808, "width", "ssize_t"⟩

/-- The precision of a directive. -/
def precisionMeasure : Measure := ⟨2147483648, "precision", "int"⟩

/-- The integer an argument gives as a measure. -/
def Measure.ofArgument (m : Measure) (value : Json) : Except TemplateProblem Int := do
  let n ←
    match value with
    | .integer n => pure n
    | .boolean b => pure (if b then 1 else 0)
    | _ => throw (.argument "* wants int")
  if -(m.limit : Int) ≤ n && n < m.limit then return n
  else throw (.overflow ("Python int too large to convert to C " ++ m.machineName))

/-- **Read a measure**: a number, or an asterisk for one from the arguments; `none` when there is neither. -/
def takeMeasure (m : Measure) (a : Arguments) (cs : List Char) :
    Except TemplateProblem (Taken (Option Int)) :=
  match cs with
  | '*' :: rest => do
    let (value, remaining) ← a.next
    return (some (← m.ofArgument value), remaining, rest)
  | _ =>
    let (digits, rest) := cs.span isDigit
    if digits.isEmpty then .ok (none, a, rest)
    else if numberOf digits < m.limit then .ok (some (numberOf digits), a, rest)
    else .error (.template (m.name ++ " too big"))

/-- Read a precision, after a point; a negative one counts as zero. -/
def takePrecision (a : Arguments) : List Char → Except TemplateProblem (Taken (Option Nat))
  | '.' :: cs => do
    let (n, remaining, rest) ← takeMeasure precisionMeasure a cs
    return (some (n.getD 0).toNat, remaining, rest)
  | cs => .ok (none, a, cs)

/-- Skip a letter that says how wide a machine number is. -/
def skipLength : List Char → List Char
  | c :: cs => if c == 'h' || c == 'l' || c == 'L' then cs else c :: cs
  | [] => []

/-- **Read a directive** after its percent sign. A negative width asks for blanks on the right. `total` is the
length of the template, from which positions are counted. -/
def takeDirective (total : Nat) (a : Arguments) (cs : List Char) :
    Except TemplateProblem (Taken Directive) := do
  let ((), keyed, afterKey) ← takeKey a cs
  let (flags, afterFlags) := afterKey.span isFlag
  let (width, widened, afterWidth) ← takeMeasure widthMeasure keyed afterFlags
  let (precision, measured, afterPrecision) ← takePrecision widened afterWidth
  match skipLength afterPrecision with
  | [] => throw incomplete
  | letter :: rest =>
    let n := width.getD 0
    let d : Directive :=
      { flags := if n < 0 then '-' :: flags else flags
        width := n.natAbs
        precision := precision
        letter := letter
        position := total - (rest.length + 1) }
    return (d, measured, rest)

/-! ## Templates -/

/-- Write a template from some place on: the text, and the arguments that remain. The length of what is left of
the template is fuel enough. -/
def writeFrom (total : Nat) :
    Nat → Arguments → List Char → Except TemplateProblem (List Text.CodePoint × Arguments)
  | _, a, [] => .ok ([], a)
  | 0, a, _ :: _ => .ok ([], a)
  | fuel + 1, a, '%' :: '%' :: cs => do
    let (text, final) ← writeFrom total fuel a cs
    return (.char '%' :: text, final)
  | fuel + 1, a, '%' :: cs => do
    let (d, measured, rest) ← takeDirective total a cs
    let (value, remaining) ← measured.next
    let written ← d.write value
    let (text, final) ← writeFrom total fuel remaining rest
    return (written ++ text, final)
  | fuel + 1, a, c :: cs => do
    let (text, final) ← writeFrom total fuel a cs
    return (.char c :: text, final)

/-- **Write a template** with its arguments. Without arguments the template is the message, as it is. -/
def writeTemplate (template : String) (values : List Json) : Except TemplateProblem (List Text.CodePoint) := do
  let cs := template.toList
  if values.isEmpty then return Text.codePoints cs
  let (text, final) ← writeFrom cs.length cs.length (Arguments.ofValues values) cs
  if final.isLeftOver then throw (.argument "not all arguments converted during string formatting")
  return text

end ConnectionJobs.Log
