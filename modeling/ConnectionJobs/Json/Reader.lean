import ConnectionJobs.Json.Token

/-!
# Reading JSON

A value is read from its tokens by a machine that keeps a stack of the containers it is inside of. Each token
takes the machine one step; a token that does not fit stops it. The stack makes the nesting depth a plain
number, and a limit on it is a check where a value starts.

Documents and settings are read by different readers. That of documents limits how deep a value may stand, so that an
empty container is let through where one that holds anything is not; that of settings limits containers alone.
-/

namespace ConnectionJobs.Json

/-- **An open container**, with what it holds so far, latest first. -/
inductive Frame where
  /-- An array and its items. -/
  | array (items : List Json)
  /-- An object and its members. -/
  | object (members : List (String × Json))
  /-- An object, its members, and the key whose value is being read. -/
  | member (members : List (String × Json)) (key : String)

/-- **What the machine waits for.** -/
inductive Phase where
  /-- A value. -/
  | value
  /-- The first item of an array, or its end. -/
  | firstItem
  /-- The first key of an object, or its end. -/
  | firstKey
  /-- A key, after a comma. -/
  | key
  /-- The colon after a key. -/
  | colon
  /-- A comma or the end of the container, after a value. -/
  | separator
  /-- Nothing: the outermost value is complete. -/
  | done (value : Json)

/-- The machine: its phase and the open containers, innermost first. -/
structure Machine where
  /-- What it waits for. -/
  phase : Phase
  /-- The open containers. -/
  stack : List Frame

/-- **Why a text cannot be read.** -/
inductive Unreadable where
  /-- It is no JSON text. -/
  | malformed
  /-- It nests too many containers, and an array is one too many. -/
  | arrayTooDeep
  /-- It nests too many containers, and an object is one too many. -/
  | objectTooDeep
  /-- It nests too many containers around a scalar. -/
  | scalarTooDeep
  deriving DecidableEq, Repr, Inhabited

/-- **A value is complete**: it joins the innermost container, or is the result. -/
def complete (value : Json) : List Frame → Except Unreadable Machine
  | [] => .ok ⟨.done value, []⟩
  | .array items :: stack => .ok ⟨.separator, .array (value :: items) :: stack⟩
  | .member members key :: stack => .ok ⟨.separator, .object ((key, value) :: members) :: stack⟩
  | .object _ :: _ => .error .malformed

/-- A scalar is complete, unless there is no level left for it. -/
def completeScalar (rules : Rules) (stack : List Frame) (value : Json) : Except Unreadable Machine :=
  if stack.length + rules.scalar ≤ rules.levels then complete value stack else .error .scalarTooDeep

/-- A token that starts a value. A container is opened if there is a level left for it. -/
def startValue (rules : Rules) (stack : List Frame) : Token → Except Unreadable Machine
  | .openArray =>
    if stack.length < rules.levels then .ok ⟨.firstItem, .array [] :: stack⟩ else .error .arrayTooDeep
  | .openObject =>
    if stack.length < rules.levels then .ok ⟨.firstKey, .object [] :: stack⟩ else .error .objectTooDeep
  | .null => completeScalar rules stack .null
  | .boolean b => completeScalar rules stack (.boolean b)
  | .integer n => completeScalar rules stack (.integer n)
  | .real x => completeScalar rules stack (.real x)
  | .text s => completeScalar rules stack (.text s)
  | _ => .error .malformed

/-- A token where a key is due. -/
def startKey (stack : List Frame) : Token → Except Unreadable Machine
  | .text key =>
    match stack with
    | .object members :: rest => .ok ⟨.colon, .member members key :: rest⟩
    | _ => .error .malformed
  | _ => .error .malformed

/-- **One step**: the machine takes a token. -/
def step (rules : Rules) (machine : Machine) (token : Token) : Except Unreadable Machine :=
  match machine.phase, token, machine.stack with
  | .value, token, stack => startValue rules stack token
  | .firstItem, .closeArray, .array items :: stack => complete (.array items.reverse) stack
  | .firstItem, token, stack => startValue rules stack token
  | .firstKey, .closeObject, .object members :: stack =>
    complete (.object (Keyed.settle members.reverse)) stack
  | .firstKey, token, stack => startKey stack token
  | .key, token, stack => startKey stack token
  | .colon, .colon, stack => .ok ⟨.value, stack⟩
  | .separator, .comma, .array items :: stack => .ok ⟨.value, .array items :: stack⟩
  | .separator, .comma, .object members :: stack => .ok ⟨.key, .object members :: stack⟩
  | .separator, .closeArray, .array items :: stack => complete (.array items.reverse) stack
  | .separator, .closeObject, .object members :: stack =>
    complete (.object (Keyed.settle members.reverse)) stack
  | _, _, _ => .error .malformed

/-- The machine takes all tokens. -/
def run (rules : Rules) : Machine → List Token → Except Unreadable Machine
  | machine, [] => .ok machine
  | machine, token :: tokens =>
    match step rules machine token with
    | .ok next => run rules next tokens
    | .error u => .error u

/-- **Read a text.** What stands before the first part that is no token is read first, so that nesting too deep
there is what the text fails with. -/
def read (rules : Rules) (s : String) : Except Unreadable Json :=
  let (tokens, allRead) := tokens rules s
  match run rules ⟨.value, []⟩ tokens with
  | .error u => .error u
  | .ok ⟨.done value, _⟩ => if allRead then .ok value else .error .malformed
  | .ok _ => .error .malformed

/-! ## Documents -/

/-- **The release of the reader of documents**, as far as releases differ: whether a minus sign counts as one of the
digits that are limited. It counts alike in the numbers of a document and in a text that denotes an integer. -/
class Release where
  /-- A minus sign counts. -/
  countsSign : Bool

/-- The release that the library is used with. -/
instance : Release where
  countsSign := true

/-- **The rules of documents**: nothing stands inside of more than two hundred containers. -/
def documentRules [Release] : Rules where
  levels := 201
  scalar := 1
  limitsReals := true
  countsSign := Release.countsSign
  unpaired := none

/-- **Read a document**; `none` when it is not a JSON text or nests too deep. -/
def readDocument? [Release] (s : String) : Option Json := (read documentRules s).toOption

/-! ## Settings -/

/-- **The rules of settings**: containers, as many in each other as the depth that a program can call to leaves `room`
for, and texts that may hold half of a surrogate pair. -/
def settingRules (room : Nat) : Rules where
  levels := room
  scalar := 0
  limitsReals := false
  countsSign := false
  unpaired := some Text.surrogateStandIn

end ConnectionJobs.Json
