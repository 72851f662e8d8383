import ConnectionJobs.Text.Quoted
import ConnectionJobs.Text.SmallLetter

/-!
# References in the database URL

On its way to the migrations the database URL passes through a configuration file, in which a percent sign and a
name in parentheses refer to another option, and two percent signs stand for one. A percent sign that does
neither is refused when the URL is put into the file; a reference that leads nowhere is refused when the URL is
taken out.
-/

namespace ConnectionJobs.Schema

/-- **What is wrong with the references of a URL.** -/
inductive ReferenceProblem where
  /-- A percent sign stands alone. -/
  | lonePercent (url : String) (position : Nat)
  /-- There is no option of this name. -/
  | unknownOption (url name : String)
  /-- The URL refers to itself. -/
  | endless (url : String)
  /-- A reference is not closed. -/
  | unclosed (rest : String)
  deriving DecidableEq, Repr

/-- What messages about an option of the configuration file say of it. -/
def optionPhrase : String := "option 'sqlalchemy.url' in section 'alembic' contains an interpolation key "

/-- The message of a problem. -/
def ReferenceProblem.message : ReferenceProblem → String
  | lonePercent url position =>
    "invalid interpolation syntax in " ++ Text.quoted url ++ " at position " ++ toString position
  | unknownOption url name =>
    "Bad value substitution: " ++ optionPhrase ++ Text.quoted name ++
      " which is not a valid option name. Raw value: " ++ Text.quoted url
  | endless url =>
    "Recursion limit exceeded in value substitution: " ++ optionPhrase ++
      "which cannot be substituted in 10 steps. Raw value: " ++ Text.quoted url
  | unclosed rest => "bad interpolation variable reference " ++ Text.quoted rest

/-- The other options of the configuration file. -/
def otherOptions : List (String × String) :=
  [("here", "/"), ("script_location", "alembic"), ("prepend_sys_path", "."), ("version_path_separator", "os")]

/-- Drop the doubled percent signs. -/
def dropDoubled : List Char → List Char
  | '%' :: '%' :: cs => dropDoubled cs
  | c :: cs => c :: dropDoubled cs
  | [] => []

/-- A reference at the front of a text, after its percent sign: its name, and what follows. -/
def reference? (cs : List Char) : Option (List Char × List Char) :=
  match cs with
  | '(' :: more =>
    match more.span (· != ')') with
    | (c :: name, ')' :: 's' :: rest) => some (c :: name, rest)
    | _ => none
  | _ => none

/-- Drop references, and find the position of the first percent sign that starts none. Every round drops at
least one character, so the length of the text is rounds enough. -/
def loneFrom : Nat → Nat → List Char → Option Nat
  | _, _, [] => none
  | 0, _, _ :: _ => none
  | rounds + 1, position, c :: cs =>
    if c == '%' then
      match reference? cs with
      | some (_, rest) => loneFrom rounds position rest
      | none => some position
    else loneFrom rounds (position + 1) cs

/-- **The position of a lone percent sign**, counted without doubled ones and references. -/
def lonePercent? (url : String) : Option Nat :=
  let cs := dropDoubled url.toList
  loneFrom cs.length 0 cs

/-- Follow the references of a text. Every round drops at least one character, so the length of the text is
rounds enough. -/
def followFrom (url : String) : Nat → List Char → Except ReferenceProblem (List Char)
  | 0, _ => .ok []
  | _, [] => .ok []
  | rounds + 1, c :: cs =>
    if c != '%' then (followFrom url rounds cs).map (c :: ·)
    else
      match cs with
      | '%' :: rest => (followFrom url rounds rest).map ('%' :: ·)
      | _ =>
        match reference? cs with
        | none => .error (.unclosed (String.ofList (c :: cs)))
        | some (name, rest) =>
          let name := Text.inSmallLetters (String.ofList name)
          if name == "sqlalchemy.url" then .error (.endless url)
          else
            match otherOptions.find? fun option => option.1 == name with
            | some (_, value) => (followFrom url rounds rest).map (value.toList ++ ·)
            | none => .error (.unknownOption url name)

/-- **The URL with its references followed.** -/
def followReferences (url : String) : Except ReferenceProblem String :=
  match lonePercent? url with
  | some position => .error (.lonePercent url position)
  | none => (followFrom url url.length url.toList).map String.ofList

end ConnectionJobs.Schema
