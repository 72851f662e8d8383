import ConnectionJobs.Keyed
import ConnectionJobs.Text.Blank

/-!
# Environment files

Settings may be kept in a file of lines `NAME=value`. A value may stand between quotation marks: single ones
take it almost literally, double ones understand escapes, and both may span lines. A bare value ends with its
line, or with a comment that blanks set off. A line that cannot be read is passed over. A name without an equals
sign is known but has no value.

A value may refer to other names with `${NAME}`, or `${NAME:-default}` for when there is none; earlier lines of
the file count before the process environment.
-/

namespace ConnectionJobs.DotEnv

/-- **A binding** of the file: a name, with its value when it has one. -/
structure Binding where
  /-- The name. -/
  name : String
  /-- The value. -/
  value : Option String
  deriving DecidableEq, Repr, Inhabited

/-! ## Characters and lines -/

/-- The end of a line. -/
def isLineEnd (c : Char) : Bool := c == '\n' || c == '\r'

/-- A blank that does not end a line. -/
def isInlineBlank (c : Char) : Bool := Text.isBlank c && !isLineEnd c

/-- Line ends in their three forms made one. -/
def normalizeLineEnds : List Char → List Char
  | '\r' :: '\n' :: cs => '\n' :: normalizeLineEnds cs
  | '\r' :: cs => '\n' :: normalizeLineEnds cs
  | c :: cs => c :: normalizeLineEnds cs
  | [] => []

/-- Drop the rest of a line, with its end. -/
def dropLine (cs : List Char) : List Char :=
  match cs.dropWhile fun c => !isLineEnd c with
  | _ :: rest => rest
  | [] => []

/-- Drop a comment, with the blanks before it. -/
def dropComment (cs : List Char) : List Char :=
  match cs.dropWhile isInlineBlank with
  | '#' :: rest => rest.dropWhile fun c => !isLineEnd c
  | _ => cs

/-- Drop the end of a line; fail when something else is left on it. -/
def endOfLine? (cs : List Char) : Option (List Char) :=
  match cs.dropWhile isInlineBlank with
  | [] => some []
  | c :: rest => if isLineEnd c then some rest else none

/-! ## Names -/

/-- Drop the word `export` before a name. -/
def dropExport (cs : List Char) : List Char :=
  let word := "export".toList
  if word.isPrefixOf cs then
    match cs.drop word.length with
    | c :: rest => if isInlineBlank c then rest.dropWhile isInlineBlank else cs
    | [] => cs
  else cs

/-- A character of a bare name. -/
def isNameChar (c : Char) : Bool := c != '=' && c != '#' && !Text.isBlank c

/-- **Read a name**: `some none` before a comment, `none` when there is no name. -/
def readName : List Char → Option (Option String × List Char)
  | '#' :: cs => some (none, '#' :: cs)
  | '\'' :: cs =>
    match cs.span (· != '\'') with
    | (_ :: _, []) | ([], _) => none
    | (name, _ :: rest) => some (some (String.ofList name), rest)
  | cs =>
    match cs.span isNameChar with
    | ([], _) => none
    | (name, rest) => some (some (String.ofList name), rest)

/-! ## Values -/

/-- **Read up to the closing quotation mark.** A backslash and the character after it belong together, so a mark
behind a backslash does not close the value. -/
def readQuoted (quote : Char) (acc : List Char) : List Char → Option (List Char × List Char)
  | [] => none
  | [c] => if c == quote then some (acc.reverse, []) else none
  | c :: d :: rest =>
    if c == quote then some (acc.reverse, d :: rest)
    else if c == '\\' then readQuoted quote (d :: c :: acc) rest
    else readQuoted quote (c :: acc) (d :: rest)

/-- The character an escape between double quotation marks stands for. -/
def doubleQuoteEscape (c : Char) : Option Char :=
  if c == '\\' || c == '\'' || c == '"' then some c
  else if c == 'a' then some '\x07'
  else if c == 'b' then some '\x08'
  else if c == 'f' then some '\x0c'
  else if c == 'n' then some '\n'
  else if c == 'r' then some '\r'
  else if c == 't' then some '\t'
  else if c == 'v' then some '\x0b'
  else none

/-- The character an escape between single quotation marks stands for. -/
def singleQuoteEscape (c : Char) : Option Char :=
  if c == '\\' || c == '\'' then some c else none

/-- Replace the escapes that `escape` knows. -/
def decodeEscapes (escape : Char → Option Char) : List Char → List Char
  | [] => []
  | [c] => [c]
  | c :: d :: rest =>
    if c == '\\' then
      match escape d with
      | some e => e :: decodeEscapes escape rest
      | none => c :: decodeEscapes escape (d :: rest)
    else c :: decodeEscapes escape (d :: rest)

/-- Cut a bare value before the blanks that set off a comment. -/
def cutComment : List Char → List Char
  | [] => []
  | c :: cs =>
    if Text.isBlank c && (cs.dropWhile Text.isBlank).head? == some '#' then [] else c :: cutComment cs

/-- A bare value: what stands on the line up to its comment, without the blanks around it. -/
def bareValue (line : List Char) : List Char :=
  Text.dropAround Text.isBlank (cutComment line)

/-- **Read a value**, after the equals sign. Blanks in front of it are not part of it, but they set off a comment
that stands in its place. -/
def readValue (cs : List Char) : Option (String × List Char) :=
  match cs.dropWhile isInlineBlank with
  | '\'' :: quoted =>
    (readQuoted '\'' [] quoted).map fun (value, rest) =>
      (String.ofList (decodeEscapes singleQuoteEscape value), rest)
  | '"' :: quoted =>
    (readQuoted '"' [] quoted).map fun (value, rest) =>
      (String.ofList (decodeEscapes doubleQuoteEscape value), rest)
  | _ =>
    let (line, rest) := cs.span fun c => !isLineEnd c
    some (String.ofList (bareValue line), rest)

/-! ## Bindings -/

/-- Read what follows a name: its value if there is one, and the rest of the line, which must be empty. When
that fails, the text from which the line is given up. -/
def readAssigned (cs : List Char) : Except (List Char) (Option String × List Char) :=
  let finish (value : Option String) (rest : List Char) : Except (List Char) (Option String × List Char) :=
    match endOfLine? (dropComment rest) with
    | some next => .ok (value, next)
    | none => .error (dropComment rest)
  match cs with
  | '=' :: afterSign =>
    match readValue afterSign with
    | some (value, rest) => finish (some value) rest
    | none => .error afterSign
  | _ => finish none cs

/-- **Read one line**, or the lines one value spans: its binding, if it has one, and the rest of the file. -/
def readBinding (cs : List Char) : Option Binding × List Char :=
  match cs.dropWhile Text.isBlank with
  | [] => (none, [])
  | start =>
    let named := dropExport start
    match readName named with
    | none => (none, dropLine named)
    | some (name, afterName) =>
      match readAssigned (afterName.dropWhile isInlineBlank) with
      | .error rest => (none, dropLine rest)
      | .ok (value, rest) => (name.map fun n => ⟨n, value⟩, rest)

/-- Read bindings while text is left. Every one takes at least a character, so the length of the text is fuel
enough. -/
def readBindings : Nat → List Char → List Binding
  | _, [] => []
  | 0, _ :: _ => []
  | fuel + 1, c :: cs =>
    let (binding, rest) := readBinding (c :: cs)
    binding.toList ++ readBindings fuel rest

/-- **The bindings of a file.** A byte order mark at its start is skipped. -/
def bindings (text : String) : List Binding :=
  let unmarked :=
    match text.toList with
    | '\ufeff' :: rest => rest
    | cs => cs
  let cs := normalizeLineEnds unmarked
  readBindings cs.length cs

/-! ## References -/

/-- A reference to a name: the name, the value for when there is none, and what follows. -/
def readReference (cs : List Char) : Option (String × Option String × List Char) :=
  let (name, rest) := cs.span fun c => c != '\x7d' && c != ':'
  match rest with
  | '\x7d' :: after => some (String.ofList name, none, after)
  | ':' :: '-' :: more =>
    match more.span (· != '\x7d') with
    | (fallback, _ :: after) => some (String.ofList name, some (String.ofList fallback), after)
    | (_, []) => none
  | _ => none

/-- Replace references, given what names mean. -/
def expandFrom (lookup : String → Option String) : Nat → List Char → List Char
  | _, [] => []
  | 0, cs => cs
  | fuel + 1, c :: cs =>
    match c, cs with
    | '$', '\x7b' :: inside =>
      match readReference inside with
      | some (name, fallback, rest) =>
        ((lookup name).getD (fallback.getD "")).toList ++ expandFrom lookup fuel rest
      | none => c :: expandFrom lookup fuel cs
    | _, _ => c :: expandFrom lookup fuel cs

/-- **Replace the references** in a value. -/
def expand (lookup : String → Option String) (value : String) : String :=
  String.ofList (expandFrom lookup value.length value.toList)

/-- What a name means to a later line: the value of an earlier line, or that of the process environment. A name
without a value means nothing at all. -/
def meaning (environment : Keyed String String) (earlier : Keyed String (Option String)) (name : String) :
    Option String :=
  match Keyed.find? name earlier with
  | some value => some (value.getD "")
  | none => Keyed.find? name environment

/-- **The values of a file**, with references replaced; a later line replaces an earlier one of its name. -/
def values (environment : Keyed String String) (text : String) : Keyed String (Option String) :=
  (bindings text).foldl (fun earlier b =>
    Keyed.set b.name (b.value.map (expand (meaning environment earlier))) earlier) []

end ConnectionJobs.DotEnv
