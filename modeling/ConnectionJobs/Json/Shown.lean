import ConnectionJobs.Json.Basic
import ConnectionJobs.Double.Layout
import ConnectionJobs.Text.Quoted

/-!
# Showing JSON values in messages

Messages show a value the way a person would type it: texts in quotation marks, and the three words `None`,
`True` and `False`. A text that is itself the thing to show stands without quotation marks.
-/

namespace ConnectionJobs.Json

mutual

/-- **A value as shown inside a message.** -/
def shown : Json → String
  | null => "None"
  | boolean true => "True"
  | boolean false => "False"
  | integer n => toString n
  | real x => x.generalText
  | text s => Text.quoted s
  | array items => "[" ++ shownItems items ++ "]"
  | object members => "\x7b" ++ shownMembers members ++ "\x7d"

/-- Items with commas between them. -/
def shownItems : List Json → String
  | [] => ""
  | [item] => shown item
  | item :: rest => shown item ++ ", " ++ shownItems rest

/-- Members with commas between them. -/
def shownMembers : List (String × Json) → String
  | [] => ""
  | [(key, value)] => Text.quoted key ++ ": " ++ shown value
  | (key, value) :: rest => Text.quoted key ++ ": " ++ shown value ++ ", " ++ shownMembers rest

end

/-- **A value as a message of its own**: like `shown`, but a text stands as it is. -/
def plain : Json → String
  | text s => s
  | value => shown value

/-- The name of the kind of a value, in messages about values of the wrong kind. -/
def kindName : Json → String
  | null => "NoneType"
  | boolean _ => "bool"
  | integer _ => "int"
  | real _ => "float"
  | text _ => "str"
  | array _ => "list"
  | object _ => "dict"

/-- **A value that counts as false**: nothing, zero, or empty. -/
def isFalsy : Json → Bool
  | null => true
  | boolean b => !b
  | integer n => n == 0
  | real x => x.isZero
  | text s => s.isEmpty
  | array items => items.isEmpty
  | object members => members.isEmpty

end ConnectionJobs.Json
