import ConnectionJobs.Json.Token

/-!
# Writing JSON

A value is written without any white space, its members in their order. The text is the concatenation of the
spellings of the value's tokens, so what is known about tokens is known about the text.
-/

namespace ConnectionJobs.Json

mutual

/-- **The tokens of a value**, in front of the tokens `rest`. -/
def tokensOf : Json → List Token → List Token
  | null, rest => .null :: rest
  | boolean b, rest => .boolean b :: rest
  | integer n, rest => .integer n :: rest
  | real x, rest => .real x :: rest
  | text s, rest => .text s :: rest
  | array [], rest => .openArray :: .closeArray :: rest
  | array (item :: items), rest => .openArray :: tokensOf item (tokensOfItems items rest)
  | object [], rest => .openObject :: .closeObject :: rest
  | object ((key, value) :: members), rest =>
    .openObject :: .text key :: .colon :: tokensOf value (tokensOfMembers members rest)

/-- The tokens of the items after the first, with the closing bracket. -/
def tokensOfItems : List Json → List Token → List Token
  | [], rest => .closeArray :: rest
  | item :: items, rest => .comma :: tokensOf item (tokensOfItems items rest)

/-- The tokens of the members after the first, with the closing brace. -/
def tokensOfMembers : List (String × Json) → List Token → List Token
  | [], rest => .closeObject :: rest
  | (key, value) :: members, rest =>
    .comma :: .text key :: .colon :: tokensOf value (tokensOfMembers members rest)

end

/-- The concatenated spellings of tokens. -/
def spell (tokens : List Token) : List Char := tokens.flatMap Token.spelling

/-- **The text of a value.** -/
def write (value : Json) : String := String.ofList (spell (tokensOf value []))

end ConnectionJobs.Json
