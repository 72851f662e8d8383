/-!
# Surrogates

An escape, or a number taken as a character, can name a *surrogate*: a code unit that is half of a pair and no
character by itself. A number that is taken as a character gives a code point, which is one or the other. Where an
escape lets such a half in, it is kept as a stand-in, a code point that is assigned to no character, so that a text with
one can be told and refused later, at the place where it matters.
-/

namespace ConnectionJobs.Text

/-- A code unit that opens a surrogate pair. -/
def isHighSurrogate (n : Nat) : Bool := 0xD800 ≤ n && n < 0xDC00

/-- A code unit that closes a surrogate pair. -/
def isLowSurrogate (n : Nat) : Bool := 0xDC00 ≤ n && n < 0xE000

/-- Half of a surrogate pair. -/
def isSurrogate (n : Nat) : Bool := isHighSurrogate n || isLowSurrogate n

/-- The code point a pair of surrogates stands for. -/
def surrogatePair (high low : Nat) : Nat :=
  0x10000 + (high - 0xD800) * 0x400 + (low - 0xDC00)

/-- **The stand-in** for half of a surrogate pair. -/
def surrogateStandIn : Char := Char.ofNat 0xEFFFE

/-- **A broken text** holds half of a surrogate pair. -/
def isBroken (s : String) : Bool := s.toList.contains surrogateStandIn

/-- **A code point**: a character, or half of a surrogate pair. -/
inductive CodePoint where
  /-- A character. -/
  | char (c : Char)
  /-- Half of a surrogate pair, counted from the first one. -/
  | half (unit : Fin 2048)
  deriving DecidableEq, Repr

/-- **The code point** with a number. -/
def codePoint (n : Nat) : CodePoint :=
  if isSurrogate n then .half ⟨(n - 0xD800) % 2048, Nat.mod_lt _ (by decide)⟩ else .char (Char.ofNat n)

/-- The code points of characters. -/
def codePoints (cs : List Char) : List CodePoint := cs.map .char

/-- **The characters of code points**; `none` when one of them is half of a pair. -/
def characters? : List CodePoint → Option (List Char)
  | [] => some []
  | .char c :: rest => (characters? rest).map (c :: ·)
  | .half _ :: _ => none

/-- Code points are characters when none of them is half of a pair. -/
theorem characters?_eq_some_iff {ps : List CodePoint} {cs : List Char} :
    characters? ps = some cs ↔ ps = codePoints cs := by
  induction ps generalizing cs with
  | nil => cases cs <;> simp [characters?, codePoints]
  | cons p rest ih =>
    cases p with
    | char c =>
      rw [characters?, Option.map_eq_some_iff]
      constructor
      · rintro ⟨others, there, rfl⟩
        rw [ih.mp there]
        rfl
      · intro same
        cases cs with
        | nil => exact nomatch same
        | cons c' others =>
          obtain ⟨first, there⟩ := List.cons.inj same
          obtain rfl := CodePoint.char.inj first
          exact ⟨others, ih.mpr there, rfl⟩
    | half unit =>
      refine ⟨nofun, fun same => ?_⟩
      cases cs with
      | nil => exact nomatch same
      | cons c others => exact nomatch (List.cons.inj same).1

end ConnectionJobs.Text
