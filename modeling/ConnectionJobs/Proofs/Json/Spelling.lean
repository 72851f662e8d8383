import ConnectionJobs.Json.Writer
import ConnectionJobs.Proofs.Json.Numeral

/-!
# Tokens that are read back

A token may be *spelled* in many ways: a text with or without escapes, a number with any of the numerals that mean it.
Readers agree about all of them but the numbers, which they may find too long, so `Token.Spells` leaves open which
numerals fit. A reader takes each spelling whose numerals fit its own rules, and no other.

The spelling that a writer gives a token is one of them, with one exception: a number that is not finite is written as
`null`, and comes back as that. Since the spelling of a number has no end of its own, a text of tokens is read back when
no number stands next to a number. Texts need more care than the grammar suggests: an escape may be half of a surrogate
pair, so the reader looks past each escape for another one.
-/

namespace ConnectionJobs.Json

/-! ## Texts -/

/-- **Escapes by letter**: each letter with the character it stands for. -/
def letterEscapes : List (Char × Char) :=
  [('"', '"'), ('\\', '\\'), ('/', '/'), ('b', '\x08'), ('f', '\x0c'), ('n', '\n'), ('r', '\r'), ('t', '\t')]

/-- **How a character may be spelled** between quotation marks. -/
inductive SpellsChar : Char → List Char → Prop
  /-- By itself. -/
  | plain {c : Char} (quote : c ≠ '"') (backslash : c ≠ '\\') (visible : ¬c.toNat < 0x20) : SpellsChar c [c]
  /-- By a letter. -/
  | letter {letter c : Char} (listed : (letter, c) ∈ letterEscapes) : SpellsChar c ['\\', letter]
  /-- By its number, in four hexadecimal digits. -/
  | number {a b c d : Char} {n : Nat} (value : Text.hexValue [a, b, c, d] = some n)
    (alone : Text.isSurrogate n = false) : SpellsChar (Char.ofNat n) ['\\', 'u', a, b, c, d]
  /-- By the numbers of a surrogate pair. -/
  | pair {a b c d e f g h : Char} {n m : Nat} (high : Text.hexValue [a, b, c, d] = some n)
    (low : Text.hexValue [e, f, g, h] = some m) (opens : Text.isHighSurrogate n = true)
    (closes : Text.isLowSurrogate m = true) :
    SpellsChar (Char.ofNat (Text.surrogatePair n m)) ['\\', 'u', a, b, c, d, '\\', 'u', e, f, g, h]

/-- **How characters may be spelled**, one after the other. -/
inductive SpellsChars : List Char → List Char → Prop
  /-- No character. -/
  | nil : SpellsChars [] []
  /-- A character and the ones after it. -/
  | cons {c : Char} {s spelled body : List Char} (first : SpellsChar c spelled) (others : SpellsChars s body) :
    SpellsChars (c :: s) (spelled ++ body)

section Texts

variable {standIn : Option Char} {acc cs : List Char} {c : Char}

theorem escapeLetter_eq_some_iff {letter : Char} :
    escapeLetter letter = some c ↔ (letter, c) ∈ letterEscapes := by
  constructor
  · intro h
    unfold escapeLetter at h
    simp only [Bool.or_eq_true, beq_iff_eq] at h
    split at h
    · rename_i self
      obtain rfl := Option.some.inj h
      obtain (rfl | rfl) | rfl := self <;> decide
    · split_ifs at h <;> (subst_vars; obtain rfl := Option.some.inj h; decide)
  · intro listed
    have all : ∀ entry ∈ letterEscapes, escapeLetter entry.1 = some entry.2 := by decide
    exact all (letter, c) listed

/-- The character whose number is written is spelled by it, unless the number is that of a surrogate. -/
theorem SpellsChar.of_toNat (c : Char) (small : c.toNat < 0x20) :
    SpellsChar c ('\\' :: 'u' :: Text.hexDigits 4 c.toNat) := by
  have value : Text.hexValue (Text.hexDigits 4 c.toNat) = some c.toNat := by
    rw [Text.hexValue_hexDigits, Nat.mod_eq_of_lt (Nat.lt_trans small (by decide))]
  have alone : Text.isSurrogate c.toNat = false := by
    unfold Text.isSurrogate Text.isHighSurrogate Text.isLowSurrogate
    rw [decide_eq_false (p := 0xD800 ≤ c.toNat) (by omega), decide_eq_false (p := 0xDC00 ≤ c.toNat) (by omega)]
    rfl
  have spelled := SpellsChar.number value alone
  rwa [Char.ofNat_toNat] at spelled

/-- **The spelling of a character in a written text** is one of the ways. -/
theorem spellsChar_escapedChar (c : Char) : SpellsChar c (escapedChar c) := by
  have of_toNat {n : Nat} (h : (c.toNat == n) = true) : Char.ofNat n = c := by
    rw [← beq_iff_eq.mp h, Char.ofNat_toNat]
  unfold escapedChar
  split_ifs with quote backslash backspace tab lineFeed formFeed carriageReturn control
  · obtain rfl := beq_iff_eq.mp quote
    exact .letter (by decide)
  · obtain rfl := beq_iff_eq.mp backslash
    exact .letter (by decide)
  · exact .letter (of_toNat backspace ▸ by decide)
  · exact .letter (of_toNat tab ▸ by decide)
  · exact .letter (of_toNat lineFeed ▸ by decide)
  · exact .letter (of_toNat formFeed ▸ by decide)
  · exact .letter (of_toNat carriageReturn ▸ by decide)
  · exact .of_toNat c control
  · rw [beq_iff_eq] at quote backslash
    exact .plain quote backslash control

theorem spellsChars_flatMap (s : List Char) : SpellsChars s (s.flatMap escapedChar) := by
  induction s with
  | nil => exact .nil
  | cons c s ih => exact .cons (spellsChar_escapedChar c) ih

/-- An escape by number that starts here has proper digits. -/
def ProperEscape (cs : List Char) : Prop :=
  ∀ a b c d rest, cs = '\\' :: 'u' :: a :: b :: c :: d :: rest → ∃ n, Text.hexValue [a, b, c, d] = some n

theorem ProperEscape.of_spells {s body : List Char} (spells : SpellsChars s body) (cs : List Char) :
    ProperEscape (body ++ '"' :: cs) := by
  intro a b c d rest e
  cases spells with
  | nil => exact absurd (List.cons.inj e).1 (by decide)
  | cons first others =>
    cases first with
    | plain quote backslash visible => exact absurd (List.cons.inj e).1 backslash
    | letter listed =>
      have other : ∀ entry ∈ letterEscapes, entry.1 ≠ 'u' := by decide
      exact absurd (List.cons.inj (List.cons.inj e).2).1 (other _ listed)
    | number value alone =>
      simp only [List.cons_append, List.cons.injEq] at e
      obtain ⟨-, -, rfl, rfl, rfl, rfl, -⟩ := e
      exact ⟨_, value⟩
    | pair high low opens closes =>
      simp only [List.cons_append, List.cons.injEq] at e
      obtain ⟨-, -, rfl, rfl, rfl, rfl, -⟩ := e
      exact ⟨_, high⟩

/-- **An escape by number** stands for the character, whatever the escape after it is. -/
theorem readText_number {a b c d : Char} {n : Nat} (value : Text.hexValue [a, b, c, d] = some n)
    (alone : Text.isSurrogate n = false) (proper : ProperEscape cs) :
    readText standIn acc ('\\' :: 'u' :: a :: b :: c :: d :: cs) = readText standIn (Char.ofNat n :: acc) cs := by
  have notHigh : Text.isHighSurrogate n = false := (Bool.or_eq_false_iff.mp alone).1
  have lone : loneUnit standIn n = some (Char.ofNat n) := if_neg (Bool.eq_false_iff.mp alone)
  rw [readText.eq_def]
  split
  · rename_i e
    cases e
  · rename_i e
    cases e
  · rename_i e
    -- Another escape by number follows. It must not be garbled, but it does not matter which one it is.
    simp only [List.cons.injEq] at e
    obtain ⟨-, -, rfl, rfl, rfl, rfl, rfl⟩ := e
    obtain ⟨m, other⟩ := proper _ _ _ _ _ rfl
    rw [value, other]
    show (if (Text.isHighSurrogate n && Text.isLowSurrogate m) = true then _ else _) = _
    rw [notHigh, Bool.false_and, if_neg Bool.false_ne_true, lone]
  · rename_i e
    simp only [List.cons.injEq] at e
    obtain ⟨-, -, rfl, rfl, rfl, rfl, rfl⟩ := e
    rw [value, Option.bind_some, lone]
  · rename_i numbers e
    simp only [List.cons.injEq] at e
    obtain ⟨-, rfl, rfl⟩ := e
    exact absurd rfl (numbers a b c d cs rfl)
  · rename_i letters e
    simp only [List.cons.injEq] at e
    obtain ⟨rfl, rfl⟩ := e
    exact absurd rfl (letters 'u' _ rfl)

/-- **An escape by letter** stands for the character. -/
theorem readText_letter {letter : Char} (other : letter ≠ 'u') (value : escapeLetter letter = some c) :
    readText standIn acc ('\\' :: letter :: cs) = readText standIn (c :: acc) cs := by
  rw [readText.eq_def]
  split
  · rename_i e
    cases e
  · rename_i e
    cases e
  · rename_i e
    exact absurd (List.cons.inj (List.cons.inj e).2).1 other
  · rename_i e
    exact absurd (List.cons.inj (List.cons.inj e).2).1 other
  · rename_i e
    simp only [List.cons.injEq] at e
    obtain ⟨-, rfl, rfl⟩ := e
    rw [value]
  · rename_i letters e
    simp only [List.cons.injEq] at e
    obtain ⟨rfl, rfl⟩ := e
    exact absurd rfl (letters letter cs rfl)

/-- **A character by itself** stands for itself. -/
theorem readText_plain (quote : c ≠ '"') (backslash : c ≠ '\\') (visible : ¬c.toNat < 0x20) :
    readText standIn acc (c :: cs) = readText standIn (c :: acc) cs := by
  rw [readText.eq_def]
  split
  · rename_i e
    cases e
  · rename_i e
    exact absurd (List.cons.inj e).1 quote
  · rename_i e
    exact absurd (List.cons.inj e).1 backslash
  · rename_i e
    exact absurd (List.cons.inj e).1 backslash
  · rename_i e
    exact absurd (List.cons.inj e).1 backslash
  · rename_i e
    obtain ⟨rfl, rfl⟩ := List.cons.inj e
    exact if_neg visible

/-- **A text is read back**, whichever way its characters are spelled. -/
theorem readText_spells {s body : List Char} (spells : SpellsChars s body) :
    readText standIn acc (body ++ '"' :: cs) = some (s.reverse ++ acc, cs) := by
  induction spells generalizing acc with
  | nil =>
    rw [List.nil_append, readText]
    rfl
  | @cons c s spelled body first others ih =>
    have proper := ProperEscape.of_spells others cs
    have goal_acc : (c :: s).reverse ++ acc = s.reverse ++ c :: acc := by
      rw [List.reverse_cons, List.append_assoc, List.singleton_append]
    rw [goal_acc, ← ih, List.append_assoc]
    cases first with
    | plain quote backslash visible => exact readText_plain quote backslash visible
    | letter listed =>
      have other : ∀ entry ∈ letterEscapes, entry.1 ≠ 'u' := by decide
      exact readText_letter (other _ listed) (escapeLetter_eq_some_iff.mpr listed)
    | number value alone => exact readText_number value alone proper
    | pair high low opens closes =>
      simp only [List.cons_append, List.nil_append]
      rw [readText.eq_3, high, low]
      exact if_pos (Bool.and_eq_true_iff.mpr ⟨opens, closes⟩)

end Texts

/-! ## Tokens -/

namespace Token

/-- **What a token is read back as**: itself, except that a number that is not finite is `null`. -/
def asRead : Token → Token
  | .real x => if x.isFinite then .real x else .null
  | token => token

section NotFinite

variable {x : Double}

theorem spelling_finite (finite : x.isFinite = true) : (Token.real x).spelling = x.documentText := if_pos finite

theorem spelling_notFinite (infinite : x.isFinite = false) : (Token.real x).spelling = ['n', 'u', 'l', 'l'] :=
  if_neg (Bool.eq_false_iff.mp infinite)

theorem asRead_finite (finite : x.isFinite = true) : (Token.real x).asRead = .real x := if_pos finite

theorem asRead_notFinite (infinite : x.isFinite = false) : (Token.real x).asRead = .null :=
  if_neg (Bool.eq_false_iff.mp infinite)

end NotFinite

/-- A token is spelled like what it is read back as. -/
theorem spelling_asRead (token : Token) : token.asRead.spelling = token.spelling := by
  cases token with
  | real x =>
    cases finite : x.isFinite with
    | true => rw [asRead_finite finite]
    | false =>
      rw [asRead_notFinite finite, spelling_notFinite finite]
      rfl
  | _ => rfl

/-- **A reader takes the token as it is written**: it is not an integer with too many digits. -/
def Fits (countsSign : Bool) : Token → Prop
  | .integer n => FitsReader countsSign n
  | _ => True

/-- The spelling of the token may have no end of its own. -/
def IsNumber : Token → Prop
  | .integer _ => True
  | .real _ => True
  | _ => False

/-- The token has one spelling: it is punctuation or a word. -/
def IsFixed : Token → Prop
  | .integer _ | .real _ | .text _ => False
  | _ => True

/-- **How a token may be spelled**, where `fit` says which numerals may stand for numbers. Some words are numbers
too. -/
inductive Spells (fit : Bool → Written → Prop) : Token → List Char → Prop
  /-- Punctuation or a word. -/
  | fixed (token : Token) (one : token.IsFixed) : Spells fit token token.spelling
  /-- A text between quotation marks. -/
  | text {s : String} {body : List Char} (chars : SpellsChars s.toList body) :
    Spells fit (.text s) ('"' :: (body ++ ['"']))
  /-- A number. -/
  | number (negative : Bool) {w : Written} {lexeme : List Char} (proper : w.Proper) (fits : fit negative w)
    (spells : w.Spells lexeme) : Spells fit (w.meant negative) (Double.withSign negative lexeme)
  /-- The word for what is not a number. -/
  | nan : Spells fit (.real .nan) ['N', 'a', 'N']
  /-- The word for infinity, with its sign. -/
  | infinity (negative : Bool) :
    Spells fit (.real (.infinity negative)) (Double.withSign negative ['I', 'n', 'f', 'i', 'n', 'i', 't', 'y'])

/-- What a numeral means is a number. -/
theorem isNumber_meant (negative : Bool) (w : Written) : (w.meant negative).IsNumber := by
  unfold Written.meant
  split <;> trivial

theorem not_isFixed_of_isNumber {token : Token} (number : token.IsNumber) : ¬token.IsFixed := by
  cases token with
  | integer | real => exact id
  | _ => exact number.elim

section Spelled

variable {fit fit' : Bool → Written → Prop} {rules : Rules} {token : Token} {lexeme : List Char}

/-- Punctuation and words have one spelling. -/
theorem Spells.eq_spelling (spells : token.Spells fit lexeme) (one : token.IsFixed) : lexeme = token.spelling := by
  cases spells with
  | fixed => rfl
  | @number negative w => exact absurd one (not_isFixed_of_isNumber (isNumber_meant negative w))
  | text | nan | infinity => exact one.elim

/-- **Where more numerals fit, more spellings do.** -/
theorem Spells.mono (spells : token.Spells fit lexeme)
    (weaker : ∀ negative w, w.Proper → fit negative w → fit' negative w) : token.Spells fit' lexeme := by
  cases spells with
  | fixed token one => exact .fixed token one
  | text chars => exact .text chars
  | number negative proper fits spells => exact .number negative proper (weaker _ _ proper fits) spells
  | nan => exact .nan
  | infinity negative => exact .infinity negative

/-- **The spelling of a token in a written document** is one of the ways, for what it is read back as: the numerals of
doubles have few digits before the point, and an integer is written as its digits. -/
theorem spells_spelling (few : ∀ negative w, w.whole.length ≤ 16 → fit negative w)
    (integers : ∀ n, token = .integer n → fit (n < 0) (.ofNat n.natAbs)) : token.asRead.Spells fit token.spelling := by
  cases token with
  | integer n =>
    have spelled :=
      Spells.number (n < 0) (Written.proper_ofNat n.natAbs) (integers n rfl) (Written.spells_spelling _)
    rwa [meant_ofNat, ← integerText_eq] at spelled
  | real x =>
    cases finite : x.isFinite with
    | true =>
      obtain ⟨d, w, writes, reads, spelling⟩ := exists_writes finite
      rw [asRead_finite finite]
      have spelled := Spells.number x.negative writes.proper (few _ w writes.short) w.spells_spelling
      rwa [meant_real writes.real, writes.value, reads, ← spelling, ← Double.documentText,
        ← spelling_finite finite] at spelled
    | false =>
      rw [spelling_notFinite finite, asRead_notFinite finite]
      exact .fixed .null trivial
  | text s => exact .text (spellsChars_flatMap s.toList)
  | _ => exact .fixed _ trivial

/-- A token is spelled in one of its ways, if numbers may have any length. -/
theorem spells_freely (token : Token) : token.asRead.Spells (fun _ _ => True) token.spelling :=
  spells_spelling (fun _ _ _ => trivial) fun _ _ => trivial

/-- A written token is spelled in a way that a reader takes, when the token fits. -/
theorem spells_of_fits (fits : token.Fits rules.countsSign) :
    token.asRead.Spells (Written.Fits rules) token.spelling := by
  refine spells_spelling (fun negative w short => Written.fits_of_length (Nat.lt_of_le_of_lt short (by decide))) ?_
  rintro n rfl
  exact fits_ofNat.mpr fits

/-- **What is spelled in a way that a reader takes fits it.** -/
theorem Spells.fits (spells : token.Spells (Written.Fits rules) lexeme) : token.Fits rules.countsSign := by
  cases spells with
  | @fixed token one =>
    cases token with
    | integer => exact one.elim
    | _ => trivial
  | @number negative w _ proper fits =>
    by_cases integer : w.IsInteger
    · rw [meant_integer integer]
      exact (fits_iff_of_integer proper integer).mp fits
    · rw [meant_real integer]
      trivial
  | text | nan | infinity => trivial

/-- **Where doubles are not limited, a reader takes every spelling of a token that fits.** -/
theorem Spells.within (unlimited : rules.limitsReals = false) (spells : token.Spells fit lexeme)
    (fits : token.Fits rules.countsSign) : token.Spells (Written.Fits rules) lexeme := by
  cases spells with
  | fixed token one => exact .fixed token one
  | text chars => exact .text chars
  | @number negative w _ proper _ spells =>
    refine .number negative proper ?_ spells
    by_cases integer : w.IsInteger
    · rw [meant_integer integer] at fits
      exact (fits_iff_of_integer proper integer).mpr fits
    · rintro (limits | is)
      · rw [unlimited] at limits
        cases limits
      · exact absurd is integer
  | nan => exact .nan
  | infinity negative => exact .infinity negative

end Spelled

end Token

section Tokens

variable {rules : Rules} {fit : Bool → Written → Prop} {cs lexeme : List Char} {token : Token}

/-- A sign or a digit starts a number. -/
theorem readToken_number {c : Char} (start : c = '-' ∨ isDigit c = true) :
    readToken rules (c :: cs) = readNumber rules (c :: cs) := by
  have other (char : Char) (sign : char ≠ '-') (digit : isDigit char = false) : c ≠ char := by
    rintro rfl
    rcases start with h | h
    · exact sign h
    · rw [digit] at h
      cases h
  have skip {char : Char} (sign : char ≠ '-') (digit : isDigit char = false) : ¬(c == char) = true := by
    rw [beq_iff_eq]
    exact other char sign digit
  rw [readToken.eq_def]
  dsimp only
  rw [if_neg (skip (by decide) (by decide)), if_neg (skip (by decide) (by decide)),
    if_neg (skip (by decide) (by decide)), if_neg (skip (by decide) (by decide)),
    if_neg (skip (by decide) (by decide)), if_neg (skip (by decide) (by decide)),
    if_neg (skip (by decide) (by decide))]
  split
  · exact absurd rfl (other 'n' (by decide) (by decide))
  · exact absurd rfl (other 't' (by decide) (by decide))
  · exact absurd rfl (other 'f' (by decide) (by decide))
  · rfl

theorem isSpace_number {c : Char} (start : c = '-' ∨ isDigit c = true) : isSpace c = false := by
  cases space : isSpace c with
  | false => rfl
  | true =>
    unfold isSpace at space
    simp only [Bool.or_eq_true, beq_iff_eq] at space
    rcases space with ((rfl | rfl) | rfl) | rfl <;> exact absurd start (by decide)

/-- **A numeral is read as its token**, when there is one. -/
theorem readToken_numeral (rules : Rules) {w : Written} {negative : Bool} (proper : w.Proper)
    (spells : w.Spells lexeme) (ends : EndsNumeral cs) :
    readToken rules (Double.withSign negative lexeme ++ cs) = ((w.numeral negative).token rules).map (·, cs) := by
  have number := readNumber_spells rules negative proper spells ends
  obtain ⟨c, rest, shape, digit⟩ := spells_append proper spells cs
  rw [withSign_append]
  rw [shape] at number ⊢
  rw [← number]
  cases negative with
  | true => exact readToken_number (.inl rfl)
  | false => exact readToken_number (.inr digit)

/-- **A token is read back**, whichever way it is spelled, when nothing follows that could belong to it. -/
theorem readToken_spells (spells : token.Spells (Written.Fits rules) lexeme) (ends : token.IsNumber → EndsNumeral cs) :
    readToken rules (lexeme ++ cs) = some (token, cs) := by
  cases spells with
  | fixed token one =>
    cases token with
    | integer | real | text => exact one.elim
    | boolean b => cases b <;> rfl
    | _ => rfl
  | @text s body chars =>
    have read : readText rules.unpaired [] (body ++ '"' :: cs) = some (s.toList.reverse ++ [], cs) :=
      readText_spells chars
    show (readText rules.unpaired [] (body ++ ['"'] ++ cs)).map _ = _
    rw [List.append_assoc, List.singleton_append, read, List.append_nil]
    show some (Token.text (String.ofList s.toList.reverse.reverse), cs) = _
    rw [List.reverse_reverse, String.ofList_toList]
  | @number negative w _ proper fits spells =>
    rw [readToken_numeral rules proper spells (ends (Token.isNumber_meant negative w)), token_of_fits fits]
    rfl
  | nan => rfl
  | infinity negative => cases negative <;> rfl

/-- **A spelling is one that a reader takes, or nothing is read from it.** There is no third case, in which a long
number would be read as something else. -/
theorem Token.Spells.within_or_unread (spells : token.Spells fit lexeme) (ends : token.IsNumber → EndsNumeral cs) :
    token.Spells (Written.Fits rules) lexeme ∨ readToken rules (lexeme ++ cs) = none := by
  cases spells with
  | fixed token one => exact .inl (.fixed token one)
  | text chars => exact .inl (.text chars)
  | @number negative w _ proper _ spells =>
    by_cases fits : w.Fits rules negative
    · exact .inl (.number negative proper fits spells)
    · rw [readToken_numeral rules proper spells (ends (isNumber_meant negative w)), token_of_not_fits fits]
      exact .inr rfl
  | nan => exact .inl .nan
  | infinity negative => exact .inl (.infinity negative)

end Tokens

/-! ## Sequences of tokens -/

/-- No number comes first. -/
def NoNumberFirst (ts : List Token) : Prop := ∀ token, ts.head? = some token → ¬token.IsNumber

/-- **No number stands next to a number.** -/
def Apart : List Token → Prop
  | [] => True
  | token :: rest => (token.IsNumber → NoNumberFirst rest) ∧ Apart rest

/-- Nothing but white space. -/
def Spaces (cs : List Char) : Prop := ∀ c ∈ cs, isSpace c = true

/-- **A text of tokens**: each is spelled in one of its ways, and white space may stand around them. -/
inductive Lexes (fit : Bool → Written → Prop) : List Token → List Char → Prop
  /-- There are no more tokens. -/
  | done {ws : List Char} (spaces : Spaces ws) : Lexes fit [] ws
  /-- A token and the ones after it. -/
  | token {ws lexeme cs : List Char} {token : Token} {ts : List Token} (spaces : Spaces ws)
    (spells : token.Spells fit lexeme) (others : Lexes fit ts cs) : Lexes fit (token :: ts) (ws ++ (lexeme ++ cs))

section Sequences

variable {rules : Rules} {fit fit' : Bool → Written → Prop} {token : Token} {ts : List Token} {cs lexeme : List Char}

/-- A token without white space before it. -/
theorem Lexes.cons (spells : token.Spells fit lexeme) (others : Lexes fit ts cs) :
    Lexes fit (token :: ts) (lexeme ++ cs) :=
  @Lexes.token fit [] _ _ _ _ nofun spells others

/-- Where more numerals fit, more texts do. -/
theorem Lexes.mono (text : Lexes fit ts cs) (weaker : ∀ negative w, w.Proper → fit negative w → fit' negative w) :
    Lexes fit' ts cs := by
  induction text with
  | done spaces => exact .done spaces
  | token spaces spells others ih => exact .token spaces (spells.mono weaker) ih

/-- **A token starts with a character of its own**, which is not white space, and which belongs to no numeral unless
the token is a number. -/
theorem Token.Spells.head (spells : token.Spells fit lexeme) :
    ∃ c tail, lexeme = c :: tail ∧ isSpace c = false ∧
      (¬token.IsNumber → isDigit c = false ∧ c ≠ '.' ∧ c ≠ 'e' ∧ c ≠ 'E') := by
  cases spells with
  | fixed token one =>
    cases token with
    | integer | real | text => exact one.elim
    | boolean b => cases b <;> exact ⟨_, _, rfl, rfl, fun _ => by decide⟩
    | _ => exact ⟨_, _, rfl, rfl, fun _ => by decide⟩
  | text => exact ⟨_, _, rfl, rfl, fun _ => by decide⟩
  | @number negative w lexeme proper _ spells =>
    have number := isNumber_meant negative w
    obtain ⟨c, more, shape, digit⟩ := spells_append proper spells []
    rw [List.append_nil] at shape
    obtain rfl := shape
    cases negative with
    | true => exact ⟨'-', _, rfl, rfl, fun other => absurd number other⟩
    | false => exact ⟨c, more, rfl, isSpace_number (.inr digit), fun other => absurd number other⟩
  | nan => exact ⟨_, _, rfl, rfl, fun other => absurd trivial other⟩
  | infinity negative => cases negative <;> exact ⟨_, _, rfl, rfl, fun other => absurd trivial other⟩

/-- A token starts with a character that is not white space. -/
theorem Token.Spells.visible (spells : token.Spells fit lexeme) : ∃ c tail, lexeme = c :: tail ∧ isSpace c = false := by
  obtain ⟨c, tail, shape, visible, -⟩ := spells.head
  exact ⟨c, tail, shape, visible⟩

/-- **A numeral ends where white space begins**, and where it would end behind that. -/
theorem endsNumeral_spaces {ws cs : List Char} (spaces : Spaces ws) (ends : EndsNumeral cs) : EndsNumeral (ws ++ cs) := by
  cases ws with
  | nil => exact ends
  | cons w ws =>
    intro c head
    obtain rfl := Option.some.inj head
    have space := spaces w List.mem_cons_self
    unfold isSpace at space
    simp only [Bool.or_eq_true, beq_iff_eq] at space
    rcases space with ((rfl | rfl) | rfl) | rfl <;> decide

/-- A numeral ends where something begins with a character that belongs to none. -/
theorem endsNumeral_cons {c : Char} {cs : List Char} (other : isDigit c = false ∧ c ≠ '.' ∧ c ≠ 'e' ∧ c ≠ 'E') :
    EndsNumeral (c :: cs) := fun d head => by
  obtain rfl := Option.some.inj head
  exact other

/-- **A numeral ends where a text of tokens begins**, unless a number comes first. -/
theorem Lexes.endsNumeral (text : Lexes fit ts cs) (first : NoNumberFirst ts) : EndsNumeral cs := by
  cases text with
  | done spaces =>
    rw [← List.append_nil cs]
    exact endsNumeral_spaces spaces nofun
  | token spaces spells others =>
    obtain ⟨c, tail, rfl, -, other⟩ := spells.head
    exact endsNumeral_spaces spaces (endsNumeral_cons (other (first _ rfl)))

/-- White space is passed over. -/
theorem readTokens_spaces (rules : Rules) {ws cs : List Char} {fuel : Nat} (spaces : Spaces ws)
    (enough : (ws ++ cs).length ≤ fuel) :
    ∃ left, cs.length ≤ left ∧ readTokens rules fuel (ws ++ cs) = readTokens rules left cs := by
  induction ws generalizing fuel with
  | nil => exact ⟨fuel, enough, rfl⟩
  | cons w ws ih =>
    obtain ⟨space, spaces⟩ := List.forall_mem_cons.mp spaces
    rw [List.cons_append, List.length_cons] at enough
    obtain ⟨fuel, rfl⟩ := Nat.exists_eq_add_of_lt (Nat.lt_of_lt_of_le (Nat.succ_pos _) enough)
    have enough : (ws ++ cs).length ≤ fuel := by omega
    obtain ⟨left, more, same⟩ := ih spaces enough
    refine ⟨left, more, ?_⟩
    rw [List.cons_append, Nat.zero_add, readTokens, if_pos space, same]

theorem readTokens_cons {fuel : Nat} {cs rest : List Char} {c : Char} (visible : isSpace c = false)
    {token : Token} (read : readToken rules (c :: cs) = some (token, rest)) :
    readTokens rules (fuel + 1) (c :: cs) =
      (token :: (readTokens rules fuel rest).1, (readTokens rules fuel rest).2) := by
  rw [readTokens, if_neg (Bool.eq_false_iff.mp visible), read]

theorem readTokens_none {fuel : Nat} {cs : List Char} {c : Char} (visible : isSpace c = false)
    (read : readToken rules (c :: cs) = none) : readTokens rules (fuel + 1) (c :: cs) = ([], false) := by
  rw [readTokens, if_neg (Bool.eq_false_iff.mp visible), read]

/-- **A token is taken from the front of a text**, behind white space, and fuel is left for the rest. -/
theorem readTokens_token (rules : Rules) {ws lexeme cs : List Char} {token : Token} {fuel : Nat} (spaces : Spaces ws)
    (visible : ∃ c tail, lexeme = c :: tail ∧ isSpace c = false)
    (read : readToken rules (lexeme ++ cs) = some (token, cs)) (enough : (ws ++ (lexeme ++ cs)).length ≤ fuel) :
    ∃ left, cs.length ≤ left ∧ readTokens rules fuel (ws ++ (lexeme ++ cs)) =
      (token :: (readTokens rules left cs).1, (readTokens rules left cs).2) := by
  obtain ⟨left, more, same⟩ := readTokens_spaces rules spaces enough
  obtain ⟨c, tail, rfl, visible⟩ := visible
  rw [List.cons_append, List.length_cons, List.length_append] at more
  obtain ⟨left, rfl⟩ := Nat.exists_eq_add_of_lt (Nat.lt_of_lt_of_le (Nat.succ_pos _) more)
  refine ⟨left, by omega, ?_⟩
  rw [same, Nat.zero_add]
  rw [List.cons_append] at read ⊢
  rw [readTokens_cons visible read]

/-- **The tokens of a text are read**, when no number stands next to a number. -/
theorem readTokens_lexes {fuel : Nat} (text : Lexes (Written.Fits rules) ts cs) (apart : Apart ts)
    (enough : cs.length ≤ fuel) : readTokens rules fuel cs = (ts, true) := by
  induction text generalizing fuel with
  | @done ws spaces =>
    rw [← List.append_nil ws] at enough ⊢
    obtain ⟨left, -, same⟩ := readTokens_spaces rules spaces enough
    rw [same]
    cases left <;> rfl
  | token spaces spells others ih =>
    have read := readToken_spells spells fun number => others.endsNumeral (apart.1 number)
    obtain ⟨left, more, same⟩ := readTokens_token rules spaces spells.visible read enough
    rw [same, ih apart.2 more]

/-- **What has a text that a reader takes fits it.** -/
theorem Lexes.fits (text : Lexes (Written.Fits rules) ts cs) : ∀ token ∈ ts, token.Fits rules.countsSign := by
  induction text with
  | done => exact List.forall_mem_nil _
  | token spaces spells others ih => exact List.forall_mem_cons.mpr ⟨spells.fits, ih⟩

/-- Where doubles are not limited, a reader takes every text of tokens that fit. -/
theorem Lexes.within (unlimited : rules.limitsReals = false) (text : Lexes fit ts cs)
    (fits : ∀ token ∈ ts, token.Fits rules.countsSign) : Lexes (Written.Fits rules) ts cs := by
  induction text with
  | done spaces => exact .done spaces
  | token spaces spells others ih =>
    obtain ⟨first, later⟩ := List.forall_mem_cons.mp fits
    exact .token spaces (spells.within unlimited first) (ih later)

/-- **A written sequence is a text** of what its tokens are read back as. -/
theorem lexes_spell (fits : ∀ token ∈ ts, token.Fits rules.countsSign) :
    Lexes (Written.Fits rules) (ts.map Token.asRead) (spell ts) := by
  induction ts with
  | nil => exact .done nofun
  | cons token ts ih =>
    obtain ⟨first, others⟩ := List.forall_mem_cons.mp fits
    exact .cons (Token.spells_of_fits first) (ih others)

end Sequences

end ConnectionJobs.Json
