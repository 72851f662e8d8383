import ConnectionJobs.Proofs.Json.Document

/-!
# Documents are told apart by their texts

Whoever takes the text of a document for the document itself relies on no other document having that text. For documents
that a reader takes, reading the text back settles it. A reader has limits, though, and a database has not, so the
question is asked here of documents of any size.

The reader still answers most of it. How deep a document may be is a limit of the machine, and the machine can be given
room for any two documents. What is left are integers with too many digits, at which the reader of tokens gives up; two
of these are compared digit by digit. A number that is not finite is written as `null`, so what a text tells is the
document as it is read back, and of exact documents that is all.
-/

namespace ConnectionJobs.Json

/-! ## Tokens -/

section Tokens

variable {rules : Rules} {token other : Token} {ts us : List Token} {cs ds : List Char}

/-- Digits are told by their text, when no digit follows. -/
theorem toDigits_append_inj {k l : Nat} (endsLeft : NoDigit cs) (endsRight : NoDigit ds)
    (same : Nat.toDigits 10 k ++ cs = Nat.toDigits 10 l ++ ds) : k = l ∧ cs = ds := by
  have spans := congrArg spanDigits same
  rw [spanDigits_append (fun _ => isDigit_of_mem_toDigits) endsLeft,
    spanDigits_append (fun _ => isDigit_of_mem_toDigits) endsRight, Prod.mk.injEq] at spans
  have values := congrArg digitsValue spans.1
  rw [digitsValue_toDigits, digitsValue_toDigits] at values
  exact ⟨values, spans.2⟩

/-- Digits do not start with a sign. -/
theorem toDigits_append_ne_minus (k : Nat) : Nat.toDigits 10 k ++ cs ≠ '-' :: ds := by
  intro shape
  obtain ⟨c, more, cons⟩ := List.exists_cons_of_ne_nil (Nat.toDigits_ne_nil (b := 10) (n := k))
  have digit : isDigit c = true := isDigit_of_mem_toDigits (by rw [cons]; exact List.mem_cons_self)
  rw [cons, List.cons_append, List.cons.injEq] at shape
  rw [shape.1] at digit
  exact absurd digit (by decide)

/-- **An integer is told by its text**, when no digit follows. -/
theorem integerText_append_inj {n m : Int} (endsLeft : NoDigit cs) (endsRight : NoDigit ds)
    (same : integerText n ++ cs = integerText m ++ ds) : n = m ∧ cs = ds := by
  unfold integerText at same
  rw [withSign_append, withSign_append] at same
  by_cases negative : n < 0
  · by_cases otherNegative : m < 0
    · rw [decide_eq_true negative, decide_eq_true otherNegative] at same
      obtain ⟨values, rest⟩ := toDigits_append_inj endsLeft endsRight (List.cons.inj same).2
      exact ⟨by omega, rest⟩
    · rw [decide_eq_true negative, decide_eq_false otherNegative] at same
      exact absurd same.symm (toDigits_append_ne_minus _)
  · by_cases otherNegative : m < 0
    · rw [decide_eq_false negative, decide_eq_true otherNegative] at same
      exact absurd same (toDigits_append_ne_minus _)
    · rw [decide_eq_false negative, decide_eq_false otherNegative] at same
      obtain ⟨values, rest⟩ := toDigits_append_inj endsLeft endsRight same
      exact ⟨by omega, rest⟩

theorem exists_integer_of_not_fits {countsSign : Bool} (long : ¬token.Fits countsSign) : ∃ n, token = .integer n := by
  cases token with
  | integer n => exact ⟨n, rfl⟩
  | _ => exact absurd trivial long

theorem isNumber_of_asRead (number : token.asRead.IsNumber) : token.IsNumber := by
  cases token with
  | integer | real => trivial
  | _ => exact number

/-- A token that fits is read back from its spelling in a written document. -/
theorem readToken_spelling (fits : token.Fits rules.countsSign) (ends : token.IsNumber → EndsNumeral cs) :
    readToken rules (token.spelling ++ cs) = some (token.asRead, cs) :=
  readToken_spells (Token.spells_of_fits fits) fun number => ends (isNumber_of_asRead number)

/-- An integer with too many digits is not read back. -/
theorem readToken_long (long : ¬token.Fits rules.countsSign) (ends : token.IsNumber → EndsNumeral cs) :
    readToken rules (token.spelling ++ cs) = none := by
  obtain ⟨n, rfl⟩ := exists_integer_of_not_fits long
  exact ((Token.integer n).spells_freely.within_or_unread ends).resolve_left fun within => long within.fits

/-- **A token is told by its spelling**, up to what it is read back as. -/
theorem spelling_append_inj (endsLeft : token.IsNumber → EndsNumeral cs) (endsRight : other.IsNumber → EndsNumeral ds)
    (same : token.spelling ++ cs = other.spelling ++ ds) : token.asRead = other.asRead ∧ cs = ds := by
  by_cases fits : token.Fits documentRules.countsSign
  · have read := readToken_spelling fits endsLeft
    rw [same] at read
    by_cases otherFits : other.Fits documentRules.countsSign
    · rw [readToken_spelling otherFits endsRight, Option.some.injEq, Prod.mk.injEq] at read
      exact ⟨read.1.symm, read.2.symm⟩
    · rw [readToken_long otherFits endsRight] at read
      exact nomatch read
  · have unread := readToken_long fits endsLeft
    rw [same] at unread
    by_cases otherFits : other.Fits documentRules.countsSign
    · rw [readToken_spelling otherFits endsRight] at unread
      exact nomatch unread
    · obtain ⟨n, rfl⟩ := exists_integer_of_not_fits fits
      obtain ⟨m, rfl⟩ := exists_integer_of_not_fits otherFits
      obtain ⟨rfl, rest⟩ := integerText_append_inj (endsLeft trivial).noDigit (endsRight trivial).noDigit same
      exact ⟨rfl, rest⟩

/-- **A token starts with a character of its own**, which belongs to no numeral unless the token is a number. -/
theorem spelling_head (token : Token) : ∃ c tail, token.spelling = c :: tail ∧
    (¬token.IsNumber → isDigit c = false ∧ c ≠ '.' ∧ c ≠ 'e' ∧ c ≠ 'E') := by
  obtain ⟨c, tail, shape, -, other⟩ := token.spells_freely.head
  exact ⟨c, tail, shape, fun notNumber => other fun number => notNumber (isNumber_of_asRead number)⟩

theorem spell_cons (token : Token) (ts : List Token) : spell (token :: ts) = token.spelling ++ spell ts := rfl

theorem spell_cons_ne_nil (token : Token) (ts : List Token) : spell (token :: ts) ≠ [] := by
  obtain ⟨c, tail, shape, -⟩ := spelling_head token
  rw [spell_cons, shape]
  exact List.cons_ne_nil c _

/-- A numeral ends where a written sequence begins, unless a number comes first. -/
theorem endsNumeral_spell (first : NoNumberFirst ts) : EndsNumeral (spell ts) := by
  cases ts with
  | nil => exact nofun
  | cons next ts =>
    obtain ⟨c, tail, shape, other⟩ := spelling_head next
    rw [spell_cons, shape]
    exact endsNumeral_cons (other (first next rfl))

/-- **Tokens that stand apart are told by their text.** -/
theorem map_asRead_of_spell (apart : Apart ts) (others : Apart us) (same : spell ts = spell us) :
    ts.map Token.asRead = us.map Token.asRead := by
  induction ts generalizing us with
  | nil =>
    cases us with
    | nil => rfl
    | cons other us => exact absurd same.symm (spell_cons_ne_nil other us)
  | cons token ts ih =>
    cases us with
    | nil => exact absurd same (spell_cons_ne_nil token ts)
    | cons other us =>
      obtain ⟨first, rest⟩ := spelling_append_inj (fun number => endsNumeral_spell (apart.1 number))
        (fun number => endsNumeral_spell (others.1 number)) same
      rw [List.map_cons, List.map_cons, first, ih apart.2 others.2 rest]

end Tokens

/-! ## Documents -/

section Documents

variable {v w : Json}

/-- With room enough, the machine completes a document from its tokens as they are read back. -/
theorem run_document {rules : Rules} (room : v.height rules.scalar ≤ rules.levels) :
    run rules ⟨.value, []⟩ ((tokensOf v []).map Token.asRead) = .ok ⟨.done v.asRead, []⟩ := by
  have fits : 0 + v.written.height rules.scalar ≤ rules.levels := by rwa [Nat.zero_add, height_written]
  rw [← tokensOf_written, ← settled_written]
  exact completes rules v.written [] [] fits

/-- **A text tells what its document is read back as**, however large the document is. -/
theorem asRead_of_write (same : v.write = w.write) : v.asRead = w.asRead := by
  have spelled : spell (tokensOf v []) = spell (tokensOf w []) := String.ofList_injective same
  have tokens := map_asRead_of_spell (apart_tokensOf v) (apart_tokensOf w) spelled
  let roomy := settingRules (max v.nesting w.nesting)
  have left : run roomy _ _ = _ := run_document (v := v) (Nat.le_max_left v.nesting w.nesting)
  have right : run roomy _ _ = _ := run_document (v := w) (Nat.le_max_right v.nesting w.nesting)
  rw [tokens, right] at left
  simp only [Except.ok.injEq, Machine.mk.injEq, Phase.done.injEq] at left
  exact left.1.symm

/-- **No two exact documents have one text.** -/
theorem eq_of_write (exact : v.Exact) (exact' : w.Exact) (same : v.write = w.write) : v = w := by
  rw [← asRead_of_exact exact, ← asRead_of_exact exact', asRead_of_write same]

end Documents

end ConnectionJobs.Json
