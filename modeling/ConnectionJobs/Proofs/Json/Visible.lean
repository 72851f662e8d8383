import ConnectionJobs.Proofs.Json.Spelling

/-!
# Written values stand on one line

A written value has no control character in it, and so no line break, whatever its texts and its keys contain. This is
not a matter of values but of tokens: nothing stands between the tokens of a written value, and each token is spelled in
visible characters and blanks. Only texts take an argument, since a text may consist of any characters. A control
character in it is escaped, and what it is escaped by is a letter or a number.
-/

namespace ConnectionJobs.Json

/-- **A character is no control character**, so that it ends no line. -/
def Visible (c : Char) : Prop := 0x20 ≤ c.toNat

instance : DecidablePred Visible := fun c => inferInstanceAs (Decidable (0x20 ≤ c.toNat))

section Characters

variable {c : Char} {cs : List Char}

/-- Characters that are given can be looked at one by one. -/
theorem visible_of_all (all : cs.all (Visible ·) = true) : ∀ c ∈ cs, Visible c :=
  fun c inside => of_decide_eq_true (List.all_eq_true.mp all c inside)

theorem visible_of_isDigit (digit : isDigit c = true) : Visible c := by
  unfold isDigit at digit
  rw [Bool.and_eq_true, decide_eq_true_eq, decide_eq_true_eq] at digit
  exact Nat.le_trans (by decide) (digit.1 : '0'.toNat ≤ c.toNat)

theorem visible_withSign (negative : Bool) (visible : ∀ c ∈ cs, Visible c) :
    ∀ c ∈ Double.withSign negative cs, Visible c := by
  cases negative with
  | true => exact List.forall_mem_cons.mpr ⟨by decide, visible⟩
  | false => exact visible

/-- **A character in a written text** is spelled in visible characters. -/
theorem visible_escapedChar (c : Char) : ∀ d ∈ escapedChar c, Visible d := by
  have hexadecimal : ∀ d ∈ Text.writtenDigits, Visible d := visible_of_all rfl
  unfold escapedChar
  split_ifs with quote backslash backspace tab lineFeed formFeed carriageReturn control
  · exact visible_of_all rfl
  · exact visible_of_all rfl
  · exact visible_of_all rfl
  · exact visible_of_all rfl
  · exact visible_of_all rfl
  · exact visible_of_all rfl
  · exact visible_of_all rfl
  · exact List.forall_mem_cons.mpr ⟨by decide, List.forall_mem_cons.mpr ⟨by decide, fun d inside =>
      hexadecimal d (Text.mem_writtenDigits_of_mem_hexDigits inside)⟩⟩
  · exact List.forall_mem_singleton.mpr (Nat.not_lt.mp control)

theorem visible_quotedText (s : String) : ∀ c ∈ quotedText s, Visible c := by
  refine List.forall_mem_cons.mpr ⟨by decide, List.forall_mem_append.mpr ⟨fun c inside => ?_, visible_of_all rfl⟩⟩
  obtain ⟨character, -, inside⟩ := List.mem_flatMap.mp inside
  exact visible_escapedChar character c inside

end Characters

/-! ## Tokens -/

section Tokens

variable {w : Written}

theorem visible_digits {ds : List Char} (digits : Digits ds) : ∀ c ∈ ds, Visible c :=
  fun c inside => visible_of_isDigit (digits.2 c inside)

/-- A proper numeral is spelled in visible characters. -/
theorem visible_numeral (proper : w.Proper) : ∀ c ∈ w.spelling, Visible c := by
  refine List.forall_mem_append.mpr ⟨visible_digits proper.whole, List.forall_mem_append.mpr ⟨?fraction, ?exponent⟩⟩
  case fraction =>
    cases fraction : w.fraction with
    | none => exact List.forall_mem_nil _
    | some ds => exact List.forall_mem_cons.mpr ⟨by decide, visible_digits (proper.fraction ds fraction)⟩
  case exponent =>
    cases exponent : w.exponent with
    | none => exact List.forall_mem_nil _
    | some signed =>
      obtain ⟨negative, ds⟩ := signed
      refine List.forall_mem_cons.mpr ⟨by decide, List.forall_mem_cons.mpr ⟨?_, ?_⟩⟩
      · cases negative <;> decide
      · exact visible_digits (proper.exponent negative ds exponent)

/-- **Every token is spelled in visible characters.** -/
theorem visible_spelling (token : Token) : ∀ c ∈ token.spelling, Visible c := by
  cases token with
  | integer n => exact visible_withSign _ fun c inside => visible_of_isDigit (isDigit_of_mem_toDigits inside)
  | real x =>
    cases finite : x.isFinite with
    | true =>
      obtain ⟨d, w, writes, -, spelling⟩ := exists_writes finite
      rw [Token.spelling_finite finite, Double.documentText, spelling]
      exact visible_withSign _ (visible_numeral writes.proper)
    | false =>
      rw [Token.spelling_notFinite finite]
      exact visible_of_all rfl
  | text s => exact visible_quotedText s
  | boolean b => cases b <;> exact visible_of_all rfl
  | _ => exact visible_of_all rfl

end Tokens

/-! ## Values -/

/-- **A written value has no control character in it**, whatever its texts contain. -/
theorem visible_write (v : Json) : ∀ c ∈ v.write.toList, Visible c := by
  intro c inside
  rw [write, String.toList_ofList] at inside
  obtain ⟨token, -, inside⟩ := List.mem_flatMap.mp inside
  exact visible_spelling token c inside

end ConnectionJobs.Json
