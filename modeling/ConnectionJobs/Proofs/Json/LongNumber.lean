import ConnectionJobs.Proofs.Json.Document

/-!
# Documents with long numbers

The grammar of documents bounds no number, and the reader does: it gives up at a number that has too many digits before
its point. So the texts of a value are looked at here without that limit. Such a *free text* is a text that the reader
takes, or the reader reads nothing from it (`Lexes.within_or_stops`). There is no third case, in which a long number
would be read as something else.

A free text need not be read up to its first long number by chance: what stands before the number is read as in any
text, and there the reader stops, whatever follows. That is the induction, along the tokens.
-/

namespace ConnectionJobs.Json

/-- **A free text of a value**: a text of its tokens, with numbers of any length. -/
def HasFreeText (v : Json) (t : String) : Prop := Lexes (fun _ _ => True) (tokensOf v []) t.toList

/-! ## Where the reader stops -/

section Stops

variable {rules : Rules} {fit : Bool → Written → Prop} {ts : List Token} {token : Token} {cs lexeme : List Char}
  {t : String}

/-- A text is a free text. -/
theorem Lexes.free (text : Lexes fit ts cs) : Lexes (fun _ _ => True) ts cs := text.mono fun _ _ _ _ => trivial

/-- **The reader of tokens stops** at a text: it does not come to its end. -/
def Stops (rules : Rules) (cs : List Char) : Prop :=
  ∀ fuel, cs.length ≤ fuel → (readTokens rules fuel cs).2 = false

/-- A token that cannot be read stops the reader. -/
theorem stops_of_unread {ws : List Char} (spaces : Spaces ws) (visible : ∃ c tail, cs = c :: tail ∧ isSpace c = false)
    (unread : readToken rules cs = none) : Stops rules (ws ++ cs) := by
  intro fuel enough
  obtain ⟨left, more, same⟩ := readTokens_spaces rules spaces enough
  obtain ⟨c, tail, rfl, visible⟩ := visible
  obtain ⟨left, rfl⟩ := Nat.exists_eq_add_of_lt (Nat.lt_of_lt_of_le (Nat.succ_pos _) more)
  rw [same, readTokens_none visible unread]

/-- What stops the reader stops it behind a token too. -/
theorem Stops.behind {ws : List Char} (stops : Stops rules cs) (spaces : Spaces ws)
    (visible : ∃ c tail, lexeme = c :: tail ∧ isSpace c = false)
    (read : readToken rules (lexeme ++ cs) = some (token, cs)) : Stops rules (ws ++ (lexeme ++ cs)) := by
  intro fuel enough
  obtain ⟨left, more, same⟩ := readTokens_token rules spaces visible read enough
  rw [same]
  exact stops left more

/-- **A text is one that the reader takes, or it stops the reader**, by induction on the tokens. -/
theorem Lexes.within_or_stops (text : Lexes fit ts cs) (apart : Apart ts) :
    Lexes (Written.Fits rules) ts cs ∨ Stops rules cs := by
  induction text with
  | done spaces => exact .inl (.done spaces)
  | @token ws lexeme cs token ts spaces spells others ih =>
    have ends (number : token.IsNumber) : EndsNumeral cs := others.endsNumeral (apart.1 number)
    obtain within | unread := spells.within_or_unread ends
    · exact (ih apart.2).imp (.token spaces within) fun stops =>
        stops.behind spaces within.visible (readToken_spells within ends)
    · obtain ⟨c, tail, shape, visible⟩ := spells.visible
      refine .inr (stops_of_unread spaces ⟨c, tail ++ cs, ?_, visible⟩ unread)
      rw [shape, List.cons_append]

/-- **A text at which the reader stops is not read.** -/
theorem exists_error_of_stops (stops : Stops rules t.toList) : ∃ u, read rules t = .error u := by
  have unread := stops _ (Nat.le_refl _)
  unfold read tokens
  dsimp only
  generalize readTokens rules t.toList.length t.toList = result at unread ⊢
  obtain ⟨tokens, complete⟩ := result
  obtain rfl : complete = false := unread
  dsimp only
  split <;> exact ⟨_, rfl⟩

end Stops

/-! ## Values with long numbers -/

section Values

variable {rules : Rules} {v : Json} {t : String}

/-- A free text is one that the reader takes, or it is not read. -/
theorem HasFreeText.within_or_unread (text : v.HasFreeText t) :
    Lexes (Written.Fits rules) (tokensOf v []) t.toList ∨ ∃ u, read rules t = .error u :=
  (Lexes.within_or_stops text (apart_tokensOf v)).imp_right exists_error_of_stops

/-- **A free text is not read when some integer in its value is too long.** -/
theorem exists_error_of_long (text : v.HasFreeText t) (long : ¬v.Fits rules.countsSign) :
    ∃ u, read rules t = .error u :=
  text.within_or_unread.resolve_left fun within => long (v.allFit_tokensOf.mp within.fits)

/-- **Where doubles are not limited, a free text is read as what its value means**, when the integers in it are
short. -/
theorem read_of_free (unlimited : rules.limitsReals = false) (text : v.HasFreeText t)
    (fits : v.Fits rules.countsSign) (shallow : v.height rules.scalar ≤ rules.levels) :
    read rules t = .ok v.settled :=
  read_of_lexes (Lexes.within unlimited text (v.allFit_tokensOf.mpr fits)) shallow

/-- **A written value is a free text** of what it is written as, however long its integers are. -/
theorem hasFreeText_write (v : Json) : v.written.HasFreeText v.write := by
  have spelled (ts : List Token) : Lexes (fun _ _ => True) (ts.map Token.asRead) (spell ts) := by
    induction ts with
    | nil => exact .done nofun
    | cons token ts ih => exact .cons token.spells_freely ih
  have tokens : tokensOf v.written [] = (tokensOf v []).map Token.asRead := tokensOf_written v []
  rw [HasFreeText, tokens, write, String.toList_ofList]
  exact spelled (tokensOf v [])

end Values

/-! ## Documents with long numbers -/

section Documents

variable [Release] {v : Json} {t : String}

theorem HasText.free (text : v.HasText t) : v.HasFreeText t := Lexes.free text

theorem readDocument?_of_error {u : Unreadable} (unread : read documentRules t = .error u) :
    readDocument? t = none := by
  rw [readDocument?, unread]
  rfl

/-- **A free text of a value is a text of it, or it is not read.** -/
theorem HasFreeText.hasText_or_unread (text : v.HasFreeText t) : v.HasText t ∨ readDocument? t = none :=
  text.within_or_unread.imp_right fun ⟨_, unread⟩ => readDocument?_of_error unread

/-- **A free text is within all limits, or it is not read.** -/
theorem HasFreeText.inReach_or_unread (text : v.HasFreeText t) :
    (v.depth ≤ 201 ∧ v.HasText t) ∨ readDocument? t = none := by
  obtain within | unread := text.hasText_or_unread
  · obtain deep | shallow := Nat.lt_or_ge 201 v.depth
    · exact .inr (readDocument?_of_deep within deep)
    · exact .inl ⟨shallow, within⟩
  · exact .inr unread

/-- A written document with too long an integer is not read back. -/
theorem readDocument?_long (long : ¬v.Short) : readDocument? v.write = none := by
  have stopped : ∃ u, read documentRules v.write = .error u :=
    exists_error_of_long (hasFreeText_write v) fun fits => long (fits_written.mp fits)
  obtain ⟨u, unread⟩ := stopped
  exact readDocument?_of_error unread

/-- **A written document outside the limits is not read back.** -/
theorem readDocument?_outside (outside : ¬(v.depth ≤ 201 ∧ v.Short)) : readDocument? v.write = none := by
  by_cases short : v.Short
  · by_cases shallow : v.depth ≤ 201
    · exact absurd ⟨shallow, short⟩ outside
    · exact readDocument?_deep short (Nat.not_le.mp shallow)
  · exact readDocument?_long short

end Documents

end ConnectionJobs.Json
