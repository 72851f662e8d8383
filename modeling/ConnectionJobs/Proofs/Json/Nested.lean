import ConnectionJobs.Proofs.Json.LongNumber

/-!
# Texts in texts

What is read in one place can be read in another: a free text of a value stands in a free text of an object that has the
value (`HasFreeText.member`), so that a document can be put together around a text. The tokens of a value stand in front
of whatever follows, and texts of tokens are put one after the other.
-/

namespace ConnectionJobs.Json

/-! ## Tokens in a row -/

section Tokens

variable {fit : Bool → Written → Prop} {ts us : List Token} {cs ds : List Char}

theorem tokensOfItems_append {items : List Json} {rest : List Token}
    (each : ∀ item ∈ items, ∀ rest more, tokensOf item (rest ++ more) = tokensOf item rest ++ more)
    (more : List Token) : tokensOfItems items (rest ++ more) = tokensOfItems items rest ++ more := by
  induction items with
  | nil => rfl
  | cons item items ih =>
    obtain ⟨first, others⟩ := List.forall_mem_cons.mp each
    rw [tokensOfItems, ih others, first, tokensOfItems, List.cons_append]

theorem tokensOfMembers_append {members : Members} {rest : List Token}
    (each : ∀ member ∈ members, ∀ rest more, tokensOf member.2 (rest ++ more) = tokensOf member.2 rest ++ more)
    (more : List Token) : tokensOfMembers members (rest ++ more) = tokensOfMembers members rest ++ more := by
  induction members with
  | nil => rfl
  | cons member members ih =>
    obtain ⟨first, others⟩ := List.forall_mem_cons.mp each
    rw [tokensOfMembers, ih others, first, tokensOfMembers]
    rfl

/-- **The tokens of a value stand in front of the tokens that follow**, whatever they are. -/
theorem tokensOf_append (v : Json) (rest more : List Token) : tokensOf v (rest ++ more) = tokensOf v rest ++ more := by
  induction v using induction generalizing rest more with
  | null | boolean | integer | real | text =>
    rw [tokensOf, tokensOf]
    rfl
  | array items each =>
    cases items with
    | nil =>
      rw [tokensOf, tokensOf]
      rfl
    | cons item items =>
      obtain ⟨first, others⟩ := List.forall_mem_cons.mp each
      rw [tokensOf, tokensOf, tokensOfItems_append others, first]
      rfl
  | object members each =>
    cases members with
    | nil =>
      rw [tokensOf, tokensOf]
      rfl
    | cons member members =>
      obtain ⟨first, others⟩ := List.forall_mem_cons.mp each
      rw [tokensOf, tokensOf, tokensOfMembers_append others, first]
      rfl

theorem Lexes.spaced {ws : List Char} (spaces : Spaces ws) (text : Lexes fit ts cs) :
    Lexes fit ts (ws ++ cs) := by
  cases text with
  | done more => exact .done (List.forall_mem_append.mpr ⟨spaces, more⟩)
  | token more spells others =>
    rw [← List.append_assoc]
    exact .token (List.forall_mem_append.mpr ⟨spaces, more⟩) spells others

/-- **Texts are put one after the other.** -/
theorem Lexes.append (text : Lexes fit ts cs) (next : Lexes fit us ds) :
    Lexes fit (ts ++ us) (cs ++ ds) := by
  induction text with
  | done spaces => exact next.spaced spaces
  | token spaces spells others ih =>
    rw [List.append_assoc, List.append_assoc]
    exact .token spaces spells ih

end Tokens

/-! ## Texts in texts -/

section Members

variable {v : Json} {t key : String}

/-- **The text of an object with one member**, around the text of its value. -/
def memberText (key t : String) : String :=
  String.ofList ('\x7b' :: (quotedText key ++ ':' :: (t.toList ++ ['\x7d'])))

/-- **A free text of a value stands in one of an object that has the value.** -/
theorem HasFreeText.member (text : v.HasFreeText t) (key : String) :
    (object [(key, v)]).HasFreeText (memberText key t) := by
  have done : Lexes (fun _ _ => True) [] [] := .done nofun
  have quoted : (Token.text key).Spells (fun _ _ => True) (quotedText key) := .text (spellsChars_flatMap key.toList)
  have opening : Lexes (fun _ _ => True) [.openObject, .text key, .colon] ('\x7b' :: (quotedText key ++ [':'])) :=
    Lexes.cons (.fixed .openObject trivial) (Lexes.cons quoted (Lexes.cons (.fixed .colon trivial) done))
  have closing : Lexes (fun _ _ => True) [.closeObject] ['\x7d'] := Lexes.cons (.fixed .closeObject trivial) done
  have whole := opening.append (text.append closing)
  have tokens : tokensOf (object [(key, v)]) [] =
      [.openObject, .text key, .colon] ++ (tokensOf v [] ++ [.closeObject]) := by
    rw [tokensOf, tokensOfMembers, ← tokensOf_append]
    rfl
  unfold HasFreeText memberText
  rw [tokens, String.toList_ofList]
  simpa using whole

end Members

end ConnectionJobs.Json
