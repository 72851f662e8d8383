import ConnectionJobs.Proofs.Json.Document
import Mathlib.Data.List.TakeWhile

/-!
# The texts that are read

A text that is read is a text of some value: nothing is read but what the grammar of documents has. The grammar is that
of `HasText`, in which a value is spelled token by token, so this is shown in two parts. The reader of tokens takes from
a text only what spells a token, whatever part of it is a number, a text or a word. The machine then ends only where its
tokens have been those of one value.

What a machine that has begun still demands of its tokens is said by `Closes` for the open containers, the innermost
first: the rest of its items or members, its bracket, and then what the containers around it demand. Going back over a
run, each step puts its token in front of what the next one demands.

With the converse, that every text of a value is read, this makes the documents that are read exactly the texts of
values that are not too deep (`readDocument?_eq_some_iff`).
-/

namespace ConnectionJobs.Json

/-! ## Numbers -/

section Numbers

variable {rules : Rules} {cs ds rest : List Char} {negative : Bool}

theorem eq_of_spanDigits (h : spanDigits cs = (ds, rest)) : cs = ds ++ rest ∧ ∀ c ∈ ds, isDigit c = true := by
  unfold spanDigits at h
  rw [List.span_eq_takeWhile_dropWhile, Prod.mk.injEq] at h
  obtain ⟨rfl, rfl⟩ := h
  exact ⟨List.takeWhile_append_dropWhile.symm, fun c => List.mem_takeWhile_imp⟩

/-- The digits before the point that are read are such digits. -/
theorem eq_of_readWhole (h : readWhole cs = some (ds, rest)) :
    cs = ds ++ rest ∧ Digits ds ∧ (ds.head? = some '0' → ds = ['0']) := by
  unfold readWhole at h
  split at h
  · exact nomatch h
  · rename_i after span
    cases h
    obtain ⟨shape, digits⟩ := eq_of_spanDigits span
    exact ⟨shape, ⟨List.cons_ne_nil _ _, digits⟩, fun _ => rfl⟩
  · exact nomatch h
  · rename_i digits after empty zero more span
    cases h
    obtain ⟨shape, all⟩ := eq_of_spanDigits span
    refine ⟨shape, ⟨empty, all⟩, fun leading => ?_⟩
    -- A zero with more digits after it is refused.
    obtain ⟨d, others, rfl⟩ := List.exists_cons_of_ne_nil empty
    obtain rfl := Option.some.inj leading
    cases others with
    | nil => rfl
    | cons d others => exact absurd rfl (more d others)

theorem eq_of_readFraction {fraction : Option (List Char)} (h : readFraction cs = some (fraction, rest)) :
    cs = Written.fractionSpelling fraction ++ rest ∧ ∀ ds, fraction = some ds → Digits ds := by
  unfold readFraction at h
  split at h
  · split at h
    · exact nomatch h
    · rename_i digits after nonempty span
      cases h
      obtain ⟨rfl, all⟩ := eq_of_spanDigits span
      refine ⟨rfl, fun ds same => ?_⟩
      obtain rfl := Option.some.inj same
      exact ⟨nonempty, all⟩
  · cases h
    exact ⟨rfl, nofun⟩

theorem eq_of_readExponentDigits {exponent : Option Int}
    (h : readExponentDigits negative cs = some (exponent, rest)) :
    ∃ ds, Digits ds ∧ cs = ds ++ rest ∧ exponent = some (Written.exponentValue (negative, ds)) := by
  unfold readExponentDigits at h
  split at h
  · exact nomatch h
  · rename_i digits after nonempty span
    cases h
    obtain ⟨rfl, all⟩ := eq_of_spanDigits span
    exact ⟨digits, ⟨nonempty, all⟩, rfl, rfl⟩

theorem eq_of_readExponent {exponent : Option Int} (h : readExponent cs = some (exponent, rest)) :
    ∃ e tail, Written.SpellsExponent e tail ∧ (∀ negative ds, e = some (negative, ds) → Digits ds) ∧
      cs = tail ++ rest ∧ exponent = e.map Written.exponentValue := by
  have digits_of {negative : Bool} {ds : List Char} (digits : Digits ds) :
      ∀ other ds', some (negative, ds) = some (other, ds') → Digits ds' := by
    rintro _ _ ⟨⟩
    exact digits
  unfold readExponent at h
  split at h
  · rename_i mark cs
    split_ifs at h with letter
    · rw [Bool.or_eq_true, beq_iff_eq, beq_iff_eq] at letter
      split at h
      · obtain ⟨ds, digits, rfl, rfl⟩ := eq_of_readExponentDigits h
        exact ⟨_, _, .signed false letter, digits_of digits, rfl, rfl⟩
      · obtain ⟨ds, digits, rfl, rfl⟩ := eq_of_readExponentDigits h
        exact ⟨_, _, .signed true letter, digits_of digits, rfl, rfl⟩
      · obtain ⟨ds, digits, rfl, rfl⟩ := eq_of_readExponentDigits h
        exact ⟨_, _, .unsigned letter, digits_of digits, rfl, rfl⟩
    · cases h
      exact ⟨none, [], .absent, nofun, rfl, rfl⟩
  · cases h
    exact ⟨none, [], .absent, nofun, rfl, rfl⟩

/-- **A numeral that is read is a proper one.** -/
theorem eq_of_readUnsigned {n : Numeral} (h : readUnsigned negative cs = some (n, rest)) :
    ∃ w lexeme, Written.Proper w ∧ w.Spells lexeme ∧ cs = lexeme ++ rest ∧ n = w.numeral negative := by
  unfold readUnsigned at h
  obtain ⟨⟨whole, afterWhole⟩, wholeRead, h⟩ := Option.bind_eq_some_iff.mp h
  obtain ⟨⟨fraction, afterFraction⟩, fractionRead, h⟩ := Option.bind_eq_some_iff.mp h
  obtain ⟨⟨exponent, after⟩, exponentRead, h⟩ := Option.bind_eq_some_iff.mp h
  cases h
  obtain ⟨rfl, digits, leading⟩ := eq_of_readWhole wholeRead
  obtain ⟨rfl, fractional⟩ := eq_of_readFraction fractionRead
  obtain ⟨e, tail, spells, exponential, rfl, rfl⟩ := eq_of_readExponent exponentRead
  refine ⟨⟨whole, fraction, e⟩, _, ⟨digits, leading, fractional, exponential⟩, ⟨tail, spells, rfl⟩, ?_, rfl⟩
  rw [List.append_assoc, List.append_assoc]

/-- **The token of a numeral is spelled by it.** -/
theorem spells_of_token {w : Written} {lexeme : List Char} {token : Token} (proper : w.Proper)
    (spells : w.Spells lexeme) (h : (w.numeral negative).token rules = some token) :
    token.Spells (Written.Fits rules) (Double.withSign negative lexeme) := by
  by_cases fits : w.Fits rules negative
  · obtain rfl := Option.some.inj ((token_of_fits fits).symm.trans h)
    exact .number negative proper fits spells
  · exact nomatch (token_of_not_fits fits).symm.trans h

/-- **A number that is read is spelled by what it is read from.** -/
theorem eq_of_readNumber {token : Token} (h : readNumber rules cs = some (token, rest)) :
    ∃ lexeme, token.Spells (Written.Fits rules) lexeme ∧ cs = lexeme ++ rest := by
  have numeral {negative : Bool} {cs : List Char}
      (h : ((readUnsigned negative cs).bind fun read =>
        (read.1.token rules).bind fun token => some (token, read.2)) = some (token, rest)) :
      ∃ lexeme, token.Spells (Written.Fits rules) (Double.withSign negative lexeme) ∧ cs = lexeme ++ rest := by
    obtain ⟨⟨n, after⟩, read, h⟩ := Option.bind_eq_some_iff.mp h
    obtain ⟨_, found, h⟩ := Option.bind_eq_some_iff.mp h
    cases h
    obtain ⟨w, lexeme, proper, spells, rfl, rfl⟩ := eq_of_readUnsigned read
    exact ⟨lexeme, spells_of_token proper spells found, rfl⟩
  unfold readNumber at h
  split at h
  · cases h
    exact ⟨_, .nan, rfl⟩
  · cases h
    exact ⟨_, .infinity false, rfl⟩
  · cases h
    exact ⟨_, .infinity true, rfl⟩
  · obtain ⟨lexeme, spells, rfl⟩ := numeral h
    exact ⟨_, spells, rfl⟩
  · obtain ⟨lexeme, spells, rfl⟩ := numeral h
    exact ⟨_, spells, rfl⟩

end Numbers

/-! ## Texts and words -/

section Texts

variable {rules : Rules} {cs rest : List Char}

theorem eq_of_loneUnit {n : Nat} {c : Char} (h : loneUnit none n = some c) :
    Text.isSurrogate n = false ∧ Char.ofNat n = c := by
  unfold loneUnit at h
  split_ifs at h with surrogate
  exact ⟨Bool.eq_false_iff.mpr surrogate, Option.some.inj h⟩

/-- **A text that is read is spelled by what it is read from**, character by character. -/
theorem eq_of_readText {acc acc' : List Char} (h : readText none acc cs = some (acc', rest)) :
    ∃ s body, SpellsChars s body ∧ acc' = s.reverse ++ acc ∧ cs = body ++ '"' :: rest := by
  -- A character that has been read stands in front of those that are read after it.
  have before {c : Char} {spelled cs acc : List Char} (first : SpellsChar c spelled)
      (others : ∃ s body, SpellsChars s body ∧ acc' = s.reverse ++ c :: acc ∧ cs = body ++ '"' :: rest) :
      ∃ s body, SpellsChars s body ∧ acc' = s.reverse ++ acc ∧ spelled ++ cs = body ++ '"' :: rest := by
    obtain ⟨s, body, spells, rfl, rfl⟩ := others
    refine ⟨c :: s, spelled ++ body, .cons first spells, ?_, (List.append_assoc _ _ _).symm⟩
    rw [List.reverse_cons, List.append_assoc, List.singleton_append]
  fun_induction readText none acc cs with
  | case1 => cases h
  | case2 acc rest' =>
    cases h
    exact ⟨[], [], .nil, rfl, rfl⟩
  | case3 acc a b c d e f g h' rest' n m low high pair ih =>
    obtain ⟨opens, closes⟩ := Bool.and_eq_true_iff.mp pair
    exact before (.pair high low opens closes) (ih h)
  | case4 acc a b c d e f g h' rest' n m low high pair char lone ih =>
    obtain ⟨alone, rfl⟩ := eq_of_loneUnit lone
    exact before (.number high alone) (ih h)
  | case7 acc a b c d rest' last char lone ih =>
    obtain ⟨n, value, lone⟩ := Option.bind_eq_some_iff.mp lone
    obtain ⟨alone, rfl⟩ := eq_of_loneUnit lone
    exact before (.number value alone) (ih h)
  | case9 acc letter rest' pairs numbers char found ih =>
    exact before (.letter (escapeLetter_eq_some_iff.mp found)) (ih h)
  | case12 acc c rest' quote pairs numbers letters visible ih =>
    have backslash : c ≠ '\\' := by
      rintro rfl
      cases rest' with
      | nil => cases h
      | cons d rest' => exact letters d rest' rfl rfl
    exact before (.plain quote backslash visible) (ih h)
  | case5 | case6 | case8 | case10 | case11 => cases h

/-- **A token that is read is spelled by what it is read from**, where nothing stands for half of a surrogate pair. -/
theorem eq_of_readToken {token : Token} (paired : rules.unpaired = none)
    (h : readToken rules cs = some (token, rest)) :
    ∃ lexeme, token.Spells (Written.Fits rules) lexeme ∧ cs = lexeme ++ rest := by
  unfold readToken at h
  split at h
  · cases h
  · rename_i c cs
    simp only [beq_iff_eq] at h
    split_ifs at h with array closeArray object closeObject comma colon quote
    · cases h
      exact ⟨_, .fixed .openArray trivial, congrArg (· :: _) array⟩
    · cases h
      exact ⟨_, .fixed .closeArray trivial, congrArg (· :: _) closeArray⟩
    · cases h
      exact ⟨_, .fixed .openObject trivial, congrArg (· :: _) object⟩
    · cases h
      exact ⟨_, .fixed .closeObject trivial, congrArg (· :: _) closeObject⟩
    · cases h
      exact ⟨_, .fixed .comma trivial, congrArg (· :: _) comma⟩
    · cases h
      exact ⟨_, .fixed .colon trivial, congrArg (· :: _) colon⟩
    · obtain ⟨⟨acc, after⟩, read, same⟩ := Option.map_eq_some_iff.mp h
      cases same
      rw [paired] at read
      obtain ⟨s, body, spells, rfl, rfl⟩ := eq_of_readText read
      have chars : (String.ofList (s.reverse ++ []).reverse).toList = s := by
        rw [List.append_nil, List.reverse_reverse, String.toList_ofList]
      refine ⟨_, .text (chars.symm ▸ spells), ?_⟩
      rw [quote, List.cons_append, List.append_assoc]
      rfl
    · split at h
      · cases h
        exact ⟨_, .fixed .null trivial, rfl⟩
      · cases h
        exact ⟨_, .fixed (.boolean true) trivial, rfl⟩
      · cases h
        exact ⟨_, .fixed (.boolean false) trivial, rfl⟩
      · exact eq_of_readNumber h

theorem Lexes.cons_space {fit : Bool → Written → Prop} {c : Char} {ts : List Token} (space : isSpace c = true)
    (text : Lexes fit ts cs) : Lexes fit ts (c :: cs) := by
  cases text with
  | done spaces => exact .done (List.forall_mem_cons.mpr ⟨space, spaces⟩)
  | token spaces spells others => exact .token (List.forall_mem_cons.mpr ⟨space, spaces⟩) spells others

/-- **A text that is read to its end is a text of the tokens that are read.** -/
theorem lexes_of_readTokens {ts : List Token} {fuel : Nat} (paired : rules.unpaired = none)
    (h : readTokens rules fuel cs = (ts, true)) : Lexes (Written.Fits rules) ts cs := by
  induction fuel generalizing cs ts with
  | zero =>
    cases cs with
    | nil =>
      cases h
      exact .done nofun
    | cons c cs => cases h
  | succ fuel ih =>
    cases cs with
    | nil =>
      cases h
      exact .done nofun
    | cons c cs =>
      unfold readTokens at h
      split_ifs at h with space
      · exact (ih h).cons_space space
      · split at h
        · cases h
        · rename_i token rest read
          obtain ⟨lexeme, spells, shape⟩ := eq_of_readToken paired read
          obtain ⟨rfl, allRead⟩ := Prod.mk.inj h
          rw [shape]
          exact .cons spells (ih (Prod.ext rfl allRead))

end Texts

/-! ## The machine -/

/-- **What open containers demand** of the tokens after a value that is completed in them, for a result: the innermost
one its further items or members and its bracket, and the others the same after that. -/
def Closes (result : Json) : Json → List Frame → List Token → Prop
  | value, [], ts => ts = [] ∧ value = result
  | value, .array done :: stack, ts => ∃ items rest, ts = tokensOfItems items rest ∧
    Closes result (.array ((value :: done).reverse ++ settledItems items)) stack rest
  | value, .member done key :: stack, ts => ∃ members rest, ts = tokensOfMembers members rest ∧
    Closes result (.object (Keyed.settle (((key, value) :: done).reverse ++ settledMembers members))) stack rest
  | _, .object _ :: _, _ => False

/-- A value is due, and then what the containers demand. -/
def ValueDue (result : Json) (stack : List Frame) (ts : List Token) : Prop :=
  ∃ v rest, ts = tokensOf v rest ∧ Closes result v.settled stack rest

/-- A key is due, and its value. -/
def KeyDue (result : Json) (stack : List Frame) (ts : List Token) : Prop :=
  ∃ done outer key rest, stack = .object done :: outer ∧ ts = .text key :: .colon :: rest ∧
    ValueDue result (.member done key :: outer) rest

/-- Further items are due, and the bracket of their array. -/
def ItemsDue (result : Json) (done : List Json) (stack : List Frame) (ts : List Token) : Prop :=
  ∃ items rest, ts = tokensOfItems items rest ∧
    Closes result (.array (done.reverse ++ settledItems items)) stack rest

/-- Further members are due, and the bracket of their object. -/
def MembersDue (result : Json) (done : Members) (stack : List Frame) (ts : List Token) : Prop :=
  ∃ members rest, ts = tokensOfMembers members rest ∧
    Closes result (.object (Keyed.settle (done.reverse ++ settledMembers members))) stack rest

/-- **What a machine demands** of its tokens, for a result. -/
def Demands (result : Json) : Machine → List Token → Prop
  | ⟨.value, stack⟩, ts => ValueDue result stack ts
  | ⟨.firstItem, stack⟩, ts => ValueDue result stack ts ∨
    ∃ done outer rest, stack = .array done :: outer ∧ ts = .closeArray :: rest ∧
      Closes result (.array done.reverse) outer rest
  | ⟨.firstKey, stack⟩, ts => KeyDue result stack ts ∨
    ∃ done outer rest, stack = .object done :: outer ∧ ts = .closeObject :: rest ∧
      Closes result (.object (Keyed.settle done.reverse)) outer rest
  | ⟨.key, stack⟩, ts => KeyDue result stack ts
  | ⟨.colon, stack⟩, ts => ∃ rest, ts = .colon :: rest ∧ ValueDue result stack rest
  | ⟨.separator, .array done :: stack⟩, ts => ItemsDue result done stack ts
  | ⟨.separator, .object done :: stack⟩, ts => MembersDue result done stack ts
  | ⟨.separator, _⟩, _ => False
  | ⟨.done value, _⟩, ts => ts = [] ∧ value = result

section Machine

variable {rules : Rules} {result value : Json} {machine next : Machine} {stack : List Frame} {token : Token}
  {ts : List Token}

/-- What is demanded once a value is completed is what the containers demand. -/
theorem closes_of_complete (completed : complete value stack = .ok next) (demands : Demands result next ts) :
    Closes result value stack ts := by
  cases stack with
  | nil =>
    cases completed
    exact demands
  | cons frame stack =>
    cases frame with
    | object members => cases completed
    | array items | member members key =>
      cases completed
      exact demands

/-- A scalar is a value. -/
theorem valueDue_scalar {v : Json} (spelled : tokensOf v ts = token :: ts) (same : v.settled = v)
    (completed : completeScalar rules stack v = .ok next) (demands : Demands result next ts) :
    ValueDue result stack (token :: ts) := by
  unfold completeScalar at completed
  split_ifs at completed
  exact ⟨v, ts, spelled.symm, same.symm ▸ closes_of_complete completed demands⟩

/-- Behind an opening bracket, items are those of an array. -/
theorem valueDue_array (demands : Demands result ⟨.firstItem, .array [] :: stack⟩ ts) :
    ValueDue result stack (.openArray :: ts) := by
  obtain ⟨v, _, rfl, items, rest, rfl, closes⟩ | ⟨done, outer, rest, same, rfl, closes⟩ := demands
  · exact ⟨.array (v :: items), rest, by rw [tokensOf], closes⟩
  · cases same
    exact ⟨.array [], rest, by rw [tokensOf], closes⟩

/-- Behind an opening brace, members are those of an object. -/
theorem valueDue_object (demands : Demands result ⟨.firstKey, .object [] :: stack⟩ ts) :
    ValueDue result stack (.openObject :: ts) := by
  obtain ⟨done, outer, key, _, same, rfl, v, _, rfl, members, rest, rfl, closes⟩ |
    ⟨done, outer, rest, same, rfl, closes⟩ := demands
  · cases same
    exact ⟨.object ((key, v) :: members), rest, by rw [tokensOf], closes⟩
  · cases same
    exact ⟨.object [], rest, by rw [tokensOf], closes⟩

/-- **A token that starts a value stands in front of the rest of it.** -/
theorem valueDue_of_startValue (started : startValue rules stack token = .ok next)
    (demands : Demands result next ts) : ValueDue result stack (token :: ts) := by
  cases token with
  | openArray =>
    unfold startValue at started
    split_ifs at started
    cases started
    exact valueDue_array demands
  | openObject =>
    unfold startValue at started
    split_ifs at started
    cases started
    exact valueDue_object demands
  | null => exact valueDue_scalar (by rw [tokensOf]) (by rw [settled]) started demands
  | boolean b => exact valueDue_scalar (by rw [tokensOf]) (by rw [settled]) started demands
  | integer n => exact valueDue_scalar (by rw [tokensOf]) (by rw [settled]) started demands
  | real x => exact valueDue_scalar (by rw [tokensOf]) (by rw [settled]) started demands
  | text s => exact valueDue_scalar (by rw [tokensOf]) (by rw [settled]) started demands
  | closeArray | closeObject | comma | colon => cases started

theorem keyDue_of_startKey (started : startKey stack token = .ok next) (demands : Demands result next ts) :
    KeyDue result stack (token :: ts) := by
  unfold startKey at started
  split at started
  · split at started
    · cases started
      obtain ⟨rest, rfl, due⟩ := demands
      exact ⟨_, _, _, rest, rfl, rfl, due⟩
    · cases started
  · cases started

/-- Behind a comma, an item is one of those that are due. -/
theorem itemsDue_comma {done : List Json} (due : ValueDue result (.array done :: stack) ts) :
    ItemsDue result done stack (.comma :: ts) := by
  obtain ⟨v, _, rfl, items, rest, rfl, closes⟩ := due
  refine ⟨v :: items, rest, by rw [tokensOfItems], ?_⟩
  rwa [List.reverse_cons, List.append_assoc] at closes

/-- Behind a comma, a member is one of those that are due. -/
theorem membersDue_comma {done : Members} (due : KeyDue result (.object done :: stack) ts) :
    MembersDue result done stack (.comma :: ts) := by
  obtain ⟨_, _, key, _, same, rfl, v, _, rfl, members, rest, rfl, closes⟩ := due
  cases same
  refine ⟨(key, v) :: members, rest, by rw [tokensOfMembers], ?_⟩
  rwa [List.reverse_cons, List.append_assoc] at closes

/-- **Every step puts its token in front of what is demanded after it.** -/
theorem demands_of_step (taken : step rules machine token = .ok next) (demands : Demands result next ts) :
    Demands result machine (token :: ts) := by
  obtain ⟨phase, stack⟩ := machine
  unfold step at taken
  dsimp only at taken
  split at taken
  · exact valueDue_of_startValue taken demands
  · exact .inr ⟨_, _, ts, rfl, rfl, closes_of_complete taken demands⟩
  · exact .inl (valueDue_of_startValue taken demands)
  · exact .inr ⟨_, _, ts, rfl, rfl, closes_of_complete taken demands⟩
  · exact .inl (keyDue_of_startKey taken demands)
  · exact keyDue_of_startKey taken demands
  · cases taken
    exact ⟨ts, rfl, demands⟩
  · cases taken
    exact itemsDue_comma demands
  · cases taken
    exact membersDue_comma demands
  · refine ⟨[], ts, rfl, ?_⟩
    rw [settledItems, List.append_nil]
    exact closes_of_complete taken demands
  · refine ⟨[], ts, rfl, ?_⟩
    rw [settledMembers, List.append_nil]
    exact closes_of_complete taken demands
  · cases taken

/-- **A run that ends with a value has taken what is demanded for it**, by induction on the tokens. -/
theorem demands_of_run (ran : run rules machine ts = .ok ⟨.done result, stack⟩) : Demands result machine ts := by
  induction ts generalizing machine with
  | nil =>
    cases ran
    exact ⟨rfl, rfl⟩
  | cons token ts ih =>
    rw [run_cons] at ran
    obtain ⟨next, taken, ran⟩ : ∃ next, step rules machine token = .ok next ∧ run rules next ts = _ := by
      cases taken : step rules machine token with
      | error u =>
        rw [taken] at ran
        cases ran
      | ok next =>
        rw [taken] at ran
        exact ⟨next, rfl, ran⟩
    exact demands_of_step taken (ih ran)

end Machine

/-! ## Documents -/

section Documents

variable {rules : Rules} {s : String} {v : Json}

/-- **What is read is what some value means**, under any rules: the text is read to its end, as the tokens of a value
that has no more levels than the rules allow. -/
theorem exists_tokensOf_of_read (h : read rules s = .ok v) :
    ∃ raw, tokens rules s = (tokensOf raw [], true) ∧ raw.height rules.scalar ≤ rules.levels ∧ raw.settled = v := by
  unfold Json.read at h
  generalize tokens rules s = result at h ⊢
  obtain ⟨ts, allRead⟩ := result
  dsimp only at h
  split at h
  · cases h
  · rename_i value stack ran
    cases allRead with
    | false => cases h
    | true =>
    cases h
    obtain ⟨raw, _, rfl, rfl, same⟩ := demands_of_run ran
    refine ⟨raw, rfl, ?_, same⟩
    -- A higher value would have stopped the machine.
    by_contra high
    obtain ⟨u, stopped⟩ := refused rules raw [] [] (by rwa [List.length_nil, Nat.zero_add, ← Nat.not_le])
    exact nomatch ran.symm.trans stopped
  · cases h

/-- **No key repeats in what is read.** -/
theorem distinct_of_read (h : read rules s = .ok v) : v.Distinct := by
  obtain ⟨raw, -, -, rfl⟩ := exists_tokensOf_of_read h
  exact distinct_settled raw

/-- **What can have been read**, with a limit on the depth: no key repeats, and integers are short. -/
structure Readable [Release] (limit : Nat) (v : Json) : Prop where
  /-- It is no deeper than the limit. -/
  shallow : v.depth ≤ limit
  /-- No key of an object repeats. -/
  distinct : v.Distinct
  /-- Every integer is short enough for a reader. -/
  short : v.Short

variable [Release]

/-- **What is read from a document is what some value means**, and the document is a text of that value. -/
theorem exists_hasText (read : readDocument? s = some v) :
    ∃ raw, HasText raw s ∧ raw.depth ≤ 201 ∧ raw.settled = v := by
  unfold readDocument? at read
  cases outcome : Json.read documentRules s with
  | error u =>
    rw [outcome] at read
    cases read
  | ok value =>
    rw [outcome] at read
    obtain rfl : value = v := Option.some.inj read
    obtain ⟨raw, scanned, shallow, same⟩ := exists_tokensOf_of_read outcome
    exact ⟨raw, lexes_of_readTokens rfl scanned, shallow, same⟩

/-- **The documents that are read are the texts of values that are at most two hundred and one levels deep.** -/
theorem readDocument?_eq_some_iff :
    readDocument? s = some v ↔ ∃ raw, HasText raw s ∧ raw.depth ≤ 201 ∧ raw.settled = v := by
  constructor
  · exact exists_hasText
  · rintro ⟨raw, text, shallow, rfl⟩
    exact readDocument?_of_hasText text shallow

/-- **What is read can have been read.** -/
theorem readable_of_readDocument? (read : readDocument? s = some v) : v.Readable 201 := by
  obtain ⟨raw, text, shallow, rfl⟩ := exists_hasText read
  refine ⟨(height_settled_le 1 raw).trans shallow, distinct_settled raw, fun n inside => ?_⟩
  obtain ⟨part, same, inside⟩ := exists_part_of_settled inside
  cases part with
  | integer m =>
    rw [settled, integer.injEq] at same
    exact same ▸ text.short m inside
  | null | boolean | real | text | array | object =>
    rw [settled] at same
    cases same

end Documents

end ConnectionJobs.Json
