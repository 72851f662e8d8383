import ConnectionJobs.Json.Reader
import ConnectionJobs.Proofs.Json.Spelling
import ConnectionJobs.Proofs.Json.Value

/-!
# Documents that are read

A *text of a value* is a text of its tokens, with white space wherever it may stand and each token spelled in any of its
ways. Every text of a value that a reader takes is read as what the value means, `settled`, as long as the reader has a
level left for every part of the value. The text that a value is written as is one of them, but it is a text of the
value as it is *written*; and the limits are those of the reader, and the writer has others, so a document can be
written that cannot be read.

The reader is a machine that takes one token after the other. What carries the induction over a value is that the
machine, when it waits for a value and is given the tokens of one, ends where completing the value in one step would
have taken it, and this whatever containers are open and whatever follows. How many levels a value needs is its height,
in which a scalar counts for as much as the rules of the reader say.
-/

namespace ConnectionJobs.Json

/-! ## The tokens of a value -/

section Tokens

variable {rest : List Token}

/-- The items of an array start with a comma or end. -/
theorem noNumberFirst_items (items : List Json) (rest : List Token) : NoNumberFirst (tokensOfItems items rest) := by
  cases items with
  | nil => exact fun token head => Option.some.inj head ▸ id
  | cons item items =>
    rw [tokensOfItems]
    exact fun token head => Option.some.inj head ▸ id

/-- The members of an object start with a comma or end. -/
theorem noNumberFirst_members (members : Members) (rest : List Token) :
    NoNumberFirst (tokensOfMembers members rest) := by
  cases members with
  | nil => exact fun token head => Option.some.inj head ▸ id
  | cons member members =>
    rw [tokensOfMembers]
    exact fun token head => Option.some.inj head ▸ id

/-- The tokens of a value stand apart in front of whatever starts with no number. -/
def KeepsApart (v : Json) : Prop :=
  ∀ rest, NoNumberFirst rest → Apart rest → Apart (tokensOf v rest)

theorem apart_items {items : List Json} (each : ∀ item ∈ items, item.KeepsApart) (apart : Apart rest) :
    Apart (tokensOfItems items rest) := by
  induction items with
  | nil => exact ⟨nofun, apart⟩
  | cons item items ih =>
    obtain ⟨first, others⟩ := List.forall_mem_cons.mp each
    rw [tokensOfItems]
    exact ⟨nofun, first _ (noNumberFirst_items items rest) (ih others)⟩

theorem apart_members {members : Members} (each : ∀ member ∈ members, member.2.KeepsApart) (apart : Apart rest) :
    Apart (tokensOfMembers members rest) := by
  induction members with
  | nil => exact ⟨nofun, apart⟩
  | cons member members ih =>
    obtain ⟨first, others⟩ := List.forall_mem_cons.mp each
    rw [tokensOfMembers]
    exact ⟨nofun, nofun, nofun, first _ (noNumberFirst_members members rest) (ih others)⟩

theorem keepsApart (v : Json) : v.KeepsApart := by
  induction v using induction with
  | null | boolean | integer | real | text =>
    intro rest first apart
    rw [tokensOf]
    exact ⟨fun _ => first, apart⟩
  | array items each =>
    intro rest _ apart
    cases items with
    | nil =>
      rw [tokensOf]
      exact ⟨nofun, nofun, apart⟩
    | cons item items =>
      obtain ⟨first, others⟩ := List.forall_mem_cons.mp each
      rw [tokensOf]
      exact ⟨nofun, first _ (noNumberFirst_items items rest) (apart_items others apart)⟩
  | object members each =>
    intro rest _ apart
    cases members with
    | nil =>
      rw [tokensOf]
      exact ⟨nofun, nofun, apart⟩
    | cons member members =>
      obtain ⟨first, others⟩ := List.forall_mem_cons.mp each
      rw [tokensOf]
      exact ⟨nofun, nofun, nofun, first _ (noNumberFirst_members members rest) (apart_members others apart)⟩

/-- **The tokens of a value stand apart.** -/
theorem apart_tokensOf (v : Json) : Apart (tokensOf v []) := keepsApart v [] nofun trivial

theorem tokensOfItems_written {items : List Json}
    (each : ∀ item ∈ items, ∀ rest, tokensOf item.written (rest.map Token.asRead) =
      (tokensOf item rest).map Token.asRead) :
    tokensOfItems (writtenItems items) (rest.map Token.asRead) = (tokensOfItems items rest).map Token.asRead := by
  induction items with
  | nil => rfl
  | cons item items ih =>
    obtain ⟨first, others⟩ := List.forall_mem_cons.mp each
    rw [writtenItems, tokensOfItems, ih others, first, tokensOfItems, List.map_cons]
    rfl

theorem tokensOfMembers_written {members : Members}
    (each : ∀ member ∈ members, ∀ rest, tokensOf member.2.written (rest.map Token.asRead) =
      (tokensOf member.2 rest).map Token.asRead) :
    tokensOfMembers (writtenMembers members) (rest.map Token.asRead) =
      (tokensOfMembers members rest).map Token.asRead := by
  induction members with
  | nil => rfl
  | cons member members ih =>
    obtain ⟨first, others⟩ := List.forall_mem_cons.mp each
    rw [writtenMembers, tokensOfMembers, ih others, first, tokensOfMembers, List.map_cons, List.map_cons,
      List.map_cons]
    rfl

/-- **The tokens of a value are read back as the tokens of what the value is written as.** -/
theorem tokensOf_written (v : Json) (rest : List Token) :
    tokensOf v.written (rest.map Token.asRead) = (tokensOf v rest).map Token.asRead := by
  induction v using induction generalizing rest with
  | null | boolean | integer | text => rfl
  | real x =>
    rw [written, tokensOf, List.map_cons, Token.asRead]
    cases x.isFinite <;> rfl
  | array items each =>
    cases items with
    | nil => rfl
    | cons item items =>
      obtain ⟨first, others⟩ := List.forall_mem_cons.mp each
      rw [written, writtenItems, tokensOf, tokensOfItems_written others, first, tokensOf, List.map_cons]
      rfl
  | object members each =>
    cases members with
    | nil => rfl
    | cons member members =>
      obtain ⟨first, others⟩ := List.forall_mem_cons.mp each
      rw [written, writtenMembers, tokensOf, tokensOfMembers_written others, first, tokensOf, List.map_cons,
        List.map_cons, List.map_cons]
      rfl

variable {countsSign : Bool}

/-- A reader takes all tokens as they are written. -/
def AllFit (countsSign : Bool) (ts : List Token) : Prop := ∀ token ∈ ts, token.Fits countsSign

theorem allFit_cons {token : Token} :
    AllFit countsSign (token :: rest) ↔ token.Fits countsSign ∧ AllFit countsSign rest := List.forall_mem_cons

/-- **Every integer inside a value is short enough** for a reader that may count the sign. -/
def Fits (countsSign : Bool) (v : Json) : Prop := v.EveryInteger (FitsReader countsSign)

/-- The tokens of a value fit when its integers do. -/
def FitsByTokens (countsSign : Bool) (v : Json) : Prop :=
  ∀ rest, AllFit countsSign (tokensOf v rest) ↔ v.Fits countsSign ∧ AllFit countsSign rest

theorem allFit_items {items : List Json} (each : ∀ item ∈ items, item.FitsByTokens countsSign) :
    AllFit countsSign (tokensOfItems items rest) ↔
      (∀ item ∈ items, item.Fits countsSign) ∧ AllFit countsSign rest := by
  induction items with
  | nil =>
    rw [tokensOfItems, allFit_cons]
    exact and_congr (iff_of_true trivial (List.forall_mem_nil _)) Iff.rfl
  | cons item items ih =>
    obtain ⟨first, others⟩ := List.forall_mem_cons.mp each
    rw [tokensOfItems, allFit_cons, first, ih others, List.forall_mem_cons, and_assoc]
    exact and_iff_right trivial

theorem allFit_members {members : Members} (each : ∀ member ∈ members, member.2.FitsByTokens countsSign) :
    AllFit countsSign (tokensOfMembers members rest) ↔
      (∀ member ∈ members, member.2.Fits countsSign) ∧ AllFit countsSign rest := by
  induction members with
  | nil =>
    rw [tokensOfMembers, allFit_cons]
    exact and_congr (iff_of_true trivial (List.forall_mem_nil _)) Iff.rfl
  | cons member members ih =>
    obtain ⟨first, others⟩ := List.forall_mem_cons.mp each
    rw [tokensOfMembers, allFit_cons, allFit_cons, allFit_cons, first, ih others, List.forall_mem_cons, and_assoc]
    exact (and_iff_right trivial).trans ((and_iff_right trivial).trans (and_iff_right trivial))

theorem fitsByTokens (v : Json) : v.FitsByTokens countsSign := by
  induction v using induction with
  | null | boolean | real | text =>
    intro rest
    rw [tokensOf, allFit_cons]
    refine and_congr (iff_of_true trivial ?_) Iff.rfl
    intro n part
    cases part
  | integer n =>
    intro rest
    rw [tokensOf, allFit_cons, Fits, everyInteger_integer]
    rfl
  | array items each =>
    intro rest
    rw [Fits, everyInteger_array]
    cases items with
    | nil =>
      rw [tokensOf, allFit_cons]
      exact (and_iff_right trivial).trans (allFit_items each)
    | cons item items =>
      obtain ⟨first, others⟩ := List.forall_mem_cons.mp each
      rw [tokensOf, allFit_cons, first, allFit_items others, List.forall_mem_cons, and_assoc]
      exact and_iff_right trivial
  | object members each =>
    intro rest
    rw [Fits, everyInteger_object]
    cases members with
    | nil =>
      rw [tokensOf, allFit_cons]
      exact (and_iff_right trivial).trans (allFit_members each)
    | cons member members =>
      obtain ⟨first, others⟩ := List.forall_mem_cons.mp each
      rw [tokensOf, allFit_cons, allFit_cons, allFit_cons, first, allFit_members others, List.forall_mem_cons,
        and_assoc]
      exact (and_iff_right trivial).trans ((and_iff_right trivial).trans (and_iff_right trivial))

/-- **The tokens of a value fit exactly when its integers do.** -/
theorem allFit_tokensOf (v : Json) : AllFit countsSign (tokensOf v []) ↔ v.Fits countsSign :=
  (fitsByTokens v []).trans (and_iff_left nofun)

instance : DecidablePred (Token.Fits countsSign)
  | .integer n => inferInstanceAs (Decidable (FitsReader countsSign n))
  | .openArray | .closeArray | .openObject | .closeObject | .comma | .colon => isTrue trivial
  | .null | .boolean _ | .real _ | .text _ => isTrue trivial

instance (ts : List Token) : Decidable (AllFit countsSign ts) :=
  inferInstanceAs (Decidable (∀ token ∈ ts, token.Fits countsSign))

instance (v : Json) : Decidable (v.Fits countsSign) :=
  decidable_of_iff (AllFit countsSign (tokensOf v [])) v.allFit_tokensOf

/-- A value fits as it is written when it fits as it is. -/
theorem fits_written {v : Json} : v.written.Fits countsSign ↔ v.Fits countsSign := by
  have same (token : Token) : token.asRead.Fits countsSign ↔ token.Fits countsSign := by
    cases token with
    | real x =>
      rw [Token.asRead]
      split <;> exact Iff.rfl
    | _ => exact Iff.rfl
  have tokens : tokensOf v.written [] = (tokensOf v []).map Token.asRead := tokensOf_written v []
  rw [← allFit_tokensOf, ← allFit_tokensOf, tokens, AllFit, List.forall_mem_map]
  exact forall₂_congr fun token _ => same token

end Tokens

/-! ## The machine and the tokens of a value -/

section Machine

variable {rules : Rules} {stack : List Frame} {rest : List Token}

theorem run_cons (rules : Rules) (machine : Machine) (token : Token) (tokens : List Token) :
    run rules machine (token :: tokens) = step rules machine token >>= fun next => run rules next tokens := by
  rw [run]
  cases step rules machine token <;> rfl

/-- **The machine takes the tokens of a value as if it completed the value in one step.** -/
def Completes (rules : Rules) (v : Json) : Prop :=
  ∀ stack rest, stack.length + v.height rules.scalar ≤ rules.levels →
    run rules ⟨.value, stack⟩ (tokensOf v rest) = complete v.settled stack >>= fun next => run rules next rest

/-- Where a value is due, an opening bracket does what `startValue` says. -/
theorem run_start {token : Token} {outcome : Except Unreadable Machine}
    (start : startValue rules stack token = outcome) (tokens : List Token) :
    run rules ⟨.value, stack⟩ (token :: tokens) = outcome >>= fun next => run rules next tokens := by
  rw [run_cons]
  show (startValue rules stack token >>= _) = _
  rw [start]

/-- A scalar is completed when there is a level left for it. -/
theorem run_scalar {token : Token} {v : Json} (starts : startValue rules stack token = completeScalar rules stack v)
    (room : stack.length + rules.scalar ≤ rules.levels) (tokens : List Token) :
    run rules ⟨.value, stack⟩ (token :: tokens) = complete v stack >>= fun next => run rules next tokens :=
  run_start (starts.trans (if_pos room)) tokens

theorem run_openArray (room : stack.length < rules.levels) (tokens : List Token) :
    run rules ⟨.value, stack⟩ (.openArray :: tokens) = run rules ⟨.firstItem, .array [] :: stack⟩ tokens := by
  have opened : startValue rules stack .openArray = .ok ⟨.firstItem, .array [] :: stack⟩ := if_pos room
  exact run_start opened tokens

theorem run_openObject (room : stack.length < rules.levels) (tokens : List Token) :
    run rules ⟨.value, stack⟩ (.openObject :: tokens) = run rules ⟨.firstKey, .object [] :: stack⟩ tokens := by
  have opened : startValue rules stack .openObject = .ok ⟨.firstKey, .object [] :: stack⟩ := if_pos room
  exact run_start opened tokens

/-- A key and its colon lead to the value of the member. -/
theorem run_key {phase : Phase} (key_due : phase = .key ∨ phase = .firstKey) (done : Members) (key : String)
    (tokens : List Token) :
    run rules ⟨phase, .object done :: stack⟩ (.text key :: .colon :: tokens) =
      run rules ⟨.value, .member done key :: stack⟩ tokens := by
  rcases key_due with rfl | rfl
  · rw [run_cons]
    show run rules ⟨.colon, .member done key :: stack⟩ (.colon :: tokens) = _
    rw [run_cons]
    rfl
  · rw [run_cons]
    show run rules ⟨.colon, .member done key :: stack⟩ (.colon :: tokens) = _
    rw [run_cons]
    rfl

/-- A value does not start with a closing bracket, so that an array with items is taken for one. -/
theorem tokensOf_head (v : Json) (rest : List Token) :
    ∃ token tokens, tokensOf v rest = token :: tokens ∧ token ≠ .closeArray := by
  cases v with
  | null | boolean | integer | real | text =>
    rw [tokensOf]
    exact ⟨_, _, rfl, nofun⟩
  | array items => cases items <;> exact ⟨.openArray, _, by rw [tokensOf], nofun⟩
  | object members => cases members <;> exact ⟨.openObject, _, by rw [tokensOf], nofun⟩

theorem run_firstItem (v : Json) :
    run rules ⟨.firstItem, stack⟩ (tokensOf v rest) = run rules ⟨.value, stack⟩ (tokensOf v rest) := by
  obtain ⟨token, tokens, shape, opening⟩ := tokensOf_head v rest
  have same : step rules ⟨.firstItem, stack⟩ token = step rules ⟨.value, stack⟩ token := by
    cases token with
    | closeArray => exact absurd rfl opening
    | _ => rfl
  rw [shape, run_cons, run_cons, same]

theorem run_items {items done : List Json} (each : ∀ item ∈ items, Completes rules item)
    (fits : ∀ item ∈ items, stack.length + 1 + item.height rules.scalar ≤ rules.levels) :
    run rules ⟨.separator, .array done :: stack⟩ (tokensOfItems items rest) =
      complete (.array (done.reverse ++ settledItems items)) stack >>= fun next => run rules next rest := by
  induction items generalizing done with
  | nil =>
    rw [tokensOfItems, run_cons, settledItems, List.append_nil]
    rfl
  | cons item items ih =>
    obtain ⟨first, others⟩ := List.forall_mem_cons.mp each
    obtain ⟨fit, fits⟩ := List.forall_mem_cons.mp fits
    rw [tokensOfItems, run_cons]
    show run rules ⟨.value, .array done :: stack⟩ (tokensOf item (tokensOfItems items rest)) = _
    rw [first (.array done :: stack) _ fit]
    show run rules ⟨.separator, .array (item.settled :: done) :: stack⟩ (tokensOfItems items rest) = _
    rw [ih others fits, settledItems, List.reverse_cons, List.append_assoc]
    rfl

theorem run_members {members done : Members} (each : ∀ member ∈ members, Completes rules member.2)
    (fits : ∀ member ∈ members, stack.length + 1 + member.2.height rules.scalar ≤ rules.levels) :
    run rules ⟨.separator, .object done :: stack⟩ (tokensOfMembers members rest) =
      complete (.object (Keyed.settle (done.reverse ++ settledMembers members))) stack >>=
        fun next => run rules next rest := by
  induction members generalizing done with
  | nil =>
    rw [tokensOfMembers, run_cons, settledMembers, List.append_nil]
    rfl
  | cons member members ih =>
    obtain ⟨key, value⟩ := member
    obtain ⟨first, others⟩ := List.forall_mem_cons.mp each
    obtain ⟨fit, fits⟩ := List.forall_mem_cons.mp fits
    rw [tokensOfMembers, run_cons]
    show run rules ⟨.key, .object done :: stack⟩ _ = _
    rw [run_key (.inl rfl), first (.member done key :: stack) _ fit]
    show run rules ⟨.separator, .object ((key, value.settled) :: done) :: stack⟩ _ = _
    rw [ih others fits, settledMembers, List.reverse_cons, List.append_assoc]
    rfl

/-- **The machine completes every value that has few enough levels.** -/
theorem completes (rules : Rules) (v : Json) : Completes rules v := by
  induction v using induction with
  | null | boolean | integer | real | text =>
    intro stack rest fits
    rw [tokensOf, settled]
    exact run_scalar rfl fits rest
  | array items each =>
    intro stack rest fits
    obtain ⟨room, fit⟩ := fits_array.mp fits
    cases items with
    | nil =>
      rw [tokensOf, run_openArray room, run_cons, settled, settledItems]
      rfl
    | cons item items =>
      obtain ⟨first, others⟩ := List.forall_mem_cons.mp each
      obtain ⟨firstFit, otherFit⟩ := List.forall_mem_cons.mp fit
      rw [tokensOf, run_openArray room, run_firstItem, first (.array [] :: stack) _ firstFit]
      show run rules ⟨.separator, .array [item.settled] :: stack⟩ (tokensOfItems items rest) = _
      rw [run_items others otherFit, settled, settledItems]
      rfl
  | object members each =>
    intro stack rest fits
    obtain ⟨room, fit⟩ := fits_object.mp fits
    cases members with
    | nil =>
      rw [tokensOf, run_openObject room, run_cons, settled, settledMembers]
      rfl
    | cons member members =>
      obtain ⟨key, value⟩ := member
      obtain ⟨first, others⟩ := List.forall_mem_cons.mp each
      obtain ⟨firstFit, otherFit⟩ := List.forall_mem_cons.mp fit
      rw [tokensOf, run_openObject room, run_key (.inr rfl), first (.member [] key :: stack) _ firstFit]
      show run rules ⟨.separator, .object [(key, value.settled)] :: stack⟩ (tokensOfMembers members rest) = _
      rw [run_members others otherFit, settled, settledMembers]
      rfl

/-- **The machine stops at a value that has too many levels.** -/
def Refused (rules : Rules) (v : Json) : Prop :=
  ∀ stack rest, rules.levels < stack.length + v.height rules.scalar →
    ∃ u, run rules ⟨.value, stack⟩ (tokensOf v rest) = .error u

/-- A value is refused, or it is completed and the machine stops later. -/
theorem refused_or {v : Json} (refused : Refused rules v)
    (later : stack.length + v.height rules.scalar ≤ rules.levels →
      ∃ u, (complete v.settled stack >>= fun next => run rules next rest) = .error u) :
    ∃ u, run rules ⟨.value, stack⟩ (tokensOf v rest) = .error u := by
  by_cases fits : stack.length + v.height rules.scalar ≤ rules.levels
  · rw [completes rules v stack rest fits]
    exact later fits
  · exact refused stack rest (Nat.not_le.mp fits)

theorem refused_items {item : Json} {items done : List Json} (each : ∀ i ∈ item :: items, Refused rules i)
    (high : ∃ i ∈ item :: items, rules.levels < stack.length + 1 + i.height rules.scalar) :
    ∃ u, run rules ⟨.value, .array done :: stack⟩ (tokensOf item (tokensOfItems items rest)) = .error u := by
  induction items generalizing item done with
  | nil =>
    obtain ⟨last, inside, high⟩ := high
    obtain rfl := List.mem_singleton.mp inside
    exact each last inside (.array done :: stack) _ high
  | cons next items ih =>
    obtain ⟨first, others⟩ := List.forall_mem_cons.mp each
    refine refused_or first fun fits => ?_
    have later := (List.or_exists_of_exists_mem_cons high).resolve_left (Nat.not_lt.mpr fits)
    rw [tokensOfItems]
    show ∃ u, run rules ⟨.separator, .array (item.settled :: done) :: stack⟩ (.comma :: _) = .error u
    rw [run_cons]
    exact ih others later

theorem refused_members {key : String} {value : Json} {members done : Members}
    (each : ∀ member ∈ (key, value) :: members, Refused rules member.2)
    (high : ∃ member ∈ (key, value) :: members, rules.levels < stack.length + 1 + member.2.height rules.scalar) :
    ∃ u, run rules ⟨.value, .member done key :: stack⟩ (tokensOf value (tokensOfMembers members rest)) =
      .error u := by
  induction members generalizing key value done with
  | nil =>
    obtain ⟨last, inside, high⟩ := high
    obtain rfl := List.mem_singleton.mp inside
    exact each _ inside (.member done key :: stack) _ high
  | cons next members ih =>
    obtain ⟨first, others⟩ := List.forall_mem_cons.mp each
    refine refused_or first fun fits => ?_
    have later := (List.or_exists_of_exists_mem_cons high).resolve_left (Nat.not_lt.mpr fits)
    rw [tokensOfMembers]
    show ∃ u, run rules ⟨.separator, .object ((key, value.settled) :: done) :: stack⟩ (.comma :: _) = .error u
    rw [run_cons]
    show ∃ u, run rules ⟨.key, .object ((key, value.settled) :: done) :: stack⟩ _ = .error u
    rw [run_key (.inl rfl)]
    exact ih others later

theorem refused_scalar {token : Token} {v : Json}
    (starts : startValue rules stack token = completeScalar rules stack v)
    (full : rules.levels < stack.length + rules.scalar) (tokens : List Token) :
    ∃ u, run rules ⟨.value, stack⟩ (token :: tokens) = .error u :=
  ⟨.scalarTooDeep, run_start (starts.trans (if_neg (Nat.not_le.mpr full))) tokens⟩

/-- **The machine completes no value that has too many levels.** -/
theorem refused (rules : Rules) (v : Json) : Refused rules v := by
  -- There is no level left for the value, or its bracket opens a container for one that is refused.
  induction v using induction with
  | null | boolean | integer | real | text =>
    intro stack rest high
    rw [tokensOf]
    exact refused_scalar rfl high rest
  | array items each =>
    intro stack rest high
    by_cases room : stack.length < rules.levels
    · have high_item := exists_high_item room high
      cases items with
      | nil =>
        obtain ⟨item, inside, -⟩ := high_item
        exact absurd inside List.not_mem_nil
      | cons item items =>
        rw [tokensOf, run_openArray room, run_firstItem]
        exact refused_items each high_item
    · obtain ⟨tokens, shape⟩ : ∃ tokens, tokensOf (.array items) rest = .openArray :: tokens := by
        cases items <;> exact ⟨_, by rw [tokensOf]⟩
      have closed : startValue rules stack .openArray = .error .arrayTooDeep := if_neg room
      rw [shape]
      exact ⟨.arrayTooDeep, run_start closed tokens⟩
  | object members each =>
    intro stack rest high
    by_cases room : stack.length < rules.levels
    · have high_member := exists_high_member room high
      cases members with
      | nil =>
        obtain ⟨member, inside, -⟩ := high_member
        exact absurd inside List.not_mem_nil
      | cons member members =>
        rw [tokensOf, run_openObject room, run_key (.inr rfl)]
        exact refused_members each high_member
    · obtain ⟨tokens, shape⟩ : ∃ tokens, tokensOf (.object members) rest = .openObject :: tokens := by
        cases members <;> exact ⟨_, by rw [tokensOf]⟩
      have closed : startValue rules stack .openObject = .error .objectTooDeep := if_neg room
      rw [shape]
      exact ⟨.objectTooDeep, run_start closed tokens⟩

end Machine

/-! ## Reading a text -/

section Reading

variable {rules : Rules} {v : Json} {s : String}

/-- **A text is read as what its value means**, when the reader takes its numbers and has room for its levels. -/
theorem read_of_lexes (text : Lexes (Written.Fits rules) (tokensOf v []) s.toList)
    (shallow : v.height rules.scalar ≤ rules.levels) : read rules s = .ok v.settled := by
  unfold read tokens
  rw [readTokens_lexes text (apart_tokensOf v) (Nat.le_refl _)]
  dsimp only
  rw [completes rules v [] [] ((Nat.zero_add _).symm ▸ shallow)]
  rfl

/-- **A text of a value that has too many levels is not read.** -/
theorem exists_error_of_high (text : Lexes (Written.Fits rules) (tokensOf v []) s.toList)
    (high : rules.levels < v.height rules.scalar) : ∃ u, read rules s = .error u := by
  obtain ⟨u, machine⟩ := refused rules v [] [] (by rwa [List.length_nil, Nat.zero_add])
  refine ⟨u, ?_⟩
  unfold read tokens
  rw [readTokens_lexes text (apart_tokensOf v) (Nat.le_refl _)]
  dsimp only
  rw [machine]

/-- **A value and what it is written as have one text.** -/
theorem write_written (v : Json) : v.written.write = v.write := by
  have same : spell ((tokensOf v []).map Token.asRead) = spell (tokensOf v []) := by
    unfold spell
    rw [List.flatMap_map]
    exact List.flatMap_congr fun token _ => token.spelling_asRead
  unfold write
  rw [← same, ← tokensOf_written]
  rfl

/-- **A written value is a text** of what it is written as, which a reader takes when its integers fit. -/
theorem lexes_write (rules : Rules) (fits : v.Fits rules.countsSign) :
    Lexes (Written.Fits rules) (tokensOf v.written []) v.write.toList := by
  have tokens : tokensOf v.written [] = (tokensOf v []).map Token.asRead := tokensOf_written v []
  rw [tokens, write, String.toList_ofList]
  exact lexes_spell (v.allFit_tokensOf.mpr fits)

end Reading

/-! ## Reading a document -/

section Documents

variable [Release] {v : Json} {s : String}

/-- **A text of a value**: a text of its tokens, the numbers of which the reader of documents takes. Members are taken
as they stand there, also when keys repeat. -/
def HasText (v : Json) (s : String) : Prop := Lexes (Written.Fits documentRules) (tokensOf v []) s.toList

/-- **Every integer inside a value is short enough** for the reader of documents. -/
def Short (v : Json) : Prop := v.Fits Release.countsSign

instance (v : Json) : Decidable v.Short := inferInstanceAs (Decidable (v.Fits _))

theorem short_array {items : List Json} : (array items).Short ↔ ∀ item ∈ items, item.Short := everyInteger_array

theorem short_object {members : Members} : (object members).Short ↔ ∀ member ∈ members, member.2.Short :=
  everyInteger_object

theorem short_integer {n : Int} : (integer n).Short ↔ FitsReader Release.countsSign n := everyInteger_integer

/-- **A value that has a text has short integers.** -/
theorem HasText.short (text : v.HasText s) : v.Short := v.allFit_tokensOf.mp (Lexes.fits text)

/-- **A written value is a text** of what it is written as, when its integers are short. -/
theorem hasText_write (short : v.Short) : v.written.HasText v.write := lexes_write documentRules short

/-- An exact value is spelled by the text that it is written as. -/
theorem hasText_of_exact (exact : v.Exact) (short : v.Short) : v.HasText v.write := by
  have text := hasText_write short
  rwa [written_of_exact exact] at text

/-- **A text is read as a document as what its value means**, within the limit for documents. -/
theorem readDocument?_of_hasText (text : v.HasText s) (shallow : v.depth ≤ 201) :
    readDocument? s = some v.settled := by
  rw [readDocument?, read_of_lexes text shallow]
  rfl

/-- **A text of a value that is too deep is not read.** -/
theorem readDocument?_of_deep (text : v.HasText s) (deep : 201 < v.depth) : readDocument? s = none := by
  obtain ⟨u, unread⟩ := exists_error_of_high text deep
  rw [readDocument?, unread]
  rfl

/-- **A written document within the limits is read back.** -/
theorem readDocument?_write (short : v.Short) (shallow : v.depth ≤ 201) : readDocument? v.write = some v.asRead := by
  rw [readDocument?_of_hasText (hasText_write short) ((height_written 1 v).trans_le shallow), settled_written]

/-- A written document that is too deep is not read back. -/
theorem readDocument?_deep (short : v.Short) (deep : 201 < v.depth) : readDocument? v.write = none :=
  readDocument?_of_deep (hasText_write short) (deep.trans_eq (height_written 1 v).symm)

end Documents

end ConnectionJobs.Json
