import ConnectionJobs.Proofs.Double.Nearest
import ConnectionJobs.Proofs.Text.Digit

/-!
# Numbers that are read back

A number in a document is a **written numeral**: digits, perhaps a fraction, perhaps an exponent, whose letter may be a
capital and whose sign may be left out. However it is spelled, reading it gives back its parts as long as nothing
follows that could belong to it.

What it *means* is an integer or a double, and a reader takes it as that unless it has too many digits before its point.
Readers count differently there, and `Written.Fits` says which numerals a reader takes. An integer is written as its
digits, so for integers that is a question of their size. A double is written as its shortest decimal, in positional
notation or with an exponent; in both forms the digits and the exponent that are read denote the same number, though not
always as the same digits, since positional notation fills up with zeros.
-/

namespace ConnectionJobs.Json

/-- **A numeral as it is written**, without its sign. -/
structure Written where
  /-- The digits before the point. -/
  whole : List Char
  /-- The digits after the point, when there is one. -/
  fraction : Option (List Char)
  /-- The sign and the digits of the exponent, when there is one. -/
  exponent : Option (Bool × List Char)

/-- Some digits, at least one. -/
def Digits (ds : List Char) : Prop := ds ≠ [] ∧ ∀ c ∈ ds, isDigit c = true

namespace Written

/-- The point and what follows it. -/
def fractionSpelling : Option (List Char) → List Char
  | none => []
  | some ds => '.' :: ds

/-- The exponent with its sign. -/
def exponentSpelling : Option (Bool × List Char) → List Char
  | none => []
  | some (negative, ds) => 'e' :: (if negative then '-' else '+') :: ds

/-- **The characters of a numeral.** -/
def spelling (w : Written) : List Char := w.whole ++ (fractionSpelling w.fraction ++ exponentSpelling w.exponent)

/-- **How an exponent may be spelled**: its letter may be a capital one, and a plus sign may be left out. -/
inductive SpellsExponent : Option (Bool × List Char) → List Char → Prop
  /-- There is no exponent. -/
  | absent : SpellsExponent none []
  /-- There is no sign. -/
  | unsigned {mark : Char} {ds : List Char} (letter : mark = 'e' ∨ mark = 'E') :
    SpellsExponent (some (false, ds)) (mark :: ds)
  /-- There is a sign. -/
  | signed (negative : Bool) {mark : Char} {ds : List Char} (letter : mark = 'e' ∨ mark = 'E') :
    SpellsExponent (some (negative, ds)) (mark :: (if negative then '-' else '+') :: ds)

/-- **How a numeral may be spelled.** Only its exponent leaves a choice. -/
def Spells (w : Written) (lexeme : List Char) : Prop :=
  ∃ tail, SpellsExponent w.exponent tail ∧ lexeme = w.whole ++ (fractionSpelling w.fraction ++ tail)

theorem spells_spelling (w : Written) : w.Spells w.spelling := by
  obtain ⟨whole, fraction, exponent⟩ := w
  obtain _ | ⟨negative, ds⟩ := exponent
  · exact ⟨_, .absent, rfl⟩
  · exact ⟨_, .signed negative (.inl rfl), rfl⟩

/-- **A proper numeral**: each part has digits, and a leading zero stands alone. -/
structure Proper (w : Written) : Prop where
  /-- There are digits before the point. -/
  whole : Digits w.whole
  /-- A leading zero stands alone. -/
  leading : w.whole.head? = some '0' → w.whole = ['0']
  /-- There are digits after a point. -/
  fraction : ∀ ds, w.fraction = some ds → Digits ds
  /-- There are digits in an exponent. -/
  exponent : ∀ negative ds, w.exponent = some (negative, ds) → Digits ds

/-- The value of an exponent. -/
def exponentValue : Bool × List Char → Int
  | (negative, ds) => if negative then -(digitsValue ds : Int) else digitsValue ds

/-- The parts of a numeral as a reader takes them. -/
def numeral (negative : Bool) (w : Written) : Numeral :=
  ⟨negative, w.whole, w.fraction, w.exponent.map exponentValue⟩

/-- The digits of a numeral as one number. -/
def digits (w : Written) : Nat := digitsValue (w.whole ++ w.fraction.getD [])

/-- The power of ten that scales the digits. -/
def power (w : Written) : Int := (w.exponent.map exponentValue).getD 0 - (w.fraction.getD []).length

end Written

/-- **Nothing follows that could belong to a numeral.** -/
def EndsNumeral (cs : List Char) : Prop :=
  ∀ c, cs.head? = some c → isDigit c = false ∧ c ≠ '.' ∧ c ≠ 'e' ∧ c ≠ 'E'

section Reading

variable {ds cs : List Char} {w : Written} {negative : Bool}

theorem EndsNumeral.noDigit (ends : EndsNumeral cs) : NoDigit cs := fun c h => (ends c h).1

theorem readWhole_append (digits : Digits ds) (leading : ds.head? = some '0' → ds = ['0']) (rest : NoDigit cs) :
    readWhole (ds ++ cs) = some (ds, cs) := by
  unfold readWhole
  rw [spanDigits_append digits.2 rest]
  split
  · rename_i e
    exact absurd (Prod.mk.inj e).1 digits.1
  · rename_i e
    rw [← (Prod.mk.inj e).1, ← (Prod.mk.inj e).2]
  · rename_i a b c e
    have e := (Prod.mk.inj e).1
    have alone := leading (by rw [e]; rfl)
    rw [alone] at e
    cases e
  · rename_i e
    rw [← (Prod.mk.inj e).1, ← (Prod.mk.inj e).2]

theorem readFraction_none (rest : ∀ c, cs.head? = some c → c ≠ '.') : readFraction cs = some (none, cs) := by
  unfold readFraction
  split
  · exact absurd rfl (rest '.' rfl)
  · rfl

theorem readFraction_some (digits : Digits ds) (rest : NoDigit cs) :
    readFraction ('.' :: (ds ++ cs)) = some (some ds, cs) := by
  unfold readFraction
  simp only
  rw [spanDigits_append digits.2 rest]
  split
  · rename_i e
    exact absurd (Prod.mk.inj e).1 digits.1
  · rename_i e
    rw [← (Prod.mk.inj e).1, ← (Prod.mk.inj e).2]

theorem readExponentDigits_append (negative : Bool) (digits : Digits ds) (rest : NoDigit cs) :
    readExponentDigits negative (ds ++ cs) = some (some (Written.exponentValue (negative, ds)), cs) := by
  unfold readExponentDigits
  rw [spanDigits_append digits.2 rest]
  split
  · rename_i e
    exact absurd (Prod.mk.inj e).1 digits.1
  · rename_i e
    rw [← (Prod.mk.inj e).1, ← (Prod.mk.inj e).2]
    rfl

theorem readExponent_none (rest : ∀ c, cs.head? = some c → c ≠ 'e' ∧ c ≠ 'E') :
    readExponent cs = some (none, cs) := by
  cases cs with
  | nil => rfl
  | cons c cs =>
    obtain ⟨small, capital⟩ := rest c rfl
    have other : ¬(c == 'e' || c == 'E') = true := by
      rw [Bool.or_eq_true, beq_iff_eq, beq_iff_eq]
      exact not_or.mpr ⟨small, capital⟩
    exact if_neg other

/-- After its letter, an exponent is read with its sign, or without one. -/
theorem readExponent_letter {mark : Char} (letter : mark = 'e' ∨ mark = 'E') :
    readExponent (mark :: cs) =
      match cs with
      | '+' :: rest => readExponentDigits false rest
      | '-' :: rest => readExponentDigits true rest
      | _ => readExponentDigits false cs := by
  obtain rfl | rfl := letter <;> rfl

/-- What follows the digits before the point. -/
theorem head?_spellsExponent {exponent : Option (Bool × List Char)} {tail : List Char}
    (spells : Written.SpellsExponent exponent tail) (ends : EndsNumeral cs) {c : Char}
    (h : (tail ++ cs).head? = some c) : isDigit c = false ∧ c ≠ '.' := by
  cases spells with
  | absent => exact ⟨(ends c h).1, (ends c h).2.1⟩
  | unsigned letter | signed _ letter =>
    obtain rfl := Option.some.inj h
    obtain rfl | rfl := letter <;> decide

theorem readExponent_append {exponent : Option (Bool × List Char)} {tail : List Char}
    (spells : Written.SpellsExponent exponent tail)
    (digits : ∀ negative ds, exponent = some (negative, ds) → Digits ds) (ends : EndsNumeral cs) :
    readExponent (tail ++ cs) = some (exponent.map Written.exponentValue, cs) := by
  cases spells with
  | absent => exact readExponent_none fun c h => (ends c h).2.2
  | @unsigned mark ds letter =>
    have digits := digits false ds rfl
    have read := readExponentDigits_append false digits ends.noDigit
    obtain ⟨d, more, rfl⟩ := List.exists_cons_of_ne_nil digits.1
    have digit := digits.2 d List.mem_cons_self
    rw [List.cons_append, readExponent_letter letter]
    -- A digit is no sign.
    split
    · rename_i e
      obtain ⟨rfl, -⟩ := List.cons.inj e
      exact absurd digit (by decide)
    · rename_i e
      obtain ⟨rfl, -⟩ := List.cons.inj e
      exact absurd digit (by decide)
    · exact read
  | @signed negative mark ds letter =>
    have read := readExponentDigits_append negative (digits negative ds rfl) ends.noDigit
    rw [List.cons_append, List.cons_append, readExponent_letter letter]
    cases negative <;> exact read

/-- **A proper numeral is read back**, whichever way it is spelled. -/
theorem readUnsigned_spells (negative : Bool) {lexeme : List Char} (proper : w.Proper) (spells : w.Spells lexeme)
    (ends : EndsNumeral cs) : readUnsigned negative (lexeme ++ cs) = some (w.numeral negative, cs) := by
  obtain ⟨whole, fraction, exponent⟩ := w
  obtain ⟨tail, spells, rfl⟩ := spells
  have exponent_read := readExponent_append spells proper.exponent ends
  have after (c : Char) := head?_spellsExponent spells ends (c := c)
  unfold readUnsigned Written.numeral
  simp only [List.append_assoc] at *
  generalize tail ++ cs = rest at exponent_read after ⊢
  cases fraction with
  | none =>
    rw [Written.fractionSpelling, List.nil_append,
      readWhole_append proper.whole proper.leading fun c h => (after c h).1]
    show (readFraction rest >>= _) = _
    rw [readFraction_none fun c h => (after c h).2]
    show (readExponent rest >>= _) = _
    rw [exponent_read]
    rfl
  | some ds =>
    have shape : whole ++ (Written.fractionSpelling (some ds) ++ rest) = whole ++ '.' :: (ds ++ rest) := rfl
    have point : NoDigit ('.' :: (ds ++ rest)) := fun c h => by
      rw [← Option.some.inj h]
      rfl
    rw [shape, readWhole_append proper.whole proper.leading point]
    show (readFraction ('.' :: (ds ++ rest)) >>= _) = _
    rw [readFraction_some (proper.fraction ds rfl) fun c h => (after c h).1]
    show (readExponent rest >>= _) = _
    rw [exponent_read]
    rfl

theorem spells_append {lexeme : List Char} (proper : w.Proper) (spells : w.Spells lexeme) (cs : List Char) :
    ∃ c rest, lexeme ++ cs = c :: rest ∧ isDigit c = true := by
  obtain ⟨whole, fraction, exponent⟩ := w
  obtain ⟨tail, -, rfl⟩ := spells
  obtain ⟨nonempty, digits⟩ := proper.whole
  cases whole with
  | nil => exact absurd rfl nonempty
  | cons c whole => exact ⟨c, _, rfl, digits c List.mem_cons_self⟩

/-- A sign and a digit in front: the word for infinity does not start with a digit. -/
theorem readNumber_withSign (rules : Rules) {c : Char} (digit : isDigit c = true) :
    readNumber rules (Double.withSign negative (c :: cs)) = (do
      let (numeral, rest) ← readUnsigned negative (c :: cs)
      return (← numeral.token rules, rest)) := by
  cases negative with
  | false =>
    rw [Double.withSign, if_neg Bool.false_ne_true]
    unfold readNumber
    split
    · rename_i e
      cases e
      exact absurd digit (by decide)
    · rename_i e
      cases e
      exact absurd digit (by decide)
    · rename_i e
      cases e
      exact absurd digit (by decide)
    · rename_i e
      cases e
      exact absurd digit (by decide)
    · rfl
  | true =>
    rw [Double.withSign, if_pos rfl]
    unfold readNumber
    split
    · rename_i e
      cases e
    · rename_i e
      cases e
    · rename_i e
      cases e
      exact absurd digit (by decide)
    · rename_i e
      cases e
      rfl
    · rename_i other
      exact absurd rfl (other (c :: cs))

/-- **A number is read as its token**, when there is one. -/
theorem readNumber_spells (rules : Rules) (negative : Bool) {lexeme : List Char} (proper : w.Proper)
    (spells : w.Spells lexeme) (ends : EndsNumeral cs) :
    readNumber rules (Double.withSign negative (lexeme ++ cs)) = ((w.numeral negative).token rules).map (·, cs) := by
  have unsigned := readUnsigned_spells negative proper spells ends
  obtain ⟨c, rest, shape, digit⟩ := spells_append proper spells cs
  rw [shape] at unsigned ⊢
  rw [readNumber_withSign rules digit, unsigned]
  show ((w.numeral negative).token rules >>= fun token => return (token, cs)) = _
  cases (w.numeral negative).token rules <;> rfl

end Reading

/-! ## Integers -/

/-- The numeral of an integer, without its sign. -/
def Written.ofNat (n : Nat) : Written := ⟨Nat.toDigits 10 n, none, none⟩

theorem Written.proper_ofNat (n : Nat) : (Written.ofNat n).Proper := by
  refine ⟨⟨Nat.toDigits_ne_nil, fun c => isDigit_of_mem_toDigits⟩, ?_, nofun, nofun⟩
  intro leading
  obtain rfl | positive := n.eq_zero_or_pos
  · rfl
  · exact absurd leading (head?_toDigits positive)

theorem integerText_eq (n : Int) : integerText n = Double.withSign (n < 0) (Written.ofNat n.natAbs).spelling := by
  unfold integerText Written.spelling Written.ofNat
  rw [Written.fractionSpelling, Written.exponentSpelling, List.append_nil, List.append_nil]

theorem withSign_append (negative : Bool) (cs ds : List Char) :
    Double.withSign negative cs ++ ds = Double.withSign negative (cs ++ ds) := by
  cases negative <;> rfl

/-- The integer that digits denote after a sign. -/
def signedValue (negative : Bool) (ds : List Char) : Int :=
  if negative then -(digitsValue ds : Int) else digitsValue ds

@[simp] theorem signedValue_toDigits (n : Int) : signedValue (n < 0) (Nat.toDigits 10 n.natAbs) = n := by
  unfold signedValue
  rw [digitsValue_toDigits]
  by_cases negative : n < 0
  · rw [if_pos (decide_eq_true negative)]
    omega
  · rw [if_neg (by rwa [decide_eq_true_eq])]
    omega

theorem natAbs_signedValue (negative : Bool) (ds : List Char) : (signedValue negative ds).natAbs = digitsValue ds := by
  unfold signedValue
  split_ifs
  · rw [Int.natAbs_neg, Int.natAbs_natCast]
  · rw [Int.natAbs_natCast]

/-! ## What a reader takes -/

/-- **The token that a numeral means**, however many digits it has. -/
def Written.meant (negative : Bool) (w : Written) : Token :=
  match w.fraction, w.exponent with
  | none, none => .integer (signedValue negative w.whole)
  | _, _ => .real (Double.ofDecimal negative w.digits w.power)

/-- A numeral without a point and without an exponent. -/
def Written.IsInteger (w : Written) : Prop := w.fraction = none ∧ w.exponent = none

/-- **A reader takes a numeral**: it has few digits before its point, if there is a limit on them. -/
def Written.Fits (rules : Rules) (negative : Bool) (w : Written) : Prop :=
  rules.limitsReals = true ∨ w.IsInteger → wholeLength rules.countsSign negative w.whole ≤ wholeDigitLimit

theorem not_isInteger_point (whole ds : List Char) (exponent : Option (Bool × List Char)) :
    ¬Written.IsInteger ⟨whole, some ds, exponent⟩ := fun integer => nomatch integer.1

theorem not_isInteger_exponent (whole : List Char) (fraction : Option (List Char)) (exponent : Bool × List Char) :
    ¬Written.IsInteger ⟨whole, fraction, some exponent⟩ := fun integer => nomatch integer.2

theorem meant_integer {w : Written} (integer : w.IsInteger) (negative : Bool) :
    w.meant negative = .integer (signedValue negative w.whole) := by
  obtain ⟨whole, fraction, exponent⟩ := w
  obtain ⟨rfl, rfl⟩ : fraction = none ∧ exponent = none := integer
  rfl

theorem meant_real {w : Written} (real : ¬w.IsInteger) (negative : Bool) :
    w.meant negative = .real (Double.ofDecimal negative w.digits w.power) := by
  obtain ⟨whole, fraction, exponent⟩ := w
  cases fraction with
  | some ds => rfl
  | none =>
    cases exponent with
    | some e => rfl
    | none => exact absurd ⟨rfl, rfl⟩ real

/-- A numeral of digits alone is the token that it means, unless there are too many. -/
theorem token_integer {w : Written} (integer : w.IsInteger) (rules : Rules) (negative : Bool) :
    (w.numeral negative).token rules =
      if wholeLength rules.countsSign negative w.whole > wholeDigitLimit then none else some (w.meant negative) := by
  obtain ⟨whole, fraction, exponent⟩ := w
  obtain ⟨rfl, rfl⟩ : fraction = none ∧ exponent = none := integer
  rfl

/-- A numeral with a point or an exponent is the token that it means, unless a reader limits the digits of doubles and
there are too many. -/
theorem token_real {w : Written} (real : ¬w.IsInteger) (rules : Rules) (negative : Bool) :
    (w.numeral negative).token rules =
      if rules.limitsReals && wholeLength rules.countsSign negative w.whole > wholeDigitLimit then none
      else some (w.meant negative) := by
  obtain ⟨whole, fraction, exponent⟩ := w
  cases fraction with
  | some ds => rfl
  | none =>
    cases exponent with
    | some e => rfl
    | none => exact absurd ⟨rfl, rfl⟩ real

/-- **A numeral that a reader takes is the token that it means.** -/
theorem token_of_fits {w : Written} {rules : Rules} {negative : Bool} (fits : w.Fits rules negative) :
    (w.numeral negative).token rules = some (w.meant negative) := by
  by_cases integer : w.IsInteger
  · rw [token_integer integer, if_neg (Nat.not_lt.mpr (fits (.inr integer)))]
  · rw [token_real integer, if_neg]
    rw [Bool.and_eq_true, decide_eq_true_eq]
    exact fun long => absurd long.2 (Nat.not_lt.mpr (fits (.inl long.1)))

/-- **A numeral that a reader does not take is no token.** -/
theorem token_of_not_fits {w : Written} {rules : Rules} {negative : Bool} (unfit : ¬w.Fits rules negative) :
    (w.numeral negative).token rules = none := by
  obtain ⟨limited, long⟩ := Classical.not_imp.mp unfit
  have long : wholeLength rules.countsSign negative w.whole > wholeDigitLimit := Nat.not_le.mp long
  by_cases integer : w.IsInteger
  · rw [token_integer integer, if_pos long]
  · have limits : rules.limitsReals = true := limited.resolve_right integer
    rw [token_real integer, limits, Bool.true_and, if_pos (decide_eq_true long)]

/-! ### How the length of a number is counted -/

section Length

variable {countsSign negative : Bool} {ds : List Char} {n : Int} {w : Written} {rules : Rules}

theorem length_le_wholeLength (countsSign negative : Bool) (ds : List Char) :
    ds.length ≤ wholeLength countsSign negative ds := Nat.le_add_right _ _

theorem wholeLength_le_succ (countsSign negative : Bool) (ds : List Char) :
    wholeLength countsSign negative ds ≤ ds.length + 1 := by
  unfold wholeLength
  split <;> omega

/-- **A reader takes an integer as it is written**: it has not too many digits, of which a minus sign may be one. -/
def FitsReader (countsSign : Bool) (n : Int) : Prop :=
  wholeLength countsSign (n < 0) (Nat.toDigits 10 n.natAbs) ≤ wholeDigitLimit

instance (countsSign : Bool) (n : Int) : Decidable (FitsReader countsSign n) := inferInstanceAs (Decidable (_ ≤ _))

/-- What is short has few enough digits. -/
theorem FitsReader.digits (fits : FitsReader countsSign n) : FitsReader false n :=
  (length_le_wholeLength countsSign _ _).trans fits

/-- An integer is short when its digits are, with a sign that it need not have. -/
theorem fitsReader_of_length (sign : n < 0 → negative = true)
    (short : wholeLength countsSign negative (Nat.toDigits 10 n.natAbs) ≤ wholeDigitLimit) :
    FitsReader countsSign n := by
  unfold FitsReader
  by_cases below : n < 0
  · rw [decide_eq_true below, ← sign below]
    exact short
  · rw [decide_eq_false below, wholeLength, Bool.and_false]
    exact (length_le_wholeLength countsSign negative _).trans short

/-- A number of few digits is short, also with a sign. -/
theorem fitsReader_of_lt {k : Nat} (h : n.natAbs < 10 ^ k) (positive : 0 < k) (short : k < wholeDigitLimit) :
    FitsReader countsSign n := by
  have length := (Nat.length_toDigits_le_iff (by decide) positive).mpr h
  have signed := wholeLength_le_succ countsSign (n < 0) (Nat.toDigits 10 n.natAbs)
  unfold FitsReader
  omega

theorem not_fitsReader_pow {k : Nat} (h : wholeDigitLimit ≤ k) : ¬FitsReader countsSign ((10 ^ k : Nat) : Int) := by
  have length : (Nat.toDigits 10 (1 * 10 ^ k)).length = (Nat.toDigits 10 1).length + k :=
    Double.length_toDigits_mul_pow (by decide) k
  have counted := length_le_wholeLength countsSign (((10 ^ k : Nat) : Int) < 0) (Nat.toDigits 10 (10 ^ k))
  unfold FitsReader
  rw [Int.natAbs_natCast]
  rw [Nat.one_mul] at length
  have one : (Nat.toDigits 10 1).length = 1 := rfl
  omega

/-- Digits without a leading zero denote a number that needs all of them. -/
theorem le_digitsValue (digits : Digits ds) (leading : ds.head? ≠ some '0') :
    10 ^ (ds.length - 1) ≤ digitsValue ds := by
  obtain ⟨d, rest, rfl⟩ := List.exists_cons_of_ne_nil digits.1
  have digit := digits.2 d List.mem_cons_self
  have first : 1 ≤ digitsValue [d] := by
    unfold isDigit at digit
    rw [Bool.and_eq_true, decide_eq_true_eq, decide_eq_true_eq] at digit
    have lower : 0x30 ≤ d.toNat := digit.1
    have nonzero : d.toNat ≠ 0x30 := fun same => leading (congrArg some (Char.toNat_inj.mp same))
    show 1 ≤ 0 * 10 + (d.toNat - 0x30)
    omega
  have split : digitsValue (d :: rest) = digitsValue [d] * 10 ^ rest.length + digitsValue rest :=
    digitsValue_append [d] rest
  rw [split, List.length_cons, Nat.add_sub_cancel]
  calc 10 ^ rest.length = 1 * 10 ^ rest.length := (Nat.one_mul _).symm
    _ ≤ digitsValue [d] * 10 ^ rest.length := Nat.mul_le_mul_right _ first
    _ ≤ digitsValue [d] * 10 ^ rest.length + digitsValue rest := Nat.le_add_right _ _

/-- **Digits without a leading zero are as many as their number is written with.** -/
theorem length_toDigits_digitsValue (digits : Digits ds) (leading : ds.head? ≠ some '0') :
    (Nat.toDigits 10 (digitsValue ds)).length = ds.length := by
  have positive : 0 < ds.length := List.length_pos_iff.mpr digits.1
  have upper := (Nat.length_toDigits_le_iff (by decide) positive).mpr (digitsValue_lt digits.2)
  refine Nat.le_antisymm upper (Nat.le_of_not_lt fun fewer => ?_)
  have some_digit : 0 < (Nat.toDigits 10 (digitsValue ds)).length := List.length_pos_iff.mpr Nat.toDigits_ne_nil
  have small := (Nat.length_toDigits_le_iff (b := 10) (by decide) (by omega)).mp (Nat.le_sub_one_of_lt fewer)
  exact absurd (le_digitsValue digits leading) (Nat.not_le.mpr small)

/-- **A reader takes a numeral of digits exactly when it takes the integer that it means**, as that is written. -/
theorem fits_iff_of_integer (proper : w.Proper) (integer : w.IsInteger) :
    w.Fits rules negative ↔ FitsReader rules.countsSign (signedValue negative w.whole) := by
  have fits : w.Fits rules negative ↔ wholeLength rules.countsSign negative w.whole ≤ wholeDigitLimit :=
    ⟨fun fits => fits (.inr integer), fun short _ => short⟩
  rw [fits]
  by_cases leading : w.whole.head? = some '0'
  · -- A leading zero stands alone, so the numeral is short, and its value is zero.
    rw [proper.leading leading]
    refine iff_of_true ((wholeLength_le_succ _ _ _).trans (by decide)) (fitsReader_of_lt (k := 1) ?_ ?_ ?_)
    · rw [natAbs_signedValue]
      decide
    · decide
    · decide
  · have length := length_toDigits_digitsValue proper.whole leading
    have positive : 0 < digitsValue w.whole := (Nat.pow_pos (by decide)).trans_le (le_digitsValue proper.whole leading)
    have sign : decide (signedValue negative w.whole < 0) = negative := by
      unfold signedValue
      cases negative with
      | true => exact decide_eq_true (by rw [if_pos rfl]; omega)
      | false => exact decide_eq_false (by rw [if_neg Bool.false_ne_true]; omega)
    unfold FitsReader wholeLength
    rw [sign, natAbs_signedValue, length]

theorem fits_ofNat : (Written.ofNat n.natAbs).Fits rules (n < 0) ↔ FitsReader rules.countsSign n := by
  rw [fits_iff_of_integer (Written.proper_ofNat _) ⟨rfl, rfl⟩, Written.ofNat, signedValue_toDigits]

theorem meant_ofNat (n : Int) : (Written.ofNat n.natAbs).meant (n < 0) = .integer n := by
  rw [meant_integer ⟨rfl, rfl⟩, Written.ofNat, signedValue_toDigits]

/-- Every reader takes a numeral with few digits before its point. -/
theorem Written.fits_of_length (short : w.whole.length < wholeDigitLimit) : w.Fits rules negative :=
  fun _ => (wholeLength_le_succ _ _ _).trans short

end Length

/-! ## Doubles -/

/-- **A numeral writes a decimal** as a double: it is not mistaken for an integer, it has few digits before the point,
and digits and exponent denote the double that the decimal denotes. -/
structure Writes (negative : Bool) (d : Decimal) (w : Written) : Prop where
  /-- The numeral is one that is read back. -/
  proper : w.Proper
  /-- There is a point or an exponent. -/
  real : ¬w.IsInteger
  /-- There are not many digits before the point. -/
  short : w.whole.length ≤ 16
  /-- The double is the same. -/
  value : Double.ofDecimal negative w.digits w.power = Double.ofDecimal negative d.digits d.exponent

section Layout

variable {d : Decimal} {w : Written} {negative : Bool}

theorem digits_digitChars (d : Decimal) : Digits d.digitChars :=
  ⟨Nat.toDigits_ne_nil, fun _ => isDigit_of_mem_toDigits⟩

theorem digits_zero : Digits ['0'] := ⟨nofun, fun _ member => List.mem_singleton.mp member ▸ rfl⟩

theorem digits_append {cs ds : List Char} (h : Digits cs) (h' : ∀ c ∈ ds, isDigit c = true) : Digits (cs ++ ds) :=
  ⟨List.append_ne_nil_of_left_ne_nil h.1 ds,
    fun c member => (List.mem_append.mp member).elim (h.2 c) (h' c)⟩

/-- The same digits with the same exponent denote the same double. -/
theorem Writes.of_eq (proper : w.Proper) (real : ¬w.IsInteger)
    (short : w.whole.length ≤ 16) (digits : w.digits = d.digits) (power : w.power = d.exponent) :
    Writes negative d w :=
  ⟨proper, real, short, by rw [digits, power]⟩

/-- A point before all digits: zeros are filled in after it. -/
theorem writes_below (h : d.pointPosition ≤ 0) :
    Writes negative d ⟨['0'], some (Double.zeros (-d.pointPosition).toNat ++ d.digitChars), none⟩ := by
  have digits : Digits (Double.zeros (-d.pointPosition).toNat ++ d.digitChars) := by
    refine ⟨List.append_ne_nil_of_right_ne_nil _ (digits_digitChars d).1, fun c member => ?_⟩
    exact (List.mem_append.mp member).elim isDigit_of_mem_zeros ((digits_digitChars d).2 c)
  refine Writes.of_eq ⟨digits_zero, fun _ => rfl, fun ds e => Option.some.inj e ▸ digits, nofun⟩
    (not_isInteger_point _ _ _) (Nat.le_of_ble_eq_true rfl) ?_ ?_
  · show digitsValue (['0'] ++ (Double.zeros (-d.pointPosition).toNat ++ d.digitChars)) = _
    rw [digitsValue_append, digitsValue_append, digitsValue_zeros, Decimal.digitChars, digitsValue_toDigits,
      Nat.zero_mul, Nat.zero_add]
    exact (congrArg (· + d.digits) (Nat.zero_mul _)).trans (Nat.zero_add _)
  · show 0 - ((Double.zeros (-d.pointPosition).toNat ++ d.digitChars).length : Int) = _
    rw [List.length_append, Double.zeros, List.length_replicate]
    unfold Decimal.pointPosition at h ⊢
    omega

/-- A point among the digits. -/
theorem writes_among (nonzero : 0 < d.digits) {before : Nat} (position : d.pointPosition = before)
    (positive : 0 < before) (short : before ≤ 16) (inside : before < d.digitChars.length) :
    Writes negative d ⟨d.digitChars.take before, some (d.digitChars.drop before), none⟩ := by
  have whole : Digits (d.digitChars.take before) := by
    refine ⟨fun h => ?_, fun c member => (digits_digitChars d).2 c (List.mem_of_mem_take member)⟩
    have length := congrArg List.length h
    rw [List.length_take, List.length_nil] at length
    omega
  have fraction : Digits (d.digitChars.drop before) := by
    refine ⟨fun h => ?_, fun c member => (digits_digitChars d).2 c (List.mem_of_mem_drop member)⟩
    have length := congrArg List.length h
    rw [List.length_drop, List.length_nil] at length
    omega
  have leading : (d.digitChars.take before).head? ≠ some '0' := by
    rw [List.head?_take, if_neg positive.ne']
    exact head?_toDigits nonzero
  refine Writes.of_eq ⟨whole, fun h => absurd h leading, fun ds e => Option.some.inj e ▸ fraction, nofun⟩
    (not_isInteger_point _ _ _) ?_ ?_ ?_
  · show (d.digitChars.take before).length ≤ 16
    rw [List.length_take]
    omega
  · show digitsValue (d.digitChars.take before ++ d.digitChars.drop before) = _
    rw [List.take_append_drop, Decimal.digitChars, digitsValue_toDigits]
  · show 0 - ((d.digitChars.drop before).length : Int) = _
    rw [List.length_drop]
    unfold Decimal.pointPosition at position
    omega

/-- A point behind all digits: zeros are filled in before it, and one after it. -/
theorem writes_above (nonzero : 0 < d.digits) {before : Nat} (position : d.pointPosition = before)
    (short : before ≤ 16) (outside : d.digitChars.length ≤ before) :
    Writes negative d ⟨d.digitChars ++ Double.zeros (before - d.digitChars.length), some ['0'], none⟩ := by
  have whole : Digits (d.digitChars ++ Double.zeros (before - d.digitChars.length)) :=
    digits_append (digits_digitChars d) fun _ => isDigit_of_mem_zeros
  have leading : (d.digitChars ++ Double.zeros (before - d.digitChars.length)).head? ≠ some '0' := by
    rw [List.head?_append_of_ne_nil _ (digits_digitChars d).1]
    exact head?_toDigits nonzero
  refine ⟨⟨whole, fun h => absurd h leading, fun ds e => Option.some.inj e ▸ digits_zero, nofun⟩,
    not_isInteger_point _ _ _, ?_, ?_⟩
  · show (d.digitChars ++ Double.zeros (before - d.digitChars.length)).length ≤ 16
    rw [List.length_append, Double.zeros, List.length_replicate]
    omega
  · have exponent : d.exponent = ((before - d.digitChars.length : Nat) : Int) := by
      unfold Decimal.pointPosition at position
      omega
    have digits : digitsValue ((d.digitChars ++ Double.zeros (before - d.digitChars.length)) ++ ['0']) =
        d.digits * 10 ^ (before - d.digitChars.length + 1) := by
      rw [digitsValue_append, digitsValue_append, digitsValue_zeros, Double.zeros, List.length_replicate]
      show (digitsValue (Nat.toDigits 10 d.digits) * 10 ^ _ + 0) * 10 ^ 1 + 0 = _
      rw [digitsValue_toDigits, Nat.add_zero, Nat.add_zero, Nat.mul_assoc, ← Nat.pow_add]
    have power : (0 : Int) - (['0'].length : Int) = d.exponent - ((before - d.digitChars.length + 1 : Nat) : Int) := by
      rw [exponent, List.length_singleton]
      omega
    show Double.ofDecimal negative
      (digitsValue ((d.digitChars ++ Double.zeros (before - d.digitChars.length)) ++ ['0']))
      (0 - (['0'].length : Int)) = _
    rw [digits, power, Double.ofDecimal_mul_pow]

/-- **Positional notation** writes the decimal. -/
theorem exists_writes_positional (negative : Bool) (nonzero : 0 < d.digits) (short : d.pointPosition ≤ 16) :
    ∃ w, Writes negative d w ∧ Double.positional true d.digitChars d.pointPosition = w.spelling := by
  by_cases below : d.pointPosition ≤ 0
  · refine ⟨_, writes_below below, ?_⟩
    unfold Double.positional Written.spelling Written.fractionSpelling Written.exponentSpelling
    rw [if_pos below, List.append_nil]
    rfl
  · have position : d.pointPosition = (d.pointPosition.toNat : Int) := by omega
    by_cases inside : d.pointPosition.toNat < d.digitChars.length
    · refine ⟨_, writes_among nonzero position (by omega) (by omega) inside, ?_⟩
      unfold Double.positional Written.spelling Written.fractionSpelling Written.exponentSpelling
      rw [if_neg below, if_pos inside, List.append_nil]
    · refine ⟨_, writes_above nonzero position (by omega) (by omega), ?_⟩
      unfold Double.positional Written.spelling Written.fractionSpelling Written.exponentSpelling
      rw [if_neg below, if_neg inside, if_pos rfl, List.append_nil]

/-- The exponent of scientific notation. -/
def scientificExponent (d : Decimal) : Bool × List Char :=
  (d.pointPosition - 1 < 0, Nat.toDigits 10 (d.pointPosition - 1).natAbs)

theorem exponentValue_scientificExponent (d : Decimal) :
    Written.exponentValue (scientificExponent d) = d.pointPosition - 1 := by
  show (if decide (d.pointPosition - 1 < 0) = true then
    -(digitsValue (Nat.toDigits 10 (d.pointPosition - 1).natAbs) : Int)
    else digitsValue (Nat.toDigits 10 (d.pointPosition - 1).natAbs)) = _
  rw [digitsValue_toDigits]
  by_cases small : d.pointPosition - 1 < 0
  · rw [if_pos (decide_eq_true small)]
    omega
  · rw [if_neg (by rwa [decide_eq_true_eq])]
    omega

/-- The digits of scientific notation, with a point after the first. -/
def mantissa : List Char → List Char
  | [] => []
  | [c] => [c]
  | c :: rest => c :: '.' :: rest

/-- An exponent has a digit, so none is filled in. -/
theorem scientific_eq (d : Decimal) : Double.scientific 1 d.digitChars d.pointPosition =
    mantissa d.digitChars ++ Written.exponentSpelling (some (scientificExponent d)) := by
  have unpadded : Double.zeros (1 - (Nat.toDigits 10 (d.pointPosition - 1).natAbs).length) = [] := by
    rw [Nat.sub_eq_zero_of_le (List.length_pos_iff.mpr Nat.toDigits_ne_nil)]
    rfl
  unfold Double.scientific scientificExponent Written.exponentSpelling
  simp only [unpadded, decide_eq_true_eq, List.append_assoc, List.cons_append, List.nil_append]
  rcases d.digitChars with _ | ⟨c, _ | ⟨c', rest⟩⟩ <;> rfl

/-- **Scientific notation** writes the decimal. -/
theorem exists_writes_scientific (negative : Bool) (nonzero : 0 < d.digits) :
    ∃ w, Writes negative d w ∧ Double.scientific 1 d.digitChars d.pointPosition = w.spelling := by
  have all := digits_digitChars d
  have first : d.digitChars.head? ≠ some '0' := head?_toDigits nonzero
  have value : digitsValue d.digitChars = d.digits := digitsValue_toDigits d.digits
  have position : d.pointPosition = d.digitChars.length + d.exponent := rfl
  have exponent : ∀ negative ds, some (scientificExponent d) = some (negative, ds) → Digits ds := by
    intro negative ds e
    rw [← (Prod.mk.inj (Option.some.inj e)).2]
    exact ⟨Nat.toDigits_ne_nil, fun _ => isDigit_of_mem_toDigits⟩
  rw [scientific_eq]
  generalize d.digitChars = chars at all first value position
  match chars with
  | [] => exact absurd rfl all.1
  | [c] =>
    refine ⟨⟨[c], none, some (scientificExponent d)⟩,
      Writes.of_eq ⟨all, fun h => absurd h first, nofun, exponent⟩ (not_isInteger_exponent _ _ _) ?_ value ?_, rfl⟩
    · exact Nat.le_of_ble_eq_true rfl
    · show Written.exponentValue (scientificExponent d) - 0 = _
      rw [exponentValue_scientificExponent, position, List.length_singleton]
      omega
  | c :: c' :: rest =>
    have whole : Digits [c] :=
      ⟨nofun, fun x member => all.2 x (List.mem_singleton.mp member ▸ List.mem_cons_self)⟩
    have fraction : Digits (c' :: rest) := ⟨nofun, fun x member => all.2 x (List.mem_cons_of_mem c member)⟩
    refine ⟨⟨[c], some (c' :: rest), some (scientificExponent d)⟩,
      Writes.of_eq ⟨whole, fun h => absurd h first, fun ds e => Option.some.inj e ▸ fraction, exponent⟩
        (not_isInteger_exponent _ _ _) ?_ value ?_, ?_⟩
    · exact Nat.le_of_ble_eq_true rfl
    · show Written.exponentValue (scientificExponent d) - ((c' :: rest).length : Int) = _
      rw [exponentValue_scientificExponent, position, List.length_cons (a := c)]
      omega
    · rfl

end Layout

section Double

variable {x : Double}

theorem eq_zero_of_isZero (h : x.isZero = true) : x = Double.zero x.negative := by
  obtain ⟨negative, exponent, fraction⟩ := x
  unfold Double.isZero at h
  rw [Bool.and_eq_true, beq_iff_eq, beq_iff_eq] at h
  exact congrArg₂ (Double.mk negative) (Fin.ext h.1) (Fin.ext h.2)

theorem isZero_zero (negative : Bool) : (Double.zero negative).isZero = true := rfl

/-- The magnitude of a finite double is written as a numeral that denotes the double. -/
theorem exists_writes (finite : x.isFinite = true) :
    ∃ d w, Writes x.negative d w ∧ Double.ofDecimal x.negative d.digits d.exponent = x ∧
      x.magnitudeText (-4) 16 1 = w.spelling := by
  cases nonzero : x.isZero with
  | true =>
    have zero : Writes x.negative ⟨0, -1⟩ ⟨['0'], some ['0'], none⟩ :=
      .of_eq ⟨digits_zero, fun _ => rfl, fun ds e => Option.some.inj e ▸ digits_zero, nofun⟩ (not_isInteger_point _ _ _)
        (Nat.le_of_ble_eq_true rfl) rfl rfl
    refine ⟨_, _, zero, ?_, ?_⟩
    · rw [Double.ofDecimal_zero, ← eq_zero_of_isZero nonzero]
    · unfold Double.magnitudeText
      rw [if_pos nonzero]
      rfl
  | false =>
    have reads := Double.readsAs_iff.mp (Double.readsAs_shortest .toEven finite nonzero)
    have layout : x.magnitudeText (-4) 16 1 =
        let d := Double.shortest .toEven x
        if -4 ≤ d.pointPosition && d.pointPosition ≤ 16 then Double.positional true d.digitChars d.pointPosition
        else Double.scientific 1 d.digitChars d.pointPosition := by
      unfold Double.magnitudeText
      exact if_neg (Bool.eq_false_iff.mp nonzero)
    generalize Double.shortest .toEven x = d at reads layout
    have positive : 0 < d.digits := by
      refine Nat.pos_of_ne_zero fun none => ?_
      rw [none, Double.ofDecimal_zero] at reads
      rw [← reads, isZero_zero] at nonzero
      cases nonzero
    rw [layout]
    by_cases inside : (decide (-4 ≤ d.pointPosition) && decide (d.pointPosition ≤ 16)) = true
    · have short : d.pointPosition ≤ 16 := of_decide_eq_true (Bool.and_eq_true_iff.mp inside).2
      obtain ⟨w, writes, spelling⟩ := exists_writes_positional x.negative positive short
      exact ⟨d, w, writes, reads, (if_pos inside).trans spelling⟩
    · obtain ⟨w, writes, spelling⟩ := exists_writes_scientific x.negative positive
      exact ⟨d, w, writes, reads, (if_neg inside).trans spelling⟩

end Double

end ConnectionJobs.Json
