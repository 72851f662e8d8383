import ConnectionJobs.Json.Token
import ConnectionJobs.Text.Blank
import ConnectionJobs.Uuid
import Mathlib.Algebra.Group.Nat.Defs
import Mathlib.Data.List.Basic
import Mathlib.Data.List.Induction
import Mathlib.Data.List.TakeDrop

/-!
# Digits that are read back

Numbers are written as digits in two places: decimal numbers in documents, and hexadecimal ones in identifiers and
escapes. What is read from the digits of a number is the number. For decimal numbers this also fixes what a reader
insists on: a number starts with a zero only when it is zero, and its digits end where no digit follows.
-/

namespace ConnectionJobs

/-! ## Hexadecimal digits -/

namespace Text

theorem hexDigitValue_hexDigit {n : Nat} (h : n < 16) : hexDigitValue (hexDigit n) = some n := by
  have all : ∀ n : Fin 16, hexDigitValue (hexDigit n.val) = some n.val := by decide
  exact all ⟨n, h⟩

@[simp] theorem length_hexDigits (width n : Nat) : (hexDigits width n).length = width := by
  induction width generalizing n with
  | zero => rfl
  | succ width ih => rw [hexDigits, List.length_append, ih, List.length_singleton]

theorem isBlank_of_mem_hexDigits {width n : Nat} {c : Char} (h : c ∈ hexDigits width n) : isBlank c = false := by
  induction width generalizing n with
  | zero => exact absurd h List.not_mem_nil
  | succ width ih =>
    obtain before | last := List.mem_append.mp h
    · exact ih before
    · have all : ∀ n : Fin 16, isBlank (hexDigit n.val) = false := by decide
      rw [List.mem_singleton.mp last]
      exact all ⟨n % 16, Nat.mod_lt n (by decide)⟩

/-- A text without blanks stays as it is when it is trimmed. -/
theorem trim_eq_self {s : String} (h : ∀ c ∈ s.toList, isBlank c = false) : trim s = s := by
  have none : ∀ cs : List Char, (∀ c ∈ cs, isBlank c = false) → cs.dropWhile isBlank = cs := by
    intro cs blankless
    cases cs with
    | nil => rfl
    | cons c rest => exact List.dropWhile_cons_of_neg (Bool.eq_false_iff.mp (blankless c List.mem_cons_self))
  unfold trim dropAround dropEndWhile
  rw [none _ h, none _ fun c mem => h c (List.mem_reverse.mp mem), List.reverse_reverse, String.ofList_toList]

theorem hexValueFrom_append (acc : Nat) (cs : List Char) (c : Char) :
    hexValueFrom acc (cs ++ [c]) =
      (hexValueFrom acc cs).bind fun n => (hexDigitValue c).map fun d => n * 16 + d := by
  induction cs generalizing acc with
  | nil =>
    rw [List.nil_append, hexValueFrom, hexValueFrom, Option.bind_some]
    cases hexDigitValue c <;> rfl
  | cons first rest ih =>
    rw [List.cons_append, hexValueFrom, hexValueFrom]
    cases hexDigitValue first with
    | none => rfl
    | some d => exact ih (acc * 16 + d)

/-- **What is read from the last digits of a number** is the number up to what they leave out. -/
theorem hexValue_hexDigits (width n : Nat) : hexValue (hexDigits width n) = some (n % 16 ^ width) := by
  induction width generalizing n with
  | zero =>
    rw [Nat.pow_zero, Nat.mod_one]
    rfl
  | succ width ih =>
    have last : hexDigitValue (hexDigit (n % 16)) = some (n % 16) := hexDigitValue_hexDigit (Nat.mod_lt n (by decide))
    unfold hexValue at ih ⊢
    rw [hexDigits, hexValueFrom_append, ih, last]
    refine congrArg some ?_
    show n / 16 % 16 ^ width * 16 + n % 16 = n % 16 ^ (width + 1)
    rw [Nat.pow_succ, Nat.mul_comm (16 ^ width), Nat.mod_mul]
    omega

/-- **The digits of a written number**: hexadecimal digits whose letters are small. -/
def writtenDigits : List Char := "0123456789abcdef".toList

theorem mem_writtenDigits {c : Char} : c ∈ writtenDigits ↔ ∃ d < 16, hexDigit d = c := by
  have listed : writtenDigits = (List.range 16).map hexDigit := by decide
  rw [listed, List.mem_map]
  simp only [List.mem_range]

theorem mem_writtenDigits_of_mem_hexDigits {width n : Nat} {c : Char} (h : c ∈ hexDigits width n) :
    c ∈ writtenDigits := by
  induction width generalizing n with
  | zero => exact absurd h List.not_mem_nil
  | succ width ih =>
    obtain before | last := List.mem_append.mp h
    · exact ih before
    · rw [List.mem_singleton.mp last]
      exact mem_writtenDigits.mpr ⟨n % 16, Nat.mod_lt n (by decide), rfl⟩

/-- **Every sequence of written digits is the writing of a number.** -/
theorem exists_hexDigits_eq {ds : List Char} (written : ∀ c ∈ ds, c ∈ writtenDigits) :
    ∃ n < 16 ^ ds.length, hexDigits ds.length n = ds := by
  induction ds using List.reverseRecOn with
  | nil => exact ⟨0, Nat.one_pos, rfl⟩
  | append_singleton ds c ih =>
    obtain ⟨d, small, last⟩ := mem_writtenDigits.mp (written c (List.mem_append_right _ List.mem_cons_self))
    obtain ⟨n, bound, before⟩ := ih fun c h => written c (List.mem_append_left _ h)
    have front : (n * 16 + d) / 16 = n := by omega
    have back : (n * 16 + d) % 16 = d := by omega
    refine ⟨n * 16 + d, ?_, ?_⟩
    · rw [List.length_append, List.length_singleton, Nat.pow_succ]
      omega
    · rw [List.length_append, List.length_singleton, hexDigits, front, back, before, last]

end Text

namespace Uuid

/-- Cutting digits into groups and joining the groups again. -/
theorem ungrouped_grouped {digits : List Char} (h : digits.length = 32) : ungrouped (grouped digits) = some digits := by
  match digits, h with
  | [a, b, c, d, e, f, g, i, a', b', c', d', e', f', g', i', j, k, l, m, n, o, p, q, j', k', l', m', n', o', p', q'],
      _ => rfl

theorem length_grouped {digits : List Char} (h : digits.length = 32) : (grouped digits).length = 36 := by
  unfold grouped
  simp only [List.length_append, List.length_cons, List.length_take, List.length_drop, h]
  rfl

theorem ofNat_value (u : Uuid) : ofNat u.value.val = u := by
  obtain ⟨value⟩ := u
  exact congrArg Uuid.mk (Fin.ext (Nat.mod_eq_of_lt value.isLt))

/-- **An identifier is read back from its written form.** -/
theorem read?_text (u : Uuid) : read? u.text = some u := by
  have width := Text.length_hexDigits 32 u.value.val
  have bound : u.value.val < 16 ^ 32 := u.value.isLt
  have dashed : ofDashed (grouped (Text.hexDigits 32 u.value.val)) = some u := by
    rw [ofDashed, ungrouped_grouped width]
    show ofDigits _ = _
    unfold ofDigits
    rw [width, if_pos (beq_self_eq_true 32), Text.hexValue_hexDigits, Nat.mod_eq_of_lt bound, Option.map_some,
      ofNat_value]
  unfold read? text
  simp only [String.toList_ofList, length_grouped width]
  rw [if_neg (by decide), if_pos (by decide)]
  exact dashed

/-- **Identifiers are told apart by their written forms.** -/
theorem text_injective : Function.Injective text := by
  intro u v same
  have read := read?_text u
  rw [same, read?_text] at read
  exact (Option.some.inj read).symm

/-- **The form in which identifiers are written**: thirty-two digits, letters small, in five groups. -/
def IsWritten (cs : List Char) : Prop :=
  ∃ digits, digits.length = 32 ∧ (∀ c ∈ digits, c ∈ Text.writtenDigits) ∧ cs = grouped digits

/-- **Every text of that form is the written form of an identifier**, and no other text is. -/
theorem exists_text_iff {cs : List Char} : (∃ u : Uuid, u.text.toList = cs) ↔ IsWritten cs := by
  constructor
  · rintro ⟨u, rfl⟩
    exact ⟨_, Text.length_hexDigits _ _, fun c => Text.mem_writtenDigits_of_mem_hexDigits, String.toList_ofList⟩
  · rintro ⟨digits, length, written, rfl⟩
    obtain ⟨n, bound, same⟩ := Text.exists_hexDigits_eq written
    rw [length] at bound same
    refine ⟨⟨⟨n, bound⟩⟩, ?_⟩
    rw [text, String.toList_ofList, same]

/-- Groups hold digits and dashes. -/
theorem mem_grouped {digits : List Char} {c : Char} (h : c ∈ grouped digits) : c ∈ digits ∨ c = '-' := by
  unfold grouped at h
  simp only [List.mem_append, List.mem_cons, or_assoc] at h
  obtain h | rfl | h | rfl | h | rfl | h | rfl | h := h
  · exact .inl (List.mem_of_mem_take h)
  · exact .inr rfl
  · exact .inl (List.mem_of_mem_drop (List.mem_of_mem_take h))
  · exact .inr rfl
  · exact .inl (List.mem_of_mem_drop (List.mem_of_mem_take h))
  · exact .inr rfl
  · exact .inl (List.mem_of_mem_drop (List.mem_of_mem_take h))
  · exact .inr rfl
  · exact .inl (List.mem_of_mem_drop h)

/-- **The written form of an identifier has no blanks to trim.** -/
theorem trim_text (u : Uuid) : Text.trim u.text = u.text := by
  refine Text.trim_eq_self fun c mem => ?_
  unfold text at mem
  rw [String.toList_ofList] at mem
  obtain digit | rfl := mem_grouped mem
  · exact Text.isBlank_of_mem_hexDigits digit
  · decide

end Uuid

/-! ## Decimal digits -/

namespace Json

variable {cs ds : List Char}

theorem digitsValue_eq_ofDigitChars (cs : List Char) : digitsValue cs = Nat.ofDigitChars 10 cs 0 := by
  unfold digitsValue Nat.ofDigitChars
  congr 1
  funext acc c
  rw [Nat.mul_comm]
  rfl

/-- **What is read from the digits of a number** is the number. -/
@[simp] theorem digitsValue_toDigits (n : Nat) : digitsValue (Nat.toDigits 10 n) = n := by
  rw [digitsValue_eq_ofDigitChars, Nat.ofDigitChars_ten_toDigits]

theorem foldl_digits (acc : Nat) (ds : List Char) :
    ds.foldl (fun acc c => acc * 10 + (c.toNat - 0x30)) acc = acc * 10 ^ ds.length + digitsValue ds := by
  induction ds generalizing acc with
  | nil =>
    rw [List.length_nil, Nat.pow_zero, Nat.mul_one]
    rfl
  | cons d ds ih =>
    unfold digitsValue
    rw [List.foldl_cons, List.foldl_cons, ih, ih (0 * 10 + (d.toNat - 0x30)), List.length_cons, Nat.pow_succ]
    rw [Nat.zero_mul, Nat.zero_add, Nat.add_mul, Nat.mul_assoc, Nat.mul_comm 10, Nat.add_assoc]

theorem digitsValue_append (cs ds : List Char) :
    digitsValue (cs ++ ds) = digitsValue cs * 10 ^ ds.length + digitsValue ds := by
  unfold digitsValue
  rw [List.foldl_append, foldl_digits]
  rfl

@[simp] theorem digitsValue_zeros (count : Nat) : digitsValue (Double.zeros count) = 0 := by
  induction count with
  | zero => rfl
  | succ count ih =>
    have split : Double.zeros (count + 1) = ['0'] ++ Double.zeros count := rfl
    rw [split, digitsValue_append, ih]
    exact Nat.zero_mul _

/-- Digits denote a number that needs no more of them. -/
theorem digitsValue_lt (digits : ∀ c ∈ ds, isDigit c = true) : digitsValue ds < 10 ^ ds.length := by
  induction ds with
  | nil => exact Nat.one_pos
  | cons d ds ih =>
    obtain ⟨first, others⟩ := List.forall_mem_cons.mp digits
    have bound := ih others
    have value : digitsValue [d] < 10 := by
      unfold isDigit at first
      have upper : d.toNat ≤ 0x39 := by
        rw [Bool.and_eq_true, decide_eq_true_eq, decide_eq_true_eq] at first
        exact first.2
      show 0 * 10 + (d.toNat - 0x30) < 10
      omega
    have split : digitsValue (d :: ds) = digitsValue [d] * 10 ^ ds.length + digitsValue ds :=
      digitsValue_append [d] ds
    rw [split, List.length_cons, Nat.pow_succ]
    calc digitsValue [d] * 10 ^ ds.length + digitsValue ds
        < digitsValue [d] * 10 ^ ds.length + 10 ^ ds.length := Nat.add_lt_add_left bound _
      _ = (digitsValue [d] + 1) * 10 ^ ds.length := (Nat.succ_mul _ _).symm
      _ ≤ 10 * 10 ^ ds.length := Nat.mul_le_mul_right _ value
      _ = 10 ^ ds.length * 10 := Nat.mul_comm _ _

theorem isDigit_of_mem_toDigits {n : Nat} {c : Char} (h : c ∈ Nat.toDigits 10 n) : isDigit c = true :=
  Nat.isDigit_of_mem_toDigits (by decide) (by decide) h

theorem isDigit_of_mem_zeros {count : Nat} {c : Char} (h : c ∈ Double.zeros count) : isDigit c = true := by
  rw [List.eq_of_mem_replicate h]
  rfl

/-- Only zero starts with a zero. -/
theorem head?_toDigits {n : Nat} (h : 0 < n) : (Nat.toDigits 10 n).head? ≠ some '0' := by
  induction n using Nat.strongRecOn with
  | ind n ih =>
    rw [Nat.toDigits_eq_if (by decide)]
    by_cases small : n < 10
    · rw [if_pos small]
      have all : ∀ n : Fin 10, 0 < n.val → [n.val.digitChar].head? ≠ some '0' := by decide
      exact all ⟨n, small⟩ h
    · have before := ih (n / 10) (by omega) (by omega)
      rwa [if_neg small, List.head?_append_of_ne_nil _ Nat.toDigits_ne_nil]

/-- No digit follows. -/
def NoDigit (cs : List Char) : Prop := ∀ c, cs.head? = some c → isDigit c = false

/-- **The digits at the front of a text** are those before the first other character. -/
theorem spanDigits_append (digits : ∀ c ∈ ds, isDigit c = true) (rest : NoDigit cs) :
    spanDigits (ds ++ cs) = (ds, cs) := by
  unfold spanDigits
  rw [List.span_eq_takeWhile_dropWhile, List.takeWhile_append_of_pos digits, List.dropWhile_append_of_pos digits]
  cases cs with
  | nil => rw [List.takeWhile_nil, List.dropWhile_nil, List.append_nil]
  | cons c cs =>
    have stop : ¬ isDigit c = true := Bool.eq_false_iff.mp (rest c rfl)
    rw [List.takeWhile_cons_of_neg stop, List.dropWhile_cons_of_neg stop, List.append_nil]

end Json

end ConnectionJobs
