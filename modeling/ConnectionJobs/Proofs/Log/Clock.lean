import ConnectionJobs.Log.Clock
import Mathlib.Tactic.SplitIfs

/-!
# The times that can be shown

A log line shows its time with a year, and years are kept in thirty-two bits twice over: once as they are, and once
counted from 1900. So there is a first and a last second that the clocks of a zone can show, and everything between
them can be shown. When these seconds come depends on the zone.

Where the years begin and end is read off the calendar. Within an era of four hundred years only two days matter: the
last day of the last year that can be shown, and the first day of the first one. All other eras are far enough on one
side of them.
-/

namespace ConnectionJobs.Log

/-- **A time that clocks can show**: it lies between the first second of the year -2147481748 and the last second of the
year 2147483647. -/
def IsShown (clock : Int) : Prop := -67768040609740800 ≤ clock ∧ clock ≤ 67767976233532799

instance (clock : Int) : Decidable (IsShown clock) := inferInstanceAs (Decidable (_ ∧ _))

/-! ## Years of an era -/

/-- The year in an era that a day belongs to, when years start in March. -/
def marchYear (day : Nat) : Nat := (day - day / 1460 + day / 36524 - day / 146096) / 365

/-- The day of its year, when years start in March. -/
def marchDay (day : Nat) : Nat := day - (365 * marchYear day + marchYear day / 4 - marchYear day / 100)

/-- The month of a day of a year that starts in March. -/
def monthOf (day : Nat) : Nat :=
  if (5 * day + 2) / 153 < 10 then (5 * day + 2) / 153 + 3 else (5 * day + 2) / 153 - 9

/-- **The year in an era that a day belongs to.** January and February are in the year after the one that started in
March. -/
def eraYear (day : Nat) : Nat := marchYear day + if monthOf (marchDay day) ≤ 2 then 1 else 0

section Era

variable {day : Nat}

theorem monthOf_le_iff : monthOf day ≤ 2 ↔ 306 ≤ day ∧ day ≤ 366 := by
  unfold monthOf
  split_ifs <;> omega

theorem eraYear_le (inside : day < 146097) : eraYear day ≤ 400 := by
  have march : marchYear day ≤ 399 := by
    unfold marchYear
    omega
  unfold eraYear
  split_ifs <;> omega

/-- The last day of the year 47 of an era. -/
theorem eraYear_le_iff (inside : day < 146097) : eraYear day ≤ 47 ↔ day ≤ 17471 := by
  have before : marchYear day ≤ 46 ↔ day ≤ 17165 := by
    unfold marchYear
    omega
  have within : marchYear day ≤ 47 ↔ day ≤ 17531 := by
    unfold marchYear
    omega
  simp only [eraYear, monthOf_le_iff, marchDay]
  split_ifs <;> omega

/-- The first day of the year 252 of an era. -/
theorem le_eraYear_iff (inside : day < 146097) : 252 ≤ eraYear day ↔ 91981 ≤ day := by
  have before : marchYear day ≤ 250 ↔ day ≤ 91674 := by
    unfold marchYear
    omega
  have within : marchYear day ≤ 251 ↔ day ≤ 92040 := by
    unfold marchYear
    omega
  simp only [eraYear, monthOf_le_iff, marchDay]
  split_ifs <;> omega

end Era

/-! ## Years of times -/

section Times

variable {seconds : Int}

/-- **The year of a time**, by the era it falls in and the day of the era. -/
theorem exists_year (seconds : Int) : ∃ (era : Int) (day : Nat), day < 146097 ∧
    (DateTime.ofSeconds seconds).year = 400 * era + eraYear day ∧
      86400 * (146097 * era + day - 719468) ≤ seconds ∧ seconds < 86400 * (146097 * era + day - 719467) := by
  have days : seconds.fdiv 86400 = seconds / 86400 := Int.fdiv_eq_ediv_of_nonneg _ (by decide)
  refine ⟨(seconds.fdiv 86400 + 719468).fdiv 146097, ((seconds.fdiv 86400 + 719468).fmod 146097).toNat, ?_, ?_, ?_⟩
  · rw [Int.fmod_eq_emod_of_nonneg _ (by decide)]
    omega
  · unfold eraYear
    show (marchYear _ : Int) + _ * 400 + (if monthOf (marchDay _) ≤ 2 then 1 else 0) = _
    split_ifs <;> omega
  · rw [days, Int.fdiv_eq_ediv_of_nonneg _ (by decide), Int.fmod_eq_emod_of_nonneg _ (by decide)]
    omega

theorem year_le_iff : (DateTime.ofSeconds seconds).year ≤ 2147483647 ↔ seconds ≤ 67767976233532799 := by
  obtain ⟨era, day, inside, year, first, last⟩ := exists_year seconds
  have bound := eraYear_le inside
  have here := eraYear_le_iff inside
  -- The year 2147483647 is the year 47 of the era 5368709.
  obtain before | rfl | after := Int.lt_trichotomy era 5368709 <;> omega

theorem le_year_iff : -2147481748 ≤ (DateTime.ofSeconds seconds).year ↔ -67768040609740800 ≤ seconds := by
  obtain ⟨era, day, inside, year, first, last⟩ := exists_year seconds
  have bound := eraYear_le inside
  have here := le_eraYear_iff inside
  -- The year -2147481748 is the year 252 of the era -5368705.
  obtain before | rfl | after := Int.lt_trichotomy era (-5368705) <;> omega

theorem not_fitsBits_iff {bits : Nat} {n : Int} :
    (!fitsBits bits n) = true ↔ n < -Int.pow 2 (bits - 1) ∨ Int.pow 2 (bits - 1) ≤ n := by
  rw [fitsBits, Bool.not_and, Bool.or_eq_true, Bool.not_eq_true', Bool.not_eq_true', decide_eq_false_iff_not,
    decide_eq_false_iff_not, Int.not_le, Int.not_lt]

/-- The clocks of a zone are a thirty-two bit number of seconds ahead, or behind. -/
theorem Zone.clock_bounds (zone : Zone) (seconds : Int) :
    seconds - 2147483648 ≤ zone.clock seconds ∧ zone.clock seconds < seconds + 2147483648 := by
  have bounded := zone.bounded seconds
  rw [fitsBits, Bool.and_eq_true, decide_eq_true_eq, decide_eq_true_eq] at bounded
  have half : Int.pow 2 (32 - 1) = 2147483648 := rfl
  unfold Zone.clock
  omega

/-- **Exactly the times between the two can be shown**, as the clocks of the zone show them. -/
theorem exists_ofSeconds?_iff {zone : Zone} :
    (∃ time, DateTime.ofSeconds? zone seconds = .ok time) ↔ IsShown (zone.clock seconds) := by
  have first : -2147481748 ≤ (DateTime.ofSeconds (zone.clock seconds)).year ↔ _ := le_year_iff
  have last : (DateTime.ofSeconds (zone.clock seconds)).year ≤ 2147483647 ↔ _ := year_le_iff
  have half : Int.pow 2 (32 - 1) = 2147483648 := rfl
  have whole : Int.pow 2 (64 - 1) = 9223372036854775808 := rfl
  unfold DateTime.ofSeconds? IsShown
  dsimp only
  split_ifs with manySeconds manyYears greatYear
  · -- What clocks show is close to the time itself, and sixty-four bits are far more than years take.
    rw [not_fitsBits_iff, whole] at manySeconds
    have near := zone.clock_bounds seconds
    exact iff_of_false nofun (by omega)
  · rw [not_fitsBits_iff, half] at manyYears
    exact iff_of_false nofun (by omega)
  · rw [not_fitsBits_iff, half] at greatYear
    exact iff_of_false nofun (by omega)
  · rw [not_fitsBits_iff, half] at manyYears greatYear
    exact iff_of_true ⟨_, rfl⟩ (by omega)

end Times

end ConnectionJobs.Log
