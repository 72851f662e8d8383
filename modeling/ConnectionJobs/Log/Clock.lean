/-!
# Times in log lines

A log record carries the time at which it was made, in seconds since the start of 1970, and a log line shows it
as a date and a time of day in the zone that the program runs in. Dates follow the Gregorian calendar, which repeats
every four hundred years. Times are kept in sixty-four bits and years in thirty-two, so a time may be too far away to
be shown.
-/

namespace ConnectionJobs.Log

/-- **A date and a time of day.** -/
structure DateTime where
  /-- The year. -/
  year : Int
  /-- The month, from one. -/
  month : Nat
  /-- The day of the month, from one. -/
  day : Nat
  /-- The hour. -/
  hour : Nat
  /-- The minute. -/
  minute : Nat
  /-- The second. -/
  second : Nat
  deriving DecidableEq, Repr, Inhabited

/-- **The time** that clocks show a number of seconds after they have shown the start of 1970. The day is located in a
calendar whose years start in March, so that the day that leap years add comes last. -/
def DateTime.ofSeconds (seconds : Int) : DateTime :=
  let days := seconds.fdiv 86400
  let rest := (seconds.fmod 86400).toNat
  let shifted := days + 719468
  let era := shifted.fdiv 146097
  let dayOfEra := (shifted.fmod 146097).toNat
  let yearOfEra := (dayOfEra - dayOfEra / 1460 + dayOfEra / 36524 - dayOfEra / 146096) / 365
  let dayOfYear := dayOfEra - (365 * yearOfEra + yearOfEra / 4 - yearOfEra / 100)
  let monthFromMarch := (5 * dayOfYear + 2) / 153
  let month := if monthFromMarch < 10 then monthFromMarch + 3 else monthFromMarch - 9
  { year := (yearOfEra : Int) + era * 400 + (if month ≤ 2 then 1 else 0)
    month := month
    day := dayOfYear - (153 * monthFromMarch + 2) / 5 + 1
    hour := rest / 3600
    minute := rest % 3600 / 60
    second := rest % 60 }

/-- **Why a time cannot be shown.** -/
inductive ClockProblem where
  /-- The seconds do not fit in sixty-four bits. -/
  | manySeconds
  /-- The years since 1900 do not fit in thirty-two bits. -/
  | manyYears
  /-- The year does not fit in thirty-two bits. -/
  | greatYear
  deriving DecidableEq, Repr, Inhabited

/-- The message of a problem. -/
def ClockProblem.message : ClockProblem → String
  | manySeconds => "timestamp out of range for platform time_t"
  | manyYears => "[Errno 75] Value too large for defined data type"
  | greatYear => "signed integer is greater than maximum"

/-- The integer fits in a number of bits, one of which is the sign. -/
def fitsBits (bits : Nat) (n : Int) : Bool := -Int.pow 2 (bits - 1) ≤ n && n < Int.pow 2 (bits - 1)

/-- **A time zone**: by how many seconds its clocks are ahead of universal time, at every second since the start of
1970. -/
structure Zone where
  /-- The offset at a second. -/
  offset : Int → Int
  /-- Offsets are kept in thirty-two bits. -/
  bounded : ∀ seconds, fitsBits 32 (offset seconds) = true

/-- Universal time. -/
def Zone.universal : Zone := ⟨fun _ => 0, fun _ => rfl⟩

/-- What the clocks of a zone show, in seconds since they showed the start of 1970. -/
def Zone.clock (zone : Zone) (seconds : Int) : Int := seconds + zone.offset seconds

/-- **The time to show** in a zone for a number of seconds after the start of 1970. -/
def DateTime.ofSeconds? (zone : Zone) (seconds : Int) : Except ClockProblem DateTime :=
  let time := ofSeconds (zone.clock seconds)
  if !fitsBits 64 seconds then .error .manySeconds
  else if !fitsBits 32 (time.year - 1900) then .error .manyYears
  else if !fitsBits 32 time.year then .error .greatYear
  else .ok time

/-- A number with zeros in front, up to a length. -/
def padded (length n : Nat) : String :=
  let digits := toString n
  String.ofList (List.replicate (length - digits.length) '0') ++ digits

/-- **The date and the time of day**, with a separator between them. -/
def DateTime.text (t : DateTime) (separator : String) : String :=
  toString t.year ++ "-" ++ padded 2 t.month ++ "-" ++ padded 2 t.day ++ separator ++
    padded 2 t.hour ++ ":" ++ padded 2 t.minute ++ ":" ++ padded 2 t.second

end ConnectionJobs.Log
