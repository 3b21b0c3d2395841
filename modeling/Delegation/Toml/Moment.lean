import Delegation.Number.Reading
/-!
# Dates and times of TOML

A moment is a date, a time of day, or both, and then perhaps with the distance from universal time.
It may only name days and times that exist; fractions of a second count up to nanoseconds.
-/

namespace Delegation.Toml

/-- A day. -/
structure Date where
  /-- The year. -/
  year : Nat
  /-- The month, from one on. -/
  month : Nat
  /-- The day of the month, from one on. -/
  day : Nat
deriving DecidableEq, Repr

/-- A time of day. -/
structure TimeOfDay where
  /-- The hour. -/
  hour : Nat
  /-- The minute. -/
  minute : Nat
  /-- The second. -/
  second : Nat
  /-- The nanosecond. -/
  nanosecond : Nat
deriving DecidableEq, Repr

/-- The distance from universal time. -/
inductive Offset where
  /-- None, as universal time is meant. -/
  | universal
  /-- In minutes. -/
  | minutes (n : Int)
deriving DecidableEq, Repr

/-- A date, a time of day, or both. -/
structure Moment where
  /-- The date. -/
  date : Option Date := none
  /-- The time of day. -/
  time : Option TimeOfDay := none
  /-- The distance from universal time. -/
  offset : Option Offset := none
deriving DecidableEq, Repr

/-- How far the hours of a moment may go. -/
structure MomentRange where
  /-- The last hour of a day. -/
  lastHour : Nat
  /-- The last hour and the last minute of a distance. -/
  lastOffset : Nat × Nat
deriving DecidableEq, Repr

namespace MomentRange

/-- The hours of a day, which end before midnight. -/
def day : MomentRange := ⟨23, (23, 59)⟩

/-- The hours of a day together with midnight at its end, and distances of any form up to a whole
day. -/
def wholeDay : MomentRange := ⟨24, (99, 99)⟩

end MomentRange

/-! ## Dates -/

namespace Date

/-- Whether a year has a leap day. -/
def isLeapYear (year : Nat) : Bool :=
  year % 4 == 0 && (year % 100 != 0 || year % 400 == 0)

/-- The number of days of a month. -/
def daysIn (year month : Nat) : Nat :=
  if month = 2 then (if isLeapYear year then 29 else 28)
  else if [4, 6, 9, 11].contains month then 30
  else 31

/-- Whether there is such a day. -/
def exists? (d : Date) : Bool :=
  1 ≤ d.month && d.month ≤ 12 && 1 ≤ d.day && d.day ≤ daysIn d.year d.month

end Date

/-! ## Reading -/

namespace Moment

/-- The number that two digits write, and what is left. -/
def twoDigits? : List Char → Option (Nat × List Char)
  | a :: b :: rest => do
    let a ← decimalDigit? a
    let b ← decimalDigit? b
    pure (10 * a + b, rest)
  | _ => none

/-- The number that two digits after a character write, and what is left. -/
def twoDigitsAfter? (mark : Char) : List Char → Option (Nat × List Char)
  | c :: rest => if c = mark then twoDigits? rest else none
  | [] => none

/-- A date, and what is left. -/
def date? (cs : List Char) : Option (Date × List Char) := do
  let (century, rest) ← twoDigits? cs
  let (year, rest) ← twoDigits? rest
  let (month, rest) ← twoDigitsAfter? '-' rest
  let (day, rest) ← twoDigitsAfter? '-' rest
  let d : Date := ⟨100 * century + year, month, day⟩
  if d.exists? then some (d, rest) else none

/-- The nanoseconds of a fraction of a second, if there is one; further digits are dropped. -/
def fraction? : List Char → Option (Nat × List Char)
  | '.' :: rest =>
    let digits := rest.takeWhile isDecimalDigit
    if digits.isEmpty then none
    else
      let counted := digits.take 9
      some (natOfDigits (counted ++ List.replicate (9 - counted.length) '0'),
        rest.drop digits.length)
  | rest => some (0, rest)

/-- A time of day, and what is left.  A minute may have a leap second. -/
def time? (range : MomentRange) (cs : List Char) : Option (TimeOfDay × List Char) := do
  let (hour, rest) ← twoDigits? cs
  let (minute, rest) ← twoDigitsAfter? ':' rest
  let (second, rest) ← twoDigitsAfter? ':' rest
  let (nanosecond, rest) ← fraction? rest
  if hour ≤ range.lastHour ∧ minute ≤ 59 ∧ second ≤ 60 then
    some (⟨hour, minute, second, nanosecond⟩, rest)
  else none

/-- The distance from universal time at the end of a moment, if there is one. -/
def offset? (range : MomentRange) : List Char → Option (Option Offset)
  | [] => some none
  | [c] => if c = 'Z' ∨ c = 'z' then some (some .universal) else none
  | sign :: rest => do
    let (hours, rest) ← twoDigits? rest
    let (minutes, rest) ← twoDigitsAfter? ':' rest
    let total := 60 * hours + minutes
    if rest.isEmpty && (sign == '+' || sign == '-') && hours ≤ range.lastOffset.1 &&
        minutes ≤ range.lastOffset.2 && total ≤ 24 * 60 then
      some (some (.minutes (if sign = '-' then -(total : Int) else total)))
    else none

/-- The moment that some characters write.  A letter T or a space parts the date from the time. -/
def read? (range : MomentRange) (cs : List Char) : Option Moment :=
  match date? cs with
  | none => do
    let (t, rest) ← time? range cs
    if rest.isEmpty then some { time := some t } else none
  | some (d, []) => some { date := some d }
  | some (d, mark :: rest) => do
    let (t, rest) ← time? range rest
    let offset ← offset? range rest
    if ['T', 't', ' '].contains mark then
      some { date := some d, time := some t, offset := offset }
    else none

/-! ## Writing -/

/-- A number with at least as many digits as given. -/
def padded (width n : Nat) : List Char :=
  let digits := Nat.toDigits 10 n
  List.replicate (width - digits.length) '0' ++ digits

/-- The text of a date. -/
def dateText (d : Date) : List Char :=
  padded 4 d.year ++ '-' :: padded 2 d.month ++ '-' :: padded 2 d.day

/-- The text of a time of day; a fraction of a second has no zeros at its end. -/
def timeText (t : TimeOfDay) : List Char :=
  let fraction := ((padded 9 t.nanosecond).reverse.dropWhile (· == '0')).reverse
  padded 2 t.hour ++ ':' :: padded 2 t.minute ++ ':' :: padded 2 t.second ++
    if fraction.isEmpty then [] else '.' :: fraction

/-- The text of a distance from universal time. -/
def offsetText : Offset → List Char
  | .universal => ['Z']
  | .minutes n =>
    (if n < 0 then '-' else '+') :: padded 2 (n.natAbs / 60) ++ ':' :: padded 2 (n.natAbs % 60)

/-- The text of a moment. -/
def text (m : Moment) : String :=
  let date := m.date.elim [] dateText
  let time := m.time.elim [] timeText
  let mark := if date.isEmpty || time.isEmpty then [] else ['T']
  String.ofList (date ++ mark ++ time ++ m.offset.elim [] offsetText)

end Moment

end Delegation.Toml
