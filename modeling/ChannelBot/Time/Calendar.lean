/-
The calendar from year 1 to year 9999: dates counted in days, moments counted in microseconds,
and their written form `YYYY-MM-DDTHH:MM:SS`, with a fraction where there is one and an offset
from universal time where one is known.
-/
import ChannelBot.Number.Binary64
import ChannelBot.Text.Digit

namespace ChannelBot

/-- A day of the calendar. -/
structure Date where
  year : Nat
  month : Nat
  day : Nat
  deriving Repr, DecidableEq

namespace Date

/-- Whether a year has 366 days. -/
def isLeap (year : Nat) : Bool := year % 4 == 0 && (year % 100 != 0 || year % 400 == 0)

/-- The lengths of the months. -/
def monthLengths (year : Nat) : List Nat :=
  [31, if isLeap year then 29 else 28, 31, 30, 31, 30, 31, 31, 30, 31, 30, 31]

/-- The length of a month; no month but the first to the twelfth has days. -/
def monthLength (year month : Nat) : Nat :=
  if month == 0 then 0 else ((monthLengths year)[month - 1]?).getD 0

/-- Whether there is such a day. -/
def isValid (d : Date) : Bool :=
  1 ≤ d.year && d.year ≤ 9999 && 1 ≤ d.day && d.day ≤ monthLength d.year d.month

/-- The days of a number of whole years, counted from year 1. -/
def daysOfYears (years : Nat) : Nat := 365 * years + years / 4 - years / 100 + years / 400

/-- The days before a date, counted from the first day of year 1. -/
def dayNumber (d : Date) : Nat :=
  daysOfYears (d.year - 1) + ((monthLengths d.year).take (d.month - 1)).foldl (· + ·) 0 + (d.day - 1)

/-- The month and day that a number of days leads to, counted through months of these lengths. -/
def monthAndDay (month days : Nat) : List Nat → Nat × Nat
  | [] => (month, days + 1)
  | [_] => (month, days + 1)
  | length :: rest =>
    if days < length then (month, days + 1) else monthAndDay (month + 1) (days - length) rest

/-- The date that a number of days after the first day of year 1 is. -/
def ofDayNumber (n : Nat) : Date :=
  let guess := n / 366
  let years := ((List.range 30).map (guess + ·)).takeWhile (fun y => daysOfYears y ≤ n)
  let before := (years.getLast?).getD guess
  let (month, day) := monthAndDay 1 (n - daysOfYears before) (monthLengths (before + 1))
  ⟨before + 1, month, day⟩

end Date

/-- A date and a time of day: the microseconds since the start of year 1. -/
structure Moment where
  micros : Nat
  deriving Repr, DecidableEq

namespace Moment

/-- The microseconds of a second. -/
def second : Nat := 1000000

/-- The microseconds of a day. -/
def day : Nat := 86400 * second

/-- The moment after the last one of the calendar. -/
def limit : Nat := 3652059 * day

/-- The start of a date. -/
def ofDate (d : Date) : Moment := ⟨d.dayNumber * day⟩

/-- The moment so many seconds later, unless it lies beyond the calendar. -/
def addSeconds? (m : Moment) (seconds : Int) : Option Moment :=
  let t : Int := m.micros + seconds * second
  if 0 ≤ t ∧ t < limit then some ⟨t.toNat⟩ else none

/-- A number with at least the given count of digits. -/
def padded (width n : Nat) : String :=
  let ds := Nat.toDigits 10 n
  .ofList (List.replicate (width - ds.length) '0' ++ ds)

/-- The written form of a moment. -/
def text (m : Moment) : String :=
  let d := Date.ofDayNumber (m.micros / day)
  let seconds := m.micros % day / second
  let fraction := m.micros % second
  padded 4 d.year ++ "-" ++ padded 2 d.month ++ "-" ++ padded 2 d.day ++ "T" ++
    padded 2 (seconds / 3600) ++ ":" ++ padded 2 (seconds / 60 % 60) ++ ":" ++
    padded 2 (seconds % 60) ++ (if fraction == 0 then "" else "." ++ padded 6 fraction)

end Moment

/-- A moment as a clock shows it, with the clock's offset from universal time in minutes, if it
is known. -/
structure Timestamp where
  shown : Moment
  offset : Option Int
  deriving Repr, DecidableEq

namespace Timestamp

/-- The written form of an offset. -/
def offsetText (minutes : Int) : String :=
  (if minutes < 0 then "-" else "+") ++ Moment.padded 2 (minutes.natAbs / 60) ++ ":" ++
    Moment.padded 2 (minutes.natAbs % 60)

/-- The written form of a timestamp. -/
def text (t : Timestamp) : String :=
  t.shown.text ++ (match t.offset with
    | some m => offsetText m
    | none => "")

/-- A number of exactly the given count of digits, and the text after it. -/
def digits? (count : Nat) (s : List Char) : Option (Nat × List Char) :=
  let ds := s.take count
  if ds.length == count && ds.all Text.isAsciiDigit then
    some (Text.digitsValue ds, s.drop count)
  else none

/-- A number of two digits below a bound, and the text after it. -/
def part? (bound : Nat) (s : List Char) : Option (Nat × List Char) :=
  match digits? 2 s with
  | some (n, rest) => if n < bound then some (n, rest) else none
  | none => none

/-- A date, and the text after it. -/
def date? (s : List Char) : Option (Date × List Char) :=
  match digits? 4 s with
  | some (y, '-' :: r) => match digits? 2 r with
    | some (m, '-' :: r) => match digits? 2 r with
      | some (d, r) => if (Date.mk y m d).isValid then some (⟨y, m, d⟩, r) else none
      | none => none
    | _ => none
  | _ => none

/-- A fraction of a second in microseconds, and the text after it. Digits after the sixth are
dropped. -/
def fraction? (s : List Char) : Option (Nat × List Char) :=
  let ds := s.takeWhile Text.isAsciiDigit
  if ds.isEmpty then none
  else
    let six := (ds ++ List.replicate 6 '0').take 6
    some (Text.digitsValue six, s.dropWhile Text.isAsciiDigit)

/-- Seconds with their fraction in microseconds, and the text after them; without seconds a
time is at the start of its minute. -/
def seconds? : List Char → Option (Nat × List Char)
  | ':' :: r => match part? 60 r with
    | some (s, c :: r) =>
      if c == '.' || c == ',' then
        (fraction? r).map fun (f, r) => (s * Moment.second + f, r)
      else some (s * Moment.second, c :: r)
    | some (s, []) => some (s * Moment.second, [])
    | none => none
  | r => some (0, r)

/-- A time of day in microseconds, and the text after it. -/
def time? (s : List Char) : Option (Nat × List Char) :=
  match part? 24 s with
  | some (h, ':' :: r) => match part? 60 r with
    | some (m, r) => (seconds? r).map fun (f, r) => ((h * 60 + m) * 60 * Moment.second + f, r)
    | none => none
  | _ => none

/-- The hours and minutes of an offset, in minutes. -/
def offset? (s : List Char) : Option Int :=
  match part? 24 s with
  | some (h, r) =>
    match part? 60 (match r with
      | ':' :: r => r
      | r => r) with
    | some (m, []) => some (h * 60 + m)
    | _ => none
  | none => none

/-- Reads the end of a written timestamp: nothing, `Z`, or an offset. -/
def zone? : List Char → Option (Option Int)
  | [] => some none
  | ['Z'] => some (some 0)
  | ['z'] => some (some 0)
  | '+' :: r => (offset? r).map some
  | '-' :: r => (offset? r).map fun m => some (-m)
  | '−' :: r => (offset? r).map fun m => some (-m)
  | _ => none

/-- A character that may stand between date and time. -/
def isSeparator (c : Char) : Bool := c == 'T' || c == 't' || c == ' ' || c == '_'

/-- Reads a timestamp. A date alone stands for its start. -/
def read? (s : String) : Option Timestamp :=
  match date? s.toList with
  | none => none
  | some (d, []) => some ⟨.ofDate d, none⟩
  | some (d, c :: r) =>
    if isSeparator c then
      match time? r with
      | some (t, r) => (zone? r).map fun z => ⟨⟨(Moment.ofDate d).micros + t⟩, z⟩
      | none => none
    else none

/-- The start of the year 1970. -/
def unixStart : Moment := .ofDate ⟨1970, 1, 1⟩

/-- The greatest count of seconds; beyond it a count is one of milliseconds. -/
def secondsLimit : Nat := 20000000000

/-- The moment of universal time so many microseconds from the start of 1970. -/
def ofUnixMicros? (n : Int) : Option Timestamp :=
  let t : Int := unixStart.micros + n
  if 0 ≤ t ∧ t < Moment.limit then some ⟨⟨t.toNat⟩, some 0⟩ else none

/-- The moment of universal time that is so many seconds, or milliseconds, from the start of
1970. -/
def ofUnix? (n : Int) : Option Timestamp :=
  ofUnixMicros? (n * if n.natAbs ≤ secondsLimit then 1000000 else 1000)

/-- The moment of universal time that is so many seconds, or milliseconds, from the start of
1970, to the nearest microsecond. -/
def ofReal? (x : Float) : Option Timestamp :=
  if x == x.floor then
    match Number.truncate x with
    | .ok n => ofUnix? n
    | .error _ => none
  else
    let seconds := if x.abs ≤ Float.ofNat secondsLimit then x else x / 1000.0
    match Number.truncate seconds.floor,
        Number.truncate ((seconds - seconds.floor) * 1000000.0).round with
    | .ok whole, .ok rest => ofUnixMicros? (whole * 1000000 + rest)
    | _, _ => none

/-- The moment for a written count: ASCII digits with or without a point, a sign before. -/
def ofCount? (s : String) : Option Timestamp :=
  let (minus, body) := match s.toList with
    | '-' :: r => (true, r)
    | '+' :: r => (false, r)
    | r => (false, r)
  let whole := body.takeWhile (· != '.')
  let fraction := (body.dropWhile (· != '.')).drop 1
  let ds := whole ++ fraction
  if ds.isEmpty || !ds.all Text.isAsciiDigit then none
  else if body.contains '.' then
    let size := (ds.dropWhile (· == '0')).length
    ofReal? (Number.ofDecimal minus (Text.digitsValue ds) size (-(fraction.length : Int)))
  else ofUnix? (if minus then -(Text.digitsValue ds : Int) else Text.digitsValue ds)

end Timestamp

end ChannelBot
