/-
Integers read from text: white space around, a sign, decimal digits of any script, and single
underscores between digits. A number of more than 4300 digits is refused for its length.
-/
import ChannelBot.Text.Blank
import ChannelBot.Text.Digit

namespace ChannelBot.Number

/-- The most digits that a written integer may have. -/
def digitLimit : Nat := 4300

/-- Why a text is not read as a number. -/
inductive ReadFault where
  /-- The text does not write a number. -/
  | malformed
  /-- The number has this many digits, more than the limit. -/
  | tooLong (digits : Nat)
  deriving Repr, DecidableEq

/-- White space allowed around a number: all but the four ASCII separators. -/
def isMargin (c : Char) : Bool :=
  Chars.isBlank c && !(28 ≤ c.toNat && c.toNat ≤ 31)

/-- The text without the white space around it and with each digit in its ASCII form. -/
def normalize (s : String) : List Char :=
  let t := (s.toList.dropWhile isMargin).reverse.dropWhile isMargin
  t.reverse.map fun c =>
    match Text.digitValue? c with
    | some d => Char.ofNat (48 + d)
    | none => c

/-- A leading sign, as whether it is a minus, and the rest. -/
def splitSign : List Char → Bool × List Char
  | '-' :: r => (true, r)
  | '+' :: r => (false, r)
  | r => (false, r)

/-- The digits of a row in which single underscores may stand between two digits. -/
def groupedDigits? : List Char → Option (List Char)
  | [] => none
  | [c] => if Text.isAsciiDigit c then some [c] else none
  | c :: d :: r =>
    if Text.isAsciiDigit c then
      if d == '_' then (groupedDigits? r).map (c :: ·)
      else (groupedDigits? (d :: r)).map (c :: ·)
    else none

/-- The digits as a number, unless there are too many. -/
def ofDigits (ds : List Char) : Except ReadFault Nat :=
  if ds.length > digitLimit then .error (.tooLong ds.length) else .ok (Text.digitsValue ds)

/-- Reads an integer. -/
def readInt (s : String) : Except ReadFault Int :=
  let (minus, body) := splitSign (normalize s)
  match groupedDigits? body with
  | none => .error .malformed
  | some ds => (ofDigits ds).map fun n => if minus then -(n : Int) else (n : Int)

end ChannelBot.Number
