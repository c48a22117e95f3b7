/-
Floating-point numbers read from text: white space around, a sign, digits of any script with
single underscores between them, a point, an exponent, or one of the words for the infinities
and for not a number.
-/
import ChannelBot.Number.Integer
import ChannelBot.Number.Binary64

namespace ChannelBot.Number

/-- A text of ASCII digits and underscores, the latter only between digits; empty is allowed. -/
def fieldDigits? (s : List Char) : Option (List Char) :=
  if s.isEmpty then some [] else groupedDigits? s

/-- The exponent that follows the mark `e`. -/
def exponent? (s : List Char) : Option Int :=
  let (minus, body) := splitSign s
  (groupedDigits? body).map fun ds =>
    let n : Nat := if ds.length > 12 then (if (ds.dropWhile (· == '0')).length > 12 then Nat.pow 10 12
      else Text.digitsValue ds) else Text.digitsValue ds
    if minus then -(n : Int) else (n : Int)

/-- A decimal number without sign. -/
def magnitude? (s : List Char) : Option (Nat × Nat × Int) :=
  let isMark := fun c => c == 'e' || c == 'E'
  let mantissa := s.takeWhile (!isMark ·)
  let tail := s.dropWhile (!isMark ·)
  let whole := mantissa.takeWhile (· != '.')
  let fraction := (mantissa.dropWhile (· != '.')).drop 1
  match fieldDigits? whole, fieldDigits? fraction,
      (if tail.isEmpty then some 0 else exponent? (tail.drop 1)) with
  | some w, some f, some e =>
    if w.isEmpty && f.isEmpty then none
    else
      let ds := (w ++ f).dropWhile (· == '0')
      some (Text.digitsValue ds, ds.length, e - f.length)
  | _, _, _ => none

/-- Reads a floating-point number. -/
def readReal? (s : String) : Option Float :=
  let (minus, body) := splitSign (normalize s)
  let word := String.ofList (body.map Char.toLower)
  if word == "inf" || word == "infinity" then some (if minus then -1.0 / 0.0 else 1.0 / 0.0)
  else if word == "nan" then some (0.0 / 0.0)
  else (magnitude? body).map fun (m, ds, e) => ofDecimal minus m ds e

end ChannelBot.Number
