/-
Floating-point numbers as a column of texts keeps them: fifteen digits, of which the last one is
raised if the sixteenth is five or more. The digits are those of the number times a power of ten,
reckoned with 64 binary digits; what the reckoning loses shows where the sixteenth digit is
nearly five.
-/
import ChannelBot.Number.Decimal

namespace ChannelBot.Number

/-- A positive number of 64 binary digits: `significand * 2^exponent`. -/
structure Wide where
  significand : Nat
  exponent : Int
  deriving Repr, DecidableEq

namespace Wide

/-- The number as a fraction. -/
def ratio (w : Wide) : Nat × Nat := asRatio w.significand w.exponent

/-- The number of 64 binary digits that is nearest to a fraction, a half going to the even
neighbour. -/
def ofRatio (num den : Nat) : Wide :=
  let guess : Int := (Nat.log2 num : Int) - (Nat.log2 den : Int) - 63
  let fraction := fun (e : Int) =>
    if e ≥ 0 then (num, den * Nat.pow 2 e.toNat) else (num * Nat.pow 2 (-e).toNat, den)
  let (p, q) := fraction guess
  let e := if p < q * Nat.pow 2 63 then guess - 1 else guess
  let (p, q) := fraction e
  ⟨nearest p q, e⟩

/-- The number nearest to a power of ten. -/
def tenTo (power : Int) : Wide :=
  if power ≥ 0 then ofRatio (Nat.pow 10 power.toNat) 1 else ofRatio 1 (Nat.pow 10 (-power).toNat)

/-- The product of two numbers. -/
def times (v w : Wide) : Wide :=
  let (a, b) := v.ratio
  let (c, d) := w.ratio
  ofRatio (a * c) (b * d)

/-- Whether a number is below another one. -/
def isBelow (v w : Wide) : Bool :=
  let (a, b) := v.ratio
  let (c, d) := w.ratio
  a * d < c * b

/-- The whole part of a number. -/
def whole (w : Wide) : Nat :=
  let (a, b) := w.ratio
  a / b

end Wide

/-- A number in units of a power of ten. -/
structure Scaled where
  number : Wide
  power : Int
  deriving Repr, DecidableEq

namespace Scaled

/-- Counts a number in units greater by ten to `step` until it is below a power of ten. The first
number bounds the count of steps. -/
def lower (step limit : Nat) : Nat → Scaled → Scaled
  | 0, s => s
  | fuel + 1, s =>
    if s.number.isBelow (.tenTo limit) then s
    else lower step limit fuel ⟨s.number.times (.tenTo (-step)), s.power + step⟩

/-- Counts a number in units smaller by ten to `step` until it is not below a power of ten. The
first number bounds the count of steps. -/
def raise (step : Nat) (limit : Int) : Nat → Scaled → Scaled
  | 0, s => s
  | fuel + 1, s =>
    if s.number.isBelow (.tenTo limit) then
      raise step limit fuel ⟨s.number.times (.tenTo step), s.power - step⟩
    else s

/-- The number `m * 2^e`, for `m` not zero, with eighteen or nineteen digits before its point. -/
def ofParts (m : Nat) (e : Int) : Scaled :=
  let (num, den) := asRatio m e
  let s : Scaled := ⟨.ofRatio num den, 0⟩
  if s.number.isBelow (.tenTo 19) then
    raise 1 17 12 (raise 10 7 12 (raise 100 (-97) 4 s))
  else lower 1 19 12 (lower 10 29 12 (lower 100 119 4 s))

end Scaled

/-- The first fifteen digits of `m * 2^e`, for `m` not zero; the sixteenth alone decides whether
the last one is raised. -/
def columnDecimal (m : Nat) (e : Int) : Decimal :=
  let s := Scaled.ofParts m e
  let v := s.number.whole
  let excess := (natDigits v).length - 15
  let ds := natDigits ((v / Nat.pow 10 (excess - 1) + 5) / 10)
  ⟨dropZeros ds, s.power + excess + ds.length⟩

/-- Fifteen significant digits without the zeros at the end, positional from 10^-4 up to 10^15,
and always with a point: the text that a column of texts makes of a number. Zero has no sign. -/
def columnText (x : Float) : String :=
  if x == 0.0 then "0.0"
  else signed ⟨"", "Inf"⟩ "0.0" (fun m e => (columnDecimal m e).layout 15 ".0" ".0") x

end ChannelBot.Number
