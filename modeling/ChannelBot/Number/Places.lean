/-
Floating-point numbers written with a given count of digits: after the point, after the first
digit and before an exponent, or in all. A number is `m * 2^e`; its sign is written elsewhere.
-/
import ChannelBot.Number.Decimal

namespace ChannelBot.Number

/-- Two rows of digits with a point between them; without digits after it the point is dropped
unless it is kept. -/
def withPoint (keepsPoint : Bool) (whole fraction : List Char) : List Char :=
  if fraction.isEmpty && !keepsPoint then whole else whole ++ '.' :: fraction

/-- The digits of `m * 2^e` with the given count of them after the point. -/
def fixedText (places : Nat) (keepsPoint : Bool) (m : Nat) (e : Int) : List Char :=
  let (num, den) := asRatio m e
  let ds := natDigits (nearest (num * Nat.pow 10 places) den)
  let ds := List.replicate (places + 1 - ds.length) '0' ++ ds
  withPoint keepsPoint (ds.take (ds.length - places)) (ds.drop (ds.length - places))

/-- The given count of digits nearest to `m * 2^e`; zero has as many zeros, the first of them
before the point. -/
def figures (count m : Nat) (e : Int) : Decimal :=
  if m == 0 then ⟨List.replicate count '0', 1⟩ else rounded count m e

/-- Digits with the point after the first one, and the exponent that puts it in its place. -/
def withExponent (keepsPoint : Bool) (digits : List Char) (exponent : Int) : List Char :=
  withPoint keepsPoint (digits.take 1) (digits.drop 1) ++ (exponentText exponent).toList

/-- The digits of `m * 2^e` with an exponent and the given count of digits after the point. -/
def exponentForm (places : Nat) (keepsPoint : Bool) (m : Nat) (e : Int) : List Char :=
  let d := figures (places + 1) m e
  withExponent keepsPoint d.digits (d.point - 1)

/-- The given count of digits, positional from 10^-4 up to 10^count. The zeros after the point's
last digit that counts are dropped unless all are kept, and the point with them. -/
def generalForm (count : Nat) (keepsAll : Bool) (m : Nat) (e : Int) : List Char :=
  let count := max count 1
  let d := figures count m e
  let trimmed := fun (ds : List Char) => if keepsAll then ds else dropZeros ds
  if -4 < d.point && d.point ≤ count then
    if d.point ≤ 0 then
      withPoint keepsAll ['0'] (trimmed (List.replicate (-d.point).toNat '0' ++ d.digits))
    else
      withPoint keepsAll (d.digits.take d.point.toNat) (trimmed (d.digits.drop d.point.toNat))
  else withExponent keepsAll (d.digits.take 1 ++ trimmed (d.digits.drop 1)) (d.point - 1)

end ChannelBot.Number
