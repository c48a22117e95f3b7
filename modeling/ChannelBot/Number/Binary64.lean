/-
The exact value of a floating-point number: a sign, and a whole number times a power of two.
Everything that reads, rounds or prints such numbers goes through this form.
-/

namespace ChannelBot.Number

/-- A floating-point number taken apart: an infinity, not a number, or
`(-1)^negative * significand * 2^exponent`. -/
inductive Parts where
  | nan
  | infinite (negative : Bool)
  | finite (negative : Bool) (significand : Nat) (exponent : Int)
  deriving Repr, DecidableEq

/-- Reads the sign, exponent and fraction fields of a bit pattern. -/
def Parts.ofBits (bits : Nat) : Parts :=
  let negative := bits / Nat.pow 2 63 % 2 == 1
  let field : Nat := bits / Nat.pow 2 52 % Nat.pow 2 11
  let fraction : Nat := bits % Nat.pow 2 52
  if field == 2047 then
    if fraction == 0 then .infinite negative else .nan
  else if field == 0 then .finite negative fraction (-1074)
  else .finite negative (fraction + Nat.pow 2 52) ((field : Int) - 1075)

/-- The parts of a floating-point number. -/
def parts (x : Float) : Parts := Parts.ofBits x.toBits.toNat

/-- How two numbers compare; those that are not numbers do not. -/
def Parts.compare? : Parts → Parts → Option Ordering
  | .nan, _ | _, .nan => none
  | .infinite a, .infinite b => some (compare (signed a 1) (signed b 1))
  | .infinite a, .finite .. => some (if a then .lt else .gt)
  | .finite .., .infinite b => some (if b then .gt else .lt)
  | .finite a m d, .finite b n e =>
    let least := min d e
    let scaled := fun (significand : Nat) (exponent : Int) => significand * Nat.pow 2 (exponent - least).toNat
    some (compare (signed a (scaled m d)) (signed b (scaled n e)))
where
  /-- A whole number with its sign. -/
  signed (negative : Bool) (n : Nat) : Int := if negative then -(n : Int) else n

/-- A significand and exponent as a fraction of two whole numbers. -/
def asRatio (significand : Nat) (exponent : Int) : Nat × Nat :=
  if exponent ≥ 0 then (significand * Nat.pow 2 exponent.toNat, 1)
  else (significand, Nat.pow 2 (-exponent).toNat)

/-- The number nearest to `mantissa * 10^exponent`. Exponents beyond all finite numbers are cut
off first, so that the power of ten stays small. -/
def ofDecimal (negative : Bool) (mantissa : Nat) (digits : Nat) (exponent : Int) : Float :=
  let size := exponent + digits
  let magnitude : Float :=
    if mantissa == 0 then 0.0
    else if size > 400 then 1.0 / 0.0
    else if size < -400 then 0.0
    else if exponent ≥ 0 then Float.ofScientific mantissa false exponent.toNat
    else Float.ofScientific mantissa true (-exponent).toNat
  if negative then -magnitude else magnitude

/-- The floating-point number nearest to an integer; none when it is too large for one. -/
def ofInt? (n : Int) : Option Float :=
  let x := Float.ofScientific n.natAbs false 0
  if x.isInf then none else some (if n < 0 then -x else x)

/-- Why a floating-point number has no integer part. -/
inductive TruncateFault where
  | nan
  | infinite
  deriving Repr, DecidableEq

/-- The integer part, toward zero. -/
def truncate (x : Float) : Except TruncateFault Int :=
  match parts x with
  | .nan => .error .nan
  | .infinite _ => .error .infinite
  | .finite negative m e =>
    let (num, den) := asRatio m e
    let n := num / den
    .ok (if negative then -(n : Int) else (n : Int))

end ChannelBot.Number
