/-
Floating-point numbers written in decimal.

`shortest` gives the fewest digits that read back as the number, nearest to it among those;
`rounded` gives a fixed count of digits. The layouts `Decimal.plain` and `Decimal.general` set
such digits out: the first always shows that the number is not an integer, the second drops
what is not needed.
-/
import ChannelBot.Number.Binary64

namespace ChannelBot.Number

/-- The decimal digits of a positive number and the place of the point:
`0.d₁d₂… * 10^point`. -/
structure Decimal where
  digits : List Char
  point : Int
  deriving Repr, DecidableEq

/-- The digits of a natural number in base ten. -/
def natDigits (n : Nat) : List Char := Nat.toDigits 10 n

/-- The least `k` at or above the start with `num / den < 10^k`. -/
def magnitudeFrom (num den : Nat) : Nat → Int → Int
  | 0, k => k
  | fuel + 1, k =>
    let below := if k ≥ 0 then num < den * Nat.pow 10 k.toNat else num * Nat.pow 10 (-k).toNat < den
    if below then k else magnitudeFrom num den fuel (k + 1)

/-- The `k` with `10^(k-1) ≤ num / den < 10^k`. -/
def magnitude (num den : Nat) : Int :=
  let guess : Int := (Nat.log2 num : Int) - (Nat.log2 den : Int)
  let start := guess * 30103 / 100000 - 1
  magnitudeFrom num den 6 start

/-- `num / den` in units of `10^unit`, as a fraction. -/
def inUnits (num den : Nat) (unit : Int) : Nat × Nat :=
  if unit ≥ 0 then (num, den * Nat.pow 10 unit.toNat) else (num * Nat.pow 10 (-unit).toNat, den)

/-- The nearest whole number to `num / den`, a half going to the even neighbour. -/
def nearest (num den : Nat) : Nat :=
  let q := num / den
  let r := num % den
  if 2 * r < den then q
  else if 2 * r > den then q + 1
  else if q % 2 == 0 then q else q + 1

/-- Whether `n * 10^unit` reads back as `m * 2^e`: it lies between the two midpoints to the
neighbouring numbers, or on one of them when `m` is even. The neighbour below a power of two is
half as far. -/
def readsBack (m : Nat) (e : Int) (n : Nat) (unit : Int) : Bool :=
  let lowGap := if m == Nat.pow 2 52 && e > -1074 then 1 else 2
  let (num, den) := asRatio 1 (e - 2)
  let low := (4 * m - lowGap) * num
  let high := (4 * m + 2) * num
  let (p, q) := if unit ≥ 0 then (n * Nat.pow 10 unit.toNat, 1) else (n, Nat.pow 10 (-unit).toNat)
  let value := p * den
  if m % 2 == 0 then low * q ≤ value && value ≤ high * q
  else low * q < value && value < high * q

/-- The shortest digits with at least `17 - fuel` places. -/
def shortestFrom (m : Nat) (e : Int) (k : Int) : Nat → Nat → Decimal
  | 0, places =>
    let (num, den) := asRatio m e
    let unit := k - places
    let (p, q) := inUnits num den unit
    ⟨natDigits (nearest p q), k⟩
  | fuel + 1, places =>
    let (num, den) := asRatio m e
    let unit := k - places
    let (p, q) := inUnits num den unit
    let floor := p / q
    let best := nearest p q
    let other := if best == floor then floor + 1 else floor
    let pick := if readsBack m e best unit then some best
      else if readsBack m e other unit then some other else none
    match pick with
    | some n =>
      let ds := natDigits n
      ⟨ds, k + ((ds.length : Int) - places)⟩
    | none => shortestFrom m e k fuel (places + 1)

/-- Drops the zeros at the end. -/
def dropZeros (ds : List Char) : List Char := (ds.reverse.dropWhile (· == '0')).reverse

/-- The fewest digits that read back as `m * 2^e`, for `m` not zero. -/
def shortest (m : Nat) (e : Int) : Decimal :=
  let (num, den) := asRatio m e
  let d := shortestFrom m e (magnitude num den) 16 1
  { d with digits := dropZeros d.digits }

/-- The given count of digits nearest to `m * 2^e`, for `m` not zero. -/
def rounded (places : Nat) (m : Nat) (e : Int) : Decimal :=
  let (num, den) := asRatio m e
  let k := magnitude num den
  let (p, q) := inUnits num den (k - places)
  let ds := natDigits (nearest p q)
  ⟨ds.take places, k + ((ds.length : Int) - places)⟩

/-- An exponent with a sign and at least two digits. -/
def exponentText (e : Int) : String :=
  let ds := String.ofList (natDigits e.natAbs)
  (if e < 0 then "e-" else "e+") ++ (if ds.length < 2 then "0" ++ ds else ds)

/-- The digits with the point in its place, or with an exponent outside the range from 10^-4 up
to 10^limit. A number without a fraction ends in `whole`, a single digit before an exponent in
`lone`. -/
def Decimal.layout (limit : Int) (whole lone : String) (d : Decimal) : String :=
  if -4 < d.point && d.point ≤ limit then
    if d.point ≤ 0 then
      "0." ++ String.ofList (List.replicate (-d.point).toNat '0' ++ d.digits)
    else
      let n := d.point.toNat
      if d.digits.length ≤ n then
        String.ofList (d.digits ++ List.replicate (n - d.digits.length) '0') ++ whole
      else String.ofList (d.digits.take n) ++ "." ++ String.ofList (d.digits.drop n)
  else
    let lead := String.ofList (d.digits.take 1)
    let rest := String.ofList (d.digits.drop 1)
    lead ++ (if rest.isEmpty then lone else "." ++ rest) ++ exponentText (d.point - 1)

/-- How special values are spelled. -/
structure Spelling where
  nan : String
  infinity : String
  deriving Repr, DecidableEq

/-- A floating-point number with its sign, `write` giving the text of a positive one. -/
def signed (spelling : Spelling) (zero : String) (write : Nat → Int → String) (x : Float) : String :=
  match parts x with
  | .nan => spelling.nan
  | .infinite negative => (if negative then "-" else "") ++ spelling.infinity
  | .finite negative m e =>
    (if negative then "-" else "") ++ (if m == 0 then zero else write m e)

/-- The shortest text that reads back, positional from 10^-4 up to 10^16, with `.0` after a
number without a fraction. -/
def shortestText (spelling : Spelling) (x : Float) : String :=
  signed spelling "0.0" (fun m e => (shortest m e).layout 16 ".0" "") x

/-- At most the given count of significant digits. -/
def significant (places m : Nat) (e : Int) : Decimal :=
  let d := rounded places m e
  { d with digits := dropZeros d.digits }

/-- Six significant digits without the zeros at the end, positional from 10^-4 up to 10^6. -/
def generalText (x : Float) : String :=
  signed ⟨"nan", "inf"⟩ "0" (fun m e => (significant 6 m e).layout 6 "" "") x

end ChannelBot.Number
