/-
Text in units of two or four bytes. Which units a text is made of, and which byte of a unit
comes first, shows from the zeros among its first bytes, provided that it starts with an ASCII
character.
-/
import ChannelBot.Text.Utf8

namespace ChannelBot.Units

/-- Which byte of a unit comes first. -/
inductive Order where
  | greatFirst
  | smallFirst
  deriving Repr, DecidableEq

/-- How a text is written in bytes. -/
inductive Form where
  | bytes
  | pairs (order : Order)
  | fours (order : Order)
  deriving Repr, DecidableEq

/-- The form of a text, by its first bytes. -/
def Form.of : List Nat → Form
  | 0 :: b :: _ :: _ :: _ => if b == 0 then .fours .greatFirst else .pairs .greatFirst
  | _ :: 0 :: c :: d :: _ => if c == 0 && d == 0 then .fours .smallFirst else .pairs .smallFirst
  | [0, _] => .pairs .greatFirst
  | [_, 0] => .pairs .smallFirst
  | _ => .bytes

/-- The number that a unit writes. -/
def unitValue (order : Order) (unit : List Nat) : Nat :=
  (match order with
    | .greatFirst => unit
    | .smallFirst => unit.reverse).foldl (fun n b => 256 * n + b) 0

/-- The units of two bytes, unless a byte is left over. -/
def pairs? (order : Order) : List Nat → Option (List Nat)
  | [] => some []
  | [_] => none
  | a :: b :: rest => (pairs? order rest).map (unitValue order [a, b] :: ·)

/-- The units of four bytes, unless bytes are left over. -/
def fours? (order : Order) : List Nat → Option (List Nat)
  | [] => some []
  | a :: b :: c :: d :: rest => (fours? order rest).map (unitValue order [a, b, c, d] :: ·)
  | _ => none

/-- The character of a code point; half of a pair is none and shows as a replacement. -/
def scalar (n : Nat) : Char := if 0xd800 ≤ n ∧ n < 0xe000 then '\ufffd' else Char.ofNat n

/-- The characters of units of two bytes. -/
def ofPairs : List Nat → List Char
  | [] => []
  | [n] => [scalar n]
  | n :: m :: rest =>
    if 0xd800 ≤ n ∧ n < 0xdc00 ∧ 0xdc00 ≤ m ∧ m < 0xe000 then
      Char.ofNat (0x10000 + (n - 0xd800) * 0x400 + (m - 0xdc00)) :: ofPairs rest
    else scalar n :: ofPairs (m :: rest)

/-- The characters of units of four bytes, unless one is beyond the last code point. -/
def ofFours? (units : List Nat) : Option (List Char) :=
  if units.all (· < 0x110000) then some (units.map scalar) else none

/-- The text that bytes write, in the form that their beginning shows. -/
def decode? (bytes : List Nat) : Option (List Char) :=
  match Form.of bytes with
  | .bytes => some (Utf8.decode bytes)
  | .pairs order => (pairs? order bytes).map ofPairs
  | .fours order => (fours? order bytes).bind ofFours?

end ChannelBot.Units
