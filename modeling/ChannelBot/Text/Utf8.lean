/-
UTF-8 by arithmetic on code points. Decoding never fails: a byte sequence that is no character
becomes one replacement character, and reading goes on at the first byte that did not fit.
-/

namespace ChannelBot.Utf8

/-- The bytes of a character. -/
def encodeChar (c : Char) : List Nat :=
  let n := c.toNat
  if n < 0x80 then [n]
  else if n < 0x800 then [0xc0 + n / 64, 0x80 + n % 64]
  else if n < 0x10000 then [0xe0 + n / 4096, 0x80 + n / 64 % 64, 0x80 + n % 64]
  else [0xf0 + n / 262144, 0x80 + n / 4096 % 64, 0x80 + n / 64 % 64, 0x80 + n % 64]

/-- The bytes of a text. -/
def encode (s : List Char) : List Nat := s.flatMap encodeChar

/-- A character of which some bytes are still to come: the value so far, how many bytes are
missing, and the range of the next one. -/
structure Pending where
  value : Nat
  missing : Nat
  low : Nat
  high : Nat
  deriving Repr, DecidableEq

/-- What the first byte of a character gives at once, and what it leaves open. -/
def start (b : Nat) : List Char × Option Pending :=
  if b < 0x80 then ([Char.ofNat b], none)
  else if 0xc2 ≤ b ∧ b ≤ 0xdf then ([], some ⟨b - 0xc0, 1, 0x80, 0xbf⟩)
  else if b = 0xe0 then ([], some ⟨0, 2, 0xa0, 0xbf⟩)
  else if b = 0xed then ([], some ⟨0xd, 2, 0x80, 0x9f⟩)
  else if 0xe1 ≤ b ∧ b ≤ 0xef then ([], some ⟨b - 0xe0, 2, 0x80, 0xbf⟩)
  else if b = 0xf0 then ([], some ⟨0, 3, 0x90, 0xbf⟩)
  else if 0xf1 ≤ b ∧ b ≤ 0xf3 then ([], some ⟨b - 0xf0, 3, 0x80, 0xbf⟩)
  else if b = 0xf4 then ([], some ⟨4, 3, 0x80, 0x8f⟩)
  else (['\ufffd'], none)

/-- What one byte gives after a possibly unfinished character. -/
def advance (p : Option Pending) (b : Nat) : List Char × Option Pending :=
  match p with
  | none => start b
  | some p =>
    if p.low ≤ b ∧ b ≤ p.high then
      let value := p.value * 64 + (b - 0x80)
      if p.missing = 1 then ([Char.ofNat value], none)
      else ([], some ⟨value, p.missing - 1, 0x80, 0xbf⟩)
    else
      let (out, next) := start b
      ('\ufffd' :: out, next)

/-- Decodes bytes that follow a possibly unfinished character. -/
def decodeFrom (p : Option Pending) : List Nat → List Char
  | [] => match p with
    | none => []
    | some _ => ['\ufffd']
  | b :: rest =>
    let (out, next) := advance p b
    out ++ decodeFrom next rest

/-- Decodes bytes. -/
def decode (bytes : List Nat) : List Char := decodeFrom none bytes

end ChannelBot.Utf8
