/-
Percent encoding of text in paths, queries and forms. Letters, digits and `_.-~` stand for
themselves; every other byte of the UTF-8 form is written as a percent sign and two digits.
-/
import ChannelBot.Text.Printable
import ChannelBot.Text.Utf8
import ChannelBot.Value.Display
import ChannelBot.Value.Read

namespace ChannelBot.Percent

/-- A character that stands for itself in every part of an address. -/
def isPlain (c : Char) : Bool :=
  ('a' ≤ c && c ≤ 'z') || ('A' ≤ c && c ≤ 'Z') || ('0' ≤ c && c ≤ '9') ||
    c == '_' || c == '.' || c == '-' || c == '~'

/-- A capital hexadecimal digit. -/
def hexDigit (n : Nat) : Char := if n < 10 then Char.ofNat (48 + n) else Char.ofNat (55 + n)

/-- A byte as a percent sign and two digits. -/
def escapeByte (b : Nat) : List Char := ['%', hexDigit (b / 16), hexDigit (b % 16)]

/-- The written form of a character in a path segment. -/
def encodeChar (c : Char) : List Char :=
  if isPlain c then [c] else (Utf8.encodeChar c).flatMap escapeByte

/-- The written form of a path segment. -/
def encode (s : String) : String := .ofList (s.toList.flatMap encodeChar)

/-- The written form of a name or value in a form: a space becomes a plus sign. -/
def encodeField (s : String) : String :=
  .ofList (s.toList.flatMap fun c => if c == ' ' then ['+'] else encodeChar c)

/-- A form: names and values joined by `=` and `&`. -/
def encodeForm (fields : List (String × String)) : String :=
  String.intercalate "&" (fields.map fun (k, v) => encodeField k ++ "=" ++ encodeField v)

/-- The bytes that a text with percent escapes stands for. A percent sign that no two
hexadecimal digits follow stands for itself. -/
def bytes : List Char → List Nat
  | [] => []
  | '%' :: a :: b :: rest =>
    match Json.hexValue? a, Json.hexValue? b with
    | some x, some y => (16 * x + y) :: bytes rest
    | _, _ => 0x25 :: bytes (a :: b :: rest)
  | c :: rest => Utf8.encodeChar c ++ bytes rest

/-- The text that a text with percent escapes stands for. -/
def decode (s : String) : String := .ofList (Utf8.decode (bytes s.toList))

/-- The text that a part of a query stands for. It travels as bytes, each of which is read as a
character of its own, unless it is escaped; the escapes between two such characters are decoded
together. -/
def decodePart (s : String) : String :=
  .ofList (go [] s.toList)
where
  /-- Decodes the ASCII characters seen, in reverse, and the text after them. -/
  go (seen : List Char) : List Char → List Char
    | [] => Utf8.decode (bytes seen.reverse)
    | c :: r =>
      if c.toNat < 0x80 then go ((if c == '+' then ' ' else c) :: seen) r
      else Utf8.decode (bytes seen.reverse) ++ (Utf8.encodeChar c).map Char.ofNat ++ go [] r

/-- The names and values of a query, in order; a name without a value has the empty one. -/
def decodeForm (query : String) : List (String × String) :=
  ((query.toList.splitOn '&').filter (!·.isEmpty)).map fun part =>
    (decodePart (.ofList (part.takeWhile (· != '='))),
      decodePart (.ofList ((part.dropWhile (· != '=')).drop 1)))

end ChannelBot.Percent
