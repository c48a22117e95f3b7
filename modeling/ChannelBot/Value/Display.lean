/-
How a value shows inside a message: a text as it is, null, true and false as the words `None`,
`True` and `False`, numbers in decimal, lists and objects in brackets with their texts quoted.
-/
import ChannelBot.Number.Decimal
import ChannelBot.Text.Printable
import ChannelBot.Value.Basic

namespace ChannelBot

namespace Text

/-- A number in hexadecimal with at least the given count of digits. -/
def hexDigits (width n : Nat) : List Char :=
  let ds := Nat.toDigits 16 n
  List.replicate (width - ds.length) '0' ++ ds

/-- One character inside a quoted text. -/
def quoteChar (quote c : Char) : List Char :=
  if c == quote || c == '\\' then ['\\', c]
  else if c == '\n' then ['\\', 'n']
  else if c == '\r' then ['\\', 'r']
  else if c == '\t' then ['\\', 't']
  else if isPrintable c then [c]
  else if c.toNat < 0x100 then '\\' :: 'x' :: hexDigits 2 c.toNat
  else if c.toNat < 0x10000 then '\\' :: 'u' :: hexDigits 4 c.toNat
  else '\\' :: 'U' :: hexDigits 8 c.toNat

/-- A text in quotes: single ones, unless it holds those and no double ones. -/
def quoted (s : String) : String :=
  let quote := if s.toList.contains '\'' && !s.toList.contains '"' then '"' else '\''
  .ofList (quote :: s.toList.flatMap (quoteChar quote) ++ [quote])

end Text

namespace Value

/-- The text of a floating-point number inside a message. -/
def realText (x : Float) : String := Number.shortestText ⟨"nan", "inf"⟩ x

mutual

/-- A value as it shows inside a list or an object. -/
def inner : Value → String
  | .null => "None"
  | .bool b => if b then "True" else "False"
  | .int n => toString n
  | .real x => realText x
  | .str s => Text.quoted s
  | .list items => "[" ++ String.intercalate ", " (innerItems items) ++ "]"
  | .obj fields => "\x7b" ++ String.intercalate ", " (innerFields fields) ++ "\x7d"

/-- The items of a list, each as it shows there. -/
def innerItems : List Value → List String
  | [] => []
  | v :: rest => inner v :: innerItems rest

/-- The fields of an object, each as it shows there. -/
def innerFields : List (String × Value) → List String
  | [] => []
  | (k, v) :: rest => (Text.quoted k ++ ": " ++ inner v) :: innerFields rest

end

/-- A value as it shows in a message. -/
def display : Value → String
  | .str s => s
  | v => inner v

end Value

end ChannelBot
