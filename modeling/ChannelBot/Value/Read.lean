/-
JSON text read into values. Besides the standard it takes `NaN`, `Infinity` and `-Infinity`;
of two fields with one key the later value stands, in the earlier place. A text that is not
JSON is refused with the problem met first and the offset at which it was met.
-/
import ChannelBot.Number.Integer
import ChannelBot.Number.Real
import ChannelBot.Text.Units
import ChannelBot.Value.Basic

namespace ChannelBot

/-- What is wrong with a JSON text. -/
inductive JsonProblem where
  | noValue
  | noKey
  | noColon
  | noComma
  | openText
  | controlCharacter
  | badEscape
  | badUnicodeEscape
  | extraData
  | byteOrderMark
  deriving Repr, DecidableEq

/-- Why a JSON text is refused. -/
inductive JsonFault where
  /-- The text breaks the grammar at this offset. -/
  | broken (problem : JsonProblem) (offset : Nat)
  /-- An integer has this many digits, more than the limit. -/
  | tooLong (digits : Nat)
  deriving Repr, DecidableEq

namespace JsonFault

/-- The wording of a problem. -/
def problemText : JsonProblem → String
  | .noValue => "Expecting value"
  | .noKey => "Expecting property name enclosed in double quotes"
  | .noColon => "Expecting ':' delimiter"
  | .noComma => "Expecting ',' delimiter"
  | .openText => "Unterminated string starting at"
  | .controlCharacter => "Invalid control character at"
  | .badEscape => "Invalid \\escape"
  | .badUnicodeEscape => "Invalid \\uXXXX escape"
  | .extraData => "Extra data"
  | .byteOrderMark => "Unexpected UTF-8 BOM (decode using utf-8-sig)"

/-- The line of an offset in a text, counted from one. -/
def line (source : String) (offset : Nat) : Nat := (source.toList.take offset).count '\n' + 1

/-- The column of an offset in a text, counted from one. -/
def column (source : String) (offset : Nat) : Nat :=
  ((source.toList.take offset).reverse.takeWhile (· != '\n')).length + 1

/-- The message for a fault in the given text, with line, column and offset. -/
def message (source : String) : JsonFault → String
  | .broken p n =>
    let place := s!"line {line source n} column {column source n} (char {n})"
    s!"{problemText p}: {place}"
  | .tooLong n =>
    s!"Exceeds the limit (4300 digits) for integer string conversion: value has {n} digits; " ++
      "use sys.set_int_max_str_digits() to increase the limit"

end JsonFault

namespace Json

/-- The text still to be read and the offset of its first character. -/
structure Cursor where
  offset : Nat
  rest : List Char
  deriving Repr

/-- Moves over a number of characters. -/
def Cursor.skip (n : Nat) (c : Cursor) : Cursor := ⟨c.offset + n, c.rest.drop n⟩

/-- Moves over the white space of JSON. -/
def Cursor.blank (c : Cursor) : Cursor :=
  let isSpace := fun d => d == ' ' || d == '\t' || d == '\n' || d == '\r'
  let n := (c.rest.takeWhile isSpace).length
  c.skip n

/-- Refuses the text at an offset. -/
def refuse {α : Type} (p : JsonProblem) (offset : Nat) : Except JsonFault α :=
  .error (.broken p offset)

/-- The value of a hexadecimal digit. -/
def hexValue? (c : Char) : Option Nat :=
  if '0' ≤ c ∧ c ≤ '9' then some (c.toNat - 48)
  else if 'a' ≤ c ∧ c ≤ 'f' then some (c.toNat - 87)
  else if 'A' ≤ c ∧ c ≤ 'F' then some (c.toNat - 55)
  else none

/-- Four hexadecimal digits as a number; they must not end the text. -/
def unit? (s : List Char) : Option Nat :=
  match s with
  | a :: b :: c :: d :: _ :: _ => do
    let w ← hexValue? a
    let x ← hexValue? b
    let y ← hexValue? c
    let z ← hexValue? d
    return ((w * 16 + x) * 16 + y) * 16 + z
  | _ => none

/-- The character for an escape of one letter. -/
def escaped? : Char → Option Char
  | '"' => some '"'
  | '\\' => some '\\'
  | '/' => some '/'
  | 'b' => some '\x08'
  | 'f' => some '\x0c'
  | 'n' => some '\n'
  | 'r' => some '\r'
  | 't' => some '\t'
  | _ => none

/-- Reads a string up to its closing quote. `start` is the offset of the opening one. -/
def readText (start : Nat) :
    Nat → Nat → List Char → List Char → Except JsonFault (String × Cursor)
  | 0, _, _, _ => refuse .openText start
  | fuel + 1, offset, done, s =>
    match s with
    | [] => refuse .openText start
    | '"' :: r => .ok (.ofList done.reverse, ⟨offset + 1, r⟩)
    | '\\' :: [] => refuse .openText start
    | '\\' :: 'u' :: r =>
      match unit? r with
      | none => refuse .badUnicodeEscape (offset + 1)
      | some n =>
        let single := fun (_ : Unit) => readText start fuel (offset + 6) (Units.scalar n :: done) (r.drop 4)
        if 0xd800 ≤ n ∧ n < 0xdc00 then
          match r.drop 4 with
          | '\\' :: 'u' :: r' =>
            if r'.length < 5 then single ()
            else
              match unit? r' with
              | none => refuse .badUnicodeEscape (offset + 7)
              | some low =>
                if 0xdc00 ≤ low ∧ low < 0xe000 then
                  let c := Char.ofNat (0x10000 + (n - 0xd800) * 0x400 + (low - 0xdc00))
                  readText start fuel (offset + 12) (c :: done) (r'.drop 4)
                else single ()
          | _ => single ()
        else single ()
    | '\\' :: c :: r =>
      match escaped? c with
      | some d => readText start fuel (offset + 2) (d :: done) r
      | none => refuse .badEscape offset
    | c :: r =>
      if c.toNat < 32 then refuse .controlCharacter offset
      else readText start fuel (offset + 1) (c :: done) r

/-- The digits at the start of a text, and the rest. -/
def digitRow (s : List Char) : List Char × List Char :=
  (s.takeWhile Text.isAsciiDigit, s.dropWhile Text.isAsciiDigit)

/-- A fraction: a point and at least one digit. -/
def fractionPart : List Char → List Char × List Char
  | '.' :: r =>
    let (ds, rest) := digitRow r
    if ds.isEmpty then ([], '.' :: r) else (ds, rest)
  | s => ([], s)

/-- An exponent: its mark, a sign, at least one digit. -/
def exponentPart (s : List Char) : Option (Bool × List Char) × List Char :=
  match s with
  | c :: r =>
    if c == 'e' || c == 'E' then
      let (minus, body) := Number.splitSign r
      let (ds, rest) := digitRow body
      if ds.isEmpty then (none, s) else (some (minus, ds), rest)
    else (none, s)
  | [] => (none, s)

/-- Reads a number that starts at the cursor, if one does. -/
def readNumber? (c : Cursor) : Option (Except JsonFault (Value × Cursor)) :=
  let (minus, body) := match c.rest with
    | '-' :: r => (true, r)
    | r => (false, r)
  let (whole, afterWhole) := match body with
    | '0' :: r => (['0'], r)
    | r => digitRow r
  if whole.isEmpty then none
  else
    let (fraction, afterFraction) := fractionPart afterWhole
    let (exponent, rest) := exponentPart afterFraction
    let next : Cursor := ⟨c.offset + (c.rest.length - rest.length), rest⟩
    if fraction.isEmpty && exponent.isNone then
      some <| match Number.ofDigits whole with
        | .ok n => .ok (.int (if minus then -(n : Int) else (n : Int)), next)
        | .error (.tooLong n) => .error (.tooLong n)
        | .error .malformed => refuse .noValue c.offset
    else
      let ds := (whole ++ fraction).dropWhile (· == '0')
      let e := match exponent with
        | some (minus, ds) => (Number.exponent? ((if minus then ['-'] else []) ++ ds)).getD 0
        | none => 0
      some (.ok (.real (Number.ofDecimal minus (Text.digitsValue ds) ds.length (e - fraction.length)),
        next))

/-- The words that stand for values. -/
def wordValues : List (String × Value) :=
  [("null", .null), ("true", .bool true), ("false", .bool false), ("NaN", .real (0.0 / 0.0)),
   ("Infinity", .real (1.0 / 0.0)), ("-Infinity", .real (-1.0 / 0.0))]

/-- A word that stands for a value, if one starts at the cursor. -/
def readWord? (c : Cursor) : Option (Value × Cursor) :=
  (wordValues.find? fun (w, _) => w.toList.isPrefixOf c.rest).map fun (w, v) => (v, c.skip w.length)

mutual

/-- Reads one value that starts at the cursor. -/
def readValue : Nat → Cursor → Except JsonFault (Value × Cursor)
  | 0, c => refuse .noValue c.offset
  | fuel + 1, c =>
    match c.rest with
    | '"' :: r =>
      (readText c.offset (r.length + 1) (c.offset + 1) [] r).map fun (s, next) => (.str s, next)
    | '[' :: _ =>
      let first := (c.skip 1).blank
      match first.rest with
      | ']' :: _ => .ok (.list [], first.skip 1)
      | _ => (readItems fuel [] first).map fun (items, next) => (.list items, next)
    | '{' :: _ =>
      let first := (c.skip 1).blank
      match first.rest with
      | '}' :: _ => .ok (.obj [], first.skip 1)
      | _ => (readFields fuel [] first).map fun (fields, next) => (.obj fields, next)
    | _ =>
      match readWord? c with
      | some found => .ok found
      | none => (readNumber? c).getD (refuse .noValue c.offset)

/-- Reads the items of a list, the first of which starts at the cursor. -/
def readItems : Nat → List Value → Cursor → Except JsonFault (List Value × Cursor)
  | 0, _, c => refuse .noValue c.offset
  | fuel + 1, done, c => do
    let (v, next) ← readValue fuel c
    let next := next.blank
    match next.rest with
    | ']' :: _ => .ok ((v :: done).reverse, next.skip 1)
    | ',' :: _ => readItems fuel (v :: done) (next.skip 1).blank
    | _ => refuse .noComma next.offset

/-- Reads the fields of an object, the first of which starts at the cursor. -/
def readFields :
    Nat → List (String × Value) → Cursor → Except JsonFault (List (String × Value) × Cursor)
  | 0, _, c => refuse .noValue c.offset
  | fuel + 1, done, c =>
    match c.rest with
    | '"' :: r => do
      let (key, next) ← readText c.offset (r.length + 1) (c.offset + 1) [] r
      let next := next.blank
      match next.rest with
      | ':' :: _ =>
        let (v, next) ← readValue fuel (next.skip 1).blank
        let done := Value.insert key v done
        let next := next.blank
        match next.rest with
        | '}' :: _ => .ok (done, next.skip 1)
        | ',' :: _ => readFields fuel done (next.skip 1).blank
        | _ => refuse .noComma next.offset
      | _ => refuse .noColon next.offset
    | _ => refuse .noKey c.offset

end

/-- Reads a text that holds one value and nothing else. -/
def read (s : String) : Except JsonFault Value :=
  if s.toList.head? == some '\ufeff' then refuse .byteOrderMark 0
  else do
    let start : Cursor := ⟨0, s.toList⟩
    let (v, next) ← readValue (2 * s.length + 2) start.blank
    let next := next.blank
    if next.rest.isEmpty then return v else refuse .extraData next.offset

end Json

end ChannelBot
