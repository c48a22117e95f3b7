/-
The values that texts of a document write, once it is known what they stand for. The rules are
wider than the forms of texts without tags, because a tag may be given to any text.
-/
import ChannelBot.Number.Real
import ChannelBot.Time.Calendar
import ChannelBot.Value.Read
import ChannelBot.Yaml.Token
import ChannelBot.Yaml.Tag

namespace ChannelBot.Yaml

/-- Whether a sign in front makes a number negative, and the text after the sign; there must be
some text. -/
def takeSign (s : List Char) : Except Fault (Bool × List Char) :=
  match s with
  | [] => refuse (.content .index)
  | '-' :: r => .ok (true, r)
  | '+' :: r => .ok (false, r)
  | s => .ok (false, s)

/-- The words for truth values. -/
def truthWords : List (String × Bool) :=
  [("yes", true), ("no", false), ("true", true), ("false", false), ("on", true), ("off", false)]

/-- The truth value that a word stands for. -/
def readTruth (text : String) : Except Fault Bool :=
  match truthWords.find? (·.1 == text.map Char.toLower) with
  | some (_, b) => .ok b
  | none => refuse (.content .key)

/-! ## Integers -/

/-- The letters after a zero in front of a number to this base. -/
def baseLetters : Nat → List Char
  | 2 => ['b', 'B']
  | 8 => ['o', 'O']
  | 16 => ['x', 'X']
  | _ => []

/-- The natural number that digits write to a base. -/
def digitsTo? (base : Nat) (s : List Char) : Option Nat := do
  let ds ← s.mapM Json.hexValue?
  if ds.isEmpty || ds.any (base ≤ ·) then none else return ds.foldl (base * · + ·) 0

/-- The integer that a whole text writes to a base: white space around, a sign, a zero and the
base's letter, digits. -/
def integerTo? (base : Nat) (s : List Char) : Option Int :=
  let (minus, body) := Number.splitSign (Number.normalize (.ofList s))
  let digits := match body with
    | '0' :: c :: r => if (baseLetters base).contains c then r else body
    | _ => body
  (digitsTo? base digits).map fun n => if minus then -(n : Int) else (n : Int)

/-- The integer that a text writes in decimal. -/
def readDecimal (s : List Char) : Except Fault Int :=
  match Number.readInt (.ofList s) with
  | .ok n => .ok n
  | .error _ => refuse (.content .value)

/-- The integer that a text writes to a base. -/
def readTo (base : Nat) (s : List Char) : Except Fault Int :=
  match integerTo? base s with
  | some n => .ok n
  | none => refuse (.content .value)

/-- The integer that a text without sign writes: after a zero to base two, sixteen or eight,
with colons to base sixty. -/
def readUnsigned (s : List Char) : Except Fault Int :=
  match s with
  | [] => refuse (.content .index)
  | ['0'] => .ok 0
  | '0' :: 'b' :: r => readTo 2 r
  | '0' :: 'x' :: r => readTo 16 r
  | '0' :: _ => readTo 8 s
  | _ =>
    if s.contains ':' then do
      let parts ← (cutAt ':' s).mapM readDecimal
      return parts.foldl (60 * · + ·) 0
    else readDecimal s

/-- The integer that a text writes; underscores do not count. -/
def readInteger (text : String) : Except Fault Int := do
  let (minus, body) ← takeSign (text.toList.filter (· != '_'))
  let n ← readUnsigned body
  return if minus then -n else n

/-! ## Real numbers -/

/-- The real number that a text writes in decimal. -/
def readPart (s : List Char) : Except Fault Float :=
  match Number.readReal? (.ofList s) with
  | some x => .ok x
  | none => refuse (.content .value)

/-- The sum of the parts of a number to base sixty, the last one first; `base` is what the first
of them counts. -/
def sexagesimal (base : Nat) (sum : Float) : List Float → Except Fault Float
  | [] => .ok sum
  | x :: rest =>
    match Number.ofInt? base with
    | some b => sexagesimal (60 * base) (sum + x * b) rest
    | none => refuse (.content .overflow)

/-- The real number that a text writes; underscores do not count. -/
def readReal (text : String) : Except Fault Float := do
  let (minus, body) ← takeSign ((text.toList.filter (· != '_')).map Char.toLower)
  let word := String.ofList body
  let x ← if word == ".inf" then pure (1.0 / 0.0)
    else if word == ".nan" then pure (0.0 / 0.0)
    else if body.contains ':' then do
      let parts ← (cutAt ':' body).mapM readPart
      sexagesimal 1 0.0 parts.reverse
    else readPart body
  return if minus then -x else x

/-! ## Moments and octets -/

/-- The offset of a moment, in minutes. -/
def offsetMinutes? : Option (Char × List Char × List Char) → Option Int
  | none => some 0
  | some (sign, hours, minutes) =>
    let n := 60 * Text.digitsValue hours + Text.digitsValue minutes
    if n < 1440 then some (if sign == '-' then -(n : Int) else n) else none

/-- The written form of a moment, with a space between date and time of day. -/
def MomentText.read? (m : MomentText) : Option String := do
  let date : Date :=
    ⟨Text.digitsValue m.year, Text.digitsValue m.month, Text.digitsValue m.day⟩
  if !date.isValid then none
  let start := Moment.ofDate date
  match m.time with
  | none => return .ofList (start.text.toList.takeWhile (· != 'T'))
  | some (hour, minute, second, fraction) =>
    let hour := Text.digitsValue hour
    let minute := Text.digitsValue minute
    let second := Text.digitsValue second
    if 24 ≤ hour || 60 ≤ minute || 60 ≤ second then none
    let micros := Text.digitsValue ((fraction ++ List.replicate 6 '0').take 6)
    let offset ← match m.offset with
      | none => pure none
      | some o => (offsetMinutes? o).map some
    let shown : Moment :=
      ⟨start.micros + ((hour * 60 + minute) * 60 + second) * Moment.second + micros⟩
    return (Timestamp.mk shown offset).text.map fun c => if c == 'T' then ' ' else c

/-- The written form of the moment that a text writes. -/
def readMoment (text : String) : Except Fault String :=
  match momentText? (withoutLastBreak text.toList) with
  | none => refuse (.content .attribute)
  | some m => match m.read? with
    | some s => .ok s
    | none => refuse (.content .value)

/-- The value of a digit to base 64. -/
def sextet? (c : Char) : Option Nat :=
  if 'A' ≤ c && c ≤ 'Z' then some (c.toNat - 65)
  else if 'a' ≤ c && c ≤ 'z' then some (c.toNat - 71)
  else if Text.isAsciiDigit c then some (c.toNat + 4)
  else if c == '+' then some 62
  else if c == '/' then some 63
  else none

/-- The digits to base 64 of a text; other characters do not count. Of four digits the last two
may be left out, with a padding mark for each; these end the text. `taken` counts the digits
before, `pads` the marks since the last of them. -/
def sextets (taken pads : Nat) : List Char → Option (List Nat)
  | [] => if taken % 4 == 0 then some [] else none
  | c :: r =>
    if c == '=' then
      if 2 ≤ taken % 4 && 4 ≤ taken % 4 + pads + 1 then some []
      else sextets taken (if 2 ≤ taken % 4 then pads + 1 else pads) r
    else match sextet? c with
      | some n => (sextets (taken + 1) 0 r).map (n :: ·)
      | none => sextets taken pads r

/-- The octets that digits to base 64 write. -/
def octetsOf : List Nat → List Nat
  | a :: b :: c :: d :: r =>
    (a * 4 + b / 16) :: (b % 16 * 16 + c / 4) :: (c % 4 * 64 + d) :: octetsOf r
  | [a, b, c] => [a * 4 + b / 16, b % 16 * 16 + c / 4]
  | [a, b] => [a * 4 + b / 16]
  | _ => []

/-- The octets that a text writes to base 64. -/
def readOctets (text : String) : Except Fault (List Nat) :=
  if text.toList.any (128 ≤ ·.toNat) then refuse .meaning
  else match sextets 0 0 text.toList with
    | some ds => .ok (octetsOf ds)
    | none => refuse .meaning

end ChannelBot.Yaml
