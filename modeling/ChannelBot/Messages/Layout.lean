/-
The layout that a field of a message template asks for: how wide the field is at least, where
its text stands in it, what fills the rest, and how much of the text is shown at most. Texts and
numbers share the layouts, so some parts of them are known and refused for a text.
-/
import ChannelBot.Fault
import ChannelBot.Text.Digit

namespace ChannelBot

namespace Template

/-- Refuses a template. -/
def refuse {α : Type} (reason : String) : Except TemplateFault α := .error (.broken reason)

/-- Where a text stands inside a wider field. -/
inductive Side where
  | left
  | right
  | center
  /-- To the right, with the fill after the sign. -/
  | inner
  deriving Repr, DecidableEq

/-- The side for an alignment mark. -/
def side? : Char → Option Side
  | '<' => some .left
  | '>' => some .right
  | '^' => some .center
  | '=' => some .inner
  | _ => none

/-- A text set into a field of at least the given width. -/
def pad (fill : Char) (side : Side) (width : Nat) (s : List Char) : List Char :=
  let free := width - s.length
  match side with
  | .left => s ++ List.replicate free fill
  | .right | .inner => List.replicate free fill ++ s
  | .center => List.replicate (free / 2) fill ++ s ++ List.replicate (free - free / 2) fill

/-- A layout taken apart. -/
structure Layout where
  fill : Char
  side : Option Side
  sign : Option Char
  /-- Whether negative zeros lose their sign. -/
  coerces : Bool
  alternate : Bool
  width : Nat
  /-- The mark between groups of digits. -/
  separator : Option Char
  precision : Option Nat
  type : Option Char
  deriving Repr, DecidableEq

namespace Layout

/-- The fill character, if given, the side and the rest of a layout. -/
def takeAlignment (s : List Char) : Option Char × Option Side × List Char :=
  match s with
  | f :: a :: r => match side? a with
    | some side => (some f, some side, r)
    | none => match side? f with
      | some side => (none, some side, a :: r)
      | none => (none, none, s)
  | [a] => match side? a with
    | some side => (none, some side, [])
    | none => (none, none, s)
  | [] => (none, none, [])

/-- Takes one of some characters off the front. -/
def oneOf (marks : List Char) (s : List Char) : Option Char × List Char :=
  match s with
  | c :: r => if marks.contains c then (some c, r) else (none, s)
  | [] => (none, [])

/-- The greatest number that a template may hold. -/
def numberLimit : Nat := 0x7fffffffffffffff

/-- The digits at the front, as a number if there are any. -/
def takeNumber (s : List Char) : Except TemplateFault (Option Nat × List Char) :=
  let ds := s.map Text.digitValue? |>.takeWhile Option.isSome
  let n := ds.foldl (fun n d => 10 * n + d.getD 0) 0
  if ds.isEmpty then .ok (none, s)
  else if numberLimit < n then refuse "Too many decimal digits in format string"
  else .ok (some n, s.drop ds.length)

/-- A mark in the words of a refusal: itself if it is printable ASCII, else its number. -/
def mark (c : Char) : String :=
  if 32 < c.toNat && c.toNat < 128 then c.toString
  else "\\x" ++ String.ofList (Text.hexDigits 1 c.toNat)

/-- The mark between groups of digits; two different ones are refused. -/
def takeGrouping (s : List Char) : Except TemplateFault (Option Char × List Char) :=
  let (comma, r) := oneOf [','] s
  let (line, r) := oneOf ['_'] r
  let both := comma.isSome && line.isSome || line.isSome && r.head? == some ','
  if both then refuse "Cannot specify both ',' and '_'." else .ok (comma.or line, r)

/-- The greatest length, after a point. -/
def takePrecision (s : List Char) : Except TemplateFault (Option Nat × List Char) :=
  match s with
  | '.' :: r => do
    match ← takeNumber r with
    | (some n, r) => return (some n, r)
    | (none, _) => refuse "Format specifier missing precision"
  | _ => .ok (none, s)

/-- The types of numbers that may have groups of digits. -/
def groupedTypes : List Char := ['d', 'e', 'f', 'g', 'E', 'G', '%', 'F']

/-- The types of numbers whose groups may only have an underscore between them. -/
def powerTypes : List Char := ['b', 'o', 'x', 'X']

/-- Reads a layout for a value of the named kind, whose type is the given one if the layout
names none. A zero before the width of a number fills the field after the number's sign. -/
def read (kind : String) (dflt : Char) (isNumber : Bool) (s : List Char) :
    Except TemplateFault Layout := do
  let (fill, side, r) := takeAlignment s
  let (sign, r) := oneOf [' ', '+', '-'] r
  let (z, r) := oneOf ['z'] r
  let (hash, r) := oneOf ['#'] r
  let (zero, r) := if fill.isSome then (none, r) else oneOf ['0'] r
  let (width, r) ← takeNumber r
  let (separator, r) ← takeGrouping r
  let (precision, r) ← takePrecision r
  let type ← match r with
    | [] => pure none
    | [c] => pure (some c)
    | _ => refuse s!"Invalid format specifier '{String.ofList s}' for object of type '{kind}'"
  match separator with
  | none => pure ()
  | some m =>
    let t := type.getD dflt
    if !(groupedTypes.contains t || (m == '_' && powerTypes.contains t)) then
      refuse s!"Cannot specify '{m}' with '{mark t}'."
  return {
    fill := (fill.or zero).getD ' '
    side := side.or (if isNumber && zero.isSome then some .inner else none)
    sign := sign
    coerces := z.isSome
    alternate := hash.isSome
    width := width.getD 0
    separator := separator
    precision := precision
    type := type }

end Layout

/-- A text in the layout that a template asks for. -/
def layOutText (layout s : String) : Except TemplateFault String := do
  if layout.isEmpty then return s
  let l ← Layout.read "str" 's' false layout.toList
  match l.type with
  | none | some 's' => pure ()
  | some c => refuse s!"Unknown format code '{Layout.mark c}' for object of type 'str'"
  match l.sign with
  | none => pure ()
  | some ' ' => refuse "Space not allowed in string format specifier"
  | some _ => refuse "Sign not allowed in string format specifier"
  if l.coerces then
    refuse "Negative zero coercion (z) not allowed in string format specifier"
  if l.alternate then refuse "Alternate form (#) not allowed in string format specifier"
  if l.side == some .inner then refuse "'=' alignment not allowed in string format specifier"
  let shown := match l.precision with
    | some n => s.toList.take n
    | none => s.toList
  return .ofList (pad l.fill (l.side.getD .left) l.width shown)

end Template

end ChannelBot
