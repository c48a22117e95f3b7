/-
Numbers in the layout that a field of a message template asks for: to base ten, two, eight or
sixteen, as the character with that number, or as a real number with a point, an exponent or a
percent sign.
-/
import ChannelBot.Messages.Layout
import ChannelBot.Number.Places

namespace ChannelBot.Template

/-- A number taken apart: its sign, the mark of its base, the digits that groups are made of, and
what follows them. -/
structure Figures where
  isNegative : Bool
  lead : List Char
  digits : List Char
  tail : List Char
  deriving Repr, DecidableEq

/-- Digits in reverse order in groups of a size, each with a mark after it but the last. Zeros
fill the digits up to a width. The first number bounds the count of groups. -/
def groups (size : Nat) (mark : Char) : Nat → Nat → List Char → List Char
  | 0, _, ds => ds
  | fuel + 1, width, ds =>
    let count := min size (max (max ds.length width) 1)
    let group := ds.take count ++ List.replicate (count - ds.length) '0'
    let rest := ds.drop count
    if rest.isEmpty && width ≤ count then group
    else group ++ mark :: groups size mark fuel (width - count - 1) rest

/-- Digits with zeros in front up to a width, and with marks between their groups. -/
def grouped (size : Nat) (mark : Option Char) (width : Nat) (ds : List Char) : List Char :=
  match mark with
  | none => List.replicate (width - ds.length) '0' ++ ds
  | some mark => (groups size mark (ds.length + width + 1) width ds.reverse).reverse

/-- The sign that a layout shows. -/
def signOf (l : Layout) (isNegative : Bool) : List Char :=
  if isNegative then ['-']
  else match l.sign with
    | some '+' => ['+']
    | some ' ' => [' ']
    | _ => []

/-- A number set into its layout. -/
def Figures.set (l : Layout) (f : Figures) : List Char :=
  let side := l.side.getD .right
  let sign := signOf l f.isNegative
  let fixed := sign.length + f.lead.length + f.tail.length
  let size := if l.separator == some '_' && l.type.any Layout.powerTypes.contains then 4 else 3
  let least := if l.fill == '0' && side == .inner then l.width - fixed else 0
  let body := if f.digits.isEmpty then [] else grouped size l.separator least f.digits
  let front := sign ++ f.lead
  let back := body ++ f.tail
  if side == .inner then
    front ++ List.replicate (l.width - (front.length + back.length)) l.fill ++ back
  else pad l.fill side l.width (front ++ back)

/-! ## Integers -/

/-- The digits of a number to a base. -/
def digitsTo (base n : Nat) : List Char := Nat.toDigits base n

/-- An integer to a base, with the mark of the base if the layout asks for it. -/
def integerFigures (l : Layout) (base : Nat) (mark : List Char) (n : Int) : Figures :=
  { isNegative := decide (n < 0)
    lead := if l.alternate then mark else []
    digits := digitsTo base n.natAbs
    tail := [] }

/-- The greatest integer that a machine word holds. -/
def wordLimit : Int := 0x7fffffffffffffff

/-- The character with a number. -/
def charFigures (l : Layout) (n : Int) : Except TemplateFault Figures := do
  if l.sign.isSome then refuse "Sign not allowed with integer format specifier 'c'"
  if l.alternate then refuse "Alternate form (#) not allowed with integer format specifier 'c'"
  if n < -0x8000000000000000 || wordLimit < n then
    .error (.tooLarge "Python int too large to convert to C long")
  if n < 0 || 0x110000 ≤ n then .error (.tooLarge "%c arg not in range(0x110000)")
  return ⟨false, [], [], [Char.ofNat n.toNat]⟩

/-- An integer in a layout of one of the types for integers. -/
def ofInteger (l : Layout) (n : Int) : Except TemplateFault Figures := do
  if l.precision.isSome then refuse "Precision not allowed in integer format specifier"
  if l.coerces then
    refuse "Negative zero coercion (z) not allowed in integer format specifier"
  match l.type with
  | some 'c' => charFigures l n
  | some 'b' => return integerFigures l 2 ['0', 'b'] n
  | some 'o' => return integerFigures l 8 ['0', 'o'] n
  | some 'x' => return integerFigures l 16 ['0', 'x'] n
  | some 'X' =>
    let f := integerFigures l 16 ['0', 'X'] n
    return { f with digits := f.digits.map Char.toUpper }
  | _ => return integerFigures l 10 [] n

/-! ## Real numbers -/

/-- The greatest count of digits. -/
def precisionLimit : Nat := 0x7fffffff

/-- The text of a positive real number in a layout of one of the types for real numbers. -/
def realText (l : Layout) (type : Char) (m : Nat) (e : Int) : List Char :=
  let places := l.precision.getD 6
  match type with
  | 'e' => Number.exponentForm places l.alternate m e
  | 'E' => (Number.exponentForm places l.alternate m e).map Char.toUpper
  | 'g' => Number.generalForm places l.alternate m e
  | 'G' => (Number.generalForm places l.alternate m e).map Char.toUpper
  | '%' => Number.fixedText places l.alternate m e ++ ['%']
  | _ => Number.fixedText places l.alternate m e

/-- A real number in a layout of one of the types for real numbers. -/
def ofReal (l : Layout) (type : Char) (x : Float) : Except TemplateFault Figures := do
  if l.precision.any (precisionLimit < ·) then refuse "precision too big"
  let figures := fun (isNegative : Bool) (text : List Char) =>
    let ds := text.takeWhile Text.isAsciiDigit
    (⟨isNegative, [], ds, text.drop ds.length⟩ : Figures)
  let words := fun (text : String) =>
    (if type == 'E' || type == 'F' || type == 'G' then text.toList.map Char.toUpper
      else text.toList) ++ (if type == '%' then ['%'] else [])
  return match Number.parts (if type == '%' then x * 100.0 else x) with
  | .nan => figures false (words "nan")
  | .infinite isNegative => figures isNegative (words "inf")
  | .finite isNegative m e => figures isNegative (realText l type m e)

/-! ## Layouts -/

/-- The types of layouts that show an integer as one. -/
def integerTypes : List Char := ['b', 'c', 'd', 'o', 'x', 'X', 'n']

/-- The types of layouts that show a number as a real one. -/
def realTypes : List Char := ['e', 'E', 'f', 'F', 'g', 'G', '%']

/-- An integer, of the named kind, in the layout that a template asks for. -/
def layOutInteger (kind layout : String) (n : Int) : Except TemplateFault String := do
  let l ← Layout.read kind 'd' true layout.toList
  let type := l.type.getD 'd'
  let figures ←
    if integerTypes.contains type then ofInteger l n
    else if realTypes.contains type then
      match Number.ofInt? n with
      | some x => ofReal l type x
      | none => .error (.tooLarge "int too large to convert to float")
    else refuse s!"Unknown format code '{Layout.mark type}' for object of type '{kind}'"
  return .ofList (figures.set l)

end ChannelBot.Template
