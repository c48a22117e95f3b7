/-
A place in a text: what is left of the text, with the line and the column that the place is on.
Lines and columns are counted from zero.
-/
import ChannelBot.Text.Digit

namespace ChannelBot.Yaml

/-! ## Characters -/

/-- Whether a character ends a line. -/
def isBreak (c : Char) : Bool :=
  c == '\n' || c == '\u0085' || c == '\u2028' || c == '\u2029'

/-- Whether a character leaves a gap within a line. -/
def isGap (c : Char) : Bool := c == ' ' || c == '\t'

/-- Whether a character has a meaning in lists and mappings in brackets. -/
def isFlowMark (c : Char) : Bool := [',', '[', ']', '{', '}'].contains c

/-- Whether a character may stand in a name. -/
def isNameChar (c : Char) : Bool :=
  Text.isAsciiDigit c || ('A' ≤ c && c ≤ 'Z') || ('a' ≤ c && c ≤ 'z') || c == '-' || c == '_'

/-- Whether a text is at the end of a line. -/
def endsLine : List Char → Bool
  | [] => true
  | c :: _ => isBreak c

/-- Whether a text is at a space or at the end of a line. -/
def endsField : List Char → Bool
  | [] => true
  | c :: _ => isBreak c || c == ' '

/-- Whether a text is at a gap or at the end of a line. -/
def endsWord : List Char → Bool
  | [] => true
  | c :: _ => isBreak c || isGap c

/-- Whether a text is at the mark that begins or ends a document. -/
def marksDocument : List Char → Bool
  | '-' :: '-' :: '-' :: r => endsWord r
  | '.' :: '.' :: '.' :: r => endsWord r
  | _ => false

/-! ## Places -/

/-- A place in a text; `index` counts the characters before it. -/
structure Place where
  rest : List Char
  index : Nat
  line : Nat
  column : Nat
  deriving Repr, DecidableEq

namespace Place

/-- The start of a text. -/
def start (text : List Char) : Place := ⟨text, 0, 0, 0⟩

/-- The next character. -/
def head? (p : Place) : Option Char := p.rest.head?

/-- The place after the next character. The mark of byte order takes no column. -/
def next (p : Place) : Place :=
  match p.rest with
  | [] => p
  | c :: r =>
    if isBreak c then ⟨r, p.index + 1, p.line + 1, 0⟩
    else ⟨r, p.index + 1, p.line, if c == '\ufeff' then p.column else p.column + 1⟩

/-- The place after so many characters. -/
def skip : Nat → Place → Place
  | 0, p => p
  | n + 1, p => skip n p.next

/-- The characters from here on that have a property, and the place after them. -/
def takeWhile (test : Char → Bool) (p : Place) : List Char × Place :=
  let taken := p.rest.takeWhile test
  (taken, p.skip taken.length)

/-- The place after the characters from here on that have a property. -/
def dropWhile (test : Char → Bool) (p : Place) : Place := (p.takeWhile test).2

/-- The place after the spaces from here on. -/
def skipSpaces (p : Place) : Place := p.dropWhile (· == ' ')

/-- The place after a comment, if there is one here: the end of the line. -/
def skipComment (p : Place) : Place :=
  if p.head? == some '#' then p.dropWhile (!isBreak ·) else p

/-- The end of a line as a text keeps it, and the place after it. -/
def takeBreak? (p : Place) : Option (Char × Place) :=
  match p.rest with
  | c :: _ => if isBreak c then some (if c == '\u0085' then '\n' else c, p.next) else none
  | [] => none

/-- The place after the end of a line, if a line ends here. -/
def skipBreak (p : Place) : Place :=
  match p.takeBreak? with
  | some (_, p) => p
  | none => p

end Place

end ChannelBot.Yaml
