/-
Plain texts: texts without quotes. Such a text goes on over lines that are indented further than
what it belongs to. A line's end in it counts as a space, and blank lines as line ends.
-/
import ChannelBot.Yaml.Place

namespace ChannelBot.Yaml

/-- Whether a word of a plain text ends here; inside brackets their marks end it as well. -/
def endsPlain (inside : Bool) : List Char → Bool
  | [] => true
  | ':' :: r => endsWord r || (inside && r.head?.any isFlowMark)
  | c :: _ => isGap c || isBreak c || (inside && (isFlowMark c || c == '?'))

/-- The word of a plain text that begins here. -/
def plainWord (inside : Bool) : List Char → List Char
  | [] => []
  | c :: r => if endsPlain inside (c :: r) then [] else c :: plainWord inside r

/-- What stands between two words of a plain text: what the text keeps of it, whether a line
ends in it, and the place after it. -/
structure Space where
  text : List Char
  crosses : Bool
  after : Place
  deriving Repr, DecidableEq

/-- The blank lines from here on, and the place of the next text; no lines at all if a document
mark is met first. The number bounds the count of characters. -/
def blankLines : Nat → Place → Option (List Char) × Place
  | 0, p => (some [], p)
  | fuel + 1, p =>
    if p.head? == some ' ' then blankLines fuel p.next
    else match p.takeBreak? with
      | none => (some [], p)
      | some (c, p) =>
        if marksDocument p.rest then (none, p)
        else
          let (more, after) := blankLines fuel p
          (more.map (c :: ·), after)

/-- The end of a line and the blank lines after it, as the text keeps them. -/
def folded (c : Char) (lines : List Char) : List Char :=
  if c != '\n' then c :: lines else if lines.isEmpty then [' '] else lines

/-- The space from here on. -/
def plainSpace (p : Place) : Space :=
  let (blanks, p) := p.takeWhile (· == ' ')
  match p.takeBreak? with
  | none => ⟨blanks, false, p⟩
  | some (c, p) =>
    if marksDocument p.rest then ⟨[], true, p⟩
    else match blankLines (p.rest.length + 1) p with
      | (some lines, after) => ⟨folded c lines, true, after⟩
      | (none, after) => ⟨[], true, after⟩

/-- The plain text after a space, whether a line ends after its last word, and the place there.
The first number bounds the count of words; outside brackets `margin` is the least column of the
text's lines. -/
def plainAfter (inside : Bool) (margin : Nat) : Nat → Space → List Char × Bool × Place
  | 0, s => ([], s.crosses, s.after)
  | fuel + 1, s =>
    let word := plainWord inside s.after.rest
    if s.after.head? == some '#' || word.isEmpty then ([], s.crosses, s.after)
    else
      let space := plainSpace (s.after.skip word.length)
      let isOver := space.text.isEmpty || space.after.head? == some '#' ||
        (!inside && space.after.column < margin)
      let (more, crosses, after) :=
        if isOver then ([], space.crosses, space.after) else plainAfter inside margin fuel space
      (s.text ++ word ++ more, crosses, after)

/-- The plain text that begins here, whether a line ends after its last word, and the place
there. -/
def plainText (inside : Bool) (margin : Nat) (p : Place) : List Char × Bool × Place :=
  plainAfter inside margin (p.rest.length + 1) ⟨[], false, p⟩

/-- Whether a plain text may begin here. -/
def startsPlain (inside : Bool) : List Char → Bool
  | [] => false
  | c :: r =>
    !(isGap c || isBreak c || "-?:,[]{}#&*!|>'\"%@`".toList.contains c) ||
      (!endsWord r && (c == '-' || (!inside && (c == '?' || c == ':'))))

end ChannelBot.Yaml
