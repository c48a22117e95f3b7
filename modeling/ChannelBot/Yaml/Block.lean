/-
Text blocks: indented lines after a head that says whether their line ends are kept (`|`) or
folded into spaces (`>`), and how the line ends after the last line are treated.
-/
import ChannelBot.Yaml.Token
import ChannelBot.Yaml.Place

namespace ChannelBot.Yaml

/-- How a text block treats the line ends after its last line: it keeps one, none or all. -/
inductive Chomp where
  | clip
  | strip
  | keep
  deriving Repr, DecidableEq

/-- The treatment that a mark asks for. -/
def chomp? : Option Char → Option Chomp
  | some '+' => some .keep
  | some '-' => some .strip
  | _ => none

/-- The depth that a digit asks for, which is not zero. -/
def depth? : Option Char → Except Fault (Option Nat)
  | some c =>
    if c == '0' then refuse .token
    else if Text.isAsciiDigit c then .ok (some (c.toNat - 48))
    else .ok none
  | none => .ok none

/-- The marks in the head of a text block, in any order. -/
def blockMarks (p : Place) : Except Fault (Chomp × Option Nat × Place) := do
  match chomp? p.head? with
  | some chomp =>
    let p := p.next
    let depth ← depth? p.head?
    return (chomp, depth, if depth.isSome then p.next else p)
  | none =>
    let depth ← depth? p.head?
    if depth.isNone then return (.clip, none, p)
    let p := p.next
    match chomp? p.head? with
    | some chomp => return (chomp, depth, p.next)
    | none => return (.clip, depth, p)

/-- The place after the rest of a line, which may only hold a comment. -/
def skipRestOfLine (p : Place) : Except Fault Place :=
  let p := p.skipSpaces.skipComment
  if endsLine p.rest then .ok p.skipBreak else refuse .token

/-- The place after spaces up to a column. -/
def skipSpacesTo (column : Nat) (p : Place) : Place :=
  p.skip ((p.rest.takeWhile (· == ' ')).take (column - p.column)).length

/-- The blank lines from here on, the greatest column in them and before the text after them,
and the place of that text. The first number bounds the count of characters. -/
def leadingLines : Nat → Nat → Place → List Char × Nat × Place
  | 0, column, p => ([], column, p)
  | fuel + 1, column, p =>
    if p.head? == some ' ' then leadingLines fuel (max column p.next.column) p.next
    else match p.takeBreak? with
      | none => ([], column, p)
      | some (c, p) =>
        let (more, column, after) := leadingLines fuel column p
        (c :: more, column, after)

/-- The blank lines from here on, with spaces up to a column, and the place after them. The
first number bounds the count of characters. -/
def linesTo (column : Nat) : Nat → Place → List Char × Place
  | 0, p => ([], p)
  | fuel + 1, p =>
    let p := skipSpacesTo column p
    match p.takeBreak? with
    | none => ([], p)
    | some (c, p) =>
      let (more, after) := linesTo column fuel p
      (c :: more, after)

/-- The lines of a text block from here on, given the blank lines before them. The result is
the text without the line ends after its last line, these line ends, and the place after the
block. The number bounds the count of lines. -/
def blockLines (folds : Bool) (column : Nat) :
    Nat → List Char → Place → List Char × Option Char × List Char × Place
  | 0, blank, p => ([], none, blank, p)
  | fuel + 1, blank, p =>
    if p.column != column || p.rest.isEmpty then ([], none, blank, p)
    else
      let isFlush := !p.head?.any isGap
      let (line, p) := p.takeWhile (!isBreak ·)
      let ending := p.takeBreak?
      let p := p.skipBreak
      let (after, p) := linesTo column (p.rest.length + 1) p
      if p.column != column || p.rest.isEmpty then (blank ++ line, ending.map (·.1), after, p)
      else
        let ending := (ending.map (·.1)).toList
        let joint :=
          if folds && ending == ['\n'] && isFlush && !p.head?.any isGap then
            if after.isEmpty then [' '] else []
          else ending
        let (more, last, tail, p) := blockLines folds column fuel after p
        (blank ++ line ++ joint ++ more, last, tail, p)

/-- The text of a text block, and the place after it; `p` is the place after its first mark, and
`margin` the least column that its lines can have. -/
def blockText (folds : Bool) (margin : Nat) (p : Place) : Except Fault (List Char × Place) := do
  let (chomp, depth, p) ← blockMarks p
  if !endsField p.rest then refuse .token
  let p ← skipRestOfLine p
  let margin := max margin 1
  let (blank, column, p) := match depth with
    | none =>
      let (blank, column, p) := leadingLines (p.rest.length + 1) 0 p
      (blank, max margin column, p)
    | some depth =>
      let column := margin + depth - 1
      let (blank, p) := linesTo column (p.rest.length + 1) p
      (blank, column, p)
  let (text, last, tail, p) := blockLines folds column (p.rest.length + 1) blank p
  let ends := match chomp with
    | .strip => []
    | .clip => last.toList
    | .keep => last.toList ++ tail
  return (text ++ ends, p)

end ChannelBot.Yaml
