/-
Texts in quotes. In single quotes a doubled quote is a quote; in double quotes a backslash begins
an escape. A line's end counts as a space and blank lines as line ends, unless a backslash stands
before them.
-/
import ChannelBot.Text.Units
import ChannelBot.Value.Read
import ChannelBot.Yaml.Token
import ChannelBot.Yaml.Plain

namespace ChannelBot.Yaml

/-- The character that a letter stands for after a backslash. -/
def escapedChar? : Char → Option Char
  | '0' => some (Char.ofNat 0)
  | 'a' => some '\x07'
  | 'b' => some '\x08'
  | 't' | '\t' => some '\t'
  | 'n' => some '\n'
  | 'v' => some '\x0b'
  | 'f' => some '\x0c'
  | 'r' => some '\r'
  | 'e' => some '\x1b'
  | ' ' => some ' '
  | '"' => some '"'
  | '\\' => some '\\'
  | '/' => some '/'
  | 'N' => some '\u0085'
  | '_' => some '\u00a0'
  | 'L' => some '\u2028'
  | 'P' => some '\u2029'
  | _ => none

/-- How many digits the number of a character has after this letter. -/
def escapedDigits? : Char → Option Nat
  | 'x' => some 2
  | 'u' => some 4
  | 'U' => some 8
  | _ => none

/-- The number that exactly so many hexadecimal digits write. -/
def hexNumber? (count : Nat) (s : List Char) : Option Nat := do
  let ds ← (s.take count).mapM Json.hexValue?
  if ds.length == count then return ds.foldl (16 * · + ·) 0 else none

/-- The second half of a pair, in an escape of its own. -/
def secondHalf? : List Char → Option Nat
  | '\\' :: 'u' :: r => (hexNumber? 4 r).filter fun n => 0xdc00 ≤ n && n < 0xe000
  | _ => none

/-- The character with a number, and the place after its digits; two escapes may write the
halves of one character. -/
def numberedChar (digits : Nat) (p : Place) : Except Fault (Char × Place) :=
  match hexNumber? digits p.rest with
  | none => refuse .token
  | some n =>
    let p := p.skip digits
    if 0x7fffffff < n then refuse (.content .overflow)
    else if 0x10ffff < n then refuse (.content .value)
    else match if 0xd800 ≤ n && n < 0xdc00 then secondHalf? p.rest else none with
      | some m => .ok (Char.ofNat (0x10000 + (n - 0xd800) * 0x400 + (m - 0xdc00)), p.skip 6)
      | none => .ok (Units.scalar n, p)

/-- The blank lines from here on, and the place of the next text; no document may begin or end
there. The number bounds the count of characters. -/
def quotedLines : Nat → Place → Except Fault (List Char × Place)
  | 0, p => .ok ([], p)
  | fuel + 1, p =>
    if marksDocument p.rest then refuse .token
    else
      let p := p.dropWhile isGap
      match p.takeBreak? with
      | none => .ok ([], p)
      | some (c, p) => do
        let (more, after) ← quotedLines fuel p
        return (c :: more, after)

/-- What an escape stands for, and the place after it; `p` is the place after the backslash. -/
def escape (p : Place) : Except Fault (List Char × Place) :=
  match p.rest with
  | [] => refuse .token
  | c :: r =>
    match escapedChar? c, escapedDigits? c with
    | some d, _ => .ok ([d], p.next)
    | none, some digits => do
      let (d, after) ← numberedChar digits p.next
      return ([d], after)
    | none, none =>
      if isBreak c then quotedLines (r.length + 1) p.next else refuse .token

/-- The text up to the quote that closes it, and the place after that. The number bounds the
count of characters. -/
def quotedFrom (double : Bool) : Nat → Place → Except Fault (List Char × Place)
  | 0, _ => refuse .token
  | fuel + 1, p =>
    let goOn := fun (part : List Char) (p : Place) => do
      let (more, after) ← quotedFrom double fuel p
      return (part ++ more, after)
    match p.rest with
    | [] => refuse .token
    | '\'' :: '\'' :: _ => if double then goOn ['\''] p.next else goOn ['\''] (p.skip 2)
    | c :: _ =>
      if c == (if double then '"' else '\'') then .ok ([], p.next)
      else if double && c == '\\' then do
        let (part, p) ← escape p.next
        goOn part p
      else if isGap c || isBreak c then do
        let (blanks, p) := p.takeWhile isGap
        if p.rest.isEmpty then refuse .token
        match p.takeBreak? with
        | none => goOn blanks p
        | some (c, p) =>
          let (lines, p) ← quotedLines (p.rest.length + 1) p
          goOn (folded c lines) p
      else goOn [c] p.next

/-- The text after an opening quote, and the place after the closing one. -/
def quotedText (double : Bool) (p : Place) : Except Fault (List Char × Place) :=
  quotedFrom double (p.rest.length + 1) p

end ChannelBot.Yaml
