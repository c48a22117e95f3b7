/-
The tokens of a document. Blocks begin where the indentation grows and end where it shrinks. That
a text is a key shows only at the colon behind it, on the same line and not far away; until then
its place among the tokens is remembered.
-/
import ChannelBot.Yaml.Mark

namespace ChannelBot.Yaml

/-- A token that a colon would make a key: its number among the tokens, where it is, and whether
nothing else can stand there. -/
structure Candidate where
  number : Nat
  depth : Nat
  isNeeded : Bool
  place : Place
  deriving Repr, DecidableEq

/-- What has been read of a document. -/
structure Outline where
  place : Place
  tokens : List Token
  /-- How many brackets are open. -/
  depth : Nat
  /-- The columns of the open blocks, the innermost first. -/
  columns : List Nat
  /-- Whether a key may begin here. -/
  takesKey : Bool
  /-- The tokens that may turn out to be keys, at most one for every depth. -/
  candidates : List Candidate
  isOver : Bool
  deriving Repr, DecidableEq

namespace Outline

/-- Nothing has been read. -/
def start (source : List Char) : Outline :=
  { place := .start source
    tokens := []
    depth := 0
    columns := []
    takesKey := true
    candidates := []
    isOver := false }

/-- The least column of what belongs to the innermost block. -/
def margin (o : Outline) : Nat :=
  match o.columns with
  | [] => 0
  | column :: _ => column + 1

/-- Adds a token. -/
def put (o : Outline) (t : Token) : Outline := { o with tokens := o.tokens ++ [t] }

/-- Adds a token before the one with a number. -/
def putAt (o : Outline) (number : Nat) (t : Token) : Outline :=
  { o with tokens := o.tokens.take number ++ t :: o.tokens.drop number }

/-! ## Keys -/

/-- Whether a token can no longer be a key: it is on another line, or too far away. -/
def isStale (p : Place) (c : Candidate) : Bool :=
  c.place.line != p.line || 1024 < p.index - c.place.index

/-- Forgets the tokens that can no longer be keys. -/
def dropStale (o : Outline) : Except Fault Outline :=
  if o.candidates.any fun c => isStale o.place c && c.isNeeded then refuse .token
  else .ok { o with candidates := o.candidates.filter (!isStale o.place ·) }

/-- Forgets the token at this depth that might have been a key. -/
def dropCandidate (o : Outline) : Except Fault Outline :=
  if o.candidates.any fun c => c.depth == o.depth && c.isNeeded then refuse .token
  else .ok { o with candidates := o.candidates.filter (·.depth != o.depth) }

/-- Remembers that the next token may be a key. -/
def markCandidate (o : Outline) : Except Fault Outline :=
  if !o.takesKey then .ok o
  else do
    let o ← o.dropCandidate
    let isNeeded := o.depth == 0 && o.columns.head? == some o.place.column
    return { o with
      candidates := o.candidates ++ [⟨o.tokens.length, o.depth, isNeeded, o.place⟩] }

/-- How many tokens are settled: those before the first one that may turn out to be a key. -/
def settled (o : Outline) : Nat := o.candidates.foldl (fun n c => min n c.number) o.tokens.length

/-! ## Blocks -/

/-- Ends the blocks that the given columns cannot belong to: those not before `margin`. -/
def endBlocks (margin : Nat) : List Nat → List Token × List Nat
  | [] => ([], [])
  | column :: rest =>
    if margin ≤ column then
      let (ends, columns) := endBlocks margin rest
      (.blockEnd :: ends, columns)
    else ([], column :: rest)

/-- Ends the blocks whose column is not before `margin`; brackets hide the indentation. -/
def unwind (margin : Nat) (o : Outline) : Outline :=
  if o.depth != 0 then o
  else
    let (ends, columns) := endBlocks margin o.columns
    { o with tokens := o.tokens ++ ends, columns := columns }

/-- Begins a block at a column, before the token with a number, unless it is the block that is
open. -/
def openBlock (o : Outline) (t : Token) (number column : Nat) : Outline :=
  if o.margin ≤ column then { o.putAt number t with columns := column :: o.columns } else o

/-- Goes on after so many characters. -/
def go (n : Nat) (o : Outline) : Outline := { o with place := o.place.skip n }

/-! ## Tokens -/

/-- The place of the next token. A line's end outside of brackets lets a key begin. The number
bounds the count of lines. -/
def seek : Nat → Outline → Outline
  | 0, o => o
  | fuel + 1, o =>
    let p := o.place.skipSpaces.skipComment
    match p.takeBreak? with
    | none => { o with place := p }
    | some (_, p) => seek fuel { o with place := p, takesKey := o.takesKey || o.depth == 0 }

/-- Goes to the next token; the mark of byte order may stand before the first one. -/
def toNext (o : Outline) : Outline :=
  let p := o.place
  let o := if p.index == 0 && p.head? == some '\ufeff' then o.go 1 else o
  o.seek (p.rest.length + 1)

/-- The end of the document's text. -/
def finish (o : Outline) : Except Fault Outline := do
  let o ← (o.unwind 0).dropCandidate
  return { o with candidates := [], isOver := true }

/-- A line of the head. -/
def takeDirective (o : Outline) : Except Fault Outline := do
  let o ← (o.unwind 0).dropCandidate
  let (t, p) ← readDirective o.place.next
  return { o.put t with takesKey := false, place := p }

/-- The mark that begins or ends a document. -/
def takeMark (t : Token) (o : Outline) : Except Fault Outline := do
  let o ← (o.unwind 0).dropCandidate
  return { (o.put t).go 3 with takesKey := false }

/-- An opening bracket. -/
def takeOpening (t : Token) (o : Outline) : Except Fault Outline := do
  let o ← o.markCandidate
  return { (o.put t).go 1 with depth := o.depth + 1, takesKey := true }

/-- A closing bracket. -/
def takeClosing (t : Token) (o : Outline) : Except Fault Outline := do
  let o ← o.dropCandidate
  return { (o.put t).go 1 with depth := o.depth - 1, takesKey := false }

/-- A comma. -/
def takeComma (o : Outline) : Except Fault Outline := do
  let o ← o.dropCandidate
  return { (o.put .comma).go 1 with takesKey := true }

/-- The dash of an item. -/
def takeItem (o : Outline) : Except Fault Outline := do
  if o.depth == 0 && !o.takesKey then refuse .token
  let o := if o.depth == 0 then o.openBlock .blockList o.tokens.length o.place.column else o
  let o ← o.dropCandidate
  return { (o.put .item).go 1 with takesKey := true }

/-- The mark of a key. -/
def takeKey (o : Outline) : Except Fault Outline := do
  if o.depth == 0 && !o.takesKey then refuse .token
  let o := if o.depth == 0 then o.openBlock .blockMapping o.tokens.length o.place.column else o
  let o ← o.dropCandidate
  return { (o.put .key).go 1 with takesKey := o.depth == 0 }

/-- The mark of a value. It makes a key of the token that might be one. -/
def takeValue (o : Outline) : Except Fault Outline :=
  match o.candidates.find? (·.depth == o.depth) with
  | some c =>
    let o := { o with candidates := o.candidates.filter (·.depth != o.depth) }
    let o := o.putAt c.number .key
    let o := if o.depth == 0 then o.openBlock .blockMapping c.number c.place.column else o
    .ok { (o.put .value).go 1 with takesKey := false }
  | none => do
    if o.depth == 0 && !o.takesKey then refuse .token
    let o := if o.depth == 0 then o.openBlock .blockMapping o.tokens.length o.place.column else o
    return { (o.put .value).go 1 with takesKey := o.depth == 0 }

/-- A name, a tag or a text in quotes, any of which may be a key. -/
def takeSimple (read : Place → Except Fault (Token × Place)) (o : Outline) :
    Except Fault Outline := do
  let o ← o.markCandidate
  let (t, p) ← read o.place
  return { o.put t with takesKey := false, place := p }

/-- A name after its mark. -/
def readName (make : String → Token) (p : Place) : Except Fault (Token × Place) := do
  let (name, p) ← partName p.next
  return (make name, p)

/-- A text in quotes. -/
def readQuoted (double : Bool) (p : Place) : Except Fault (Token × Place) := do
  let (text, p) ← quotedText double p.next
  return (.scalar (.ofList text) false, p)

/-- A text without quotes. -/
def takePlain (o : Outline) : Except Fault Outline := do
  let o ← o.markCandidate
  let (text, crosses, p) := plainText (o.depth != 0) o.margin o.place
  return { o.put (.scalar (.ofList text) true) with takesKey := crosses, place := p }

/-- A text block. -/
def takeBlock (folds : Bool) (o : Outline) : Except Fault Outline := do
  let o ← o.dropCandidate
  let (text, p) ← blockText folds o.margin o.place.next
  return { o.put (.scalar (.ofList text) false) with takesKey := true, place := p }

/-- Takes the token that begins with a character at the outline's place. -/
def takeAt (c : Char) (o : Outline) : Except Fault Outline :=
  let p := o.place
  let isFlow := o.depth != 0
  if c == '%' && p.column == 0 then o.takeDirective
  else if c == '-' && p.column == 0 && marksDocument p.rest then o.takeMark .documentStart
  else if c == '.' && p.column == 0 && marksDocument p.rest then o.takeMark .documentEnd
  else if c == '[' then o.takeOpening .flowList
  else if c == '{' then o.takeOpening .flowMapping
  else if c == ']' then o.takeClosing .flowListEnd
  else if c == '}' then o.takeClosing .flowMappingEnd
  else if c == ',' then o.takeComma
  else if c == '-' && endsWord p.next.rest then o.takeItem
  else if c == '?' && (isFlow || endsWord p.next.rest) then o.takeKey
  else if c == ':' && (isFlow || endsWord p.next.rest) then o.takeValue
  else if c == '*' then o.takeSimple (readName .alias)
  else if c == '&' then o.takeSimple (readName .anchor)
  else if c == '!' then o.takeSimple readTag
  else if c == '|' && !isFlow then o.takeBlock false
  else if c == '>' && !isFlow then o.takeBlock true
  else if c == '\'' then o.takeSimple (readQuoted false)
  else if c == '"' then o.takeSimple (readQuoted true)
  else if startsPlain isFlow p.rest then o.takePlain
  else refuse .token

/-- Takes the next token, with the block ends before it. -/
def takeNext (o : Outline) : Except Fault Outline := do
  let o ← o.toNext.dropStale
  let o := o.unwind (o.place.column + 1)
  let o ← match o.place.head? with
    | none => o.finish
    | some c => o.takeAt c
  o.dropStale

/-- All tokens, given those already put aside, the latest first: tokens are put aside as soon as
none of them can turn out to be a key. After a fault there are only those that were settled
before it. The number bounds the count of tokens. -/
def run : Nat → List Token → Outline → Tokens
  | 0, aside, o => ⟨aside.reverse ++ o.tokens, none⟩
  | fuel + 1, aside, o =>
    if o.isOver then ⟨aside.reverse ++ o.tokens, none⟩
    else match o.takeNext with
      | .ok next =>
        if next.candidates.isEmpty then
          run fuel (next.tokens.reverse ++ aside) { next with tokens := [] }
        else run fuel aside next
      | .error f => ⟨aside.reverse ++ o.tokens.take o.settled, some f⟩

end Outline

/-- Whether a character may stand in a document. -/
def isPrintable (c : Char) : Bool :=
  let n := c.toNat
  n == 0x9 || n == 0xa || n == 0xd || (0x20 ≤ n && n ≤ 0x7e) || n == 0x85 ||
    (0xa0 ≤ n && n ≤ 0xfffd) || 0x10000 ≤ n

/-- A text with every line's end written as a line feed. -/
def withLineFeeds : List Char → List Char
  | [] => []
  | '\r' :: '\n' :: r => '\n' :: withLineFeeds r
  | c :: r => (if c == '\r' then '\n' else c) :: withLineFeeds r

/-- The tokens of a document. -/
def Tokens.of (source : String) : Tokens :=
  let text := withLineFeeds source.toList
  if text.all isPrintable then Outline.run (text.length + 2) [] (.start text)
  else ⟨[], some .character⟩

end ChannelBot.Yaml
