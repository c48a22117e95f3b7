/-
What is written with a mark in front: the names of parts of a document, tags, and the lines of a
document's head.
-/
import ChannelBot.Text.Utf8
import ChannelBot.Yaml.Block
import ChannelBot.Yaml.Quoted
import ChannelBot.Yaml.Token

namespace ChannelBot.Yaml

/-- The name of a part of the document, after its mark. -/
def partName (p : Place) : Except Fault (String × Place) :=
  let (name, p) := p.takeWhile isNameChar
  let isOver := endsWord p.rest || p.head?.any ['?', ':', ',', ']', '}', '%', '@', '\x60'].contains
  if name.isEmpty || !isOver then refuse .token else .ok (.ofList name, p)

/-! ## Tags -/

/-- Whether a character may stand in a tag as itself. -/
def isTagChar (c : Char) : Bool :=
  isNameChar c || ";/?:@&=+$,_.!~*'()[]".toList.contains c

/-- The octets that escapes from here on write, and the place after them. The number bounds their
count. -/
def tagOctets : Nat → Place → Except Fault (List Nat × Place)
  | 0, p => .ok ([], p)
  | fuel + 1, p =>
    if p.head? != some '%' then .ok ([], p)
    else match hexNumber? 2 p.next.rest with
      | none => refuse .token
      | some n => do
        let (more, after) ← tagOctets fuel (p.skip 3)
        return (n :: more, after)

/-- The text that octets write in UTF-8, if they write one. -/
def octetText? (octets : List Nat) : Option (List Char) :=
  let text := Utf8.decode octets
  if Utf8.encode text == octets then some text else none

/-- The characters of a tag from here on, and the place after them. The number bounds their
count. -/
def tagChars : Nat → Place → Except Fault (List Char × Place)
  | 0, p => .ok ([], p)
  | fuel + 1, p => do
    let (plain, p) := p.takeWhile isTagChar
    if p.head? != some '%' then return (plain, p)
    let (octets, p) ← tagOctets (p.rest.length + 1) p
    match octetText? octets with
    | none => refuse .token
    | some text =>
      let (more, after) ← tagChars fuel p
      return (plain ++ text ++ more, after)

/-- The text of a tag from here on, which is not empty, and the place after it. -/
def tagText (p : Place) : Except Fault (String × Place) := do
  let (text, after) ← tagChars (p.rest.length + 1) p
  if after.index == p.index then refuse .token
  return (.ofList text, after)

/-- The handle of a tag: a mark, or a name between two marks. -/
def tagHandle (p : Place) : Except Fault (String × Place) :=
  if p.head? != some '!' then refuse .token
  else if p.next.head? == some ' ' then .ok ("!", p.next)
  else
    let (name, after) := p.next.takeWhile isNameChar
    if after.head? == some '!' then .ok ("!" ++ .ofList name ++ "!", after.next) else refuse .token

/-- Whether the tag that begins here has a mark inside, which ends its handle. -/
def hasHandle (p : Place) : Bool :=
  (p.next.rest.takeWhile fun c => !(isBreak c || c == ' ')).contains '!'

/-- A tag, and the place after it. -/
def readTag (p : Place) : Except Fault (Token × Place) := do
  let (token, p) ←
    if p.next.head? == some '<' then do
      let (text, p) ← tagText (p.skip 2)
      if p.head? != some '>' then refuse .token
      pure (Token.tag none text, p.next)
    else if endsWord p.next.rest then pure (.tag none "!", p.next)
    else do
      let (handle, p) ← if hasHandle p then tagHandle p else pure ("!", p.next)
      let (text, p) ← tagText p
      pure (.tag (some handle) text, p)
  if endsField p.rest then return (token, p) else refuse .token

/-! ## The head of a document -/

/-- A number of a version, and the place after it. -/
def versionNumber (p : Place) : Except Fault (Nat × Place) :=
  let (ds, after) := p.takeWhile Text.isAsciiDigit
  if ds.isEmpty then refuse .token
  else match Number.ofDigits ds with
    | .ok n => .ok (n, after)
    | .error _ => refuse (.content .value)

/-- The version that a line of the head gives. -/
def readVersion (p : Place) : Except Fault (Directive × Place) := do
  let (major, p) ← versionNumber p.skipSpaces
  if p.head? != some '.' then refuse .token
  let (minor, p) ← versionNumber p.next
  if endsField p.rest then return (.version major minor, p) else refuse .token

/-- The handle that a line of the head gives a meaning. -/
def readHandle (p : Place) : Except Fault (Directive × Place) := do
  let (name, p) ← tagHandle p.skipSpaces
  if p.head? != some ' ' then refuse .token
  let (lead, p) ← tagText p.skipSpaces
  if endsField p.rest then return (.handle name lead, p) else refuse .token

/-- A line of the head, after its mark, and the place after it. -/
def readDirective (p : Place) : Except Fault (Token × Place) := do
  let (name, p) := p.takeWhile isNameChar
  if name.isEmpty || !endsField p.rest then refuse .token
  let (d, p) ← match String.ofList name with
    | "YAML" => readVersion p
    | "TAG" => readHandle p
    | _ => pure (.other, p.dropWhile (!isBreak ·))
  return (.directive d, ← skipRestOfLine p)

end ChannelBot.Yaml
