/-
Lower case by the full Unicode mapping. Two characters need more than their own code point:
`İ` becomes two characters, and a capital sigma is the final form `ς` after a letter and
before no letter, where marks and some punctuation in between do not count.
-/
import ChannelBot.Text.CaseTable

namespace ChannelBot

namespace Case

/-- Membership in a table of ranges. -/
def inRanges (table : List (Nat × Nat)) (c : Char) : Bool :=
  table.any fun (lo, hi) => lo ≤ c.toNat && c.toNat ≤ hi

/-- A letter with case that counts beside a capital sigma. -/
def isCased (c : Char) : Bool := inRanges casedRanges c

/-- A character passed over beside a capital sigma. -/
def isIgnorable (c : Char) : Bool := inRanges ignorableRanges c

/-- The one-character lower-case form. -/
def lowerChar (c : Char) : Char :=
  if c.toNat < 128 then c.toLower
  else
    match lowerRanges.find? fun (first, last, step, _) =>
        first ≤ c.toNat && c.toNat ≤ last && (c.toNat - first) % step == 0 with
    | some (_, _, _, shift) => Char.ofNat (c.toNat + shift).toNat
    | none => c

/-- Whether the next character that counts is a letter with case. -/
def casedAhead (rest : List Char) : Bool :=
  match rest.dropWhile isIgnorable with
  | [] => false
  | c :: _ => isCased c

/-- The lower-case form of one character, given whether the last character that counts before
it is a letter with case, and the text after it. -/
def lowerAt (casedBehind : Bool) (c : Char) (rest : List Char) : List Char :=
  if c == 'Σ' then [if casedBehind && !casedAhead rest then 'ς' else 'σ']
  else if c == 'İ' then ['i', '\u0307']
  else [lowerChar c]

/-- The lower-case form of a text that follows other text. -/
def lowerFrom (casedBehind : Bool) : List Char → List Char
  | [] => []
  | c :: rest =>
    lowerAt casedBehind c rest ++
      lowerFrom (if isIgnorable c then casedBehind else isCased c) rest

/-- The ASCII capital that a character has as its upper-case form, if it has one: the ASCII
letters, the dotless `ı` and the long `ſ`. -/
def asciiCapital? (c : Char) : Option Char :=
  if 'a' ≤ c ∧ c ≤ 'z' then some c.toUpper
  else if 'A' ≤ c ∧ c ≤ 'Z' then some c
  else if c == 'ı' then some 'I'
  else if c == 'ſ' then some 'S'
  else none

end Case

namespace Text

/-- The lower-case form of a text. -/
def lower (s : String) : String := .ofList (Case.lowerFrom false s.toList)

/-- Whether the upper-case form of a text is the given text of ASCII capitals. -/
def isUpperForm (capitals s : String) : Bool :=
  s.toList.map Case.asciiCapital? == capitals.toList.map some

end Text

end ChannelBot
