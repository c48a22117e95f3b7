/-
White space, and the cuts that are made along it: trimming, the words of a text, and the
first word with what follows it.
-/

namespace ChannelBot

namespace Chars

/-- White space: the characters with that Unicode property, and the four separators
U+001C to U+001F. -/
def isBlank (c : Char) : Bool :=
  let n := c.toNat
  (9 ≤ n && n ≤ 13) || (28 ≤ n && n ≤ 32) || n == 0x85 || n == 0xa0 || n == 0x1680 ||
    (0x2000 ≤ n && n ≤ 0x200a) || n == 0x2028 || n == 0x2029 || n == 0x202f || n == 0x205f ||
    n == 0x3000

/-- Drops the white space at the start. -/
def trimStart (s : List Char) : List Char := s.dropWhile isBlank

/-- Drops the white space at the end. -/
def trimEnd (s : List Char) : List Char := (s.reverse.dropWhile isBlank).reverse

/-- Drops the white space at both ends. -/
def trim (s : List Char) : List Char := trimEnd (trimStart s)

/-- The longest runs of characters that are not white space, in order. -/
def words : List Char → List (List Char)
  | [] => []
  | c :: rest =>
    if isBlank c then words rest
    else
      match rest with
      | [] => [[c]]
      | d :: _ =>
        if isBlank d then [c] :: words rest
        else
          match words rest with
          | [] => [[c]]
          | w :: ws => (c :: w) :: ws

/-- The first word and the text that starts at the second one; the second part keeps its
inner and final white space. -/
def firstWord? (s : List Char) : Option (List Char × List Char) :=
  match trimStart s with
  | [] => none
  | c :: r => some ((c :: r).takeWhile (!isBlank ·), trimStart ((c :: r).dropWhile (!isBlank ·)))

end Chars

namespace Text

/-- Drops the white space at both ends. -/
def trim (s : String) : String := .ofList (Chars.trim s.toList)

/-- The words of a text, in order. -/
def words (s : String) : List String := (Chars.words s.toList).map .ofList

/-- The first word and what follows it, from the next word on. -/
def firstWord? (s : String) : Option (String × String) :=
  (Chars.firstWord? s.toList).map fun (w, r) => (.ofList w, .ofList r)

/-- Drops every leading occurrence of a character. -/
def dropLeading (c : Char) (s : String) : String := .ofList (s.toList.dropWhile (· == c))

/-- Drops every final occurrence of a character. -/
def dropTrailing (c : Char) (s : String) : String :=
  .ofList (s.toList.reverse.dropWhile (· == c)).reverse

/-- Whether a text starts with another. -/
def startsWith (lead s : String) : Bool := lead.toList.isPrefixOf s.toList

/-- What follows a leading text, if the text starts with it. -/
def afterLead? (lead s : String) : Option String :=
  if startsWith lead s then some (.ofList (s.toList.drop lead.toList.length)) else none

/-- The words joined by single spaces. -/
def unwords (ws : List String) : String := String.intercalate " " ws

end Text

end ChannelBot
