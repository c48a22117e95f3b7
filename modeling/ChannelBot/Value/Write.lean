/-
Values written as JSON text, in one of two layouts: `compact` with raw characters, and
`spaced`, the form of stored log events, with a space after commas and colons and all
characters beyond ASCII escaped.
-/
import ChannelBot.Value.Display

namespace ChannelBot.Value

/-- The choices of a JSON layout. -/
structure Layout where
  comma : String
  colon : String
  asciiOnly : Bool
  deriving Repr, DecidableEq

/-- No spaces, characters as they are. -/
def compact : Layout := ⟨",", ":", false⟩

/-- A space after commas and colons, ASCII characters only. -/
def spaced : Layout := ⟨", ", ": ", true⟩

/-- A code unit of sixteen bits as an escape. -/
def unitEscape (n : Nat) : List Char := '\\' :: 'u' :: Text.hexDigits 4 n

/-- One character inside a JSON string. -/
def writeChar (asciiOnly : Bool) (c : Char) : List Char :=
  if c == '"' then ['\\', '"']
  else if c == '\\' then ['\\', '\\']
  else if c == '\n' then ['\\', 'n']
  else if c == '\r' then ['\\', 'r']
  else if c == '\t' then ['\\', 't']
  else if c == '\x08' then ['\\', 'b']
  else if c == '\x0c' then ['\\', 'f']
  else if c.toNat < 32 then unitEscape c.toNat
  else if asciiOnly && c.toNat > 126 then
    if c.toNat < 0x10000 then unitEscape c.toNat
    else
      let n := c.toNat - 0x10000
      unitEscape (0xd800 + n / 0x400) ++ unitEscape (0xdc00 + n % 0x400)
  else [c]

/-- A JSON string. -/
def writeText (asciiOnly : Bool) (s : String) : String :=
  .ofList ('"' :: s.toList.flatMap (writeChar asciiOnly) ++ ['"'])

mutual

/-- The JSON text of a value. -/
def write (l : Layout) : Value → String
  | .null => "null"
  | .bool b => if b then "true" else "false"
  | .int n => toString n
  | .real x => Number.shortestText ⟨"NaN", "Infinity"⟩ x
  | .str s => writeText l.asciiOnly s
  | .list items => "[" ++ String.intercalate l.comma (writeItems l items) ++ "]"
  | .obj fields => "\x7b" ++ String.intercalate l.comma (writeFields l fields) ++ "\x7d"

/-- The JSON texts of the items of a list. -/
def writeItems (l : Layout) : List Value → List String
  | [] => []
  | v :: rest => write l v :: writeItems l rest

/-- The JSON texts of the fields of an object. -/
def writeFields (l : Layout) : List (String × Value) → List String
  | [] => []
  | (k, v) :: rest => (writeText l.asciiOnly k ++ l.colon ++ write l v) :: writeFields l rest

end

mutual

/-- Whether standard JSON can write a value: it holds no infinity and no NaN. -/
def isWritable : Value → Bool
  | .real x => x.isFinite
  | .list items => itemsWritable items
  | .obj fields => fieldsWritable fields
  | _ => true

/-- Whether standard JSON can write all items of a list. -/
def itemsWritable : List Value → Bool
  | [] => true
  | v :: rest => isWritable v && itemsWritable rest

/-- Whether standard JSON can write all fields of an object. -/
def fieldsWritable : List (String × Value) → Bool
  | [] => true
  | (_, v) :: rest => isWritable v && fieldsWritable rest

end

end ChannelBot.Value
