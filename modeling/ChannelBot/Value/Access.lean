/-
Taking values apart without knowing their shape: fields, items, numbers. Each access that a
value does not allow is a `ShapeFault`, which says what was asked of which kind of value.
-/
import ChannelBot.Value.Display
import ChannelBot.Number.Integer
import ChannelBot.Number.Real

namespace ChannelBot

/-- The kinds of values, with their names in messages. -/
inductive Shape where
  | null
  | bool
  | int
  | real
  | text
  | list
  | object
  deriving Repr, DecidableEq

/-- The name of a kind of value. -/
def Shape.name : Shape → String
  | .null => "NoneType"
  | .bool => "bool"
  | .int => "int"
  | .real => "float"
  | .text => "str"
  | .list => "list"
  | .object => "dict"

/-- The kind of a value. -/
def Value.shape : Value → Shape
  | .null => .null
  | .bool _ => .bool
  | .int _ => .int
  | .real _ => .real
  | .str _ => .text
  | .list _ => .list
  | .obj _ => .object

/-- Why a value could not be used as what it was taken for. -/
inductive ShapeFault where
  /-- An object without this key. -/
  | noKey (key : String)
  /-- An object asked for an item by number. -/
  | noNumberKey (key : Nat)
  /-- A value that does not have the named operation. -/
  | noOperation (shape : Shape) (operation : String)
  /-- A value without items. -/
  | noItems (shape : Shape)
  /-- A list or a text asked for a field. -/
  | noFields (shape : Shape)
  /-- A list or a text that is too short. -/
  | tooShort (shape : Shape)
  /-- A value that has no sequence of items. -/
  | notIterable (shape : Shape)
  /-- A value that is no integer, real number or text of one. -/
  | notInteger (shape : Shape)
  | notReal (shape : Shape)
  /-- A text that writes no integer, or no real number. -/
  | badInteger (text : String)
  | badReal (text : String)
  /-- A written integer with too many digits. -/
  | tooManyDigits (digits : Nat)
  /-- A real number without an integer part. -/
  | nanInteger
  | infiniteInteger
  /-- An integer beyond the real numbers. -/
  | realOverflow
  /-- A moment or a span of time beyond the calendar. -/
  | dateOverflow
  /-- A piece of an output that is not text. -/
  | notText (index : Nat) (shape : Shape)
  /-- A value without a length. -/
  | noLength (shape : Shape)
  /-- Two values of which neither comes before the other. -/
  | notOrdered (left right : Shape)
  /-- A value that no text can start with. -/
  | noLead (shape : Shape)
  /-- A value that is no part of an address. -/
  | notQuotable
  /-- A value that is no key. -/
  | notKey (shape : Shape)
  deriving Repr, DecidableEq

/-- The classes of faults that messages tell apart. -/
inductive FaultKind where
  | key
  | index
  | attribute
  | type
  | value
  | overflow
  deriving Repr, DecidableEq

/-- The name of a class of faults. -/
def FaultKind.name : FaultKind → String
  | .key => "KeyError"
  | .index => "IndexError"
  | .attribute => "AttributeError"
  | .type => "TypeError"
  | .value => "ValueError"
  | .overflow => "OverflowError"

namespace ShapeFault

/-- The class of a fault. -/
def kind : ShapeFault → FaultKind
  | .noKey _ | .noNumberKey _ => .key
  | .noOperation .. => .attribute
  | .noItems _ | .noFields _ | .notIterable _ | .notInteger _ | .notReal _ | .notText .. => .type
  | .noLength _ | .notOrdered .. | .noLead _ | .notQuotable | .notKey _ => .type
  | .tooShort _ => .index
  | .badInteger _ | .badReal _ | .tooManyDigits _ | .nanInteger => .value
  | .infiniteInteger | .realOverflow | .dateOverflow => .overflow

/-- The wording of a fault. -/
def message : ShapeFault → String
  | .noKey k => Text.quoted k
  | .noNumberKey n => toString n
  | .noOperation s op => s!"'{s.name}' object has no attribute '{op}'"
  | .noItems s => s!"'{s.name}' object is not subscriptable"
  | .noFields .text => "string indices must be integers, not 'str'"
  | .noFields s => s!"{s.name} indices must be integers or slices, not str"
  | .tooShort .text => "string index out of range"
  | .tooShort s => s!"{s.name} index out of range"
  | .notIterable s => s!"'{s.name}' object is not iterable"
  | .notInteger s =>
    "int() argument must be a string, a bytes-like object or a real number, not " ++
      s!"'{s.name}'"
  | .notReal s => s!"float() argument must be a string or a real number, not '{s.name}'"
  | .badInteger t =>
    "invalid literal for int() with base 10: " ++ String.ofList ((Text.quoted t).toList.take 200)
  | .badReal t => "could not convert string to float: " ++ Text.quoted t
  | .tooManyDigits n =>
    s!"Exceeds the limit (4300 digits) for integer string conversion: value has {n} digits; " ++
      "use sys.set_int_max_str_digits() to increase the limit"
  | .nanInteger => "cannot convert float NaN to integer"
  | .infiniteInteger => "cannot convert float infinity to integer"
  | .realOverflow => "int too large to convert to float"
  | .dateOverflow => "date value out of range"
  | .notText n s => s!"sequence item {n}: expected str instance, {s.name} found"
  | .noLength s => s!"object of type '{s.name}' has no len()"
  | .notOrdered s t => s!"'<' not supported between instances of '{s.name}' and '{t.name}'"
  | .noLead s => s!"startswith first arg must be str or a tuple of str, not {s.name}"
  | .notQuotable => "quote_from_bytes() expected bytes"
  | .notKey s => s!"unhashable type: '{s.name}'"

end ShapeFault

namespace Value

/-- The value under a key, or null; only objects can be asked. -/
def get (key : String) : Value → Except ShapeFault Value
  | .obj fields => .ok ((lookup? key fields).getD .null)
  | v => .error (.noOperation v.shape "get")

/-- The value under a key, which must be there. -/
def member (key : String) : Value → Except ShapeFault Value
  | .obj fields => match lookup? key fields with
    | some v => .ok v
    | none => .error (.noKey key)
  | .list _ => .error (.noFields .list)
  | .str _ => .error (.noFields .text)
  | v => .error (.noItems v.shape)

/-- The first item of a list or character of a text. -/
def first : Value → Except ShapeFault Value
  | .list (v :: _) => .ok v
  | .list [] => .error (.tooShort .list)
  | .str s => match s.toList with
    | c :: _ => .ok (.str (.ofList [c]))
    | [] => .error (.tooShort .text)
  | .obj _ => .error (.noNumberKey 0)
  | v => .error (.noItems v.shape)

/-- The items of a list, the characters of a text or the keys of an object. -/
def elements : Value → Except ShapeFault (List Value)
  | .list items => .ok items
  | .str s => .ok (s.toList.map fun c => .str (.ofList [c]))
  | .obj fields => .ok (fields.map fun (k, _) => .str k)
  | v => .error (.notIterable v.shape)

/-- Values as the pieces of a text, counted from `index`; each must be a text. -/
def texts (index : Nat) : List Value → Except ShapeFault (List String)
  | [] => .ok []
  | .str s :: rest => (texts (index + 1) rest).map (s :: ·)
  | v :: _ => .error (.notText index v.shape)

/-- A value as a part of an address, which is a text. -/
def addressPart : Value → Except ShapeFault String
  | .str s => .ok s
  | _ => .error .notQuotable

/-- The integer that a value is or writes; a real number loses its fraction. -/
def toInteger : Value → Except ShapeFault Int
  | .bool b => .ok (if b then 1 else 0)
  | .int n => .ok n
  | .real x => match Number.truncate x with
    | .ok n => .ok n
    | .error .nan => .error .nanInteger
    | .error .infinite => .error .infiniteInteger
  | .str s => match Number.readInt s with
    | .ok n => .ok n
    | .error .malformed => .error (.badInteger s)
    | .error (.tooLong n) => .error (.tooManyDigits n)
  | v => .error (.notInteger v.shape)

/-- The real number that a value is or writes. -/
def toReal : Value → Except ShapeFault Float
  | .bool b => .ok (if b then 1.0 else 0.0)
  | .int n => match Number.ofInt? n with
    | some x => .ok x
    | none => .error .realOverflow
  | .real x => .ok x
  | .str s => match Number.readReal? s with
    | some x => .ok x
    | none => .error (.badReal s)
  | v => .error (.notReal v.shape)

end Value

end ChannelBot
