/-
Values of the JSON data model, as they come from the store, the providers and the event
stream. Objects keep the order of their keys. Whole and fractional numbers stay apart,
because they print differently.
-/

namespace ChannelBot

/-- A JSON value. -/
inductive Value where
  | null
  | bool (b : Bool)
  | int (n : Int)
  | real (x : Float)
  | str (s : String)
  | list (items : List Value)
  | obj (fields : List (String × Value))
  deriving Repr, Inhabited

namespace Value

/-- Whether a value counts as something: not null, false, zero or empty. -/
def holds : Value → Bool
  | .null => false
  | .bool b => b
  | .int n => n != 0
  | .real x => !(x == 0.0)
  | .str s => !s.isEmpty
  | .list items => !items.isEmpty
  | .obj fields => !fields.isEmpty

/-- The value itself if it counts as something, else the other one. -/
def orElse (v other : Value) : Value := if v.holds then v else other

/-- The value under a key of a list of fields. -/
def lookup? (key : String) : List (String × Value) → Option Value
  | [] => none
  | (k, v) :: rest => if k == key then some v else lookup? key rest

/-- The value under a key; none if the value is not an object or has no such key. -/
def field? (key : String) : Value → Option Value
  | .obj fields => lookup? key fields
  | _ => none

/-- Puts a value under a key: in place if the key is there, else at the end. -/
def insert (key : String) (v : Value) : List (String × Value) → List (String × Value)
  | [] => [(key, v)]
  | (k, w) :: rest => if k == key then (k, v) :: rest else (k, w) :: insert key v rest

/-- A text, if the value is one. -/
def text? : Value → Option String
  | .str s => some s
  | _ => none

/-- An optional text as a value, null standing for its absence. -/
def ofText? : Option String → Value
  | some s => .str s
  | none => .null

end Value

end ChannelBot
