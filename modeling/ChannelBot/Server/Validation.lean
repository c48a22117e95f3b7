/-
What a request may carry. A check reads a value or says which rules it breaks and where; the
checks of several fields report the breaches of all of them, in the order of the fields.
-/
import ChannelBot.Permission
import ChannelBot.Time.Calendar
import ChannelBot.Value.Basic

namespace ChannelBot.Server

/-- A step on the way to a part of a request. -/
inductive Place where
  | field (name : String)
  | item (index : Nat)
  deriving Repr, DecidableEq

/-- What a part of a request has to be. -/
inductive Rule where
  | present
  | object
  | json
  | text
  | atLeast (length : Nat)
  | atMost (length : Nat)
  | permission
  | list
  | fields
  | truth
  | truthWord
  | integer
  | time
  | timeNumber
  | timeKind
  deriving Repr, DecidableEq

namespace Rule

/-- The name of a breach of a rule. -/
def name : Rule → String
  | .present => "missing"
  | .object => "model_attributes_type"
  | .json => "json_invalid"
  | .text => "string_type"
  | .atLeast _ => "string_too_short"
  | .atMost _ => "string_too_long"
  | .permission => "literal_error"
  | .list => "list_type"
  | .fields => "dict_type"
  | .truth => "bool_type"
  | .truthWord => "bool_parsing"
  | .integer => "int_parsing"
  | .time => "datetime_from_date_parsing"
  | .timeNumber => "datetime_parsing"
  | .timeKind => "datetime_type"

/-- A count of characters in words. -/
def characters (n : Nat) : String := toString n ++ (if n == 1 then " character" else " characters")

/-- The names of the levels, as one phrase. -/
def permissionPhrase : String := "'all', 'subs', 'mods' or 'super'"

/-- The wording of a breach of a rule. -/
def message : Rule → String
  | .present => "Field required"
  | .object => "Input should be a valid dictionary or object to extract fields from"
  | .json => "JSON decode error"
  | .text => "Input should be a valid string"
  | .atLeast n => "String should have at least " ++ characters n
  | .atMost n => "String should have at most " ++ characters n
  | .permission => "Input should be " ++ permissionPhrase
  | .list => "Input should be a valid list"
  | .fields => "Input should be a valid dictionary"
  | .truth => "Input should be a valid boolean"
  | .truthWord => "Input should be a valid boolean, unable to interpret input"
  | .integer => "Input should be a valid integer, unable to parse string as an integer"
  | .time => "Input should be a valid datetime or date"
  | .timeNumber | .timeKind => "Input should be a valid datetime"

/-- The numbers and names that the rule itself gives. -/
def context : Rule → List (String × Value)
  | .atLeast n => [("min_length", .int n)]
  | .atMost n => [("max_length", .int n)]
  | .permission => [("expected", .str permissionPhrase)]
  | _ => []

end Rule

/-- A breach of a rule: where, of which rule, and by which value. -/
structure Violation where
  place : List Place
  rule : Rule
  given : Value
  deriving Repr

namespace Violation

/-- A step as a value. -/
def step : Place → Value
  | .field n => .str n
  | .item i => .int i

/-- The way to the offending part. -/
def placeValue (v : Violation) : Value := .list (v.place.map step)

/-- A violation as the answer to the request reports it. -/
def toValue (v : Violation) : Value :=
  .obj ([("type", .str v.rule.name), ("loc", v.placeValue), ("msg", .str v.rule.message),
    ("input", v.given)] ++
    if v.rule.context.isEmpty then [] else [("ctx", .obj v.rule.context)])

/-- The violation as seen from one step further out. -/
def under (p : Place) (v : Violation) : Violation := { v with place := p :: v.place }

end Violation

/-- A part of a request: what it reads as, or its violations. -/
inductive Checked (α : Type) where
  | valid (a : α)
  | invalid (violations : List Violation)
  deriving Repr

namespace Checked

variable {α β : Type}

/-- A value that breaks a rule. -/
def broken (rule : Rule) (given : Value) : Checked α := .invalid [⟨[], rule, given⟩]

/-- Applies a function to what was read. -/
def map (f : α → β) : Checked α → Checked β
  | .valid a => .valid (f a)
  | .invalid vs => .invalid vs

/-- Applies what the first part gives to the second one; the violations of both add up. -/
def also : Checked (α → β) → Checked α → Checked β
  | .valid f, .valid a => .valid (f a)
  | .valid _, .invalid vs => .invalid vs
  | .invalid vs, .valid _ => .invalid vs
  | .invalid vs, .invalid ws => .invalid (vs ++ ws)

/-- The same check, seen from one step further out. -/
def under (p : Place) : Checked α → Checked α
  | .valid a => .valid a
  | .invalid vs => .invalid (vs.map (Violation.under p))

/-- A text. -/
def text : Value → Checked String
  | .str s => .valid s
  | v => broken .text v

/-- A text of at least one character. -/
def filledText (v : Value) : Checked String :=
  match text v with
  | .valid s => if s.isEmpty then broken (.atLeast 1) v else .valid s
  | .invalid vs => .invalid vs

/-- A text of at least one and at most so many characters. -/
def shortText (most : Nat) (v : Value) : Checked String :=
  match filledText v with
  | .valid s => if s.length > most then broken (.atMost most) v else .valid s
  | .invalid vs => .invalid vs

/-- The exact name of a permission level. -/
def permission (v : Value) : Checked Permission :=
  match v with
  | .str s => match Permission.levels.find? (·.name == s) with
    | some p => .valid p
    | none => broken .permission v
  | _ => broken .permission v

/-- The words for true. -/
def trueWords : List String := ["1", "on", "t", "true", "y", "yes"]

/-- The words for false. -/
def falseWords : List String := ["0", "off", "f", "false", "n", "no"]

/-- A truth value: true or false, 1 or 0, or a word for one of them in any case. A number that
does not fit 64 bits is none of these kinds. -/
def truth (v : Value) : Checked Bool :=
  match v with
  | .bool b => .valid b
  | .int n => if -0x8000000000000000 ≤ n ∧ n < 0x8000000000000000 then ofInteger n else broken .truth v
  | .real x => match Number.truncate x with
    | .ok n =>
      if -0x8000000000000000 < n ∧ n < 0x8000000000000000 ∧ x == Float.ofInt n then ofInteger n else broken .truth v
    | .error _ => broken .truth v
  | .str s =>
    let word := String.ofList (s.toList.map Char.toLower)
    if trueWords.contains word then .valid true
    else if falseWords.contains word then .valid false
    else broken .truthWord v
  | _ => broken .truth v
where
  /-- One and zero as truth values. -/
  ofInteger (n : Int) : Checked Bool :=
    if n == 1 then .valid true else if n == 0 then .valid false else broken .truthWord v

/-- A point in time: written out, or as seconds since 1970. -/
def time (v : Value) : Checked Timestamp :=
  match v with
  | .str s => orBroken .time ((Timestamp.read? s).or (Timestamp.ofCount? s))
  | .int n => orBroken .timeNumber (Timestamp.ofUnix? n)
  | .real x => orBroken .timeNumber (Timestamp.ofReal? x)
  | _ => broken .timeKind v
where
  /-- What was read, or a breach of a rule. -/
  orBroken (rule : Rule) : Option Timestamp → Checked Timestamp
    | some t => .valid t
    | none => broken rule v

/-- Checks each item of a list, counting from `index`. -/
def each (check : Value → Checked α) (index : Nat) : List Value → Checked (List α)
  | [] => .valid []
  | v :: rest =>
    ((under (.item index) (check v)).map (fun a as => a :: as)).also (each check (index + 1) rest)

/-- A list of texts. -/
def texts (v : Value) : Checked (List String) :=
  match v with
  | .list items => each text 0 items
  | _ => broken .list v

/-- An object. -/
def fields (v : Value) : Checked (List (String × Value)) :=
  match v with
  | .obj fs => .valid fs
  | _ => broken .fields v

/-- Null, or what the check reads. -/
def orNull (check : Value → Checked α) : Value → Checked (Option α)
  | .null => .valid none
  | v => (check v).map some

/-- A field that must be there. -/
def required (key : String) (check : Value → Checked α) (body : List (String × Value)) :
    Checked α :=
  under (.field key) <| match Value.lookup? key body with
    | some v => check v
    | none => broken .present (.obj body)

/-- A field that may be left out. -/
def optional (key : String) (dflt : α) (check : Value → Checked α)
    (body : List (String × Value)) : Checked α :=
  under (.field key) <| match Value.lookup? key body with
    | some v => check v
    | none => .valid dflt

end Checked

end ChannelBot.Server
