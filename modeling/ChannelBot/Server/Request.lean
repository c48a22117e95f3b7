/-
Requests as the backend gets them, and the parameters of their queries.
-/
import ChannelBot.Number.Integer
import ChannelBot.Server.Validation
import ChannelBot.Text.Percent

namespace ChannelBot.Server

/-- A request: its method, the written path with the query, the token and the body that it
carries, and the address under which the backend was reached. -/
structure Request where
  method : String
  target : String
  token : Option String := none
  body : Option String := none
  origin : String := ""
  deriving Repr, DecidableEq

namespace Request

/-- The decoded path. -/
def path (r : Request) : String :=
  Percent.decode (.ofList (r.target.toList.takeWhile (· != '?')))

/-- The query as written. -/
def query (r : Request) : String := .ofList ((r.target.toList.dropWhile (· != '?')).drop 1)

/-- The last value of a parameter. -/
def parameter? (r : Request) (name : String) : Option String :=
  (Percent.decodeForm r.query).reverse.lookup name

/-- A parameter that must be there. -/
def parameter (r : Request) (name : String) : Checked String :=
  Checked.under (.field "query") <| Checked.under (.field name) <| match r.parameter? name with
    | some v => .valid v
    | none => Checked.broken .present .null

/-- What follows the zeros and underscores at the start of a written number, after the last of
them: from the first digit or sign on, or from the last zero before a point or the end. -/
def afterZeros (last : Char) : List Char → Option (List Char)
  | [] => some [last]
  | c :: r =>
    if c == '0' || c == '_' then afterZeros c r
    else if c == '.' then some (last :: c :: r)
    else if c == '-' || Text.isAsciiDigit c then some (c :: r)
    else none

/-- A written number without the zeros at its start. -/
def withoutZeros? : List Char → Option (List Char)
  | [] => none
  | c :: r =>
    if c == '0' then afterZeros c r
    else if c == '-' || Text.isAsciiDigit c then some (c :: r)
    else none

/-- A written number without a fraction of zeros. -/
def withoutFraction (s : List Char) : List Char :=
  match s.dropWhile (· != '.') with
  | _ :: d :: r => if (d :: r).all (· == '0') then s.takeWhile (· != '.') else s
  | _ => s

/-- A written number without its underscores, which stand singly and inside of it. -/
def withoutMarks? (s : List Char) : Option (List Char) :=
  let isDoubled := (s.zip (s.drop 1)).any fun (c, d) => c == '_' && d == '_'
  if isDoubled || s.head? == some '_' || s.getLast? == some '_' then none
  else some (s.filter (· != '_'))

/-- A number without a sign: digits, the first of them not zero, or zero. -/
def digits? (s : List Char) : Option Nat :=
  if s.isEmpty || !s.all Text.isAsciiDigit || (s.head? == some '0' && s.length > 1) then none
  else some (Text.digitsValue s)

/-- An integer: digits with single underscores between them, a sign before and a fraction of
zeros behind; only a number without a minus may start with zeros. -/
def integer? (s : String) : Option Int := do
  let t := ((s.toList.dropWhile Number.isMargin).reverse.dropWhile Number.isMargin).reverse
  let t ← match t with
    | '+' :: '-' :: _ => none
    | '+' :: r => withoutZeros? r
    | r => withoutZeros? r
  match ← withoutMarks? (withoutFraction t) with
  | '-' :: ds => (digits? ds).map fun n => -(n : Int)
  | ds => (digits? ds).map fun n => (n : Int)

/-- A parameter that is an integer if it is there. -/
def integer (r : Request) (name : String) (dflt : Int) : Checked Int :=
  Checked.under (.field "query") <| Checked.under (.field name) <| match r.parameter? name with
    | some s => match integer? s with
      | some n => .valid n
      | none => Checked.broken .integer (.str s)
    | none => .valid dflt

end Request

end ChannelBot.Server
