/-
When two values count as equal, and which comes first. Numbers are compared by what they are
worth, whether they are whole, fractional or truth values; texts by code points; lists item by
item. Values of different kinds have no order, so a sort may fail; it fails at the first such
pair that it meets, and its way through the list is fixed.
-/
import ChannelBot.Text.Order
import ChannelBot.Value.Access

namespace ChannelBot.Value

/-- What a number is worth; one and zero for truth values. -/
def worth? : Value → Option Number.Parts
  | .bool b => some (.finite false (if b then 1 else 0) 0)
  | .int n => some (.finite (decide (n < 0)) n.natAbs 0)
  | .real x => some (Number.parts x)
  | _ => none

/-- How two numbers compare; none for other values and for what is not a number. -/
def compareNumbers? (v w : Value) : Option Ordering :=
  match v.worth?, w.worth? with
  | some a, some b => a.compare? b
  | _, _ => none

mutual

/-- Whether two values count as equal; the order of an object's fields does not matter. -/
def same : Value → Value → Bool
  | .null, .null => true
  | .str s, .str t => s == t
  | .list items, .list others => sameItems items others
  | .obj fields, .obj others => fields.length == others.length && sameFields fields others
  | v, w => compareNumbers? v w == some .eq

/-- Whether two lists have equal items. -/
def sameItems : List Value → List Value → Bool
  | [], [] => true
  | v :: rest, w :: others => same v w && sameItems rest others
  | _, _ => false

/-- Whether fields have equals among others. -/
def sameFields : List (String × Value) → List (String × Value) → Bool
  | [], _ => true
  | (k, v) :: rest, others =>
    (match lookup? k others with
      | some w => same v w
      | none => false) && sameFields rest others

end

mutual

/-- Whether a value comes before another one. -/
def isBefore : Value → Value → Except ShapeFault Bool
  | .str s, .str t => .ok (decide (s < t))
  | .list items, .list others => itemsBefore items others
  | v, w => match v.worth?, w.worth? with
    | some a, some b => .ok (a.compare? b == some .lt)
    | _, _ => .error (.notOrdered v.shape w.shape)

/-- Whether a list comes before another one: by the first items that are not equal, or by being
the shorter one. -/
def itemsBefore : List Value → List Value → Except ShapeFault Bool
  | [], others => .ok !others.isEmpty
  | _ :: _, [] => .ok false
  | v :: rest, w :: others => if same v w then itemsBefore rest others else isBefore v w

end

/-- The place of a value between two places of an ordered list, behind its equals, by halving. -/
def placeBetween (v : Value) (items : List Value) (low high : Nat) : Except ShapeFault Nat :=
  if _h : low < high then do
    let middle := low + (high - low) / 2
    if ← isBefore v (items.getD middle .null) then placeBetween v items low middle
    else placeBetween v items (middle + 1) high
  else .ok low
termination_by high - low
decreasing_by all_goals omega

/-- Puts a value into an ordered list. -/
def place (items : List Value) (v : Value) : Except ShapeFault (List Value) := do
  let spot ← placeBetween v items 0 items.length
  return items.take spot ++ v :: items.drop spot

/-- The values at the start of a list that go on down, or up, from a last one, and the rest. -/
def runFrom (down : Bool) (last : Value) :
    List Value → Except ShapeFault (List Value × List Value)
  | [] => .ok ([], [])
  | v :: rest => do
    if (← isBefore v last) == down then
      let (run, others) ← runFrom down v rest
      return (v :: run, others)
    else return ([], v :: rest)

/-- A list in ascending order: the run at its start, with each other value put in its place. -/
def sortedByPlace : List Value → Except ShapeFault (List Value)
  | v :: w :: rest => do
    let down ← isBefore w v
    let (run, others) ← runFrom down w rest
    let run := v :: w :: run
    others.foldlM place (if down then run.reverse else run)
  | items => .ok items

/-- A list in ascending order. -/
def sorted (items : List Value) : Except ShapeFault (List Value) :=
  match texts 0 items with
  | .ok names => .ok ((Text.sorted names).map .str)
  | .error _ => sortedByPlace items

end ChannelBot.Value
