/-
The data of a document. They go beyond JSON: a key may be any single value, and there are
moments, octets and sets of keys.
-/
import ChannelBot.Value.Order
import ChannelBot.Value.Write
import ChannelBot.Yaml.Node
import ChannelBot.Yaml.Scalar

namespace ChannelBot.Yaml

/-- A datum; a plain one is null, a truth value, a number or a text. -/
inductive Datum where
  | plain (v : Value)
  | moment (text : String)
  | octets (bytes : List Nat)
  | list (items : List Datum)
  | mapping (fields : List (Datum × Datum))
  | keys (items : List Datum)
  deriving Repr

namespace Datum

/-- Whether a datum counts as something: not null, false, zero or empty. -/
def holds : Datum → Bool
  | .plain v => v.holds
  | .moment _ => true
  | .octets bytes => !bytes.isEmpty
  | .list items => !items.isEmpty
  | .mapping fields => !fields.isEmpty
  | .keys items => !items.isEmpty

/-- Whether a datum can be a key. -/
def isKey : Datum → Bool
  | .plain _ | .moment _ | .octets _ => true
  | .list _ | .mapping _ | .keys _ => false

/-- Whether a value is not a number in the sense of arithmetic. -/
def isNan : Value → Bool
  | .real x => x.isNaN
  | _ => false

/-- Whether two data are the same key: numbers are compared by what they are worth. -/
def isSameKey : Datum → Datum → Bool
  | .plain v, .plain w => v.same w || (isNan v && isNan w)
  | .moment s, .moment t => s == t
  | .octets a, .octets b => a == b
  | _, _ => false

/-- Puts a datum under a key: in place if the key is there, else at the end. -/
def put (key d : Datum) : List (Datum × Datum) → List (Datum × Datum)
  | [] => [(key, d)]
  | (k, e) :: rest => if k.isSameKey key then (k, d) :: rest else (k, e) :: put key d rest

/-! ## The data of a node -/

/-- The text of a node; a mapping may have a key for it. The number bounds the depth. -/
def content : Nat → Node → Except Fault String
  | _, .text _ s => .ok s
  | 0, _ | _, .list .. => refuse .meaning
  | fuel + 1, .mapping _ fields =>
    match fields.find? fun (k, _) => tagOf k == .whole with
    | some (_, n) => content fuel n
    | none => refuse .meaning
where
  /-- The tag of a node. -/
  tagOf : Node → Tag
    | .text t _ | .list t _ | .mapping t _ => t

/-- Whether a node is the key for the fields of other mappings. -/
def isMergeKey (n : Node) : Bool := content.tagOf n == .merge

/-- A key of a mapping; the one that stands for the whole mapping counts as text. -/
def asKey : Node → Node
  | .text .whole s => .text .text s
  | n => n

/-- The fields of a mapping, those of other mappings that it names in front; of several such
mappings in a list the last one comes first. The number bounds the depth. -/
def flatten : Nat → List (Node × Node) → Except Fault (List (Node × Node))
  | 0, _ => refuse .meaning
  | fuel + 1, fields => do
    let own := (fields.filter fun (k, _) => !isMergeKey k).map fun (k, n) => (asKey k, n)
    let others ← (fields.filter fun (k, _) => isMergeKey k).mapM fun (_, n) =>
      match n with
      | .mapping _ fields => flatten fuel fields
      | .list _ items => do
        let parts ← items.mapM fun n =>
          match n with
          | .mapping _ fields => flatten fuel fields
          | _ => refuse .meaning
        return parts.reverse.flatten
      | .text .. => refuse .meaning
    return others.flatten ++ own

/-- A fault with the depth of the part that it is found in. -/
abbrev Deep (α : Type) := Except (Nat × Fault) α

/-- Finds a fault at a depth. -/
def atDepth {α : Type} (depth : Nat) (x : Except Fault α) : Deep α := x.mapError (depth, ·)

/-- The results, or of their faults the least deep one, and of these the first one. -/
def gather {α : Type} : List (Deep α) → Deep (List α)
  | [] => .ok []
  | x :: rest =>
    match x, gather rest with
    | .ok a, .ok as => .ok (a :: as)
    | .ok _, .error e => .error e
    | .error e, .ok _ => .error e
    | .error e, .error f => .error (if f.1 < e.1 then f else e)

/-- A key, given what its node says; only a single value can be one. -/
def needKey (depth : Nat) : Deep Datum → Deep Datum
  | .ok key => if key.isKey then .ok key else .error (depth, .meaning)
  | .error (found, f) => .error (if depth < found then (depth, .meaning) else (found, f))

/-- The datum of a node at a depth. What a list or a mapping holds is one deeper. The first
number bounds the depth. -/
def ofNode : Nat → Nat → Node → Deep Datum
  | 0, depth, _ => .error (depth, .meaning)
  | fuel + 1, depth, n =>
    let inner := depth + 1
    let pairs := fun (fields : List (Node × Node)) => do
      let fields ← atDepth inner (flatten (fuel + 1) fields)
      let found ← gather (fields.map fun (k, n) => do
        match ← gather [needKey inner (ofNode fuel inner k), ofNode fuel inner n] with
        | [key, d] => return (key, d)
        | _ => .error (inner, .meaning))
      return found.foldl (fun done (k, d) => put k d done) []
    let text := fun (read : String → Except Fault Datum) =>
      atDepth depth (do read (← content fuel n))
    match content.tagOf n, n with
    | .null, _ => text fun _ => .ok (.plain .null)
    | .truth, _ => text fun s => return .plain (.bool (← readTruth s))
    | .integer, _ => text fun s => return .plain (.int (← readInteger s))
    | .real, _ => text fun s => return .plain (.real (← readReal s))
    | .moment, _ => text fun s => return .moment (← readMoment s)
    | .text, _ => text fun s => return .plain (.str s)
    | .octets, _ => text fun s => return .octets (← readOctets s)
    | .list, .list _ items => do
      return .list (← gather (items.map fun n => ofNode fuel inner n))
    | .mapping, .mapping _ fields => do return .mapping (← pairs fields)
    | .keys, .mapping _ fields => do return .keys ((← pairs fields).map (·.1))
    | .fields, .list _ items => do
      return .list (← gather (items.map fun n =>
        match n with
        | .mapping _ [(k, n)] => do
          return .list (← gather [ofNode fuel inner k, ofNode fuel inner n])
        | _ => .error (inner, .meaning)))
    | .list, _ | .mapping, _ | .keys, _ | .fields, _ => .error (inner, .meaning)
    | .merge, _ | .whole, _ | .unknown, _ => .error (depth, .meaning)

/-- The datum of a document; an empty one is null. -/
def ofText? (source : String) : Except Fault Datum := do
  match ← Node.ofText? source with
  | none => return .plain .null
  | some n => (ofNode (4 * source.length + 16) 0 n).mapError (·.2)

/-! ## Data as JSON -/

/-- The text of a key of JSON. -/
def keyText? : Datum → Option String
  | .plain (.str s) => some s
  | .plain v => some (v.write Value.compact)
  | _ => none

mutual

/-- The JSON value of a datum; a moment is its written form, and octets and sets have none. -/
def value? : Datum → Option Value
  | .plain v => some v
  | .moment s => some (.str s)
  | .octets _ | .keys _ => none
  | .list items => (values? items).map .list
  | .mapping fields => (fields? fields).map .obj

/-- The JSON values of data. -/
def values? : List Datum → Option (List Value)
  | [] => some []
  | d :: rest => do return (← value? d) :: (← values? rest)

/-- The JSON fields of pairs of data. -/
def fields? : List (Datum × Datum) → Option (List (String × Value))
  | [] => some []
  | (k, d) :: rest => do return (← keyText? k, ← value? d) :: (← fields? rest)

end

end Datum

end ChannelBot.Yaml
