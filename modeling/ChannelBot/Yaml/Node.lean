/-
The parts of a document: texts, lists and mappings, each with its tag. A part that another one
refers to by its name stands in both places.
-/
import ChannelBot.Yaml.Outline
import ChannelBot.Yaml.Tag

namespace ChannelBot.Yaml

/-- A part of a document. -/
inductive Node where
  | text (tag : Tag) (content : String)
  | list (tag : Tag) (items : List Node)
  | mapping (tag : Tag) (fields : List (Node × Node))
  deriving Repr

namespace Node

/-- A part that is left out. -/
def missing : Node := .text .null ""

end Node

/-- What is left of a document: its tokens, and the fault that comes after them, if there is one;
the parts with names, of which some may not be complete, and the handles of tags. -/
structure Reading where
  tokens : List Token
  fault : Option Fault
  parts : List (String × Option Node)
  handles : List (String × String)

namespace Reading

/-- The handles that have a meaning in every document. -/
def commonHandles : List (String × String) := [("!", "!"), ("!!", Tag.lead)]

/-- All tokens are left. -/
def start (tokens : Tokens) : Reading := ⟨tokens.list, tokens.fault, [], commonHandles⟩

end Reading

/-- A step of the reading. -/
abbrev Reader := StateT Reading (Except Fault)

namespace Reader

/-- The next token, which is left in place; nothing at the end of the document. -/
def peek : Reader (Option Token) := do
  let r ← get
  match r.tokens, r.fault with
  | t :: _, _ => return some t
  | [], some f => throw f
  | [], none => return none

/-- Drops the next token. -/
def drop : Reader Unit := modify fun r => { r with tokens := r.tokens.drop 1 }

/-- Drops the next token if it is this one. -/
def dropIf (t : Token) : Reader Bool := do
  if (← peek) == some t then
    drop
    return true
  else return false

/-- Whether the next token is one of these. -/
def isNext (ts : List Token) : Reader Bool := do
  return (← peek).any ts.contains

/-! ## Names and tags -/

/-- The part with a name. A part that stands inside of itself says nothing. -/
def partNamed (name : String) : Reader Node := do
  match (← get).parts.find? (·.1 == name) with
  | some (_, some n) => return n
  | some (_, none) => return .text .unknown ""
  | none => throw .reference

/-- Gives a part its name, if there is one; the part may be complete or not. -/
def setName (name : Option String) (n : Option Node) : Reader Unit := do
  match name with
  | none => return
  | some name =>
    modify fun r => { r with parts := (name, n) :: r.parts.filter (·.1 != name) }

/-- A name must be new. -/
def needNew (name : Option String) : Reader Unit := do
  match name with
  | none => return
  | some name => if (← get).parts.any (·.1 == name) then throw .reference

/-- The full name of a tag. -/
def fullName (handle : Option String) (suffix : String) : Reader String := do
  match handle with
  | none => return suffix
  | some handle =>
    match (← get).handles.find? (·.1 == handle) with
    | some (_, lead) => return lead ++ suffix
    | none => throw .grammar

/-- The name of a part, if one stands here. -/
def takeAnchor : Reader (Option String) := do
  match ← peek with
  | some (.anchor name) =>
    drop
    return some name
  | _ => return none

/-- The handle and the rest of a tag, if one stands here. -/
def takeTag : Reader (Option (Option String × String)) := do
  match ← peek with
  | some (.tag handle suffix) =>
    drop
    return some (handle, suffix)
  | _ => return none

/-- The name and the full tag of a part, in any order. -/
def takeProperties : Reader (Option String × Option String) := do
  let first ← takeAnchor
  let tag ← takeTag
  let name ← if first.isNone && tag.isSome then takeAnchor else pure first
  match tag with
  | none => return (name, none)
  | some (handle, suffix) => return (name, some (← fullName handle suffix))

/-- The tag of a part, or the one that its form gives it. -/
def tagOr (dflt : Tag) : Option String → Tag
  | none => dflt
  | some "!" => dflt
  | some name => .ofName name

/-- The tag of a text: without quotes, or with the mark `!`, its form gives it one. -/
def textTag (tag : Option String) (isPlain : Bool) (content : String) : Tag :=
  match tag with
  | none => if isPlain then .ofText content else .text
  | some "!" => .ofText content
  | some name => .ofName name

/-! ## Parts -/

/-- Where a part stands: inside brackets, in a block, or after a key or value mark in a block,
where a list need not be indented further. -/
inductive Position where
  | flow
  | block
  | entry
  deriving Repr, DecidableEq

mutual

/-- A part of the document. The number bounds the count of tokens and parts. -/
def node : Nat → Position → Reader Node
  | 0, _ => throw .grammar
  | fuel + 1, position => do
    match ← peek with
    | some (.alias name) =>
      drop
      partNamed name
    | _ =>
      let (name, tag) ← takeProperties
      let isBlock := position != .flow
      match ← peek with
      | some (.scalar content isPlain) =>
        drop
        needNew name
        let n := Node.text (textTag tag isPlain content) content
        setName name (some n)
        return n
      | some .item =>
        if position == .entry then collect name do
          return .list (tagOr .list tag) (← looseItems fuel)
        else absent name tag
      | some .flowList => collect name do
          drop
          return .list (tagOr .list tag) (← flowItems fuel true)
      | some .flowMapping => collect name do
          drop
          return .mapping (tagOr .mapping tag) (← flowFields fuel true)
      | some .blockList =>
        if isBlock then collect name do
          drop
          return .list (tagOr .list tag) (← blockItems fuel)
        else absent name tag
      | some .blockMapping =>
        if isBlock then collect name do
          drop
          return .mapping (tagOr .mapping tag) (← blockFields fuel)
        else absent name tag
      | _ => absent name tag
where
  /-- A list or a mapping, which has its name while it is read. -/
  collect (name : Option String) (read : Reader Node) : Reader Node := do
    needNew name
    setName name none
    let n ← read
    setName name (some n)
    return n
  /-- A part with a name or a tag alone. -/
  absent (name tag : Option String) : Reader Node := do
    if name.isNone && tag.isNone then throw .grammar
    needNew name
    let n := Node.text (textTag tag true "") ""
    setName name (some n)
    return n

/-- A part, or none if one of these tokens is next. -/
def nodeUnless : Nat → List Token → Position → Reader Node
  | 0, _, _ => throw .grammar
  | fuel + 1, ends, position => do
    if ← isNext ends then return .missing
    node fuel position

/-- The items of a block. -/
def blockItems : Nat → Reader (List Node)
  | 0 => throw .grammar
  | fuel + 1 => do
    if ← dropIf .item then
      let n ← nodeUnless fuel [.item, .blockEnd] .block
      return n :: (← blockItems fuel)
    else if ← dropIf .blockEnd then return []
    else throw .grammar

/-- The items of a list that is not indented further than the mapping around it. -/
def looseItems : Nat → Reader (List Node)
  | 0 => throw .grammar
  | fuel + 1 => do
    if ← dropIf .item then
      let n ← nodeUnless fuel [.item, .key, .value, .blockEnd] .block
      return n :: (← looseItems fuel)
    else return []

/-- The fields of a block. -/
def blockFields : Nat → Reader (List (Node × Node))
  | 0 => throw .grammar
  | fuel + 1 => do
    let ends : List Token := [.key, .value, .blockEnd]
    if ← dropIf .key then
      let key ← nodeUnless fuel ends .entry
      let value ← if ← dropIf .value then nodeUnless fuel ends .entry else pure .missing
      return (key, value) :: (← blockFields fuel)
    else if ← dropIf .blockEnd then return []
    else throw .grammar

/-- The value of a key inside brackets, which may be left out. -/
def flowValue : Nat → List Token → Reader Node
  | 0, _ => throw .grammar
  | fuel + 1, ends => do
    if ← dropIf .value then nodeUnless fuel ends .flow else return .missing

/-- The items of a list in brackets; a key among them begins a mapping with one field. -/
def flowItems : Nat → (isFirst : Bool) → Reader (List Node)
  | 0, _ => throw .grammar
  | fuel + 1, isFirst => do
    if ← dropIf .flowListEnd then return []
    unless isFirst do
      unless ← dropIf .comma do throw .grammar
    if ← dropIf .key then
      let key ← nodeUnless fuel [.value, .comma, .flowListEnd] .flow
      let value ← flowValue fuel [.comma, .flowListEnd]
      return .mapping .mapping [(key, value)] :: (← flowItems fuel false)
    else if ← dropIf .flowListEnd then return []
    else
      let n ← node fuel .flow
      return n :: (← flowItems fuel false)

/-- The fields of a mapping in brackets. -/
def flowFields : Nat → (isFirst : Bool) → Reader (List (Node × Node))
  | 0, _ => throw .grammar
  | fuel + 1, isFirst => do
    if ← dropIf .flowMappingEnd then return []
    unless isFirst do
      unless ← dropIf .comma do throw .grammar
    if ← dropIf .key then
      let key ← nodeUnless fuel [.value, .comma, .flowMappingEnd] .flow
      let value ← flowValue fuel [.comma, .flowMappingEnd]
      return (key, value) :: (← flowFields fuel false)
    else if ← dropIf .flowMappingEnd then return []
    else
      let key ← node fuel .flow
      return (key, .missing) :: (← flowFields fuel false)

end

/-! ## Documents -/

/-- The lines of a document's head: one version at most, and handles that differ. -/
def directives : Nat → (hasVersion : Bool) → List (String × String) →
    Reader (List (String × String))
  | 0, _, handles => return handles
  | fuel + 1, hasVersion, handles => do
    match ← peek with
    | some (.directive d) =>
      drop
      match d with
      | .version major _ =>
        if hasVersion || major != 1 then throw .grammar
        directives fuel true handles
      | .handle name lead =>
        if handles.any (·.1 == name) then throw .grammar
        directives fuel hasVersion ((name, lead) :: handles)
      | .other => directives fuel hasVersion handles
    | _ => return handles

/-- The head of a document and the mark that begins it. -/
def head (fuel : Nat) : Reader Unit := do
  let handles ← directives fuel false []
  modify fun r => { r with handles := handles ++ Reading.commonHandles }
  unless ← dropIf .documentStart do throw .grammar

/-- Drops the marks that end documents. -/
def dropEnds : Nat → Reader Unit
  | 0 => return
  | fuel + 1 => do
    if ← dropIf .documentEnd then dropEnds fuel

/-- Whether a document's head or its end is next, not its content. -/
def isOutside : Option Token → Bool
  | none => true
  | some (.directive _) => true
  | some t => t == .documentStart || t == .documentEnd

/-- The only document of a text, if there is one. -/
def document (fuel : Nat) : Reader (Option Node) := do
  let content : Reader (Option Node) ← match ← peek with
    | none => return none
    | some (.directive _) | some .documentStart => do
      head fuel
      pure do
        if isOutside (← peek) then return some .missing
        return some (← node fuel .block)
    | some _ => pure do return some (← node fuel .block)
  let n ← content
  dropEnds fuel
  match ← peek with
  | none => return n
  | some _ =>
    head fuel
    throw .reference

end Reader

/-- The only document of a text, if there is one. -/
def Node.ofText? (source : String) : Except Fault (Option Node) :=
  let tokens := Tokens.of source
  (·.1) <$> (Reader.document (4 * tokens.list.length + 16)).run (.start tokens)

end ChannelBot.Yaml
