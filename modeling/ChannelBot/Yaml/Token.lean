/-
Why a document cannot be read, and the tokens of one that can: its marks, its names and tags, and its
texts. The marks at which a block begins and ends are tokens as well, although only the indentation
shows them.
-/
import ChannelBot.Value.Access

namespace ChannelBot.Yaml

/-- The ways in which a document can be out of order. -/
inductive Fault where
  /-- A character that no document may hold. -/
  | character
  /-- A piece of text that is no part of a document. -/
  | token
  /-- A part of a document where it cannot stand. -/
  | grammar
  /-- A name for a part of the document that is not there, or that is given twice, or a second
  document. -/
  | reference
  /-- A part that is not of the sort that its tag says. -/
  | meaning
  /-- A text that does not write what its tag says. -/
  | content (kind : FaultKind)
  deriving Repr, DecidableEq

namespace Fault

/-- The name of a fault's class. -/
def name : Fault → String
  | .character => "ReaderError"
  | .token => "ScannerError"
  | .grammar => "ParserError"
  | .reference => "ComposerError"
  | .meaning => "ConstructorError"
  | .content kind => kind.name

end Fault

/-- Refuses a document. -/
def refuse {α : Type} (f : Fault) : Except Fault α := .error f

/-- A line of a document's head. -/
inductive Directive where
  | version (major minor : Nat)
  /-- What tags that start with the handle stand for. -/
  | handle (name lead : String)
  | other
  deriving Repr, DecidableEq

/-- A token. -/
inductive Token where
  | directive (d : Directive)
  | documentStart
  | documentEnd
  | blockList
  | blockMapping
  | blockEnd
  | flowList
  | flowListEnd
  | flowMapping
  | flowMappingEnd
  /-- The dash before an item. -/
  | item
  | comma
  /-- What follows is a key. -/
  | key
  /-- What follows is the value of a key. -/
  | value
  | alias (name : String)
  | anchor (name : String)
  /-- A tag: what follows its handle, if it has one. -/
  | tag (handle : Option String) (suffix : String)
  | scalar (text : String) (isPlain : Bool)
  deriving Repr, DecidableEq

/-- The tokens of a document, up to the first fault if it has one. -/
structure Tokens where
  list : List Token
  fault : Option Fault
  deriving Repr, DecidableEq

end ChannelBot.Yaml
