/-
Every cause for which a piece of the bot's work fails, with its message and the name of its
class. The name is part of what the bot shows: a message template may ask for a fault in its
quoted form.
-/
import ChannelBot.Script.Fault
import ChannelBot.Value.Access
import ChannelBot.Value.Read
import ChannelBot.Yaml.Token

namespace ChannelBot

namespace Script.Fault

/-- The wording of a fault. -/
def message : Fault → String
  | .emptyBlock p => s!"empty action block at position {p}"
  | .unterminated p => s!"unterminated action block at position {p}"
  | .missingArgument i => s!"missing argument index {i}"
  | .invalidVariable _ => "invalid variable"
  | .shape cause => cause.message
  | .unknownAction n => s!"unknown action {n}"
  | .refused reason => reason

/-- The name of a fault's class. -/
def name : Fault → String
  | .emptyBlock _ | .refused _ => "ExecutionError"
  | .unterminated _ => "UnterminatedBlockError"
  | .missingArgument _ => "MissingArgumentError"
  | .invalidVariable _ => "InvalidVariableError"
  | .unknownAction _ => "UnknownActionError"
  | .shape cause => cause.kind.name

end Script.Fault

/-- What made a request to the store fail where no answer with an error status did. -/
inductive StoreFault.Origin where
  /-- The line to the store failed, in these words. -/
  | line (words : String)
  /-- A value of the answer cannot be read, for this reason. -/
  | value (reason : String)
  deriving Repr, DecidableEq

/-- A request to the store that did not succeed: the status of the answer, 0 if there was none,
and the reason given. -/
structure StoreFault where
  status : Int
  reason : String
  origin : Option StoreFault.Origin := none
  deriving Repr, DecidableEq

namespace StoreFault

/-- The store says that there is no such thing. -/
def isMissing (f : StoreFault) : Bool := f.status == 404

/-- The store says that there is such a thing already. -/
def isTaken (f : StoreFault) : Bool := f.status == 409

/-- The name of a fault's class, by its status. -/
def name (f : StoreFault) : String :=
  if f.isMissing then "NotFoundError" else if f.isTaken then "AlreadyExistsError"
  else "BackendError"

end StoreFault

/-- What went wrong on the way to chat. -/
inductive TransportFault where
  /-- The platform refuses a request, in these words. -/
  | refused (words : String)
  /-- The platform does not know a channel. -/
  | unknownChannel (login : String)
  deriving Repr, DecidableEq

/-- The wording of a fault. -/
def TransportFault.message : TransportFault → String
  | .refused words => words
  | .unknownChannel login => "unknown channel " ++ login

/-- The outside services that actions ask. -/
inductive Provider where
  | weather
  | languages
  | spotify
  deriving Repr, DecidableEq

/-- The name of the class of a provider's faults. -/
def Provider.faultName : Provider → String
  | .weather => "WeatherError"
  | .languages => "TranslationError"
  | .spotify => "SpotifyError"

/-- A question to a provider that got no usable answer. -/
inductive ProviderFault where
  /-- The weather service does not know the place. -/
  | unknownPlace (location : String)
  /-- The service, or the line to it, reports an error. -/
  | reported (provider : Provider) (text : String)
  /-- The answer is not of the shape that it should have. -/
  | malformed (provider : Provider) (cause : ShapeFault)
  deriving Repr, DecidableEq

namespace ProviderFault

/-- The wording of a fault. -/
def message : ProviderFault → String
  | .unknownPlace location => location
  | .reported _ text => text
  | .malformed _ cause => "malformed response: " ++ cause.message

/-- The name of a fault's class. -/
def name : ProviderFault → String
  | .unknownPlace _ => "LocationNotFound"
  | .reported p _ | .malformed p _ => p.faultName

end ProviderFault

/-- A message template that cannot be filled in. -/
inductive TemplateFault where
  /-- A field that the message does not have. -/
  | unknownField (name : String)
  /-- A field asked for by its place. -/
  | positional (index : Nat)
  /-- A part of a value, or of a class, that it does not have. -/
  | noPart (shape : String) (part : String)
  | noClassPart (shape : String) (part : String)
  /-- A sequence asked for an item by a name, or for one that it does not have. -/
  | noKey (shape : String)
  | noItem (shape : String)
  /-- An object asked for an item by a number. -/
  | noNumberKey (key : Nat)
  /-- A value, or a class, without items. -/
  | noItems (shape : String)
  | noClassItems (shape : String)
  /-- A layout that the field does not take. -/
  | noLayout (shape : String)
  /-- A number that is too large for its layout, in these words. -/
  | tooLarge (reason : String)
  /-- A template that breaks the rules of templates, in this way. -/
  | broken (reason : String)
  deriving Repr, DecidableEq

namespace TemplateFault

/-- The wording of a fault. -/
def message : TemplateFault → String
  | .unknownField n => Text.quoted n
  | .positional i => s!"Replacement index {i} out of range for positional args tuple"
  | .noPart shape part => s!"'{shape}' object has no attribute '{part}'"
  | .noClassPart shape part => s!"type object '{shape}' has no attribute '{part}'"
  | .noKey "str" => "string indices must be integers, not 'str'"
  | .noKey shape => s!"{shape} indices must be integers or slices, not str"
  | .noItem "str" => "string index out of range"
  | .noItem shape => s!"{shape} index out of range"
  | .noNumberKey n => toString n
  | .noItems shape => s!"'{shape}' object is not subscriptable"
  | .noClassItems shape => s!"type '{shape}' is not subscriptable"
  | .noLayout shape => s!"unsupported format string passed to {shape}.__format__"
  | .tooLarge reason | .broken reason => reason

/-- The class of a fault. -/
def kind : TemplateFault → FaultKind
  | .unknownField _ | .noNumberKey _ => .key
  | .positional _ | .noItem _ => .index
  | .noPart .. | .noClassPart .. => .attribute
  | .noKey _ | .noItems _ | .noClassItems _ | .noLayout _ => .type
  | .tooLarge _ => .overflow
  | .broken _ => .value

end TemplateFault

/-- A cause of failure. -/
inductive Fault where
  | script (cause : Script.Fault)
  | store (cause : StoreFault)
  | transport (cause : TransportFault)
  | provider (cause : ProviderFault)
  /-- No answer in time. -/
  | timeout
  /-- A value of the wrong shape. -/
  | shape (cause : ShapeFault)
  /-- A text that should be JSON and is not. -/
  | json (source : String) (cause : JsonFault)
  | template (cause : TemplateFault)
  /-- A messages file that cannot be read. -/
  | document (cause : Yaml.Fault)
  /-- Any other failure, in its own words. -/
  | other (text : String)
  deriving Repr, DecidableEq

namespace Fault

/-- The wording of a fault, as messages show it. -/
def message : Fault → String
  | .script c => c.message
  | .store c => c.reason
  | .transport c => c.message
  | .provider c => c.message
  | .timeout => ""
  | .shape c => c.message
  | .json source c => c.message source
  | .template c => c.message
  | .document _ => ""
  | .other t => t

/-- The name of a fault's class. -/
def name : Fault → String
  | .script c => c.name
  | .store c => c.name
  | .transport _ => "TransportError"
  | .provider c => c.name
  | .timeout => "TimeoutError"
  | .shape c => c.kind.name
  | .json _ (.broken ..) => "JSONDecodeError"
  | .json _ (.tooLong _) => "ValueError"
  | .template c => c.kind.name
  | .document c => c.name
  | .other _ => "RuntimeError"

end Fault

/-- A value as a text, or a fault that names the operation that needs one. -/
def Value.needText (operation : String) : Value → Except Fault String
  | .str s => .ok s
  | v => .error (.shape (.noOperation v.shape operation))

end ChannelBot
