/-
What a command asks. Whatever the answers are, a command that is executed for a line asks only questions that
serve it (`asks_execute`): it runs actions in the channel of the line, adds and removes only what the line names
there, and sends no message by itself. Lemmas for the parts follow the shape of each part, for any kind of
question.
-/
import ChannelBot.Proofs.Line.Spelling
import ChannelBot.Proofs.Router.Gate

namespace ChannelBot.Router

open Dialogue
open Attempt (Asks asks_pure asks_fail asks_ofExcept asks_sure asks_query)

variable {channel trigger : String} {P : Query → Prop} {r : Rules} {α β : Type}

/-! ## Parts -/

theorem asks_text (r : Rules) (m : Message) (args : List (String × TemplateArg)) : Asks P (r.text m args) :=
  asks_ofExcept _

theorem asks_askStore {q : StoreQuery} (h : P (.store q)) : Asks P (askStore q) := asks_query h

theorem asks_tried {isMet : Fault → Bool} {x : Routing α} (h : Asks P x) : Asks P (tried isMet x) := by
  refine (asks_sure h).bind fun answer => ?_
  cases answer with
  | ok a => exact asks_pure true
  | error f =>
    dsimp only
    split
    · exact asks_pure false
    · exact asks_fail f

/-- A change that is tried in the store, and the message of how that went. -/
theorem asks_tried_text {isMet : Fault → Bool} {q : StoreQuery} {args : List (String × TemplateArg)}
    (h : P (.store q)) (yes no : Message) :
    Asks P (do if ← tried isMet (askStore q) then r.text yes args else r.text no args : Routing Value) := by
  refine (asks_tried (asks_askStore h)).bind fun made => ?_
  cases made <;> exact asks_text ..

theorem asks_resolve (h : P (.store (.command trigger channel))) : Asks P (resolve trigger channel) := by
  rw [resolve]
  split
  · exact asks_pure _
  · exact asks_askStore h

theorem asks_runSteps (hact : ∀ name args, P (.act name args channel)) (steps : List Script.Step) :
    Asks P (Script.runSteps (act channel) steps) := by
  induction steps with
  | nil => exact asks_pure []
  | cons step rest ih =>
    cases step with
    | emit text => exact ih.bind fun _ => asks_pure _
    | invoke action args =>
      refine Asks.bind (asks_query (hact action args)) fun _ => ?_
      exact ih.bind fun _ => asks_pure _

theorem asks_interpret (hact : ∀ name args, P (.act name args channel)) (body : Value) (call : Script.Call) :
    Asks P (Script.interpret (fun e => throw (.script e)) (act channel) body call) := by
  rw [Script.interpret]
  split
  · exact asks_fail _
  · refine (asks_runSteps hact _).bind fun pieces => ?_
    split
    · exact asks_fail _
    · exact asks_pure _

/-! ## Commands -/

/-- The questions that serve a line in a channel. What is added or removed there is what the line names. -/
inductive Query.Serves (channel : String) (l : Line) : Query → Prop
  | act (name : String) (args : List Value) : Serves channel l (.act name args channel)
  | command (trigger : String) : Serves channel l (.store (.command trigger channel))
  | commands : Serves channel l (.store (.commands channel))
  | addCommand {trigger body : String} (hopens : Text.Opens l.rest trigger body) (hbody : body ≠ "")
    (hfree : Command.builtin? trigger = none) :
    Serves channel l (.store (.addCommand (.str trigger) (.str body) channel (.str Permission.everyone.name)))
  | deleteCommand (trigger : String) : Serves channel l (.store (.deleteCommand trigger channel))
  | addRedeem (title action : Value) : Serves channel l (.store (.addRedeem title action channel))
  | deleteRedeem (title : String) : Serves channel l (.store (.deleteRedeem title channel))
  | addChannel (target : Value) : Serves channel l (.store (.addChannel target .null))
  | removeChannel (target : String) : Serves channel l (.store (.removeChannel target))
  | join (login : String) : Serves channel l (.join login)
  | part (login : String) : Serves channel l (.part login)
  | dropSigil (target : String) : Serves channel l (.dropSigil target)

variable {l : Line}

theorem asks_addCommand (r : Rules) (l : Line) (channel : String) :
    Asks (Query.Serves channel l) (addCommand r l channel) := by
  rw [addCommand]
  split
  · exact asks_text ..
  · rename_i trigger body hfirst
    split
    · exact asks_text ..
    · rename_i hbody
      split
      · exact asks_text ..
      · rename_i hfree
        refine asks_tried_text ?_ _ _
        exact .addCommand (Text.firstWord?_eq_some_iff.mp hfirst) (by simpa using hbody) (by simpa using hfree)

theorem asks_deleteCommand (r : Rules) (l : Line) (channel : String) :
    Asks (Query.Serves channel l) (deleteCommand r l channel) := by
  rw [deleteCommand]
  split
  · exact asks_text ..
  · exact asks_tried_text (.deleteCommand _) _ _

theorem asks_showCommand (r : Rules) (l : Line) (channel : String) :
    Asks (Query.Serves channel l) (showCommand r l channel) := by
  rw [showCommand]
  split
  · exact asks_text ..
  · refine (asks_resolve (.command _)).bind fun found => ?_
    cases found with
    | none => exact asks_text ..
    | some c =>
      dsimp only
      split
      · exact asks_text ..
      · exact asks_pure _

theorem asks_listCommands (r : Rules) (channel : String) :
    Asks (Query.Serves channel l) (listCommands r channel) := by
  refine (asks_askStore .commands).bind fun answer => (asks_ofExcept _).bind fun names => ?_
  split
  · exact asks_text ..
  · exact (asks_ofExcept _).bind fun _ => asks_text ..

theorem asks_join (r : Rules) (l : Line) : Asks (Query.Serves channel l) (join r l) := by
  rw [join]
  split
  · exact asks_text ..
  · refine (asks_tried (asks_askStore (.addChannel _))).bind fun _ => ?_
    exact Asks.bind (asks_query (.join _)) fun _ => asks_pure _

theorem asks_part (l : Line) (channel : String) : Asks (Query.Serves channel l) (part l channel) := by
  refine (asks_tried (asks_askStore (.removeChannel _))).bind fun _ => ?_
  refine (asks_sure (asks_query (.dropSigil _))).bind fun _ => ?_
  exact Asks.bind (asks_query (.part _)) fun _ => asks_pure _

theorem asks_addRedeem (r : Rules) (l : Line) (channel : String) :
    Asks (Query.Serves channel l) (addRedeem r l channel) := by
  rw [addRedeem]
  split
  · exact asks_text ..
  · split
    · exact asks_text ..
    · exact asks_tried_text (.addRedeem _ _) _ _

theorem asks_deleteRedeem (r : Rules) (l : Line) (channel : String) :
    Asks (Query.Serves channel l) (deleteRedeem r l channel) := by
  rw [deleteRedeem]
  split
  · exact asks_text ..
  · exact asks_tried_text (.deleteRedeem _) _ _

/-- What a command does asks only questions that serve the line. -/
theorem asks_execute (r : Rules) (c : Command) (l : Line) (channel : String) (caller : Value) :
    Asks (Query.Serves channel l) (execute r c l channel caller) := by
  unfold execute
  cases c.kind with
  | custom => exact (asks_interpret .act _ _).map _
  | addCommand => exact asks_addCommand r l channel
  | deleteCommand => exact asks_deleteCommand r l channel
  | showCommand => exact asks_showCommand r l channel
  | listCommands => exact asks_listCommands r channel
  | join => exact asks_join r l
  | part => exact asks_part l channel
  | addRedeem => exact asks_addRedeem r l channel
  | deleteRedeem => exact asks_deleteRedeem r l channel

/-- A question that sends no message. -/
def Query.IsQuiet (q : Query) : Prop := ∀ m, q ≠ .enqueue m

theorem Query.Serves.isQuiet {q : Query} (h : q.Serves channel l) : q.IsQuiet := by
  rintro m rfl
  cases h

theorem Query.IsReading.isQuiet {typed : Option Line} {q : Query} (h : q.IsReading channel typed) : q.IsQuiet := by
  rintro m rfl
  exact h

end ChannelBot.Router
