/-
What comes of a line of chat in a world, with the default messages. A line that calls a trigger is settled by
what the trigger calls, once that was looked for (`Chat.Calls.course_settle`); a command that may be called is
executed, and told of (`hold_settle`).
-/
import ChannelBot.Proofs.Router.Interpret
import ChannelBot.Proofs.Router.Response

namespace ChannelBot.Router

open Dialogue

variable {channel caller : String} {heard : Option Heard} {l : Line} {gate : Gate} {w : World surroundings}
  {past : List (Turn surroundings)} {α β : Type}

/-! ## Default messages -/

/-- A default message with one text in it. -/
theorem text_around {m : Message} {before name value after : String}
    (h : Messages.defaults.text m (textArg name value) =
      .ok (.ofList (before.toList ++ (value.toList ++ (after.toList ++ []))))) :
    Messages.defaults.text m (textArg name value) = .ok (before ++ value ++ after) := by
  rw [h, List.append_nil, ← String.toList_append, ← String.toList_append, String.ofList_toList, String.append_assoc]

theorem text_commandAdded (t : String) : Messages.defaults.text .commandAdded (textArg "trigger" t) =
    .ok ("successfully added command \"" ++ t ++ "\"") := text_around rfl

theorem text_commandExists (t : String) : Messages.defaults.text .commandExists (textArg "trigger" t) =
    .ok ("command \"" ++ t ++ "\" already exists") := text_around rfl

theorem text_commandRemoved (t : String) : Messages.defaults.text .commandRemoved (textArg "trigger" t) =
    .ok ("successfully removed command \"" ++ t ++ "\"") := text_around rfl

theorem text_commandNotFound (t : String) : Messages.defaults.text .commandNotFound (textArg "trigger" t) =
    .ok ("command \"" ++ t ++ "\" not found") := text_around rfl

theorem text_commandList (names : String) :
    Messages.defaults.text .commandList (textArg "commands" names) = .ok ("Custom commands: " ++ names) := by
  have hlist : Messages.defaults.text .commandList (textArg "commands" names) =
      .ok ("Custom commands: " ++ names ++ "") := text_around rfl
  rwa [String.append_empty] at hlist

/-! ## Pieces in a world -/

theorem hold_askStore (q : StoreQuery) :
    hold w past (askStore q).outcome = ([⟨.store q, w past (.store q)⟩], w past (.store q)) := rfl

theorem hold_text {r : Rules} {m : Message} {args : List (String × TemplateArg)} {text : String}
    (h : r.messages.text m args = .ok text) : hold w past (r.text m args).outcome = ([], .ok (.str text)) := by
  rw [Rules.text, h]
  rfl

theorem hold_map {x : Routing α} {turns : List (Turn surroundings)} {y : Except Fault α} (f : α → β)
    (h : hold w past x.outcome = (turns, y)) : hold w past (f <$> x).outcome = (turns, y.map f) := by
  cases y with
  | ok a => exact (Attempt.hold_bind_of h rfl).trans (Prod.ext (List.append_nil turns) rfl)
  | error e => exact Attempt.hold_bind_error h _

/-- A change in the store that is made, or meets what it wanted to bring about. -/
theorem hold_tried {isMet : Fault → Bool} {q : StoreQuery} (made : Bool)
    (h : if made then ∃ v, w past (.store q) = .ok v else ∃ f, w past (.store q) = .error f ∧ isMet f = true) :
    hold w past (tried isMet (askStore q)).outcome = ([⟨.store q, w past (.store q)⟩], .ok made) := by
  cases made with
  | true =>
    obtain ⟨v, hv⟩ := h
    refine Attempt.hold_sure_bind (hold_askStore q) (?_ : _ = ([], _))
    rw [hv]
    rfl
  | false =>
    obtain ⟨f, hf, hmet⟩ := h
    refine Attempt.hold_sure_bind (hold_askStore q) (?_ : _ = ([], _))
    rw [hf]
    simp only [hmet, if_true]
    rfl

/-- A change that is tried in the store is told of by one of two messages. -/
theorem hold_tried_text {isMet : Fault → Bool} {q : StoreQuery} {args : List (String × TemplateArg)} {yes no : Message}
    {r : Rules} {text : String} (made : Bool)
    (h : if made then ∃ v, w past (.store q) = .ok v else ∃ f, w past (.store q) = .error f ∧ isMet f = true)
    (htext : r.messages.text (if made then yes else no) args = .ok text) :
    hold w past (do if ← tried isMet (askStore q) then r.text yes args else r.text no args : Routing Value).outcome =
      ([⟨.store q, w past (.store q)⟩], .ok (.str text)) := by
  refine (Attempt.hold_bind_of (hold_tried made h) (?_ : _ = ([], .ok (.str text)))).trans (by rw [List.append_nil])
  cases made <;> exact hold_text htext

/-! ## What is told of a command -/

/-- What goes out, and what the result is, when a command came to this; with the default messages. -/
def told (c : Command) (channel : String) (heard : Option Heard) :
    Except Fault Value → List (Turn surroundings) × Result
  | .ok text =>
    if text.holds then ([⟨.enqueue (answerIn channel text heard), ()⟩], ⟨.replied, some text, some c⟩)
    else ([], ⟨.silent, none, some c⟩)
  | .error f =>
    let text : Value := .str (faultLead f ++ f.message)
    ([⟨.enqueue (answerIn channel text heard), ()⟩], ⟨.error, some text, some c⟩)

theorem hold_finish {c : Command} {outcome : Outcome} {text : Value} :
    hold w past (finish c channel heard outcome text).outcome =
      if text.holds then ([⟨.enqueue (answerIn channel text heard), ()⟩], .ok ⟨outcome, some text, some c⟩)
      else ([], .ok ⟨.silent, none, some c⟩) := by
  split
  · rename_i hholds
    exact hold_eq_iff.mpr ⟨runs_finish.mpr (by simp [hholds]), .cons rfl (.nil _)⟩
  · rename_i hholds
    exact hold_eq_iff.mpr ⟨runs_finish.mpr (by simp [hholds]), .nil _⟩

theorem hold_conclude {c : Command} {x : Except Fault Value} :
    hold w past (conclude ⟨gate, .defaults⟩ c channel heard x).outcome =
      ((told c channel heard x).1, .ok (told c channel heard x).2) := by
  cases x with
  | ok text =>
    rw [conclude, hold_finish, told]
    split <;> rfl
  | error f =>
    have hholds : (Value.str (faultLead f ++ f.message)).holds = true := holds_fault f
    have hsent : ∀ past, hold w past (finish c channel heard .error (.str (faultLead f ++ f.message))).outcome =
        ([⟨.enqueue (answerIn channel (.str (faultLead f ++ f.message)) heard), ()⟩],
          .ok ⟨.error, some (.str (faultLead f ++ f.message)), some c⟩) := by
      intro past
      rw [hold_finish, if_pos hholds]
    exact Attempt.hold_bind_of (hold_text (text_fault f)) (hsent _)

/-! ## Lines -/

/-- A line of chat: where and by whom it is said, and how it is answered. A channel has a name; only built-in
commands are of the channel without one. -/
structure Chat where
  line : String
  channel : String
  named : channel ≠ ""
  caller : String
  badges : List String
  heard : Option Heard

/-- What a line asks after a past, with its answers, and what comes of it; with the default messages. -/
def Chat.course (chat : Chat) (w : World surroundings) (gate : Gate) (past : List (Turn surroundings)) :
    List (Turn surroundings) × Except Fault Result :=
  hold w past (route ⟨gate, .defaults⟩ chat.line chat.channel chat.caller chat.badges chat.heard).outcome

/-- All that was asked when lines were heard one after the other. -/
def heardAll (w : World surroundings) (gate : Gate) (chats : List Chat) : List (Turn surroundings) :=
  chats.foldl (fun past chat => past ++ (chat.course w gate past).1) []

/-- A moderator calls a trigger with this behind it, under the sigil that the channel has. -/
structure Chat.Calls (chat : Chat) (w : World surroundings) (gate : Gate) (past : List (Turn surroundings))
    (trigger rest : String) : Prop where
  spelled : ∃ sigil, (hold w past (loadSigil chat.channel).outcome).2 = .ok (.str sigil) ∧
    Line.Spells sigil chat.line trigger rest
  moderator : gate.allows .moderators chat.badges chat.caller = true

/-- The line is answered by one message, with this text. -/
structure Chat.IsAnswered (chat : Chat) (course : List (Turn surroundings) × Except Fault Result) (text : Value) :
    Prop where
  result : ∃ c, course.2 = .ok ⟨.replied, some text, some c⟩
  message : sent course.1 = [answerIn chat.channel text chat.heard]

variable {chat : Chat} {trigger rest : String}

/-- A line that calls a trigger is settled by what the trigger calls, once that was looked for. -/
theorem Chat.Calls.course_settle (h : chat.Calls w gate past trigger rest) :
    ∃ first, (∀ typed, ∀ t ∈ first, t.query.IsReading chat.channel typed) ∧
      ∀ second found last b,
        hold w (past ++ first) (resolve trigger chat.channel).outcome = (second, found) →
        hold w (past ++ first ++ second)
          (settle ⟨gate, .defaults⟩ ⟨trigger, Text.words rest, rest⟩ chat.channel chat.caller chat.badges chat.heard
            found).outcome = (last, b) →
        chat.course w gate past = (first ++ (second ++ last), b) := by
  obtain ⟨⟨sigil, hsigil, hspells⟩, -⟩ := h
  obtain ⟨first, hfirst⟩ : ∃ first, hold w past (loadSigil chat.channel).outcome = (first, .ok (.str sigil)) :=
    ⟨_, Prod.ext rfl hsigil⟩
  have hline : Line.read (.str sigil) chat.line = .ok (some ⟨trigger, Text.words rest, rest⟩) :=
    Line.read_eq_some_iff.mpr ⟨sigil, rfl, Line.parse?_eq_some_iff.mpr ⟨hspells, rfl⟩⟩
  refine ⟨first, runs_loadSigil (hold_eq_iff.mp hfirst).1, fun second found last b hsecond hlast => ?_⟩
  rw [Chat.course, route_eq]
  refine Attempt.hold_bind_of hfirst ?_
  rw [judge_some hline]
  exact Attempt.hold_sure_bind hsecond hlast

/-- A command that the gate lets through is executed, and told of. -/
theorem hold_settle {c : Command} {badges : List String} {third : List (Turn surroundings)} {x : Except Fault Value}
    (hallowed : gate.allows c.permission badges caller = true)
    (hdone : hold w past (execute ⟨gate, .defaults⟩ c l channel (.str caller)).outcome = (third, x)) :
    hold w past (settle ⟨gate, .defaults⟩ l channel caller badges heard (.ok (some c))).outcome =
      (third ++ (told c channel heard x).1, .ok (told c channel heard x).2) := by
  rw [settle, if_pos hallowed, run_eq]
  exact Attempt.hold_sure_bind hdone hold_conclude

end ChannelBot.Router
