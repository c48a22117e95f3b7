/-
The commands that a store holds, told by what was asked of it: a command that was added and taken is there
until it is removed (`Shelf.of`). Routing a line asks for orderly changes only (`asks_route`), so what is there
is tidy, and no line touches what is in another channel.
-/
import ChannelBot.Proofs.Router.Response

namespace ChannelBot.Router

open Dialogue
open Attempt (Asks asks_pure asks_fail asks_sure asks_query)

variable {r : Rules} {line channel caller : String} {badges : List String} {heard : Option Heard} {l : Line}

/-! ## Shelves -/

/-- The commands that a store holds, by trigger and channel. -/
abbrev Shelf : Type := String → String → Option Command

namespace Shelf

/-- Nothing is held. -/
def empty : Shelf := fun _ _ => none

/-- Under a trigger in a channel there is this now. -/
def put (s : Shelf) (trigger channel : String) (c : Option Command) : Shelf := fun t ch =>
  if t = trigger ∧ ch = channel then c else s t ch

/-- What is held after a turn: a command that was to be added or removed is so if the answer is no failure. -/
def after (s : Shelf) : Turn surroundings → Shelf
  | ⟨.store (.addCommand (.str trigger) body channel permission), .ok _⟩ =>
    match Permission.ofValue permission with
    | .ok level => s.put trigger channel (some ⟨.str trigger, channel, level, body, .custom⟩)
    | .error _ => s
  | ⟨.store (.deleteCommand trigger channel), .ok _⟩ => s.put trigger channel none
  | _ => s

/-- What is held after turns, if nothing was before. -/
def of (turns : List (Turn surroundings)) : Shelf := turns.foldl after empty

end Shelf

/-- A question that changes no command. -/
def Query.IsIdle : Query → Prop
  | .store (.addCommand ..) | .store (.deleteCommand ..) => False
  | _ => True

/-- A question that changes commands at most in a channel, and adds them only as lines of chat do: for
everyone, under a word that is not built in, with a trimmed body. -/
def Query.IsOrderly (channel : String) : Query → Prop
  | .store (.addCommand trigger body ch permission) =>
    ch = channel ∧ permission = .str Permission.everyone.name ∧ ∃ t b, trigger = .str t ∧ body = .str b ∧
      Text.IsWord t ∧ Command.builtin? t = none ∧ b ≠ "" ∧ Text.trim b = b
  | .store (.deleteCommand _ ch) => ch = channel
  | _ => True

/-- A command as lines of chat store it. -/
def storedCommand (trigger channel body : String) : Command := ⟨.str trigger, channel, .everyone, .str body, .custom⟩

namespace Shelf

variable {s : Shelf} {t : Turn surroundings} {past turns : List (Turn surroundings)}

theorem after_idle (h : t.query.IsIdle) : s.after t = s := by
  obtain ⟨q, answer⟩ := t
  cases q with
  | store q => cases q <;> first | exact h.elim | rfl
  | _ => rfl

theorem of_append_idle (h : ∀ t ∈ turns, t.query.IsIdle) : of (past ++ turns) = of past := by
  rw [of, List.foldl_append, ← of]
  induction turns with
  | nil => rfl
  | cons t rest ih =>
    obtain ⟨ht, hrest⟩ := List.forall_mem_cons.mp h
    rw [List.foldl_cons, after_idle ht]
    exact ih hrest

theorem of_snoc (past : List (Turn surroundings)) (t : Turn surroundings) : of (past ++ [t]) = (of past).after t := by
  simp only [of, List.foldl_append, List.foldl_cons, List.foldl_nil]

theorem put_self (s : Shelf) (trigger channel : String) (c : Option Command) :
    s.put trigger channel c trigger channel = c := if_pos ⟨rfl, rfl⟩

theorem put_other {trigger channel t ch : String} (h : ¬ (t = trigger ∧ ch = channel)) (c : Option Command) :
    s.put trigger channel c t ch = s t ch := if_neg h

/-- What is put where it is changes nothing. -/
theorem put_eq_self {trigger channel : String} {c : Option Command} (h : s trigger channel = c) :
    s.put trigger channel c = s := by
  funext t ch
  rw [put]
  split
  · rename_i hkey
    rw [hkey.1, hkey.2, h]
  · rfl

/-- A command that lines of chat add, and that is taken, is held from then on. -/
theorem after_added {trigger channel body : String}
    {answer : surroundings.Answer
      (.store (.addCommand (.str trigger) (.str body) channel (.str Permission.everyone.name)))}
    {v : Value} (h : answer = .ok v) :
    s.after ⟨_, answer⟩ = s.put trigger channel (some (storedCommand trigger channel body)) := by
  have hlevel : Permission.ofValue (.str Permission.everyone.name) = .ok .everyone := rfl
  subst h
  simp only [after, hlevel, storedCommand]

theorem after_deleted {trigger channel : String}
    {answer : surroundings.Answer (.store (.deleteCommand trigger channel))} {v : Value} (h : answer = .ok v) :
    s.after ⟨_, answer⟩ = s.put trigger channel none := by
  subst h
  rfl

/-- A change that fails changes nothing. -/
theorem after_failed {q : StoreQuery} {answer : surroundings.Answer (.store q)} {f : Fault} (h : answer = .error f) :
    s.after ⟨_, answer⟩ = s := by
  subst h
  cases q with
  | addCommand trigger => cases trigger <;> rfl
  | _ => rfl

/-- All that is held was stored by lines of chat: for everyone, under a word that is not built in, with a
trimmed body. -/
def IsTidy (s : Shelf) : Prop :=
  ∀ t ch c, s t ch = some c →
    ∃ b, c = storedCommand t ch b ∧ Text.IsWord t ∧ Command.builtin? t = none ∧ b ≠ "" ∧ Text.trim b = b

theorem isTidy_empty : empty.IsTidy := fun _ _ _ h => nomatch h

theorem put_tidy {trigger channel : String} {c : Option Command} (hs : s.IsTidy)
    (hc : ∀ x, c = some x → ∃ b, x = storedCommand trigger channel b ∧ Text.IsWord trigger ∧
      Command.builtin? trigger = none ∧ b ≠ "" ∧ Text.trim b = b) : (s.put trigger channel c).IsTidy := by
  intro t ch x hx
  rw [put] at hx
  split at hx
  · rename_i hkey
    rw [hkey.1, hkey.2]
    exact hc x hx
  · exact hs t ch x hx

/-- An orderly turn changes nothing in other channels, and leaves tidy what was tidy. -/
theorem after_orderly (h : t.query.IsOrderly channel) :
    (∀ trigger ch, ch ≠ channel → s.after t trigger ch = s trigger ch) ∧ (s.IsTidy → (s.after t).IsTidy) := by
  have hfails : ∀ {q : StoreQuery} (answer : surroundings.Answer (.store q)),
      (∃ f, answer = .error f) ∨ ∃ v, answer = .ok v := by
    intro q answer
    cases answer <;> simp
  obtain ⟨q, answer⟩ := t
  cases q with
  | store q =>
    rcases hfails answer with ⟨f, hf⟩ | ⟨v, hv⟩
    · rw [after_failed hf]
      exact ⟨fun _ _ _ => rfl, id⟩
    · cases q with
      | addCommand trigger body ch permission =>
        obtain ⟨rfl, rfl, t, b, rfl, rfl, hword, hfree, hbody, htrim⟩ := h
        rw [after_added hv]
        refine ⟨fun trigger ch' hne => put_other (fun hkey => hne hkey.2) _, fun htidy => put_tidy htidy ?_⟩
        rintro _ ⟨⟩
        exact ⟨b, rfl, hword, hfree, hbody, htrim⟩
      | deleteCommand trigger ch =>
        obtain rfl : ch = channel := h
        rw [after_deleted hv]
        exact ⟨fun trigger ch' hne => put_other (fun hkey => hne hkey.2) _, fun htidy => put_tidy htidy nofun⟩
      | _ => exact ⟨fun _ _ _ => rfl, id⟩
  | _ => exact ⟨fun _ _ _ => rfl, id⟩

theorem of_append_orderly (h : ∀ t ∈ turns, t.query.IsOrderly channel) :
    (∀ trigger ch, ch ≠ channel → of (past ++ turns) trigger ch = of past trigger ch) ∧
      ((of past).IsTidy → (of (past ++ turns)).IsTidy) := by
  induction turns generalizing past with
  | nil => simp
  | cons t rest ih =>
    obtain ⟨ht, hrest⟩ := List.forall_mem_cons.mp h
    obtain ⟨hstepOther, hstepTidy⟩ := after_orderly (s := of past) ht
    have hlater := @ih (past ++ [t]) hrest
    rw [of_snoc, List.append_assoc] at hlater
    exact ⟨fun trigger ch hne => (hlater.1 trigger ch hne).trans (hstepOther trigger ch hne),
      fun htidy => hlater.2 (hstepTidy htidy)⟩

end Shelf

/-! ## Lines -/

theorem Query.IsReading.isIdle {typed : Option Line} {q : Query} (h : q.IsReading channel typed) : q.IsIdle := by
  cases q with
  | store q => rcases h with rfl | ⟨l, -, rfl⟩ <;> trivial
  | _ => trivial

/-- What is read changes nothing. -/
theorem Shelf.of_append_reads {typed : Option Line} {past reads : List (Turn surroundings)}
    (h : ∀ t ∈ reads, t.query.IsReading channel typed) : of (past ++ reads) = of past :=
  of_append_idle fun t ht => (h t ht).isIdle

theorem Query.IsIdle.isOrderly {q : Query} (h : q.IsIdle) : q.IsOrderly channel := by
  cases q with
  | store q => cases q <;> first | exact h.elim | trivial
  | _ => trivial

/-- What serves a trimmed line is orderly. -/
theorem Query.Serves.isOrderly {q : Query} (h : q.Serves channel l) (hl : Text.trim l.rest = l.rest) :
    q.IsOrderly channel := by
  cases h with
  | addCommand hopens hbody hfree =>
    have htrimmed := hopens.trim_rest (Text.trimEnd_of_trim hl)
    exact ⟨rfl, rfl, _, _, rfl, rfl, hopens.word, hfree, hbody, htrimmed⟩
  | deleteCommand trigger => rfl
  | _ => trivial

theorem asks_loadSigil (channel : String) : Asks Query.IsIdle (loadSigil channel) := by
  refine (asks_sure (asks_query trivial)).bind fun known => ?_
  split
  · exact asks_pure _
  · refine (asks_sure (asks_query trivial)).bind fun answer => ?_
    rcases answer with f | s
    · cases f <;> first | exact asks_fail _ | exact asks_pure _
    · exact (asks_sure (asks_query trivial)).bind fun _ => asks_pure _

theorem asks_respond (text : Value) : Asks Query.IsIdle (respond channel text heard) :=
  asks_sure (asks_query trivial)

theorem asks_finish (c : Command) (outcome : Outcome) (text : Value) :
    Asks Query.IsIdle (finish c channel heard outcome text) := by
  unfold finish
  split
  · exact asks_pure _
  · exact (asks_respond text).bind fun _ => asks_pure _

theorem asks_conclude (r : Rules) (c : Command) (x : Except Fault Value) :
    Asks Query.IsIdle (conclude r c channel heard x) := by
  cases x with
  | ok text => exact asks_finish c .replied text
  | error f => exact (asks_text ..).bind fun text => asks_finish c .error text

theorem asks_orderly_of_idle {α : Type} {x : Routing α} (h : Asks Query.IsIdle x) : Asks (Query.IsOrderly channel) x :=
  h.mono fun _ => Query.IsIdle.isOrderly

theorem asks_settle (hl : Text.trim l.rest = l.rest) (found : Except Fault (Option Command)) :
    Asks (Query.IsOrderly channel) (settle r l channel caller badges heard found) := by
  rcases found with f | (_ | c)
  · cases f with
    | store f => exact (asks_text ..).bind fun text => (asks_orderly_of_idle (asks_respond text)).bind fun _ => asks_pure _
    | _ => exact asks_fail _
  · exact asks_pure _
  · rw [settle]
    split
    · rw [run_eq]
      refine (asks_sure ((asks_execute ..).mono fun q hq => hq.isOrderly hl)).bind fun x => ?_
      exact asks_orderly_of_idle (asks_conclude r c x)
    · exact (asks_text ..).bind fun text => (asks_orderly_of_idle (asks_respond text)).bind fun _ => asks_pure _

/-- Routing a line asks for orderly changes only. -/
theorem asks_route (r : Rules) (line channel caller : String) (badges : List String) (heard : Option Heard) :
    Asks (Query.IsOrderly channel) (route r line channel caller badges heard) := by
  rw [route_eq]
  refine (asks_orderly_of_idle (asks_loadSigil channel)).bind fun sigil => ?_
  cases hline : Line.read sigil line with
  | error e =>
    rw [judge, hline]
    exact asks_fail _
  | ok l? =>
    cases l? with
    | none =>
      rw [judge_none hline]
      exact asks_pure _
    | some l =>
      rw [judge_some hline]
      refine (asks_sure (asks_resolve trivial)).bind fun found => asks_settle ?_ found
      obtain ⟨s, -, hparse⟩ := Line.read_eq_some_iff.mp hline
      exact (Line.parse?_eq_some_iff.mp hparse).1.trim_rest

end ChannelBot.Router
