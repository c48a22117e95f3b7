/-
Lines of chat manage commands as entries of a map. The store answers by what it holds (`KeepsShelf`); lines are
heard one after the other (`heardAll`). A line that calls a built-in command does to the shelf what the command
says, and replies with what is there (`commands_are_kept`); a stored command runs exactly its body.
-/
import ChannelBot.Proofs.Router.Course
import ChannelBot.Proofs.Router.Shelf
import ChannelBot.Proofs.Text.Order
import Mathlib.Data.List.Dedup

namespace ChannelBot.Router

open Dialogue

variable {channel : String} {heard : Option Heard} {l : Line} {gate : Gate} {w : World surroundings}
  {past : List (Turn surroundings)} {chat : Chat} {trigger rest : String}

/-! ## A store that keeps a shelf -/

/-- The store answers by what it holds: it refuses to add what is there and to remove what is not, and shows and
lists what is there. What else it is asked, it may answer in any way. -/
structure KeepsShelf (w : World surroundings) : Prop where
  added : ∀ past t body ch,
    let answer := w past (.store (.addCommand (.str t) (.str body) ch (.str Permission.everyone.name)))
    if (Shelf.of past t ch).isSome then ∃ f, answer = .error (.store f) ∧ f.isTaken = true
    else ∃ v : Value, answer = .ok v
  deleted : ∀ past t ch,
    let answer := w past (.store (.deleteCommand t ch))
    if (Shelf.of past t ch).isSome then ∃ v : Value, answer = .ok v
    else ∃ f, answer = .error (.store f) ∧ f.isMissing = true
  shown : ∀ past t ch, w past (.store (.command t ch)) = .ok (Shelf.of past t ch)
  listed : ∀ past ch, ∃ names : List String, names.Nodup ∧ (∀ t, t ∈ names ↔ (Shelf.of past t ch).isSome) ∧
    w past (.store (.commands ch)) = .ok (Value.list (names.map .str))

theorem hold_resolve_builtin {t : String} {c : Command} (h : Command.builtin? t = some c) :
    hold w past (resolve t channel).outcome = ([], .ok (some c)) :=
  hold_eq_iff.mpr ⟨runs_resolve.mpr (.inl ⟨c, h, rfl, rfl⟩), .nil _⟩

/-- Any other trigger calls what is there. -/
theorem hold_resolve_shelf (hw : KeepsShelf w) {t : String} (h : Command.builtin? t = none) :
    hold w past (resolve t channel).outcome =
      ([⟨.store (.command t channel), .ok (Shelf.of past t channel)⟩], .ok (Shelf.of past t channel)) :=
  hold_eq_iff.mpr ⟨runs_resolve.mpr (.inr ⟨h, rfl⟩), .cons (hw.shown past t channel).symm (.nil _)⟩

/-- A piece of routing comes to a text that counts as something, and this holds of the shelf after it and the
text. -/
def Answers (w : World surroundings) (past : List (Turn surroundings)) (x : Routing Value) (P : Shelf → Value → Prop) :
    Prop :=
  ∃ turns text, text.holds = true ∧ hold w past x.outcome = (turns, .ok text) ∧ P (Shelf.of (past ++ turns)) text

/-- A built-in command that answers with a text is answered by one message, and changes what executing it
changes. -/
theorem Chat.Calls.answered (h : chat.Calls w gate past trigger rest) {c : Command}
    (hbuiltin : Command.builtin? trigger = some c) (hlevel : c.permission = .moderators ∨ c.permission = .everyone)
    {P : Shelf → Value → Prop}
    (hdone : ∀ now, Shelf.of now = Shelf.of past →
      Answers w now (execute ⟨gate, .defaults⟩ c ⟨trigger, Text.words rest, rest⟩ chat.channel (.str chat.caller)) P) :
    ∃ text, P (Shelf.of (past ++ (chat.course w gate past).1)) text ∧ chat.IsAnswered (chat.course w gate past) text := by
  obtain ⟨first, hreads, hcourse⟩ := h.course_settle
  have hshelf : Shelf.of (past ++ first) = Shelf.of past := Shelf.of_append_reads (hreads none)
  obtain ⟨third, text, hholds, hexecuted, hP⟩ := hdone (past ++ first) hshelf
  have hallowed : gate.allows c.permission chat.badges chat.caller = true := by
    rcases hlevel with hlevel | hlevel <;> rw [hlevel]
    · exact h.moderator
    · rfl
  have hquiet : ∀ t ∈ third, t.query.IsQuiet := fun t ht =>
    ((hold_eq_iff.mp hexecuted).1.asks (asks_execute ..) t ht).isQuiet
  have hidle : ∀ t ∈ [(⟨.enqueue (answerIn chat.channel text chat.heard), ()⟩ : Turn surroundings)], t.query.IsIdle := by
    simp [Query.IsIdle]
  rw [← List.append_nil (past ++ first)] at hexecuted
  rw [hcourse _ _ _ _ (hold_resolve_builtin hbuiltin) (hold_settle hallowed hexecuted), told, if_pos hholds]
  refine ⟨text, ?_, ⟨c, rfl⟩, ?_⟩
  · rwa [List.nil_append, ← List.append_assoc, ← List.append_assoc, Shelf.of_append_idle hidle]
  · rw [sent_append, sent_append, sent_append, sent_eq_nil hquiet, sent_eq_nil fun t ht => (hreads none t ht).isQuiet]
    rfl

/-! ## Built-in commands -/

theorem builtin?_isBuiltin {t : String} {c : Command} (h : Command.builtin? t = some c) : c.isBuiltin = true := by
  have hall : ∀ c ∈ Command.builtins, c.isBuiltin = true := by decide
  exact hall c (List.mem_of_find?_eq_some h)

/-- No command is called by a trigger in a channel, neither a built-in one nor one of the shelf. -/
def Shelf.IsFree (s : Shelf) (t ch : String) : Prop := Command.builtin? t = none ∧ s t ch = none

instance (s : Shelf) (t ch : String) : Decidable (s.IsFree t ch) :=
  inferInstanceAs (Decidable (Command.builtin? t = none ∧ s t ch = none))

/-- Texts that say more than their arguments are not empty. -/
theorem holds_str_append {a b : String} (h : a ≠ "") : (Value.str (a ++ b)).holds = true := by
  simp [Value.holds, h]

/-- Under a word that is taken nothing is added. -/
theorem addCommand_taken (hw : KeepsShelf w) {t body : String} (hopens : Text.Opens l.rest t body) (hbody : body ≠ "")
    (htaken : ¬ (Shelf.of past).IsFree t channel) :
    Answers w past (addCommand ⟨gate, .defaults⟩ l channel) fun next text =>
      next = Shelf.of past ∧ text = .str ("command \"" ++ t ++ "\" already exists") := by
  have hholds : (Value.str ("command \"" ++ t ++ "\" already exists")).holds = true := holds_str_append (by simp)
  rw [addCommand, Text.firstWord?_eq_some_iff.mpr hopens]
  simp only [show body.isEmpty = false by simpa using hbody, Bool.false_eq_true, if_false]
  cases hbuiltin : Command.builtin? t with
  | some c =>
    simp only [Option.isSome_some, if_true]
    exact ⟨[], _, hholds, hold_text (text_commandExists t), by rw [List.append_nil], rfl⟩
  | none =>
    have hheld : (Shelf.of past t channel).isSome = true := by
      rw [Option.isSome_iff_ne_none]
      exact fun hnone => htaken ⟨hbuiltin, hnone⟩
    have hanswer := hw.added past t body channel
    simp only [hheld, if_true] at hanswer
    obtain ⟨f, hf, hfaulty⟩ := hanswer
    simp only [Option.isSome_none, Bool.false_eq_true, if_false]
    refine ⟨_, _, hholds, hold_tried_text false ⟨.store f, hf, hfaulty⟩ (text_commandExists t), ?_, rfl⟩
    rw [Shelf.of_snoc, Shelf.after_failed hf]

/-- Under a word that is free a command is added. -/
theorem addCommand_free (hw : KeepsShelf w) {t body : String} (hopens : Text.Opens l.rest t body) (hbody : body ≠ "")
    (hfree : (Shelf.of past).IsFree t channel) :
    Answers w past (addCommand ⟨gate, .defaults⟩ l channel) fun next text =>
      next = (Shelf.of past).put t channel (some (storedCommand t channel body)) ∧
        text = .str ("successfully added command \"" ++ t ++ "\"") := by
  obtain ⟨hbuiltin, hnone⟩ := hfree
  rw [addCommand, Text.firstWord?_eq_some_iff.mpr hopens]
  simp only [show body.isEmpty = false by simpa using hbody, hbuiltin, Option.isSome_none, Bool.false_eq_true, if_false]
  have hanswer := hw.added past t body channel
  simp only [hnone, Option.isSome_none, Bool.false_eq_true, if_false] at hanswer
  obtain ⟨v, hv⟩ := hanswer
  refine ⟨_, _, holds_str_append (by simp), hold_tried_text true ⟨v, hv⟩ (text_commandAdded t), ?_, rfl⟩
  rw [Shelf.of_snoc, Shelf.after_added hv]

/-- The text that tells how a removal went. -/
def removedText (s : Shelf) (t ch : String) : String :=
  if (s t ch).isSome then "successfully removed command \"" ++ t ++ "\"" else "command \"" ++ t ++ "\" not found"

/-- What is there is removed. -/
theorem deleteCommand_answers (hw : KeepsShelf w) {t : String} {more : List String} (hargs : l.args = t :: more) :
    Answers w past (deleteCommand ⟨gate, .defaults⟩ l channel) fun next text =>
      next = (Shelf.of past).put t channel none ∧ text = .str (removedText (Shelf.of past) t channel) := by
  have hanswer := hw.deleted past t channel
  rw [deleteCommand, hargs]
  cases hheld : Shelf.of past t channel with
  | some c =>
    simp only [removedText, hheld, Option.isSome_some, if_true] at hanswer ⊢
    obtain ⟨v, hv⟩ := hanswer
    refine ⟨_, _, holds_str_append (by simp), hold_tried_text true ⟨v, hv⟩ (text_commandRemoved t), ?_, rfl⟩
    rw [Shelf.of_snoc, Shelf.after_deleted hv]
  | none =>
    simp only [removedText, hheld, Option.isSome_none, Bool.false_eq_true, if_false] at hanswer ⊢
    obtain ⟨f, hf, hmissing⟩ := hanswer
    refine ⟨_, _, holds_str_append (by simp),
      hold_tried_text false ⟨.store f, hf, hmissing⟩ (text_commandNotFound t), ?_, rfl⟩
    rw [Shelf.of_snoc, Shelf.after_failed hf, Shelf.put_eq_self hheld]

/-- The text that shows what a trigger calls. -/
def shownText (s : Shelf) (t ch : String) : Value :=
  if (Command.builtin? t).isSome then .str "built-in command"
  else match s t ch with
    | some c => c.body
    | none => .str "no such command"

theorem showCommand_answers (hw : KeepsShelf w) (htidy : (Shelf.of past).IsTidy) (hnamed : channel ≠ "") {t : String}
    {more : List String} (hargs : l.args = t :: more) :
    Answers w past (showCommand ⟨gate, .defaults⟩ l channel) fun next text =>
      next = Shelf.of past ∧ text = shownText (Shelf.of past) t channel := by
  rw [showCommand, hargs]
  cases hbuiltin : Command.builtin? t with
  | some c =>
    have hshown : shownText (Shelf.of past) t channel = .str "built-in command" := by
      rw [shownText, hbuiltin]
      rfl
    refine ⟨[], _, ?_, Attempt.hold_bind_of (hold_resolve_builtin hbuiltin) (?_ : _ = ([], Except.ok _)), ?_, hshown.symm⟩
    · rfl
    · simp only [builtin?_isBuiltin hbuiltin, if_true]
      exact hold_text rfl
    · rw [List.append_nil]
  | none =>
    have hshown : ∀ x, Shelf.of past t channel = x → shownText (Shelf.of past) t channel =
        match x with
        | some c => c.body
        | none => .str "no such command" := by
      rintro _ rfl
      rw [shownText, hbuiltin]
      rfl
    have hidle : Shelf.of (past ++ ([⟨.store (.command t channel), .ok (Shelf.of past t channel)⟩] ++ [])) =
        Shelf.of past :=
      Shelf.of_append_idle (by simp [Query.IsIdle])
    cases hheld : Shelf.of past t channel with
    | none =>
      refine ⟨_, _, ?_, Attempt.hold_bind_of (hold_resolve_shelf hw hbuiltin) (?_ : _ = ([], Except.ok _)), hidle,
        (hshown _ hheld).symm⟩
      · rfl
      · rw [hheld]
        exact hold_text rfl
    | some c =>
      obtain ⟨b, rfl, -, -, hb, -⟩ := htidy t channel c hheld
      have hcustom : (storedCommand t channel b).isBuiltin = false := by
        simpa [storedCommand, Command.isBuiltin] using hnamed
      refine ⟨_, _, ?_, Attempt.hold_bind_of (hold_resolve_shelf hw hbuiltin) (?_ : _ = ([], Except.ok _)), hidle,
        (hshown _ hheld).symm⟩
      · simpa [storedCommand, Value.holds] using hb
      · rw [hheld]
        simp only [hcustom, Bool.false_eq_true, if_false]
        rfl

theorem texts_map_str (index : Nat) (names : List String) : Value.texts index (names.map .str) = .ok names := by
  induction names generalizing index with
  | nil => rfl
  | cons t rest ih =>
    rw [List.map_cons, Value.texts, ih]
    rfl

theorem sorted_map_str (names : List String) :
    Value.sorted (names.map .str) = .ok ((Text.sorted names).map .str) := by
  rw [Value.sorted, texts_map_str]

/-- The text that lists commands. -/
def listText (names : List String) : String :=
  if names = [] then "no custom commands" else "Custom commands: " ++ String.intercalate ", " names

/-- The commands of a channel are listed in order, each once. -/
theorem listCommands_answers (hw : KeepsShelf w) :
    Answers w past (listCommands ⟨gate, .defaults⟩ channel) fun next text => next = Shelf.of past ∧
      ∃ names : List String, names.Pairwise (· ≤ ·) ∧ names.Nodup ∧
        (∀ t, t ∈ names ↔ (Shelf.of past t channel).isSome) ∧ text = .str (listText names) := by
  obtain ⟨names, hnodup, hmem, hanswer⟩ := hw.listed past channel
  have hperm : (Text.sorted names).Perm names := Text.sortedOn_perm id names
  have hholds : (Value.str (listText (Text.sorted names))).holds = true := by
    rw [listText]
    split
    · rfl
    · exact holds_str_append (by simp)
  refine ⟨[⟨.store (.commands channel), w past (.store (.commands channel))⟩], _, hholds, ?_,
    Shelf.of_append_idle (by simp [Query.IsIdle]), Text.sorted names, Text.pairwise_sortedOn id names,
    hperm.nodup_iff.mpr hnodup, fun t => hperm.mem_iff.trans (hmem t), rfl⟩
  have hasked : hold w past (askStore (.commands channel)).outcome =
      ([⟨.store (.commands channel), w past (.store (.commands channel))⟩], .ok (Value.list (names.map .str))) := by
    rw [hold_askStore, ← hanswer]
  refine (Attempt.hold_bind_of hasked (?_ : _ = ([], _))).trans (by rw [List.append_nil])
  have hsorted : ((Value.list (names.map .str)).elements >>= Value.sorted).mapError .shape =
      (.ok ((Text.sorted names).map .str) : Except Fault (List Value)) := by
    show (Value.sorted (names.map .str)).mapError Fault.shape = _
    rw [sorted_map_str]
    rfl
  rw [hsorted, Attempt.ofExcept_ok_bind, listText]
  cases hlisted : Text.sorted names with
  | nil => exact hold_text rfl
  | cons t rest =>
    simp only [List.map_cons, List.isEmpty_cons, Bool.false_eq_true, if_false, reduceCtorEq]
    rw [← List.map_cons, texts_map_str]
    show hold w _ (Attempt.ofExcept (.ok (t :: rest)) >>= _).outcome = _
    rw [Attempt.ofExcept_ok_bind]
    exact hold_text (text_commandList _)

/-! ## Stored commands -/

/-- What comes of a command that was looked for and is run with its body. -/
def ranCourse (w : World surroundings) (past reads : List (Turn surroundings)) (chat : Chat) (c : Command) (body : String)
    (args : List String) : List (Turn surroundings) × Except Fault Result :=
  let ran := hold w (past ++ reads) (running chat.channel body ⟨args, .str chat.caller⟩).outcome
  let answer := told c chat.channel chat.heard (ran.2.map Value.ofText?)
  (reads ++ (ran.1 ++ answer.1), .ok answer.2)

theorem told_idle (c : Command) (x : Except Fault Value) : ∀ t ∈ (told c channel heard x).1, t.query.IsIdle := by
  cases x with
  | ok text =>
    rw [told]
    split <;> simp [Query.IsIdle]
  | error f => simp [told, Query.IsIdle]

/-- A stored command runs its body with the words behind the trigger, and changes nothing. -/
theorem Chat.Calls.ran (h : chat.Calls w gate past trigger rest) (hw : KeepsShelf w)
    (hbuiltin : Command.builtin? trigger = none) {body : String}
    (hheld : Shelf.of past trigger chat.channel = some (storedCommand trigger chat.channel body)) :
    ∃ reads, (∀ t ∈ reads, t.query.IsReading chat.channel (some ⟨trigger, Text.words rest, rest⟩)) ∧
      chat.course w gate past =
        ranCourse w past reads chat (storedCommand trigger chat.channel body) body (Text.words rest) ∧
      Shelf.of (past ++ (chat.course w gate past).1) = Shelf.of past := by
  obtain ⟨first, hreads, hcourse⟩ := h.course_settle
  have hshelf : Shelf.of (past ++ first) = Shelf.of past := Shelf.of_append_reads (hreads none)
  have hfound : hold w (past ++ first) (resolve trigger chat.channel).outcome =
      ([⟨.store (.command trigger chat.channel), .ok (some (storedCommand trigger chat.channel body))⟩],
        .ok (some (storedCommand trigger chat.channel body))) := by
    rw [hold_resolve_shelf hw hbuiltin, hshelf, hheld]
  obtain ⟨look, hlook⟩ : ∃ look : Turn surroundings,
      look = ⟨.store (.command trigger chat.channel), .ok (some (storedCommand trigger chat.channel body))⟩ := ⟨_, rfl⟩
  rw [← hlook] at hfound
  obtain ⟨ran, hran⟩ : ∃ ran, hold w (past ++ first ++ [look])
      (running chat.channel body ⟨Text.words rest, .str chat.caller⟩).outcome = ran := ⟨_, rfl⟩
  have heq := hcourse _ _ _ _ hfound (hold_settle rfl (hold_map Value.ofText? hran))
  have hacts : ∀ t ∈ ran.1, t.query.IsIdle := by
    have hruns := (hold_eq_iff.mp (hran : _ = (ran.1, ran.2))).1
    exact hruns.asks (asks_interpret (fun _ _ => trivial) _ _)
  have hlooks : look.query.IsReading chat.channel (some ⟨trigger, Text.words rest, rest⟩) := by
    rw [hlook]
    exact .inr ⟨_, rfl, rfl⟩
  refine ⟨first ++ [look], ?_, ?_, ?_⟩
  · exact List.forall_mem_append.mpr ⟨hreads _, List.forall_mem_singleton.mpr hlooks⟩
  · rw [heq, ranCourse, ← List.append_assoc past, hran, List.append_assoc first]
  · rw [heq, Shelf.of_append_idle]
    simp only [List.forall_mem_append]
    exact ⟨fun t ht => (hreads none t ht).isIdle, List.forall_mem_singleton.mpr hlooks.isIdle, hacts, told_idle _ _⟩

/-- A trigger that calls nothing is passed over. -/
theorem Chat.Calls.passed (h : chat.Calls w gate past trigger rest) (hw : KeepsShelf w)
    (hfree : (Shelf.of past).IsFree trigger chat.channel) :
    (chat.course w gate past).2 = .ok { outcome := .unknown } ∧ sent (chat.course w gate past).1 = [] ∧
      Shelf.of (past ++ (chat.course w gate past).1) = Shelf.of past := by
  obtain ⟨hbuiltin, hheld⟩ := hfree
  obtain ⟨first, hreads, hcourse⟩ := h.course_settle
  have hshelf : Shelf.of (past ++ first) = Shelf.of past := Shelf.of_append_reads (hreads none)
  have hfound : hold w (past ++ first) (resolve trigger chat.channel).outcome =
      ([⟨.store (.command trigger chat.channel), .ok none⟩], .ok none) := by
    rw [hold_resolve_shelf hw hbuiltin, hshelf, hheld]
  rw [hcourse _ _ _ _ hfound rfl]
  refine ⟨rfl, ?_, ?_⟩
  · rw [sent_append, sent_eq_nil fun t ht => (hreads none t ht).isQuiet]
    rfl
  · rw [List.append_nil, ← List.append_assoc, Shelf.of_append_idle (by simp [Query.IsIdle]), hshelf]

/-! ## Lines one after the other -/

theorem heardAll_snoc (w : World surroundings) (gate : Gate) (before : List Chat) (chat : Chat) :
    heardAll w gate (before ++ [chat]) = heardAll w gate before ++ (chat.course w gate (heardAll w gate before)).1 := by
  rw [heardAll, List.foldl_append]
  rfl

theorem course_orderly (chat : Chat) (w : World surroundings) (gate : Gate) (past : List (Turn surroundings)) :
    ∀ t ∈ (chat.course w gate past).1, t.query.IsOrderly chat.channel :=
  (runs_hold w past _).asks (asks_route ..)

/-- What is there is tidy after any lines. -/
theorem tidy_heardAll (w : World surroundings) (gate : Gate) (before : List Chat) :
    (Shelf.of (heardAll w gate before)).IsTidy := by
  have hall : ∀ past, (Shelf.of past).IsTidy →
      (Shelf.of (before.foldl (fun past chat => past ++ (chat.course w gate past).1) past)).IsTidy := by
    induction before with
    | nil => exact fun _ h => h
    | cons chat rest ih =>
      exact fun past h => ih _ ((Shelf.of_append_orderly (course_orderly chat w gate past)).2 h)
  exact hall [] Shelf.isTidy_empty

/-- What a line that calls a trigger does to the commands, from one shelf to the next, and how it is answered. -/
structure Chat.Manages (chat : Chat) (w : World surroundings) (past : List (Turn surroundings))
    (course : List (Turn surroundings) × Except Fault Result) (shelf next : Shelf) (trigger rest : String) : Prop where
  /-- What follows the new trigger is stored, trimmed as it is, if the trigger is free. -/
  added : trigger = "addcmd" → ∀ t body, Text.Opens rest t body → body ≠ "" → Text.trim body = body ∧
    if shelf.IsFree t chat.channel then
      next = shelf.put t chat.channel (some (storedCommand t chat.channel body)) ∧
        chat.IsAnswered course (.str ("successfully added command \"" ++ t ++ "\""))
    else next = shelf ∧ chat.IsAnswered course (.str ("command \"" ++ t ++ "\" already exists"))
  shown : trigger = "showcmd" → ∀ t more, Text.Opens rest t more →
    next = shelf ∧ chat.IsAnswered course (shownText shelf t chat.channel)
  removed : trigger = "delcmd" → ∀ t more, Text.Opens rest t more → next = shelf.put t chat.channel none ∧
    chat.IsAnswered course (.str (removedText shelf t chat.channel))
  listed : trigger = "commands" ∨ trigger = "help" → next = shelf ∧
    ∃ names : List String, names.Pairwise (· ≤ ·) ∧ names.Nodup ∧ (∀ t, t ∈ names ↔ (shelf t chat.channel).isSome) ∧
      chat.IsAnswered course (.str (listText names))
  /-- A stored command runs its body with the words behind the trigger. -/
  ran : ∀ body, shelf trigger chat.channel = some (storedCommand trigger chat.channel body) → next = shelf ∧
    ∃ reads, (∀ t ∈ reads, t.query.IsReading chat.channel (some ⟨trigger, Text.words rest, rest⟩)) ∧
      course = ranCourse w past reads chat (storedCommand trigger chat.channel body) body (Text.words rest)
  passed : shelf.IsFree trigger chat.channel →
    next = shelf ∧ course.2 = .ok { outcome := .unknown } ∧ sent course.1 = []

theorem Chat.Calls.manages (h : chat.Calls w gate past trigger rest) (hw : KeepsShelf w)
    (htidy : (Shelf.of past).IsTidy) :
    chat.Manages w past (chat.course w gate past) (Shelf.of past) (Shelf.of (past ++ (chat.course w gate past).1)) trigger
      rest where
  added := by
    rintro rfl t body hopens hbody
    obtain ⟨sigil, -, hspells⟩ := h.spelled
    refine ⟨hopens.trim_rest (Text.trimEnd_of_trim hspells.trim_rest), ?_⟩
    split
    · rename_i hfree
      obtain ⟨_, ⟨hnext, rfl⟩, hanswered⟩ := h.answered rfl (.inl rfl)
        fun now hnow => hnow ▸ addCommand_free (l := ⟨"addcmd", Text.words rest, rest⟩) hw hopens hbody (hnow ▸ hfree)
      exact ⟨hnext, hanswered⟩
    · rename_i htaken
      obtain ⟨_, ⟨hnext, rfl⟩, hanswered⟩ := h.answered rfl (.inl rfl)
        fun now hnow => hnow ▸ addCommand_taken (l := ⟨"addcmd", Text.words rest, rest⟩) hw hopens hbody (hnow ▸ htaken)
      exact ⟨hnext, hanswered⟩
  shown := by
    rintro rfl t more hopens
    obtain ⟨_, ⟨hnext, rfl⟩, hanswered⟩ := h.answered rfl (.inr rfl)
      fun now hnow => hnow ▸ showCommand_answers (l := ⟨"showcmd", Text.words rest, rest⟩) hw (hnow ▸ htidy) chat.named
        hopens.words_eq
    exact ⟨hnext, hanswered⟩
  removed := by
    rintro rfl t more hopens
    obtain ⟨_, ⟨hnext, rfl⟩, hanswered⟩ := h.answered rfl (.inl rfl)
      fun now hnow => hnow ▸ deleteCommand_answers (l := ⟨"delcmd", Text.words rest, rest⟩) hw hopens.words_eq
    exact ⟨hnext, hanswered⟩
  listed := by
    intro hlists
    have hbuiltin : ∃ t, Command.builtin? trigger = some ⟨t, "", .everyone, .str "", .listCommands⟩ := by
      rcases hlists with rfl | rfl <;> exact ⟨_, rfl⟩
    obtain ⟨t, hbuiltin⟩ := hbuiltin
    obtain ⟨_, ⟨hnext, names, hsorted, hnodup, hmem, rfl⟩, hanswered⟩ := h.answered hbuiltin (.inr rfl)
      fun now hnow => hnow ▸ listCommands_answers hw
    exact ⟨hnext, names, hsorted, hnodup, hmem, hanswered⟩
  ran body hheld := by
    obtain ⟨_, -, -, hbuiltin, -⟩ := htidy _ _ _ hheld
    obtain ⟨reads, hreads, hcourse, hshelf⟩ := h.ran hw hbuiltin hheld
    exact ⟨hshelf, reads, hreads, hcourse⟩
  passed hfree := by
    obtain ⟨hresult, hsent, hshelf⟩ := h.passed hw hfree
    exact ⟨hshelf, hresult, hsent⟩

/-- **Lines of chat manage commands as entries of a map.** Over a store that keeps a shelf, after any lines in
any channels, a further line changes nothing in other channels; and if a moderator calls a trigger with it, it
does to the shelf, and is answered by, what the trigger says of the shelf as it is. -/
theorem commands_are_kept (w : World surroundings) (hw : KeepsShelf w) (gate : Gate) (before : List Chat) (chat : Chat) :
    let past := heardAll w gate before
    let shelf := Shelf.of past
    let next := Shelf.of (heardAll w gate (before ++ [chat]))
    shelf.IsTidy ∧ (∀ t ch, ch ≠ chat.channel → next t ch = shelf t ch) ∧
      ∀ trigger rest, chat.Calls w gate past trigger rest →
        chat.Manages w past (chat.course w gate past) shelf next trigger rest := by
  intro past shelf next
  have hnext : next = Shelf.of (past ++ (chat.course w gate past).1) :=
    congrArg Shelf.of (heardAll_snoc w gate before chat)
  have htidy : shelf.IsTidy := tidy_heardAll w gate before
  refine ⟨htidy, fun t ch hne => ?_, fun trigger rest hcalls => ?_⟩
  · rw [hnext]
    exact (Shelf.of_append_orderly (course_orderly chat w gate past)).1 t ch hne
  · rw [hnext]
    exact hcalls.manages hw htidy

/-! ## A store that is a shelf -/

/-- The trigger under which a turn was to add something. -/
def addedTrigger? : Turn surroundings → Option String
  | ⟨.store (.addCommand (.str trigger) ..), _⟩ => some trigger
  | _ => none

/-- What is put somewhere is there, or something was there before. -/
theorem Shelf.put_isSome {s : Shelf} {t t' ch ch' : String} {c : Option Command} (h : (s.put t ch c t' ch').isSome) :
    (t' = t ∧ c.isSome) ∨ (s t' ch').isSome := by
  rw [put] at h
  split at h
  · rename_i hkey
    exact .inl ⟨hkey.1, h⟩
  · exact .inr h

theorem Shelf.after_isSome {s : Shelf} {t : Turn surroundings} {ch : String} (h : (s.after t trigger ch).isSome) :
    (s trigger ch).isSome ∨ addedTrigger? t = some trigger := by
  unfold Shelf.after at h
  cases t with | mk q answer =>
  cases q with
  | store q =>
    cases q with
    | addCommand new body channel permission =>
      cases new with
      | str t =>
        cases answer with
        | ok v =>
          cases hlevel : Permission.ofValue permission with
          | ok level =>
            simp only [hlevel] at h
            exact (put_isSome h).symm.imp_right fun hput => congrArg some hput.1.symm
          | error e =>
            simp only [hlevel] at h
            exact .inl h
        | error f => exact .inl h
      | _ => exact .inl h
    | deleteCommand t channel =>
      cases answer with
      | ok v => exact (put_isSome h).elim (fun hput => nomatch hput.2) .inl
      | error f => exact .inl h
    | _ => exact .inl h
  | _ => exact .inl h

/-- What is there after turns was there before, or was added. -/
theorem Shelf.foldl_isSome {s : Shelf} {turns : List (Turn surroundings)} {ch : String}
    (h : (turns.foldl after s trigger ch).isSome) : (s trigger ch).isSome ∨ trigger ∈ turns.filterMap addedTrigger? := by
  induction turns generalizing s with
  | nil => exact .inl h
  | cons t rest ih =>
    rw [← List.singleton_append, List.filterMap_append, List.mem_append]
    rcases ih h with hstep | hrest
    · exact (after_isSome hstep).imp_right fun hnew =>
        .inl (List.mem_filterMap.mpr ⟨t, List.mem_singleton_self t, hnew⟩)
    · exact .inr (.inr hrest)

/-- What a store with these commands, all under these triggers, answers. -/
def Shelf.answer (s : Shelf) (triggers : List String) : (q : StoreQuery) → storeAnswer q
  | .addCommand (.str t) _ ch _ => if (s t ch).isSome then .error (.store ⟨409, "there already", none⟩) else .ok .null
  | .deleteCommand t ch => if (s t ch).isSome then .ok .null else .error (.store ⟨404, "not there", none⟩)
  | .command t ch => .ok (s t ch)
  | .commands ch => .ok (.list ((triggers.dedup.filter fun t => (s t ch).isSome).map .str))
  | _ => .error (.store ⟨503, "down", none⟩)

/-- A world whose store is a shelf. -/
def shelving : World surroundings
  | past, .store q => (Shelf.of past).answer (past.filterMap addedTrigger?) q
  | _, .act .. => .ok .null
  | _, .join _ | _, .part _ => .ok ()
  | _, .sigil _ => some (.str "!")
  | _, .enqueue _ | _, .keepSigil .. | _, .dropSigil _ => ()

theorem shelving_keepsShelf : KeepsShelf shelving where
  added past t body ch := by
    intro answer
    have hanswer : answer =
        if (Shelf.of past t ch).isSome then .error (.store ⟨409, "there already", none⟩) else .ok .null := rfl
    rw [hanswer]
    split
    · exact ⟨_, rfl, rfl⟩
    · exact ⟨_, rfl⟩
  deleted past t ch := by
    intro answer
    have hanswer : answer =
        if (Shelf.of past t ch).isSome then .ok .null else .error (.store ⟨404, "not there", none⟩) := rfl
    rw [hanswer]
    split
    · exact ⟨_, rfl⟩
    · exact ⟨_, rfl, rfl⟩
  shown past t ch := rfl
  listed past ch := by
    refine ⟨_, (List.nodup_dedup _).filter _, fun t => ?_, rfl⟩
    rw [List.mem_filter, List.mem_dedup]
    exact ⟨And.right, fun h => ⟨(Shelf.foldl_isSome h).resolve_left nofun, h⟩⟩

/-- A line of a moderator. -/
def moderated (line : String) : Chat := ⟨line, "chan", by decide, "mod", ["moderator"], none⟩

/-- A line that can be read is a call, where the sigil is an exclamation mark. -/
theorem moderated_calls {line : String} (h : Line.parse? "!" line = some l) :
    (moderated line).Calls shelving (.ofConfigured none) past l.trigger l.rest where
  spelled := ⟨"!", rfl, (Line.parse?_eq_some_iff.mp h).1⟩
  moderator := show (Gate.ofConfigured none).allows .moderators ["moderator"] "mod" = true by decide

/-- What a moderator adds to a channel is shown there. -/
theorem commands_are_kept_hello :
    let gate := Gate.ofConfigured none
    let before := [moderated " !addcmd hi  Hello   there "]
    let chat := moderated "!showcmd hi"
    KeepsShelf shelving ∧ chat.Calls shelving gate (heardAll shelving gate before) "showcmd" "hi" ∧
      chat.IsAnswered (chat.course shelving gate (heardAll shelving gate before)) (.str "Hello   there") := by
  intro gate before chat
  have hadd : (moderated " !addcmd hi  Hello   there ").Calls shelving gate (heardAll shelving gate []) "addcmd"
      "hi  Hello   there" :=
    moderated_calls (l := ⟨"addcmd", ["hi", "Hello", "there"], "hi  Hello   there"⟩) (by decide)
  have hlook : chat.Calls shelving gate (heardAll shelving gate before) "showcmd" "hi" :=
    moderated_calls (l := ⟨"showcmd", ["hi"], "hi"⟩) (by decide)
  have hnew : Text.Opens "hi  Hello   there" "hi" "Hello   there" := Text.firstWord?_eq_some_iff.mp (by decide)
  have hname : Text.Opens "hi" "hi" "" := Text.firstWord?_eq_some_iff.mp (by decide)
  have hbuiltin : Command.builtin? "hi" = none := by decide
  obtain ⟨-, -, hadds⟩ := commands_are_kept shelving shelving_keepsShelf gate [] (moderated " !addcmd hi  Hello   there ")
  have hadded := ((hadds _ _ hadd).added rfl _ _ hnew (by decide)).2
  rw [if_pos (show Shelf.IsFree _ "hi" _ from ⟨hbuiltin, rfl⟩)] at hadded
  have hheld : Shelf.of (heardAll shelving gate before) "hi" chat.channel =
      some (storedCommand "hi" "chan" "Hello   there") := (congrFun (congrFun hadded.1 "hi") "chan").trans (Shelf.put_self ..)
  obtain ⟨-, -, hshows⟩ := commands_are_kept shelving shelving_keepsShelf gate before chat
  have hshown := ((hshows _ _ hlook).shown rfl _ _ hname).2
  rw [shownText, hbuiltin, hheld] at hshown
  exact ⟨shelving_keepsShelf, hlook, hshown⟩

end ChannelBot.Router
