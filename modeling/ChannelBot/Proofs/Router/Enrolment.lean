/-
Channels are stored before they are joined, and removed before they are left. A line works on a desk: the
backend, which answers questions by what it holds, and the sigils that the bot remembers. The line and the
backend put a name into normal form each in its own way; for a word both come to the same
(`channelName_eq`), and that is a name under which the backend finds what it stores
(`Reachable.normal_name`). So the platform is asked to join or leave a channel only when the store says the
same of it, under the same name (`membership_is_stored_first`).
-/
import ChannelBot.Proofs.Bot.Channels
import ChannelBot.Proofs.Line.Spelling
import ChannelBot.Proofs.Server.Naming
import ChannelBot.Proofs.Store.Renewal

namespace ChannelBot

open Text (beginsBlank)

/-! ## Names -/

namespace Router

variable {arg : String}

/-- Around a word there is nothing to trim. -/
theorem channelName_eq (h : Text.IsWord arg) : channelName arg = ChannelName.normalize arg := by
  rw [channelName, ChannelName.normalize, h.trim_eq]

theorem beginsBlank_channelName (h : Text.IsWord arg) : beginsBlank (channelName arg) = false := by
  rw [channelName_eq h, (ChannelName.normalize_ends arg).1, beginsBlank]
  have hsub : (ChannelName.bare arg).toList.Sublist arg.toList :=
    (ChannelName.bare_sublist arg).trans (List.dropWhile_suffix _).sublist
  cases hbare : (ChannelName.bare arg).toList with
  | nil => rfl
  | cons c rest =>
    have hmem : c ∈ arg.toList := hsub.subset (hbare ▸ List.mem_cons_self)
    exact h.inked c hmem

end Router

/-! ## The backend -/

namespace Server

variable {b b' : Backend} {name : String}

open ChannelName (normalize)

/-- A stored name that does not begin with white space is its own normal form. -/
theorem Backend.Reachable.normal_name (h : b.Reachable) {c : ChannelRow} (hc : c ∈ b.tables.channels)
    (hink : beginsBlank c.name = false) : normalize c.name = c.name := by
  obtain ⟨given, -, hname⟩ := h.named c hc
  rw [hname] at hink ⊢
  exact (ChannelName.normalize_normalize_iff given).mpr hink

/-- Whether a channel was there or not, after its registration there is one under the normal name. -/
theorem Tables.Sound.mem_addChannel {t : Tables} (h : t.Sound) (p : NewChannel) :
    ∃ c ∈ (t.addChannel p).1.channels, c.name = normalize p.name := by
  rw [h.addChannel_eq]
  cases hrow : t.row? (normalize p.name) with
  | some c => exact ⟨c, row?_mem hrow⟩
  | none => exact ⟨_, List.mem_append_right _ (List.mem_singleton_self _), rfl⟩

/-- Whether a channel was there or not, after its removal there is none of that name. -/
theorem Backend.Reachable.not_mem_removeChannel (h : b.Reachable) (hink : beginsBlank name = false) :
    ∀ c ∈ (b.tables.removeChannel name).1.channels, c.name ≠ name := by
  have hfound : ∀ c ∈ b.tables.channels, c.name = name → b.tables.row? (normalize name) = some c := by
    rintro c hc rfl
    rw [h.normal_name hc hink]
    exact h.sound.row?_eq_some_iff.mpr ⟨hc, rfl⟩
  intro c hc hname
  rw [Tables.removeChannel, h.sound.withChannel_eq] at hc
  cases hrow : b.tables.row? (normalize name) with
  | none =>
    rw [hrow] at hc
    rw [hfound c hc hname] at hrow
    cases hrow
  | some d =>
    rw [hrow] at hc
    obtain ⟨hc, hid⟩ := List.mem_filter.mp hc
    rw [hfound c hc hname] at hrow
    cases hrow
    simp at hid

/-- What a registration by name alone says. -/
theorem Content.check_newChannel_iff {p : NewChannel} :
    (Content.value (.obj [("channel_name", .str name)])).check NewChannel.read = .valid p ↔
      name ≠ "" ∧ p = ⟨name, defaultSigil⟩ := by
  by_cases hname : name = ""
  · subst hname
    simp [Content.check, NewChannel.read, Checked.required, Checked.optional, Value.lookup?, Checked.filledText_str,
      Checked.under, Checked.map, Checked.also, Checked.broken]
  · rw [Content.check_newChannel hname]
    simp [hname, eq_comm]

/-- A report of broken rules does not say that a thing is there already. -/
theorem Response.ofViolations_not_taken (vs : List Violation) : (ofViolations vs).http.status ≠ 409 := by
  rw [http_status, ofViolations]
  split
  · exact (by decide : (422 : Int) ≠ 409)
  · exact (by decide : (500 : Int) ≠ 409)

end Server

/-! ## A desk -/

namespace Router

open ChannelBot.Bot (assign forget)
open Dialogue
open Server (Backend)

/-- A fault by which a change of the channels finds that it holds already. -/
def isMet : StoreQuery → Fault → Bool
  | .addChannel .. => isTaken
  | .removeChannel _ => isMissing
  | _ => fun _ => false

/-- What the backend does about a question, at the endpoint of the question and for the very names in it. -/
def serving (b : Backend) (now : Moment) (q : StoreQuery) : Backend × Server.Reply :=
  b.serve now [] q.sent (q.sent.content q.endpoint) q.endpoint

/-- The store answers a question: as the backend does, or with another fault, whatever became of the question. -/
inductive Answered (b : Backend) (q : StoreQuery) : Backend → storeAnswer q → Prop
  | served (now : Moment) {b' : Backend} {reply : Server.Reply} (h : serving b now q = (b', reply)) :
    Answered b q b' (q.decode (.answered reply.response.http))
  | failed {f : Fault} (b' : Backend) (h : isMet q f = false) : Answered b q b' (.error f)

/-- What a line of chat works on: the backend, and the sigils that the bot remembers. -/
structure Desk where
  backend : Backend
  sigils : List (String × Value) := []

namespace Desk

/-- A desk that a single line works on. -/
def sharing : Shared surroundings Desk where
  serve d q d' answer := match q, answer with
    | .store q, answer => d'.sigils = d.sigils ∧ Answered d.backend q d'.backend answer
    | .sigil channel, known => known = d.sigils.lookup channel ∧ d' = d
    | .keepSigil channel sigil, _ => d' = { d with sigils := assign channel sigil d.sigils }
    | .dropSigil channel, _ => d' = { d with sigils := forget channel d.sigils }
    | _, _ => d' = d
  drift d d' := d' = d

/-- A channel of exactly this name is stored. -/
def Holds (d : Desk) (login : String) : Prop := ∃ c ∈ d.backend.tables.channels, c.name = login

end Desk

section Store

variable {b b' : Backend} {name : String}

/-- The question to add a channel. -/
def adding (name : String) : StoreQuery := .addChannel (.str name) .null

theorem serving_adding (b : Backend) (now : Moment) (name : String) : serving b now (adding name) =
    b.checked ((Server.Content.value (.obj [("channel_name", .str name)])).check Server.NewChannel.read) fun p =>
      Backend.replying (b.onTables (·.addChannel p)) := by
  have hplain : (Value.obj [("channel_name", .str name)]).IsPlain := by simp [Value.IsPlain, Value.FieldsPlain]
  rw [serving, StoreQuery.content_payload (q := adding name) rfl hplain rfl]
  rfl

theorem serving_removing (b : Backend) (now : Moment) (name : String) :
    serving b now (.removeChannel name) = Backend.replying (b.onTables (·.removeChannel name)) := rfl

/-- A channel that was added, or was there already, is stored. -/
theorem added_of_met (h : b.Reachable) (hname : ChannelName.normalize name = name)
    {answer : storeAnswer (adding name)} (hanswer : Answered b (adding name) b' answer)
    (hmet : ∀ f, answer = .error f → isTaken f = true) : ∃ c ∈ b'.tables.channels, c.name = name := by
  cases hanswer with
  | failed b' hf => exact absurd (hmet _ rfl) (Bool.eq_false_iff.mp hf)
  | served now hserve =>
    rw [serving_adding] at hserve
    cases hcheck : (Server.Content.value (.obj [("channel_name", .str name)])).check Server.NewChannel.read with
    | valid p =>
      obtain ⟨-, rfl⟩ := Server.Content.check_newChannel_iff.mp hcheck
      rw [hcheck] at hserve
      obtain ⟨rfl, -⟩ := Prod.mk.inj hserve
      obtain ⟨c, hc, hcname⟩ := h.sound.mem_addChannel ⟨name, defaultSigil⟩
      exact ⟨c, hc, hcname.trans hname⟩
    | invalid vs =>
      -- The report of what is broken is a failure of another kind.
      rw [hcheck] at hserve
      obtain ⟨-, rfl⟩ := Prod.mk.inj hserve
      have hrefuses : 400 ≤ (Server.Response.ofViolations vs).http.status := by
        rw [Server.Response.http_status]
        exact Int.ofNat_le.mpr (Server.Response.ofViolations_refuses vs)
      have htaken := hmet _ (StoreQuery.content_refused _ hrefuses)
      exact absurd (by simpa [isTaken, StoreFault.isTaken] using htaken) (Server.Response.ofViolations_not_taken vs)

/-- A channel that was removed, or was not there, is not stored. -/
theorem removed_of_met (h : b.Reachable) (hink : beginsBlank name = false)
    {answer : storeAnswer (.removeChannel name)} (hanswer : Answered b (.removeChannel name) b' answer)
    (hmet : ∀ f, answer = .error f → isMissing f = true) : ∀ c ∈ b'.tables.channels, c.name ≠ name := by
  cases hanswer with
  | failed b' hf => exact absurd (hmet _ rfl) (Bool.eq_false_iff.mp hf)
  | served now hserve =>
    rw [serving_removing] at hserve
    obtain ⟨rfl, -⟩ := Prod.mk.inj hserve
    exact h.not_mem_removeChannel hink

end Store

/-! ## Commands at a desk -/

section Plays

variable {d d' : Desk} {turns : List (Turn surroundings)} {y : Dialogue surroundings (Except Fault Value)}

/-- How a change that was tried in the store came out. -/
def settled {α : Type} (met : Fault → Bool) : Except Fault α → Routing Bool
  | .ok _ => pure true
  | .error f => if met f then pure false else .fail f

theorem outcome_tried_bind (met : Fault → Bool) (q : StoreQuery) (f : Bool → Routing Value) :
    (tried met (askStore q) >>= f).outcome = .ask (.store q) fun answer => (settled met answer >>= f).outcome :=
  congrArg (Dialogue.ask (I := surroundings) (.store q)) (funext fun answer => by cases answer <;> rfl)

/-- The change was made or holds already, or else there is a failure. -/
theorem settled_cases {α : Type} (met : Fault → Bool) (answer : Except Fault α) :
    (∃ f, answer = .error f ∧ met f = false ∧ settled met answer = .fail f) ∨
      (∀ f, answer = .error f → met f = true) ∧ ∃ made, settled met answer = pure made := by
  cases answer with
  | ok a => exact .inr ⟨nofun, true, rfl⟩
  | error f =>
    cases hmet : met f with
    | true => exact .inr ⟨fun f' hf => Except.error.inj hf ▸ hmet, false, if_pos hmet⟩
    | false => exact .inl ⟨f, rfl, hmet, if_neg (Bool.eq_false_iff.mp hmet)⟩

/-- A call of the platform for a channel agrees with the store: the channel is stored if it is to be joined, and not
if it is to be left, and then its sigil is forgotten. -/
def Query.Agrees (login : String) (d : Desk) : Query → Prop
  | .join named => named = login ∧ d.Holds login
  | .part named => named = login ∧ ¬ d.Holds login ∧ d.sigils.lookup login = none
  | _ => True

/-- So a command for a channel goes on at a desk: it calls the platform in agreement with the store, and ends when the
store fails in any other way. -/
structure StoredFirst (login : String) (d : Desk) (turns : List (Turn surroundings)) (d' : Desk)
    (y : Dialogue surroundings (Except Fault Value)) : Prop where
  agrees : ∀ q next, y = .ask q next → q.Agrees login d'
  fails : ∀ q f, ⟨.store q, .error f⟩ ∈ turns → isMet q f = false →
    turns = [⟨.store q, .error f⟩] ∧ y = .done (.error f) ∧ d'.sigils = d.sigils

theorem StoredFirst.done {login : String} {result : Except Fault Value} : StoredFirst login d [] d' (.done result) :=
  ⟨nofun, fun _ _ h => absurd h List.not_mem_nil⟩

/-- Of what follows a change in the store only the calls matter. -/
theorem StoredFirst.tried {login : String} {q : StoreQuery} {f : Bool → Routing Value}
    (h : Plays Desk.sharing d (tried (isMet q) (askStore q) >>= f).outcome turns d' y)
    (hrest : ∀ d₁ answer made rest, Answered d.backend q d₁.backend answer →
      (∀ e, answer = .error e → isMet q e = true) → Plays Desk.sharing d₁ (f made).outcome rest d' y →
      (∀ q next, y = .ask q next → q.Agrees login d') ∧ ∀ t ∈ rest, ∀ q, t.query ≠ .store q) :
    StoredFirst login d turns d' y := by
  rw [outcome_tried_bind] at h
  rcases plays_ask_iff.mp h with ⟨rfl, -, rfl⟩ | ⟨d₁, answer, rest, rfl, ⟨hsigils, hanswered⟩, hplays⟩
  · refine ⟨fun q next hnext => ?_, fun _ _ h => absurd h List.not_mem_nil⟩
    cases hnext
    trivial
  · rcases settled_cases (isMet q) answer with ⟨e, rfl, -, hfails⟩ | ⟨hmet, made, hmade⟩
    · rw [hfails] at hplays
      obtain ⟨rfl, rfl, rfl⟩ := plays_done_iff.mp hplays
      refine ⟨nofun, fun q' f' hmem _ => ?_⟩
      cases List.mem_singleton.mp hmem
      exact ⟨rfl, rfl, hsigils⟩
    · rw [hmade] at hplays
      obtain ⟨hagrees, hquiet⟩ := hrest d₁ answer made rest hanswered hmet hplays
      refine ⟨hagrees, fun q' f' hmem hother => ?_⟩
      rcases List.mem_cons.mp hmem with hturn | hmem
      · cases hturn
        rw [hmet f' rfl] at hother
        cases hother
      · exact absurd rfl (hquiet _ hmem q')

/-- A call that ends a command needs to agree with the store when it is made. -/
theorem agrees_last {login : String} {q : Query} {f : Answer q → Except Fault Value} (hq : ∀ s, q ≠ .store s)
    (hagrees : q.Agrees login d) (h : Plays Desk.sharing d (.ask q fun answer => .done (f answer)) turns d' y) :
    (∀ q next, y = .ask q next → q.Agrees login d') ∧ ∀ t ∈ turns, ∀ s, t.query ≠ .store s := by
  rcases plays_ask_iff.mp h with ⟨rfl, rfl, rfl⟩ | ⟨d₁, answer, rest, rfl, -, hrest⟩
  · refine ⟨fun q' next hnext => ?_, List.forall_mem_nil _⟩
    cases hnext
    exact hagrees
  · obtain ⟨rfl, -, rfl⟩ := plays_done_iff.mp hrest
    exact ⟨nofun, fun t ht => List.mem_singleton.mp ht ▸ hq⟩

end Plays

/-- The channel that a line names, or else the current one. -/
def named (l : Line) (channel : String) : String :=
  match l.args with
  | arg :: _ => channelName arg
  | [] => channel

theorem part_eq (l : Line) (channel : String) : part l channel = (do
    let _ ← tried isMissing (askStore (.removeChannel (named l channel)))
    Attempt.sure (Dialogue.query (I := surroundings) (.dropSigil (named l channel)))
    Attempt.of (Dialogue.query (I := surroundings) (.part (named l channel)))
    return .null) := rfl

theorem execute_join {c : Command} (h : c.kind = .join) (r : Rules) (l : Line) (channel : String) (caller : Value) :
    execute r c l channel caller = join r l := by
  rw [execute, h]

theorem execute_part {c : Command} (h : c.kind = .part) (r : Rules) (l : Line) (channel : String) (caller : Value) :
    execute r c l channel caller = part l channel := by
  rw [execute, h]

section Commands

variable {d d' : Desk} {turns : List (Turn surroundings)} {y : Dialogue surroundings (Except Fault Value)} {l : Line}
  {channel : String}

/-- A message is the end of a command. -/
theorem plays_text {r : Rules} {m : Message} {args : List (String × TemplateArg)}
    (h : Plays Desk.sharing d (r.text m args).outcome turns d' y) : turns = [] ∧ ∃ result, y = .done result := by
  rw [Rules.text] at h
  cases htext : (r.messages.text m args).map Value.str <;> rw [htext] at h
  · obtain ⟨rfl, -, rfl⟩ := plays_done_iff.mp h
    exact ⟨rfl, _, rfl⟩
  · obtain ⟨rfl, -, rfl⟩ := plays_done_iff.mp h
    exact ⟨rfl, _, rfl⟩

theorem outcome_join (login : String) :
    (do Attempt.of (Dialogue.query (I := surroundings) (.join login)); return .null : Routing Value).outcome =
      .ask (.join login) fun answer => .done (answer.map fun _ => .null) :=
  congrArg (Dialogue.ask (I := surroundings) (.join login)) (funext fun answer => by cases answer <;> rfl)

theorem outcome_part (login : String) :
    (do
      Attempt.sure (Dialogue.query (I := surroundings) (.dropSigil login))
      Attempt.of (Dialogue.query (I := surroundings) (.part login))
      return .null : Routing Value).outcome =
        .ask (.dropSigil login) fun _ => .ask (.part login) fun answer => .done (answer.map fun _ => .null) :=
  congrArg (Dialogue.ask (I := surroundings) (.dropSigil login)) (funext fun _ =>
    congrArg (Dialogue.ask (I := surroundings) (.part login)) (funext fun answer => by cases answer <;> rfl))

theorem storedFirst_join {r : Rules} (hreachable : d.backend.Reachable) (hwords : ∀ arg ∈ l.args, Text.IsWord arg)
    (h : Plays Desk.sharing d (join r l).outcome turns d' y) : StoredFirst (named l channel) d turns d' y := by
  rw [join] at h
  cases hargs : l.args with
  | nil =>
    rw [hargs] at h
    obtain ⟨rfl, result, rfl⟩ := plays_text h
    exact .done
  | cons arg more =>
    rw [hargs] at h
    rw [named, hargs]
    have hword : Text.IsWord arg := hwords arg (hargs ▸ List.mem_cons_self)
    have hnormal : ChannelName.normalize (channelName arg) = channelName arg := by
      have hink := beginsBlank_channelName hword
      rw [channelName_eq hword] at hink ⊢
      exact (ChannelName.normalize_normalize_iff arg).mpr hink
    refine StoredFirst.tried (q := adding (channelName arg)) h fun d₁ answer made rest hanswered hmet hrest => ?_
    have hholds : d₁.Holds (channelName arg) := added_of_met hreachable hnormal hanswered hmet
    rw [outcome_join] at hrest
    exact agrees_last (q := .join (channelName arg)) nofun ⟨rfl, hholds⟩ hrest

theorem storedFirst_part (hreachable : d.backend.Reachable) (hwords : ∀ arg ∈ l.args, Text.IsWord arg)
    (hchannel : beginsBlank channel = false) (h : Plays Desk.sharing d (part l channel).outcome turns d' y) :
    StoredFirst (named l channel) d turns d' y := by
  have hink : beginsBlank (named l channel) = false := by
    rw [named]
    split
    · rename_i arg more hargs
      exact beginsBlank_channelName (hwords arg (hargs ▸ List.mem_cons_self))
    · exact hchannel
  rw [part_eq] at h
  refine StoredFirst.tried (q := .removeChannel (named l channel)) h fun d₁ answer made rest hanswered hmet hrest => ?_
  have hgone : ¬ d₁.Holds (named l channel) := fun ⟨c, hc, hname⟩ =>
    removed_of_met hreachable hink hanswered hmet c hc hname
  rw [outcome_part] at hrest
  rcases plays_ask_iff.mp hrest with ⟨rfl, rfl, rfl⟩ | ⟨d₂, answer₂, rest₂, rfl, hdropped, hcall⟩
  · refine ⟨fun q next hnext => ?_, List.forall_mem_nil _⟩
    cases hnext
    trivial
  · obtain rfl : d₂ = { d₁ with sigils := forget (named l channel) d₁.sigils } := hdropped
    have hforgotten : (forget (named l channel) d₁.sigils).lookup (named l channel) = none :=
      Option.isNone_iff_eq_none.mp
        (ChannelBot.Bot.isNone_lookup_iff.mpr fun hmem => (ChannelBot.Bot.mem_keys_forget.mp hmem).2 rfl)
    have hpart : Query.Agrees (named l channel) { d₁ with sigils := forget (named l channel) d₁.sigils }
        (.part (named l channel)) := ⟨rfl, hgone, hforgotten⟩
    obtain ⟨hagrees, hquiet⟩ := agrees_last (q := .part (named l channel)) nofun hpart hcall
    exact ⟨hagrees, List.forall_mem_cons.mpr ⟨nofun, hquiet⟩⟩

/-- **Channels are stored before they are joined, and removed before they are left, under one name.** Whatever words a
line names, and whatever the backend holds: a command that joins or leaves a channel for the line calls the platform to
join it only when a channel of exactly that name is stored, and to leave it only when none is and its sigil is
forgotten. When the store fails in any other way than finding that the change holds already, that failure ends the
command, without a call and with the sigils as they were. -/
theorem membership_is_stored_first {r : Rules} {c : Command} {sigil caller : Value} {line : String}
    (hreachable : d.backend.Reachable) (hread : Line.read sigil line = .ok (some l))
    (hchannel : beginsBlank channel = false) (hkind : c.kind = .join ∨ c.kind = .part)
    (h : Plays Desk.sharing d (execute r c l channel caller).outcome turns d' y) :
    StoredFirst (named l channel) d turns d' y := by
  have hwords : ∀ arg ∈ l.args, Text.IsWord arg := by
    obtain ⟨s, -, hparse⟩ := Line.read_eq_some_iff.mp hread
    rw [(Line.parse?_eq_some_iff.mp hparse).2]
    exact fun arg => Text.isWord_of_mem_words
  rcases hkind with hkind | hkind
  · rw [execute_join hkind] at h
    exact storedFirst_join hreachable hwords h
  · rw [execute_part hkind] at h
    exact storedFirst_part hreachable hwords hchannel h

end Commands

/-! ## Commands that go on -/

section Goes

variable {b : Backend} {name arg : String} {d d₁ : Desk} {l : Line} {more : List String}

/-- The backend adds a channel, or finds it there. -/
theorem answered_adding (h : b.tables.Sound) (hname : name ≠ "") :
    ∃ b' answer, Answered b (adding name) b' answer ∧ ∀ e, answer = .error e → isTaken e = true := by
  have hserve : serving b ⟨0⟩ (adding name) = Backend.replying (b.onTables (·.addChannel ⟨name, defaultSigil⟩)) := by
    rw [serving_adding, Server.Content.check_newChannel hname]
    rfl
  refine ⟨_, _, .served ⟨0⟩ hserve, fun e he => ?_⟩
  change StoreQuery.content _ (.answered (b.tables.addChannel ⟨name, defaultSigil⟩).2.http) = .error e at he
  rw [h.addChannel_eq] at he
  cases hrow : b.tables.row? (ChannelName.normalize name) with
  | some c =>
    have hrefuses : 400 ≤ (Server.Response.taken "channel already exists").http.status := by decide
    rw [hrow] at he
    cases (StoreQuery.content_refused (adding name).request hrefuses).symm.trans he
    rfl
  | none =>
    have hplain : ∀ c : Server.ChannelRow, c.toValue.IsPlain := by
      simp [Server.ChannelRow.toValue, Value.IsPlain, Value.FieldsPlain]
    rw [hrow] at he
    cases (StoreQuery.content_ok (adding name).request (hplain _)).symm.trans he

/-- The backend removes a channel, or finds none. -/
theorem answered_removing (h : b.tables.Sound) (name : String) :
    ∃ b' answer, Answered b (.removeChannel name) b' answer ∧ ∀ e, answer = .error e → isMissing e = true := by
  refine ⟨_, _, .served ⟨0⟩ (serving_removing b ⟨0⟩ name), fun e he => ?_⟩
  change StoreQuery.content _ (.answered (b.tables.removeChannel name).2.http) = .error e at he
  rw [Server.Tables.removeChannel, h.withChannel_eq] at he
  cases hrow : b.tables.row? (ChannelName.normalize name) with
  | some c =>
    have hplain : (Value.obj [("success", .bool true)]).IsPlain := by simp [Value.IsPlain, Value.FieldsPlain]
    rw [hrow] at he
    cases (StoreQuery.content_ok (StoreQuery.removeChannel name).request hplain).symm.trans he
  | none =>
    have hrefuses : 400 ≤ (Server.Response.missing "channel not found").http.status := by decide
    rw [hrow] at he
    cases (StoreQuery.content_refused (StoreQuery.removeChannel name).request hrefuses).symm.trans he
    rfl

/-- What follows a change is done if the change was made or holds already. -/
theorem plays_tried_met {met : Fault → Bool} {q : StoreQuery} {f : Bool → Routing Value} {answer : storeAnswer q}
    (hserve : Desk.sharing.serve d (.store q) d₁ answer) (hmet : ∀ e, answer = .error e → met e = true) :
    ∃ made, ∀ rest d' y, Plays Desk.sharing d₁ (f made).outcome rest d' y →
      Plays Desk.sharing d (tried met (askStore q) >>= f).outcome (⟨.store q, answer⟩ :: rest) d' y := by
  rw [outcome_tried_bind]
  rcases settled_cases met answer with ⟨e, he, hother, -⟩ | ⟨-, made, hmade⟩
  · rw [hmet e he] at hother
    cases hother
  · refine ⟨made, fun rest d' y h => .ask hserve ?_⟩
    rw [hmade]
    exact h

/-- While the backend answers, every name that is not empty comes to be joined. -/
theorem plays_join {c : Command} (hkind : c.kind = .join) (hreachable : d.backend.Reachable)
    (hargs : l.args = arg :: more) (hname : channelName arg ≠ "") (r : Rules) (channel : String) (caller : Value) :
    ∃ turns d' next,
      Plays Desk.sharing d (execute r c l channel caller).outcome turns d' (.ask (.join (channelName arg)) next) := by
  obtain ⟨b', answer, hanswered, hmet⟩ := answered_adding hreachable.sound hname
  rw [execute_join hkind, join, hargs]
  have hserve : Desk.sharing.serve d (.store (adding (channelName arg))) { d with backend := b' } answer :=
    ⟨rfl, hanswered⟩
  obtain ⟨made, hplays⟩ := plays_tried_met (f := fun _ => do
    Attempt.of (Dialogue.query (I := surroundings) (.join (channelName arg)))
    return .null) hserve hmet
  simp only [outcome_join] at hplays
  exact ⟨_, _, _, hplays _ _ _ (.here ..)⟩

/-- While the backend answers, every name comes to be left. -/
theorem plays_part {c : Command} (hkind : c.kind = .part) (hreachable : d.backend.Reachable) (r : Rules) (l : Line)
    (channel : String) (caller : Value) : ∃ turns d' next,
      Plays Desk.sharing d (execute r c l channel caller).outcome turns d' (.ask (.part (named l channel)) next) := by
  obtain ⟨b', answer, hanswered, hmet⟩ := answered_removing hreachable.sound (named l channel)
  have hserve : Desk.sharing.serve d (.store (.removeChannel (named l channel))) { d with backend := b' } answer :=
    ⟨rfl, hanswered⟩
  obtain ⟨made, hplays⟩ := plays_tried_met (f := fun _ => do
    Attempt.sure (Dialogue.query (I := surroundings) (.dropSigil (named l channel)))
    Attempt.of (Dialogue.query (I := surroundings) (.part (named l channel)))
    return .null) hserve hmet
  rw [execute_part hkind, part_eq]
  simp only [outcome_part] at hplays
  exact ⟨_, _, _, hplays [⟨.dropSigil (named l channel), ()⟩] _ _ (.ask rfl (.here ..))⟩

end Goes

/-- A desk at which `İX` was registered, and its sigil asked for. -/
def dotted : Desk := ⟨Server.registered "İX", [("i\u0307x", .str "?")]⟩

/-- A line that names `İX` behind number signs. -/
def dottedLine : Line := ⟨"join", ["##İX"], "##İX"⟩

/-- What was registered as `İX` is joined, and left, under the name that it is stored under. -/
theorem membership_is_stored_first_dotted :
    let r : Rules := ⟨.ofConfigured none, .defaults⟩
    let joins : Command := ⟨.str "join", "", .superUser, .str "", .join⟩
    let parts : Command := ⟨.str "part", "", .superUser, .str "", .part⟩
    Line.read (.str "!") "!join ##İX" = .ok (some dottedLine) ∧
      (∃ turns d' next, Plays Desk.sharing dotted (execute r joins dottedLine "chan" .null).outcome turns d'
        (.ask (.join "i\u0307x") next) ∧ d'.Holds "i\u0307x") ∧
      ∃ turns d' next, Plays Desk.sharing dotted (execute r parts dottedLine "chan" .null).outcome turns d'
        (.ask (.part "i\u0307x") next) ∧ ¬ d'.Holds "i\u0307x" ∧ d'.sigils.lookup "i\u0307x" = none := by
  intro r joins parts
  have hread : Line.read (.str "!") "!join ##İX" = .ok (some dottedLine) :=
    Line.read_eq_some_iff.mpr ⟨"!", rfl, by decide⟩
  have hname : channelName "##İX" = "i\u0307x" := by decide
  have hnamed : named dottedLine "chan" = "i\u0307x" := hname
  have hink : beginsBlank "chan" = false := by decide
  have hreachable : dotted.backend.Reachable := by
    simp only [dotted]
    exact Server.registered_reachable "İX"
  have hjoin := plays_join (c := joins) (l := dottedLine) rfl hreachable rfl (by rw [hname]; decide) r "chan" .null
  have hpart := plays_part (c := parts) rfl hreachable r dottedLine "chan" .null
  rw [hname] at hjoin
  rw [hnamed] at hpart
  obtain ⟨joining, d₁, next₁, hjoin⟩ := hjoin
  obtain ⟨parting, d₂, next₂, hpart⟩ := hpart
  have hjoins := membership_is_stored_first hreachable hread hink (.inl rfl) hjoin
  have hparts := membership_is_stored_first hreachable hread hink (.inr rfl) hpart
  rw [hnamed] at hjoins hparts
  exact ⟨hread, ⟨joining, d₁, next₁, hjoin, (hjoins.agrees _ _ rfl).2⟩, parting, d₂, next₂, hpart,
    (hparts.agrees _ _ rfl).2⟩

end Router

end ChannelBot
