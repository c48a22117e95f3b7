/-
From the sigil that the backend takes to the lines that it starts. The backend takes every sigil of one to
eight characters (`takesSigil_iff`), and tells the bot the one that it took last (`ask_sigil`). Under it a
line that is written with sigil, trigger and text is read back, unless the sigil begins with white space:
then no line at all is read as a call (`sigils_are_heard`). The check of the backend does not look at that
(`deaf_sigil_is_taken`).
-/
import ChannelBot.Proofs.Line.Spelling
import ChannelBot.Proofs.Router.Gate
import ChannelBot.Proofs.Store.Keys

namespace ChannelBot

/-! ## Sigils that are taken -/

namespace Server

/-- The body of some request, to set the sigil of a channel or to register a channel, is valid with this
sigil. -/
def TakesSigil (sigil : String) : Prop :=
  (∃ k : Content, k.check readSigil = .valid sigil) ∨
    ∃ (k : Content) (name : String), k.check NewChannel.read = .valid ⟨name, sigil⟩

/-- Exactly the sigils of one to eight characters are taken. -/
theorem takesSigil_iff {sigil : String} : TakesSigil sigil ↔ 1 ≤ sigil.length ∧ sigil.length ≤ 8 := by
  constructor
  · rintro (⟨k, hk⟩ | ⟨k, name, hk⟩)
    · obtain ⟨fields, -, hread⟩ := Content.check_eq_valid_iff.mp hk
      rw [readSigil, Checked.required, Checked.under_eq_valid_iff] at hread
      split at hread
      · exact (Checked.shortText_eq_valid_iff.mp hread).2
      · cases hread
    · obtain ⟨fields, -, hread⟩ := Content.check_eq_valid_iff.mp hk
      obtain ⟨f, s, hname, hsigil, heq⟩ := Checked.also_eq_valid_iff.mp hread
      obtain ⟨given, -, rfl⟩ := Checked.map_eq_valid_iff.mp hname
      obtain ⟨-, rfl⟩ := NewChannel.mk.inj heq
      rw [Checked.optional, Checked.under_eq_valid_iff] at hsigil
      split at hsigil
      · exact (Checked.shortText_eq_valid_iff.mp hsigil).2
      · obtain rfl := Checked.valid.inj hsigil
        decide
  · intro h
    refine .inl ⟨.value (.obj [("prefix", .str sigil)]), Content.check_eq_valid_iff.mpr ⟨_, rfl, ?_⟩⟩
    rw [readSigil, Checked.required, Checked.under_eq_valid_iff]
    exact Checked.shortText_eq_valid_iff.mpr ⟨rfl, h⟩

/-- The sigil that a call gives to a channel, with the channel under its normal name. -/
def Call.given? : Call → Option (String × String)
  | .addChannel p => some (ChannelName.normalize p.name, p.sigil)
  | .changeSigil c s => some (ChannelName.normalize c, s)
  | _ => none

/-- After a call that gave a channel a sigil, the channel has it. -/
theorem Call.enter_given {c : Call} {m : Ledger} {name sigil : String} (h : c.given? = some (name, sigil))
    (hdone : (c.enter m).2.status = 200) : ∃ r, (c.enter m).1[name]? = some r ∧ r.sigil = sigil := by
  cases c with
  | addChannel p =>
    obtain ⟨rfl, rfl⟩ := Prod.mk.inj (Option.some.inj h)
    rw [enter] at hdone ⊢
    split at hdone
    · cases hdone
    · rename_i hfree
      rw [if_neg hfree]
      exact ⟨_, Std.ExtTreeMap.getElem?_insert_self, rfl⟩
  | changeSigil channel s =>
    obtain ⟨rfl, rfl⟩ := Prod.mk.inj (Option.some.inj h)
    rw [enter, Ledger.withRecord] at hdone ⊢
    cases hr : m[ChannelName.normalize channel]? with
    | none =>
      rw [hr] at hdone
      cases hdone
    | some r => exact ⟨_, Std.ExtTreeMap.getElem?_insert_self, rfl⟩
  | _ => cases h

/-- A sigil that is given is one that is taken. -/
theorem Call.given_takesSigil {c : Call} {k : Content} {name sigil : String} (h : c.given? = some (name, sigil))
    (hsaid : c.Said k) : TakesSigil sigil := by
  cases c with
  | addChannel p =>
    obtain ⟨-, rfl⟩ := Prod.mk.inj (Option.some.inj h)
    exact .inr ⟨k, p.name, hsaid⟩
  | changeSigil channel s =>
    obtain ⟨-, rfl⟩ := Prod.mk.inj (Option.some.inj h)
    exact .inl ⟨k, hsaid⟩
  | _ => cases h

end Server

/-! ## Sigils that the bot is told -/

theorem StoreQuery.decode_sigil {channel name sigil : String} (h : sigil ≠ "") :
    (sigilOf channel).decode
        (.answered ⟨200, "application/json", (Server.Ledger.channelValue name sigil).write Value.compact⟩) =
      .ok (.str sigil) := by
  have hplain : (Server.Ledger.channelValue name sigil).IsPlain := by
    simp [Server.Ledger.channelValue, Value.IsPlain, Value.FieldsPlain]
  have hholds : (Value.str sigil).holds = true := by simp [Value.holds, h]
  rw [decode, content_ok _ hplain]
  show Except.ok ((Value.str sigil).orElse _) = _
  rw [Value.orElse, if_pos hholds]
  rfl

namespace Bot.Stage

open Server (Call Ledger)
open Server.Route (IsName)

variable {s : Stage} {channel : String}

/-- Asking for the sigil of a channel tells the one that it has. -/
theorem ask_sigil (hs : s.Connected) (hc : IsName channel) {r : Server.ChannelRecord}
    (hr : s.ledger[ChannelName.normalize channel]? = some r) (hsigil : r.sigil ≠ "") :
    (s.askStore (.sigilOf channel)).2 = .ok (.str r.sigil) := by
  have hasks : (StoreQuery.sigilOf channel).sent.Asks (.showChannel channel) :=
    StoreQuery.asks (name_single hc) rfl rfl trivial
  have henter : (Call.showChannel channel).enter s.ledger =
      (s.ledger, .ok (Ledger.channelValue (ChannelName.normalize channel) r.sigil)) := by
    rw [Call.enter, Ledger.withRecord, hr]
  exact (askStore_call hs hasks henter).1.trans (StoreQuery.decode_sigil hsigil)

/-- Once the backend has answered a request for a call, it holds what the call makes of its ledger. -/
theorem connected_after (hs : s.Connected) {now : Moment} {answers : List HttpOutcome} {request : Server.Request}
    {c : Call} (hasks : request.Asks c) {b : Server.Backend} {reply : Server.Reply}
    (hx : s.backend.handle now answers request = (b, reply)) :
    ({ s with backend := b } : Stage).Connected ∧ ({ s with backend := b } : Stage).ledger = (c.enter s.ledger).1 ∧
      reply.response = (c.enter s.ledger).2 := by
  obtain ⟨hledger, hresponse⟩ := c.act_ledger hs.reachable.sound
  have hreachable := hs.reachable.handle now answers request
  rw [hx] at hreachable
  rw [s.backend.handle_call now answers hasks] at hx
  obtain ⟨rfl, rfl⟩ := Prod.mk.inj hx
  exact ⟨⟨hreachable, hs.clear⟩, hledger, hresponse⟩

end Bot.Stage

/-! ## Sigils that are heard -/

namespace Router

open Dialogue
open Server.Route (IsName)

/-- A sigil that is not remembered is the one that the store tells. -/
theorem hold_loadSigil {w : World surroundings} {past : List (Turn surroundings)} {channel sigil : String}
    (hunknown : w past (.sigil channel) = none)
    (htold : w (past ++ [⟨.sigil channel, none⟩]) (.store (.sigilOf channel)) = .ok (.str sigil)) :
    (hold w past (loadSigil channel).outcome).2 = .ok (.str sigil) := by
  have hkept : Runs (query (I := surroundings) (.keepSigil channel (.str sigil)))
      [⟨.keepSigil channel (.str sigil), ()⟩] () :=
    runs_query.mpr rfl
  have hruns : Runs (loadSigil channel).outcome
      ([⟨.sigil channel, none⟩] ++ ([⟨.store (.sigilOf channel), .ok (.str sigil)⟩] ++
        ([⟨.keepSigil channel (.str sigil), ()⟩] ++ []))) (.ok (.str sigil)) := by
    rw [loadSigil, Attempt.runs_sure_bind]
    refine ⟨_, _, none, rfl, runs_query.mpr rfl, ?_⟩
    rw [Option.filter_none, Attempt.runs_sure_bind]
    refine ⟨_, _, .ok (.str sigil), rfl, runs_askStore.mpr rfl, ?_⟩
    exact Attempt.runs_sure_bind.mpr ⟨_, [], (), rfl, hkept, .done _⟩
  rw [hold_eq_iff.mpr ⟨hruns, .cons hunknown.symm (.cons htold.symm (.cons rfl (.nil _)))⟩]

/-- **A sigil works exactly if it does not begin with white space.** The backend takes the sigils of one to
eight characters. Once it has answered a request that gives a channel such a sigil, that is the sigil that
the bot loads for the channel. The line of sigil, trigger and text is then read as that trigger with the
trimmed text and its words, unless the sigil begins with white space; then no line is read as a call. -/
theorem sigils_are_heard (sigil trigger text : String) (hword : Text.IsWord trigger) :
    (Server.TakesSigil sigil ↔ 1 ≤ sigil.length ∧ sigil.length ≤ 8) ∧
    (∀ (s : Bot.Stage) (c : Server.Call) (request : Server.Request) (now : Moment) (answers : List HttpOutcome)
      (b : Server.Backend) (reply : Server.Reply) (channel : String) (w : World surroundings)
      (past : List (Turn surroundings)),
      s.Connected → IsName channel → request.Asks c → c.given? = some (ChannelName.normalize channel, sigil) →
      s.backend.handle now answers request = (b, reply) → reply.response.status = 200 →
      w past (.sigil channel) = none →
      w (past ++ [⟨.sigil channel, none⟩]) (.store (.sigilOf channel)) =
        (Bot.Stage.askStore { s with backend := b } (.sigilOf channel)).2 →
      (hold w past (loadSigil channel).outcome).2 = .ok (.str sigil)) ∧
    (Server.TakesSigil sigil →
      (Line.parse? sigil (sigil ++ trigger ++ " " ++ text) = some ⟨trigger, Text.words text, Text.trim text⟩ ↔
        Text.beginsBlank sigil = false) ∧
      (Text.beginsBlank sigil = true → ∀ raw, Line.parse? sigil raw = none)) := by
  have hfilled : Server.TakesSigil sigil → sigil ≠ "" := by
    rintro htaken rfl
    exact absurd (Server.takesSigil_iff.mp htaken).1 (by decide)
  refine ⟨Server.takesSigil_iff, ?_, fun htaken => ⟨⟨fun hread => ?_, fun hink => ?_⟩, Line.parse?_of_beginsBlank⟩⟩
  · intro s c request now answers b reply channel w past hs hc hasks hgiven hx hdone hunknown htold
    obtain ⟨hconnected, hledger, hresponse⟩ := Bot.Stage.connected_after hs hasks hx
    rw [hresponse] at hdone
    obtain ⟨r, hr, rfl⟩ := Server.Call.enter_given hgiven hdone
    rw [← hledger] at hr
    rw [Bot.Stage.ask_sigil hconnected hc hr (hfilled (Server.Call.given_takesSigil hgiven hasks.said))] at htold
    exact hold_loadSigil hunknown htold
  · cases hblank : Text.beginsBlank sigil with
    | false => rfl
    | true =>
      rw [Line.parse?_of_beginsBlank hblank] at hread
      cases hread
  · exact Line.parse?_written (hfilled htaken) hink hword text

/-- A world in which nothing is remembered and the store is a backend. -/
def backedBy (s : Bot.Stage) : World surroundings
  | _, .store q => (s.askStore q).2
  | _, .act .. => .ok .null
  | _, .join _ | _, .part _ => .ok ()
  | _, .sigil _ => none
  | _, .enqueue _ | _, .keepSigil .. | _, .dropSigil _ => ()

/-- A channel is registered with a sigil that ends in a blank. -/
def bangRequest : Server.Request := (StoreQuery.addChannel (.str "chan") (.str "! ")).sent

/-- The stage after that. -/
def bangStage : Bot.Stage :=
  { Bot.Stage.fresh with backend := (Bot.Stage.fresh.backend.handle Bot.Stage.fresh.moment [] bangRequest).1 }

/-- The sigil of a channel that is registered with an exclamation mark and a blank is heard. -/
theorem sigils_are_heard_bang :
    Text.IsWord "ping" ∧ Server.TakesSigil "! " ∧
      (hold (backedBy bangStage) [] (loadSigil "chan").outcome).2 = .ok (.str "! ") ∧
      Line.parse? "! " ("! " ++ "ping" ++ " " ++ " a  b ") = some ⟨"ping", ["a", "b"], "a  b"⟩ := by
  have hword : Text.IsWord "ping" := by decide
  obtain ⟨htakes, hloads, hheard⟩ := sigils_are_heard "! " "ping" " a  b " hword
  have htaken : Server.TakesSigil "! " := htakes.mpr (by decide)
  refine ⟨hword, htaken, ?_, (hheard htaken).1.mpr (by decide)⟩
  have hfields : (StoreQuery.addChannel (.str "chan") (.str "! ")).request.payload =
      some (.obj [("channel_name", .str "chan"), ("prefix", .str "! ")]) := rfl
  have hplain : (Value.obj [("channel_name", .str "chan"), ("prefix", .str "! ")]).IsPlain := by
    simp [Value.IsPlain, Value.FieldsPlain]
  have hcheck : (Server.Content.value (.obj [("channel_name", .str "chan"), ("prefix", .str "! ")])).check
      Server.NewChannel.read = .valid ⟨"chan", "! "⟩ := rfl
  have hasks : bangRequest.Asks (.addChannel ⟨"chan", "! "⟩) :=
    StoreQuery.asks (fun _ hn => absurd hn List.not_mem_nil) rfl (StoreQuery.content_payload hfields hplain rfl) hcheck
  obtain ⟨x, hx⟩ : ∃ x, Bot.Stage.fresh.backend.handle Bot.Stage.fresh.moment [] bangRequest = x := ⟨_, rfl⟩
  have hstage : bangStage = { Bot.Stage.fresh with backend := x.1 } := by rw [bangStage, hx]
  obtain ⟨b, reply⟩ := x
  obtain ⟨-, -, hresponse⟩ := Bot.Stage.connected_after Bot.Stage.fresh_connected hasks hx
  have hdone : reply.response.status = 200 := by
    have hempty : Bot.Stage.fresh.ledger = ∅ := rfl
    rw [hresponse]
    simp only [Server.Call.enter, hempty, Std.ExtTreeMap.not_mem_empty, if_false]
    rfl
  rw [hstage]
  exact hloads Bot.Stage.fresh (.addChannel ⟨"chan", "! "⟩) bangRequest _ [] b reply "chan" _ [] Bot.Stage.fresh_connected
    (by decide) hasks rfl hx hdone rfl (by rw [backedBy])

/-- The backend takes a blank with an exclamation mark as a sigil, and no line that is written with it is a
call. -/
theorem deaf_sigil_is_taken :
    Server.TakesSigil " !" ∧ Text.IsWord "t" ∧ Line.parse? " !" (" !" ++ "t" ++ " " ++ "r") = none :=
  ⟨Server.takesSigil_iff.mpr (by decide), by decide, by decide⟩

end Router

end ChannelBot
