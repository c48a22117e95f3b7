/-
The flags of targets as the bot sees them through the store. Users go by their names in lower case.
In a channel that is registered every question about a target is answered: asking tells whether it
is guarded (`ask_target`), opening a hit keeps the guard (`addTarget_ok`), and setting the flags of
a user sets those and no others (`setTarget_ok`).
-/
import ChannelBot.Proofs.Store.Keys

namespace ChannelBot

/-! ## What is sent and answered -/

namespace Server

/-- The fields with which the flags of a target are set; without the second flag it is left as it is. -/
def targetFields (guarded : Bool) (completed : Option Bool) : List (String × Value) :=
  ("protected", .bool guarded) :: (completed.map fun b => ("completed", .bool b)).toList

theorem isPlain_targetFields (guarded : Bool) (completed : Option Bool) :
    (Value.obj (targetFields guarded completed)).IsPlain := by
  cases completed <;> simp [targetFields, Value.IsPlain, Value.FieldsPlain]

theorem isPlain_target (user : String) (flags : TargetFlags) : (targetValue user flags).IsPlain := by
  simp [targetValue, Value.IsPlain, Value.FieldsPlain]

theorem Content.check_target (guarded : Bool) (completed : Option Bool) :
    (Content.value (.obj (targetFields guarded completed))).check TargetChange.read = .valid ⟨guarded, completed⟩ := by
  cases completed <;>
    simp [Content.check, TargetChange.read, Checked.required, Checked.optional, Checked.orNull, Checked.truth,
      targetFields, Value.lookup?, Checked.under, Checked.map, Checked.also]

end Server

namespace StoreQuery

open Server (TargetFlags targetValue)

/-- The question with which the flags of a target are set. -/
def flagging (channel user : String) (guarded : Bool) (completed : Option Bool) : StoreQuery :=
  .setProtection channel user guarded ((completed.map .bool).getD .null)

theorem decode_target {channel user key : String} (flags : TargetFlags) :
    (isProtected channel user).decode
        (.answered ⟨200, "application/json", (targetValue key flags).write Value.compact⟩) = .ok flags.guarded := by
  rw [decode, content_ok _ (Server.isPlain_target key flags)]
  rfl

theorem decode_target_missing {channel user : String} {r : HttpResponse} (h : r.status = 404) :
    (isProtected channel user).decode (.answered r) = .ok false := by
  rw [decode, isMissing_refused _ h]
  rfl

end StoreQuery

/-! ## Questions about targets -/

namespace Bot.Stage

open Server (Call Ledger TargetFlags targetValue)
open Server.Route (IsName)

variable {s s' : Stage} {channel user : String}

/-- The flags of a user of a channel, as they are stored. -/
def target? (s : Stage) (channel user : String) : Option TargetFlags :=
  s.ledger[ChannelName.normalize channel]?.bind (·.targets[Text.lower user]?)

/-- A guard stands over a user of a channel. -/
def Guarded (s : Stage) (channel user : String) : Prop := (s.target? channel user).any (·.guarded) = true

/-- The store can be reached, and has the channel. -/
structure Serves (s : Stage) (channel : String) : Prop where
  connected : s.Connected
  registered : ∃ r, s.ledger[ChannelName.normalize channel]? = some r

theorem target?_congr {a b : String} (h : Text.lower a = Text.lower b) : s.target? channel a = s.target? channel b := by
  rw [target?, target?, h]

theorem target?_of_ledger (h : s'.ledger = s.ledger) (user : String) :
    s'.target? channel user = s.target? channel user := by
  rw [target?, target?, h]

/-- Asking for a target tells whether a guard stands over it, and changes nothing. -/
theorem ask_target (hs : s.Connected) (hc : IsName channel) (hu : IsName user) :
    (s.askStore (.isProtected channel user)).2 = .ok ((s.target? channel user).any (·.guarded)) ∧
      (s.askStore (.isProtected channel user)).1.ledger = s.ledger ∧
      (s.askStore (.isProtected channel user)).1.Connected := by
  have hasks : (StoreQuery.isProtected channel user).sent.Asks (.showTarget channel user) :=
    StoreQuery.asks (names_pair hc hu) rfl rfl trivial
  have henter : ∀ m : Ledger, (Call.showTarget channel user).enter m = m.withRecord channel fun _ r =>
      m.withEntry "hitman target not found" (fun flags => (m, .ok (targetValue (Text.lower user) flags)))
        r.targets[Text.lower user]? := fun _ => rfl
  exact ask_entry hs hasks henter (fun flags? => .ok (flags?.any (·.guarded)))
    (fun _ => StoreQuery.decode_target_missing) StoreQuery.decode_target

/-- New flags of a user are stored under its name, and no other flags change. -/
theorem target?_insert {r : Server.ChannelRecord} {flags : TargetFlags}
    (hr : s.ledger[ChannelName.normalize channel]? = some r)
    (h : s'.ledger = s.ledger.insert (ChannelName.normalize channel)
      { r with targets := r.targets.insert (Text.lower user) flags }) (other : String) :
    s'.target? channel other =
      if Text.lower other = Text.lower user then some flags else s.target? channel other := by
  rw [target?, target?, get_insert h, hr, Option.bind_some, Option.bind_some, Std.ExtTreeMap.getElem?_insert]
  by_cases hother : Text.lower other = Text.lower user
  · rw [if_pos hother, if_pos (Std.compare_eq_iff_eq.mpr hother.symm)]
  · rw [if_neg hother, if_neg fun h => hother (Std.compare_eq_iff_eq.mp h).symm]

/-- A question that writes the flags of a user is answered, and writes those and no others. -/
theorem write_target (hs : s.Serves channel) {q : StoreQuery} {c : Call} (hasks : q.sent.Asks c)
    (change : TargetFlags → TargetFlags)
    (hdecode : ∀ flags, ∃ v, q.decode (.answered ⟨200, "application/json",
      (targetValue (Text.lower user) flags).write Value.compact⟩) = .ok v)
    (henter : ∀ m : Ledger, c.enter m = m.withRecord channel fun name r =>
      m.putTarget name r (Text.lower user) (change (r.targets[Text.lower user]?.getD ⟨false, false⟩))) :
    (∃ v, (s.askStore q).2 = .ok v) ∧ (s.askStore q).1.Serves channel ∧
      ∀ other, (s.askStore q).1.target? channel other =
        if Text.lower other = Text.lower user then some (change ((s.target? channel user).getD ⟨false, false⟩))
        else s.target? channel other := by
  obtain ⟨r, hr⟩ := hs.registered
  have hcall := henter s.ledger
  simp only [Ledger.withRecord, hr, Ledger.putTarget] at hcall
  obtain ⟨hanswer, hledger, hconnected⟩ := askStore_call hs.connected hasks hcall
  obtain ⟨v, hv⟩ := hdecode (change (r.targets[Text.lower user]?.getD ⟨false, false⟩))
  have hflags : s.target? channel user = r.targets[Text.lower user]? := by
    rw [target?, hr, Option.bind_some]
  refine ⟨⟨v, hanswer.trans hv⟩, ⟨hconnected, _, get_insert hledger⟩, fun other => ?_⟩
  rw [hflags]
  exact target?_insert hr hledger other

/-- Opening a hit keeps the guard. -/
theorem addTarget_ok (hs : s.Serves channel) (hc : IsName channel) (hu : IsName user) :
    (∃ v, (s.askStore (.addTarget channel user)).2 = .ok v) ∧ (s.askStore (.addTarget channel user)).1.Serves channel ∧
      ∀ other, (s.askStore (.addTarget channel user)).1.target? channel other =
        if Text.lower other = Text.lower user then
          some { (s.target? channel user).getD ⟨false, false⟩ with completed := false }
        else s.target? channel other := by
  have hasks : (StoreQuery.addTarget channel user).sent.Asks (.addTarget channel user) :=
    StoreQuery.asks (names_pair hc hu) rfl rfl trivial
  exact write_target hs hasks (fun flags => { flags with completed := false })
    (fun flags => ⟨_, StoreQuery.content_ok (StoreQuery.addTarget channel user).request
      (Server.isPlain_target _ flags)⟩) fun _ => rfl

/-- Setting the flags of a user sets them. -/
theorem setTarget_ok (hs : s.Serves channel) (hc : IsName channel) (hu : IsName user) (guarded : Bool)
    (completed : Option Bool) :
    (∃ v, (s.askStore (.flagging channel user guarded completed)).2 = .ok v) ∧
      (s.askStore (.flagging channel user guarded completed)).1.Serves channel ∧
      ∀ other, (s.askStore (.flagging channel user guarded completed)).1.target? channel other =
        if Text.lower other = Text.lower user then
          some ⟨guarded, completed.getD ((s.target? channel user).getD ⟨false, false⟩).completed⟩
        else s.target? channel other := by
  have hpayload : (StoreQuery.flagging channel user guarded completed).request.payload =
      some (.obj (Server.targetFields guarded completed)) := by
    cases completed <;> rfl
  have hcontent := @StoreQuery.content_payload (StoreQuery.flagging channel user guarded completed) _ hpayload
    (Server.isPlain_targetFields guarded completed) rfl
  have hasks : (StoreQuery.flagging channel user guarded completed).sent.Asks
      (.changeTarget channel user ⟨guarded, completed⟩) :=
    StoreQuery.asks (names_pair hc hu) rfl hcontent (Server.Content.check_target guarded completed)
  exact write_target hs hasks (fun flags => ⟨guarded, completed.getD flags.completed⟩)
    (fun flags => ⟨_, StoreQuery.content_ok (StoreQuery.flagging channel user guarded completed).request
      (Server.isPlain_target _ flags)⟩) fun _ => rfl

end Bot.Stage

end ChannelBot
