/-
Readers of the settings see what the rows say (`Settings.Coherent`), and a writing shows at once
(`Settings.value?_set`). Few requests do anything to the configuration of the bot
(`Backend.handle_configures`). Fewer set the number of the bot's user (`Backend.SetsUser`); whatever does not
set it leaves the settings alone (`Backend.settings_of_not_setsUser`).
-/
import Mathlib.Data.List.Induction
import ChannelBot.Proofs.Authorization.Atomic
import ChannelBot.Proofs.Server.Bootstrap
import ChannelBot.Proofs.Server.History
import ChannelBot.Proofs.Server.Profile
import ChannelBot.Proofs.Text.Blank

namespace ChannelBot.Server

/-! ## What a reader sees -/

namespace Settings

/-- What a reader sees is what the rows say, with the defaults. -/
def Coherent (s : Settings) : Prop := s.current = withDefaults s.rows

/-- The settings, with nothing read of them. -/
def fresh (s : Settings) : Settings := { rows := s.rows }

variable {s s' : Settings} {rows rows' : SettingRows} {key : String}

theorem Coherent.agrees (h : s.Coherent) : s.fresh.Agrees s := ⟨rfl, h⟩

theorem coherent_of_cold (h : s.cached = none) : s.Coherent := by
  rw [Coherent, current, h]
  rfl

theorem Coherent.of_agrees (h : s.Coherent) (h' : s.Agrees s') : s'.Coherent := by
  rw [Coherent, h'.current, h'.rows]
  exact h

theorem Coherent.value?_eq (h : s.Coherent) (key : String) : s.value? key = reading (withDefaults s.rows) key := by
  rw [Settings.value?_eq, h]

theorem reading_withDefaults_congr (h : rows'.lookup key = rows.lookup key) :
    reading (withDefaults rows') key = reading (withDefaults rows) key :=
  reading_congr (by rw [lookup_withDefaults, lookup_withDefaults, h])

/-- A text that was trimmed stays as it is. -/
theorem filled?_of_filled? {value text : String} (h : filled? value = some text) : filled? text = some text := by
  have htrim : Text.trim text = text := by
    simp only [filled?] at h
    split at h
    · cases h
    · obtain rfl := Option.some.inj h
      rw [Text.trim, Text.trim, String.toList_ofList, Chars.trim, Chars.trimStart_trim, Chars.trimEnd_trim]
  simp only [filled?, htrim, isEmpty_of_filled? h, Bool.false_eq_true, if_false]

theorem filled?_bind_filled? (value : Option String) : (value.bind filled?).bind filled? = value.bind filled? := by
  cases hvalue : value.bind filled? with
  | none => rfl
  | some text =>
    obtain ⟨v, -, hv⟩ := Option.bind_eq_some_iff.mp hvalue
    rw [Option.bind_some]
    exact filled?_of_filled? hv

/-- A writing of several settings gives each of them its last value. -/
theorem lookup_set (s : Settings) (updates : SettingRows) (key : String) :
    (s.set updates).rows.lookup key =
      (((updates.reverse.lookup key).map fun value => value.bind filled?).or (s.rows.lookup key)) := by
  rw [set]
  dsimp only
  induction updates using List.reverseRecOn with
  | nil => rfl
  | append_singleton earlier last ih =>
    rw [List.foldl_append, List.foldl_cons, List.foldl_nil, lookup_put, ih, List.reverse_append, List.reverse_singleton,
      List.singleton_append, lookup_cons_eq]
    split <;> rfl

/-- What is read after a writing: a written setting trimmed, none if it is blank, and any other as before. -/
theorem value?_set (h : s.Coherent) (updates : SettingRows) (key : String) :
    (s.set updates).warm.value? key = match updates.reverse.lookup key with
      | some value => value.bind filled?
      | none => s.value? key := by
  have hcold : (s.set updates).Coherent := coherent_of_cold rfl
  have hcoherent : (s.set updates).warm.Coherent := hcold.of_agrees ⟨rfl, rfl⟩
  have hrows : (s.set updates).warm.rows = (s.set updates).rows := rfl
  have hlookup := lookup_set s updates key
  rw [hcoherent.value?_eq, hrows]
  cases hlast : updates.reverse.lookup key with
  | none =>
    rw [hlast, Option.map_none, Option.none_or] at hlookup
    rw [reading_withDefaults_congr hlookup, h.value?_eq]
  | some value =>
    rw [hlast, Option.map_some, Option.some_or] at hlookup
    rw [reading, lookup_withDefaults, hlookup, Option.some_or]
    exact filled?_bind_filled? value

end Settings

open Settings (filled?)

/-! ## The number of the bot's user -/

/-- A request that changes the bot's configuration. -/
structure Request.Changes (r : Request) (c : BotChange) : Prop where
  routed : r.endpoint? = some .changeProfile
  allowed : r.token = some adminToken
  said : (r.content .changeProfile).check BotChange.read = .valid c

/-- A request that puts new tokens into the bot's configuration. -/
structure Request.Renews (r : Request) (c : BotTokens) : Prop where
  routed : r.endpoint? = some .changeTokens
  allowed : r.token = some adminToken
  said : (r.content .changeTokens).check BotTokens.read = .valid c

/-- The settings with another number of the bot's user. -/
structure Settings.PutsUser (s s' : Settings) (id : Option String) : Prop where
  rows : ∀ key, s'.rows.lookup key = if key = "bot_user_id" then some (id.bind filled?) else s.rows.lookup key
  shown : s'.Coherent

namespace Backend

variable {b : Backend} {d : Delivery}

/-- A request sets the number of the bot's user: it says so itself, or it brings back an authorization, of
which the provider tells whose it is. -/
inductive SetsUser (b : Backend) (d : Delivery) : Option String → Prop
  | change {c : BotChange} {id : String} (changes : d.request.Changes c) (given : c.botUserId = some id) :
    SetsUser b d (some id)
  | callback {code state : String} {p : BotProfile} {user : Value}
    (routed : d.request.endpoint? = some Flow.bot.callback) (brings : d.request.Brings code state)
    (awarded : Authorization.Awarded b d.now d.answers state .bot (.account p user)) :
    SetsUser b d (some (user.orElse (.str "")).display)

theorem handle_changes {c : BotChange} (h : d.request.Changes c) :
    b.handle d.now d.answers d.request = replying (b.changeProfile c) := by
  rw [b.handle_said d.now d.answers h.routed h.allowed h.said, serve, h.said]
  rfl

theorem handle_renews {c : BotTokens} (h : d.request.Renews c) :
    b.handle d.now d.answers d.request = replying (b.changeTokens c) := by
  rw [b.handle_said d.now d.answers h.routed h.allowed h.said, serve, h.said]
  rfl

theorem Unchanged.agrees {b' : Backend} (h : b.Unchanged b') : b.settings.Agrees b'.settings := ⟨h.rows, h.settings⟩

theorem Untouched.agrees {b' : Backend} (h : b.Untouched b') : b.settings.Agrees b'.settings := ⟨h.rows, h.settings⟩

/-! ## What a request does to the configuration -/

/-- What can become of the account and the settings: they are left alone, except that the account may have been
created, or they are what a change, new tokens or an awarded authorization makes of them. -/
inductive Configures (b : Backend) (d : Delivery) : Backend → Prop
  | leaves {b' : Backend}
    (bot : b'.bot = b.bot ∨ b.bot = none ∧ b'.bot = some { scopes := scopesText? (b.settings.pieces "bot_app_scopes") })
    (settings : b.settings.Agrees b'.settings) : Configures b d b'
  | changes {c : BotChange} (changes : d.request.Changes c) : Configures b d (b.changeProfile c).1
  | renews {c : BotTokens} (renews : d.request.Renews c) : Configures b d (b.changeTokens c).1
  | adopts {b' : Backend} {code state : String} {p : BotProfile} {user : Value}
    (routed : d.request.endpoint? = some Flow.bot.callback) (brings : d.request.Brings code state)
    (awarded : Authorization.Awarded b d.now d.answers state .bot (.account p user))
    (adopts : b.Adopts b' d.now p user) : Configures b d b'

theorem Unchanged.configures {b' : Backend} (h : b.Unchanged b') : b.Configures d b' := .leaves h.bot h.agrees

theorem Untouched.configures {b' : Backend} (h : b.Untouched b') : b.Configures d b' := h.unchanged.configures

/-- A callback leaves the configuration alone, or it stores the account that it was awarded. -/
theorem callback_configures {f : Flow} (h : d.request.endpoint? = some f.callback) :
    b.Configures d (b.handle d.now d.answers d.request).1 := by
  rw [Authorization.handle_callback b d.now d.answers h]
  rcases d.request.callback_cases with ⟨-, response, -, hspot⟩ | ⟨code, state, hbrings, hgoes⟩
  · rw [hspot]
    exact (Untouched.refl b).configures
  · rw [hgoes]
    rcases Authorization.comeBack_cases b d.now d.request.origin d.answers code state f with
      ⟨-, hkept, -⟩ | ⟨-, award, hawarded, hstored⟩
    · exact hkept.configures
    · cases hawarded with
      | account hready hpending hgrant hnamed hfirst htells =>
        exact .adopts h hbrings (.account hready hpending hgrant hnamed hfirst htells) hstored
      | credential => exact .leaves (.inl hstored.2.bot) hstored.2.agrees

/-- What a request does to the configuration. -/
theorem handle_configures (b : Backend) (d : Delivery) : b.Configures d (b.handle d.now d.answers d.request).1 := by
  have hsame : b.Configures d b := (Untouched.refl b).configures
  rcases d.request.dispatch d.now d.answers with ⟨response, hspot⟩ | ⟨e, hrouted, hallowed, hserved⟩
  · rw [hspot]
    exact hsame
  · have hchecked : ∀ {α : Type} {c : Checked α} {use : α → Backend × Reply},
        (∀ a, c = .valid a → b.Configures d (use a).1) → b.Configures d (b.checked c use).1 := by
      intro α c use huse
      cases c with
      | valid a => exact huse a rfl
      | invalid vs => exact hsame
    cases e with
    | botCallback => exact callback_configures (f := .bot) hrouted
    | musicCallback => exact callback_configures (f := .music) hrouted
    | showProfile =>
      rw [hserved]
      exact .leaves b.withProfile_unchanged.bot ⟨b.withProfile_unchanged.rows, b.withProfile_unchanged.settings⟩
    | changeTokens =>
      rw [hserved, serve]
      exact hchecked fun c hsaid => .renews ⟨hrouted, hallowed rfl, hsaid⟩
    | changeProfile =>
      rw [hserved, serve]
      exact hchecked fun c hsaid => .changes ⟨hrouted, hallowed rfl, hsaid⟩
    | startBot =>
      rw [hserved]
      exact (Authorization.startBot_untouched b d.now d.request.origin).configures
    | startMusic channel =>
      rw [hserved]
      exact (Authorization.startMusic_untouched b d.now d.request.origin channel).configures
    | pushLog =>
      rw [hserved, serve]
      refine hchecked fun entry _ => ?_
      show b.Configures d (b.pushLog d.now entry).1
      rw [pushLog]
      exact .leaves (.inl rfl) (.refl _)
    | addChannel | changeSigil | addCommand | addRedeem | changeTarget | changeCredential | showLog =>
      rw [hserved, serve]
      exact hchecked fun _ _ => .leaves (.inl rfl) (.refl _)
    | _ =>
      rw [hserved]
      exact .leaves (.inl rfl) (.refl _)

/-! ## Setting the number of the user -/

theorem changeProfile_puts {c : BotChange} {id : String} (h : c.botUserId = some id) :
    b.settings.PutsUser (b.changeProfile c).1.settings (some id) := by
  have hends : (b.changeProfile c).1.settings = (b.withProfile.1.putSetting "bot_user_id" id).settings.warm := by
    rw [changeProfile]
    dsimp only
    rw [h]
    rfl
  have hcoherent : (b.withProfile.1.putSetting "bot_user_id" id).settings.Coherent := putSetting_current _ _ _
  rw [hends]
  refine ⟨fun key => ?_, hcoherent.of_agrees ⟨rfl, rfl⟩⟩
  show (b.withProfile.1.putSetting "bot_user_id" id).settings.rows.lookup key = _
  rw [putSetting_rows, Settings.lookup_put, b.withProfile_unchanged.rows, Option.bind_some]

theorem changeProfile_keeps {c : BotChange} (h : c.botUserId = none) :
    b.settings.Agrees (b.changeProfile c).1.settings := by
  have hends : (b.changeProfile c).1.settings = b.withProfile.1.settings.warm := by
    rw [changeProfile]
    dsimp only
    rw [h]
    rfl
  rw [hends]
  exact ⟨b.withProfile_unchanged.rows, b.withProfile_unchanged.settings⟩

end Backend

/-- The provider names one user. -/
theorem Authorization.Awarded.user_unique {b : Backend} {now : Moment} {answers : List HttpOutcome} {state : String}
    {p p' : BotProfile} {user user' : Value} (h : Awarded b now answers state .bot (.account p user))
    (h' : Awarded b now answers state .bot (.account p' user')) : user' = user := by
  cases h with
  | account _ _ _ hnamed hfirst _ =>
    cases h' with
    | account _ _ _ hnamed' hfirst' _ =>
      cases hnamed.symm.trans hnamed'
      cases hfirst.symm.trans hfirst'
      rfl

namespace Backend

variable {b : Backend} {d : Delivery}

/-- What sets the number of the bot's user sets it. -/
theorem SetsUser.puts {id : Option String} (h : b.SetsUser d id) :
    b.settings.PutsUser (b.handle d.now d.answers d.request).1.settings id := by
  cases h with
  | change hchanges hgiven =>
    rw [handle_changes hchanges]
    exact changeProfile_puts hgiven
  | @callback code state p user hrouted hbrings hawarded =>
    rw [Authorization.handle_callback b d.now d.answers hrouted]
    rcases d.request.callback_cases with ⟨hnone, -⟩ | ⟨code', state', hbrings', hgoes⟩
    · exact absurd hbrings (hnone code state)
    · rw [hgoes]
      obtain rfl := Option.some.inj (hbrings.state.symm.trans hbrings'.state)
      rcases Authorization.comeBack_cases b d.now d.request.origin d.answers code' state .bot with
        ⟨-, -, hnone⟩ | ⟨-, award, hawarded', hstored⟩
      · exact absurd hawarded (hnone _)
      · cases hawarded' with
        | account hready hpending hgrant hnamed hfirst htells =>
          have huser := hawarded.user_unique (.account hready hpending hgrant hnamed hfirst htells)
          rw [huser] at hstored
          refine ⟨fun key => ?_, hstored.shown⟩
          rw [Option.bind_some]
          exact hstored.user key

/-- What does not set it leaves the settings alone. -/
theorem settings_of_not_setsUser (h : ∀ id, ¬ b.SetsUser d id) :
    b.settings.Agrees (b.handle d.now d.answers d.request).1.settings := by
  have hdone := b.handle_configures d
  generalize (b.handle d.now d.answers d.request).1 = b' at hdone ⊢
  cases hdone with
  | leaves _ hsettings => exact hsettings
  | renews => exact ⟨b.withProfile_unchanged.rows, b.withProfile_unchanged.settings⟩
  | @changes c hchanges =>
    cases hgiven : c.botUserId with
    | none => exact changeProfile_keeps hgiven
    | some id => exact absurd (.change hchanges hgiven) (h _)
  | adopts hrouted hbrings hawarded => exact absurd (.callback hrouted hbrings hawarded) (h _)

end Backend

end ChannelBot.Server
