/-
What the requests do about state texts. A start gives the next one out, which the answer carries, or
none (`startBot_began`, `startMusic_began`); a callback that is ready takes the one out that it is
brought (`comeBack_spent`); all other requests leave them alone (`serve_kept`).
-/
import Std.Data.String.ToNat
import ChannelBot.Proofs.Server.Sound
import ChannelBot.Proofs.Server.Outsider
import ChannelBot.Proofs.Text.Form

namespace ChannelBot.Server

/-! ## State texts -/

/-- The state text that is given out after so many others. -/
def stateText (n : Nat) : String := s!"state-{n + 1}"

theorem stateText_injective {m n : Nat} (h : stateText m = stateText n) : m = n := by
  have hrepr : Nat.repr (m + 1) = Nat.repr (n + 1) := by simpa [stateText] using h
  exact Nat.succ.inj (Nat.repr_inj.mp hrepr)

/-- The state text that an answer sends the browser away with. -/
def Response.carried? (r : Response) : Option String :=
  match r.body with
  | .redirect location => ({ method := "GET", target := location } : Request).parameter? "state"
  | _ => none

theorem Response.carried?_redirect {address : String} (page : String)
    (haddress : address.toList = page.toList ++ ['?']) (hpage : '?' ∉ page.toList) (fields : List (String × String)) :
    (redirect (address ++ Percent.encodeForm fields)).carried? = fields.reverse.lookup "state" := by
  have hquery : (({ method := "GET", target := address ++ Percent.encodeForm fields } : Request).query) =
      Percent.encodeForm fields := by
    have hdrop : (page.toList ++ '?' :: (Percent.encodeForm fields).toList).dropWhile (· != '?') =
        '?' :: (Percent.encodeForm fields).toList := by
      rw [List.dropWhile_append_of_pos fun c hc => by simpa using ne_of_mem_of_not_mem hc hpage]
      rfl
    rw [Request.query, String.toList_append, haddress, List.append_assoc, List.singleton_append, hdrop]
    exact String.ofList_toList
  rw [carried?, redirect]
  dsimp only
  rw [Request.parameter?, hquery, Percent.decodeForm_encodeForm]

/-- The purpose of the authorization that starts at an endpoint. -/
def Endpoint.purpose? : Endpoint → Option Purpose
  | .startBot => some .bot
  | .startMusic channel => some (.music (ChannelName.normalize channel))
  | _ => none

theorem Flow.purpose?_callback (f : Flow) : f.callback.purpose? = none := by cases f <;> rfl

/-- Whether an authorization is too old when another one starts. -/
def PendingState.IsStale (e : PendingState) (now : Moment) : Prop :=
  e.created.micros + Authorization.lifetime * Moment.second < now.micros

namespace Backend

/-- The pending states stay as they are. -/
structure PendingKept (b b' : Backend) : Prop where
  pending : b'.pending = b.pending
  issued : b'.issued = b.issued

theorem PendingKept.refl (b : Backend) : b.PendingKept b := ⟨rfl, rfl⟩

/-- The next state text is given out, and what is too old is dropped. -/
structure Issued (b b' : Backend) (now : Moment) (p : Purpose) : Prop where
  pending : b'.pending = b.pending.filter (fun e => now.micros ≤ e.created.micros +
    Authorization.lifetime * Moment.second) ++ [⟨stateText b.issued, p, now⟩]
  issued : b'.issued = b.issued + 1

/-- A state text is taken out. -/
structure Spent (b b' : Backend) (state : String) : Prop where
  pending : b'.pending = b.pending.filter (·.state != state)
  issued : b'.issued = b.issued

theorem withProfile_kept (b : Backend) : b.PendingKept b.withProfile.1 := by
  rw [withProfile]
  split <;> exact ⟨rfl, rfl⟩

end Backend

namespace Authorization

variable {b : Backend}

/-- How a start can go: the answer carries the next state text, or none is given out. -/
def Began (b : Backend) (now : Moment) (p : Purpose) (b' : Backend) (answer : Response) : Prop :=
  b.PendingKept b' ∧ answer.carried? = none ∨ b.Issued b' now p ∧ answer.carried? = some (stateText b.issued)

theorem startBot_began (b : Backend) (now : Moment) (origin : String) :
    Began b now .bot (startBot b now origin).1 (startBot b now origin).2 := by
  rw [startBot]
  dsimp only
  split
  · exact .inl ⟨⟨rfl, rfl⟩, rfl⟩
  · refine .inr ⟨⟨rfl, rfl⟩, ?_⟩
    rw [Response.carried?_redirect "https://id.twitch.tv/oauth2/authorize" rfl (by decide)]
    rfl

theorem startMusic_began (hs : b.tables.Sound) (now : Moment) (origin channel : String) :
    Began b now (.music (ChannelName.normalize channel)) (startMusic b now origin channel).1
      (startMusic b now origin channel).2 := by
  rw [startMusic, hs.channel_eq]
  cases hrow : b.tables.row? (ChannelName.normalize channel) with
  | none => exact .inl ⟨.refl b, rfl⟩
  | some c =>
    dsimp only [Search.ofOption]
    rw [(Tables.row?_mem hrow).2]
    split
    · exact .inl ⟨⟨rfl, rfl⟩, rfl⟩
    · refine .inr ⟨⟨rfl, rfl⟩, ?_⟩
      rw [Response.carried?_redirect "https://accounts.spotify.com/authorize" rfl (by decide)]
      rfl

theorem finishBot_kept (b : Backend) (now : Moment) (grant owner access : Value) :
    b.PendingKept (finishBot b now grant owner access).1 := by
  have hprofile := b.withProfile_kept
  rw [finishBot]
  dsimp only
  split
  · exact hprofile
  · exact ⟨hprofile.pending, hprofile.issued⟩

/-- A callback that is ready takes the state text out, whatever comes of it. -/
theorem comeBack_spent {f : Flow} (h : Ready b f) (now : Moment) (origin : String) (answers : List HttpOutcome)
    (code state : String) : b.Spent (comeBack b now origin answers code state f).1 state := by
  cases f with
  | bot =>
    rw [comeBack, botCallback_eq]
    split
    next hnone => exact absurd hnone h
    next =>
      dsimp only
      split
      next => exact ⟨rfl, rfl⟩
      next grant access owner _ =>
        have hkept := finishBot_kept (redeem b.warm state).1 now grant owner access
        exact ⟨hkept.pending, hkept.issued⟩
    next => exact ⟨rfl, rfl⟩
  | music =>
    rw [comeBack, musicCallback_eq]
    dsimp only
    split
    next =>
      split
      · exact ⟨rfl, rfl⟩
      · exact ⟨rfl, rfl⟩
      · split <;> exact ⟨rfl, rfl⟩
    next => exact ⟨rfl, rfl⟩

/-- A callback that is not ready does not come to the state text. -/
theorem comeBack_kept {f : Flow} (h : ¬ Ready b f) (now : Moment) (origin : String) (answers : List HttpOutcome)
    (code state : String) : b.PendingKept (comeBack b now origin answers code state f).1 := by
  cases f with
  | bot =>
    have hnone : botApplication? b = none := not_not.mp h
    rw [comeBack, botCallback_eq, hnone]
    exact ⟨rfl, rfl⟩
  | music => exact absurd trivial h

end Authorization

/-! ## Requests that have nothing to do with state texts -/

namespace Backend

theorem checked_kept {b : Backend} {α : Type} {c : Checked α} {use : α → Backend × Reply}
    (h : ∀ a, b.PendingKept (use a).1) : b.PendingKept (b.checked c use).1 := by
  cases c with
  | valid a => exact h a
  | invalid vs => exact .refl b

theorem onTables_kept (b : Backend) (act : Tables → Tables × Response) :
    b.PendingKept (replying (b.onTables act)).1 := ⟨rfl, rfl⟩

theorem pushLog_kept (b : Backend) (now : Moment) (e : LogEntry) : b.PendingKept (b.pushLog now e).1 := by
  rw [pushLog]
  exact ⟨rfl, rfl⟩

theorem changeProfile_kept (b : Backend) (c : BotChange) : b.PendingKept (b.changeProfile c).1 := by
  have hprofile := b.withProfile_kept
  rw [changeProfile]
  dsimp only
  split <;> exact ⟨hprofile.pending, hprofile.issued⟩

/-- Neither the pending states nor the number of those given out change but at starts and callbacks. -/
theorem serve_kept {e : Endpoint} (hcallback : ∀ f : Flow, e ≠ f.callback) (hstart : e.purpose? = none)
    (b : Backend) (now : Moment) (answers : List HttpOutcome) (r : Request) (content : Content) :
    b.PendingKept (b.serve now answers r content e).1 := by
  have hprofile := b.withProfile_kept
  cases e with
  | botCallback => exact absurd rfl (hcallback .bot)
  | musicCallback => exact absurd rfl (hcallback .music)
  | startBot | startMusic => cases hstart
  | showProfile => exact ⟨hprofile.pending, hprofile.issued⟩
  | changeProfile => exact checked_kept fun p => b.changeProfile_kept p
  | changeTokens => exact checked_kept fun p => ⟨hprofile.pending, hprofile.issued⟩
  | showLog =>
    rw [serve]
    exact checked_kept fun _ => .refl b
  | pushLog => exact checked_kept fun p => b.pushLog_kept now p
  | front | health | commandsPage | listChannels | listRefreshTokens | streamLog => exact ⟨rfl, rfl⟩
  | addChannel | changeSigil | addCommand | addRedeem | changeTarget | changeCredential =>
    exact checked_kept fun _ => b.onTables_kept _
  | _ => exact b.onTables_kept _

end Backend

end ChannelBot.Server
