/-
A refresh changes the loop and the store together or not at all (`Course.taken`, `Course.failed`). So along every
run of a loop at the backend, where nobody else changes the credentials of the channel, the loop waits with the
refresh token that is stored, and after the first success with all the tokens that are stored (`AtBackend.same`).
-/
import ChannelBot.Proofs.Refresh.Rotation
import ChannelBot.Proofs.Store.Renewal

namespace ChannelBot.Refresh

open Dialogue
open Server (Backend Credential)

variable {s s' : State} {turns : List (Turn surroundings)} {result : Except Fault Int} {name : String}

/-! ## One refresh -/

/-- What a round sent to the store and what it holds then: the tokens and the expiry of a grant. -/
structure Took (s : State) (turns : List (Turn surroundings)) (s' : State) (result : Except Fault Int)
    (g : Spotify.Grant) (now expiry : Moment) (channel : String) : Prop where
  asked : ∃ q answer, turns = [⟨.grant s.refreshToken, .ok g⟩, ⟨.now, now⟩, ⟨.store q, .ok answer⟩] ∧
    q.request = ⟨"PUT", StoreQuery.channelPath channel ++ "/spotify/token", some (.obj
      ([("access_token", s'.currentToken), ("expires_at", .str (expiryText expiry))] ++
        if g.refreshToken.holds then [("refresh_token", s'.refreshToken)] else []))⟩
  channel : s.channel = .str channel ∧ s'.channel = s.channel
  token : s'.currentToken = g.accessToken
  expiry : s'.expiry = some expiry ∧ now.addSeconds? g.expiresIn = some expiry ∧
    Timestamp.read? (expiryText expiry) = some ⟨expiry, some 0⟩
  refresh : s'.refreshToken = if g.refreshToken.holds then g.refreshToken else s.refreshToken
  result : result = .ok (wait g)

theorem addressPart_eq_ok_iff {v : Value} : v.addressPart = .ok name ↔ v = .str name := by
  cases v <;> simp [Value.addressPart]

/-- A round whose grant the store took sent what the loop holds afterwards. -/
theorem Course.taken (h : Course s turns (s', result)) (htaken : isTaken turns = true) :
    ∃ g now expiry channel, Took s turns s' result g now expiry channel := by
  rcases h.ends with ⟨hnone, -⟩ | ⟨-, -, g, now, expiry, channel, answer, hx, hexpiry, hchannel, rfl⟩
  · cases htaken.symm.trans hnone
  · cases hx
    refine ⟨g, now, expiry, channel, ⟨_, _, rfl, ?_⟩, ⟨addressPart_eq_ok_iff.mp hchannel, rfl⟩, rfl,
      ⟨rfl, hexpiry, Server.read?_expiryText (Moment.addSeconds?_within hexpiry)⟩, rfl, rfl⟩
    cases hholds : g.refreshToken.holds <;> simp [update, StoreQuery.request, State.accept, Value.orElse, hholds]

/-- A round in which something fails leaves all as it was, and waits if the failure is one to be expected. -/
theorem Course.failed (h : Course s turns (s', result)) :
    (isTaken turns = false → s' = s) ∧
      ∀ f, Fails turns f → s' = s ∧ result = if isExpected f then .ok retryDelay else .error f := by
  rcases h.ends with ⟨-, f, hx, hfails⟩ | ⟨htaken, hnone, -⟩
  · cases hx
    refine ⟨fun _ => rfl, fun f' hf' => ?_⟩
    obtain rfl := hfails f' hf'
    exact ⟨rfl, rfl⟩
  · exact ⟨fun h => (by cases htaken.symm.trans h), fun f hf => absurd hf (hnone f)⟩

/-! ## A loop at the backend -/

/-- The credentials that a backend keeps for a channel. -/
def kept (b : Backend) (name : String) : Option Credential := b.tables.credentialOf? name

/-- What a question does to the backend: one for the store is answered by it, or does not get there. -/
inductive Reaches (b : Backend) : Turn surroundings → Backend → Prop
  | grant (token : Value) (answer : Except Fault Spotify.Grant) : Reaches b ⟨.grant token, answer⟩ b
  | now (answer : Moment) : Reaches b ⟨.now, answer⟩ b
  | answered {q : StoreQuery} {now : Moment} {b' : Backend} {reply : Server.Reply}
    (h : b.handle now [] q.sent = (b', reply)) : Reaches b ⟨.store q, q.decode (.answered reply.response.http)⟩ b'
  | lost (q : StoreQuery) (f : Fault) : Reaches b ⟨.store q, .error f⟩ b

/-- A round at the backend. Others use it too, but do not change the credentials of the channel. -/
inductive Served (name : String) : Backend → List (Turn surroundings) → Backend → Prop
  | done {b b' : Backend} (others : kept b' name = kept b name) : Served name b [] b'
  | next {b b₁ b₂ b' : Backend} {t : Turn surroundings} {turns : List (Turn surroundings)}
    (others : kept b₁ name = kept b name) (reaches : Reaches b₁ t b₂) (rest : Served name b₂ turns b') :
    Served name b (t :: turns) b'

/-- The rounds of a loop at the backend. -/
inductive AtBackend (name : String) (s : State) (b : Backend) : List (List (Turn surroundings)) → State → Backend → Prop
  | start : AtBackend name s b [] s b
  | next {rounds : List (List (Turn surroundings))} {s₁ s₂ : State} {b₁ b₂ : Backend}
    {turns : List (Turn surroundings)} {result : Except Fault Int} (h : AtBackend name s b rounds s₁ b₁)
    (hruns : Runs (once s₁) turns (s₂, result)) (hserved : Served name b₁ turns b₂) :
    AtBackend name s b (rounds ++ [turns]) s₂ b₂

/-- The tokens of a loop and the time until which they are good are those that are stored. -/
structure Same (s : State) (k : Credential) : Prop where
  refresh : s.refreshToken = .str k.refresh
  access : ∃ a, k.access = some a ∧ s.currentToken = .str a
  expiry : ∃ m, k.expiresAt = some m ∧ s.expiry = some m

variable {b b' : Backend} {k : Credential}

theorem Reaches.of_store {q : StoreQuery} {answer : storeAnswer q} (h : Reaches b ⟨.store q, answer⟩ b') :
    (∃ now reply, b.handle now [] q.sent = (b', reply) ∧ answer = q.decode (.answered reply.response.http)) ∨
      ((∃ f, answer = .error f) ∧ b' = b) := by
  generalize ht : (⟨.store q, answer⟩ : Turn surroundings) = t at h
  cases h with
  | grant | now => cases ht
  | answered h =>
    cases ht
    exact .inl ⟨_, _, h, rfl⟩
  | lost q f =>
    cases ht
    exact .inr ⟨⟨f, rfl⟩, rfl⟩

/-- What a question leaves of the credentials that is none for the store. -/
theorem Served.of_apart {t : Turn surroundings} (h : Served name b (t :: turns) b') (ht : ∀ q, t.query ≠ .store q) :
    ∃ b₁, kept b₁ name = kept b name ∧ Served name b₁ turns b' := by
  cases h with
  | next others reaches rest =>
    cases reaches with
    | grant | now => exact ⟨_, others, rest⟩
    | answered | lost => exact absurd rfl (ht _)

/-- What handing a grant to the store as the last thing of a round leaves of the credentials. -/
theorem Served.of_update {channel : String} {g : Spotify.Grant} {expiry : Moment} (hin : expiry.micros < Moment.limit)
    {answer : storeAnswer (update channel g expiry)}
    (h : Served channel b [⟨.store (update channel g expiry), answer⟩] b') :
    ((∃ f, answer = .error f) ∧ kept b' channel = kept b channel) ∨
      ∃ v k a r, answer = .ok v ∧ kept b channel = some k ∧ kept b' channel = some ⟨some a, r, some expiry⟩ ∧
        g.accessToken = .str a ∧ g.refreshToken.orElse (.str k.refresh) = .str r := by
  cases h with
  | next others reaches rest =>
    cases rest with
    | done later =>
      rw [later, ← others]
      rcases reaches.of_store with ⟨now, reply, hx, hanswer⟩ | ⟨hfails, rfl⟩
      · rw [hanswer]
        rcases Server.Backend.handle_update hin hx with
          ⟨hfails, hsame⟩ | ⟨v, k, a, r, hok, hk, hnew, haccess, hrefresh⟩
        · exact .inl ⟨hfails, congrArg (kept · channel) hsame⟩
        · exact .inr ⟨v, k, a, r, hok, hk, hnew, haccess, hrefresh⟩
      · exact .inl ⟨hfails, rfl⟩

/-- What a round does to a loop and to the credentials that it began with the refresh token of. -/
theorem Course.served (h : Course s turns (s', result)) (hserved : Served name b turns b')
    (hchannel : s.channel = .str name) (hk : kept b name = some k) (hsame : s.refreshToken = .str k.refresh) :
    s'.channel = .str name ∧ ∃ k', kept b' name = some k' ∧ s'.refreshToken = .str k'.refresh ∧
      if isTaken turns then Same s' k' else s' = s ∧ k' = k := by
  have hfault : ∀ f, afterFault s f = (s', result) → kept b' name = kept b name → isTaken turns = false →
      s'.channel = .str name ∧ ∃ k', kept b' name = some k' ∧ s'.refreshToken = .str k'.refresh ∧
        if isTaken turns then Same s' k' else s' = s ∧ k' = k := by
    intro f hf hkept htaken
    cases hf
    rw [htaken]
    exact ⟨hchannel, k, hkept.trans hk, hsame, rfl, rfl⟩
  generalize hx : (s', result) = x at h
  cases h with
  | refused f =>
    obtain ⟨b₁, hb₁, hrest⟩ := hserved.of_apart (by simp)
    cases hrest with
    | done others => exact hfault f hx.symm (others.trans hb₁) rfl
  | endless g now hexpiry =>
    obtain ⟨b₁, hb₁, hrest⟩ := hserved.of_apart (by simp)
    obtain ⟨b₂, hb₂, hrest⟩ := hrest.of_apart (by simp)
    cases hrest with
    | done others => exact hfault _ hx.symm ((others.trans hb₂).trans hb₁) rfl
  | unaddressed g now hexpiry haddress =>
    rw [hchannel] at haddress
    cases haddress
  | @unstored g now expiry channel f hexpiry haddress =>
    obtain rfl : name = channel := by
      rw [hchannel] at haddress
      exact Except.ok.inj haddress
    obtain ⟨b₁, hb₁, hrest⟩ := hserved.of_apart (by simp)
    obtain ⟨b₂, hb₂, hrest⟩ := hrest.of_apart (by simp)
    rcases hrest.of_update (Moment.addSeconds?_within hexpiry) with ⟨-, hkept⟩ | ⟨v, k, a, r, hok, -⟩
    · exact hfault f hx.symm ((hkept.trans hb₂).trans hb₁) rfl
    · cases hok
  | @stored g now expiry channel v hexpiry haddress =>
    obtain rfl : name = channel := by
      rw [hchannel] at haddress
      exact Except.ok.inj haddress
    cases hx
    obtain ⟨b₁, hb₁, hrest⟩ := hserved.of_apart (by simp)
    obtain ⟨b₂, hb₂, hrest⟩ := hrest.of_apart (by simp)
    rcases hrest.of_update (Moment.addSeconds?_within hexpiry) with ⟨⟨f, hf⟩, -⟩ | ⟨v', k', a, r, -, hk', hnew, haccess, hrefresh⟩
    · cases hf
    · obtain rfl : k' = k := Option.some.inj (hk'.symm.trans ((hb₂.trans hb₁).trans hk))
      have hrotated : (s.accept g expiry).refreshToken = .str r := by
        rw [← hrefresh, ← hsame]
        rfl
      exact ⟨hchannel, _, hnew, hrotated, hrotated, ⟨a, rfl, haccess⟩, ⟨expiry, rfl, rfl⟩⟩

/-- Along every run of a loop the refresh token is the one that is stored, and all tokens are from when the store
took some. -/
theorem AtBackend.same {rounds : List (List (Turn surroundings))} (h : AtBackend name s b rounds s' b')
    (hchannel : s.channel = .str name) (hk : kept b name = some k) (hsame : s.refreshToken = .str k.refresh) :
    s'.channel = .str name ∧ ∃ k', kept b' name = some k' ∧ s'.refreshToken = .str k'.refresh ∧
      ((∃ turns ∈ rounds, isTaken turns = true) → Same s' k') := by
  induction h with
  | start => exact ⟨hchannel, k, hk, hsame, fun ⟨turns, hmem, _⟩ => absurd hmem List.not_mem_nil⟩
  | @next rounds s₁ s₂ b₁ b₂ turns result h hruns hserved ih =>
    obtain ⟨hchannel₁, k₁, hk₁, hsame₁, hall₁⟩ := ih
    obtain ⟨hchannel₂, k₂, hk₂, hsame₂, hround⟩ := (runs_once.mp hruns).served hserved hchannel₁ hk₁ hsame₁
    refine ⟨hchannel₂, k₂, hk₂, hsame₂, fun ⟨taken, hmem, htaken⟩ => ?_⟩
    cases hturns : isTaken turns with
    | true =>
      rw [hturns] at hround
      exact hround
    | false =>
      rw [hturns] at hround
      obtain ⟨rfl, rfl⟩ := hround
      rcases List.mem_append.mp hmem with hmem | hmem
      · exact hall₁ ⟨taken, hmem, htaken⟩
      · rw [List.mem_singleton.mp hmem, hturns] at htaken
        cases htaken

/-- **A refresh changes the loop and the store together or not at all.** If the store takes the grant of a round,
then what was sent to it is the access token and the expiry that the loop holds afterwards, the expiry in writing,
and the refresh token if one was granted, which the loop holds then too, and else the one that it had. In every
other round the loop stays as it was, and if the failure is one to be expected, it waits for the next. So wherever a
loop begins with the refresh token that the backend keeps for its channel, and nobody else changes what is kept, it
waits with the refresh token that is kept after every round, and from the first success on with the access token and
the expiry that are kept. -/
theorem refreshes_together :
    (∀ s turns s' result, Runs (once s) turns (s', result) →
      (isTaken turns = true → ∃ g now expiry channel, Took s turns s' result g now expiry channel) ∧
        (isTaken turns = false → s' = s) ∧
        ∀ f, Fails turns f → s' = s ∧ result = if isExpected f then .ok retryDelay else .error f) ∧
      ∀ name s b k rounds s' b', s.channel = .str name → kept b name = some k → s.refreshToken = .str k.refresh →
        AtBackend name s b rounds s' b' →
        ∃ k', kept b' name = some k' ∧ s'.refreshToken = .str k'.refresh ∧
          ((∃ turns ∈ rounds, isTaken turns = true) → Same s' k') := by
  refine ⟨fun s turns s' result hruns => ?_, fun name s b k rounds s' b' hchannel hk hsame h => ?_⟩
  · have hcourse := runs_once.mp hruns
    exact ⟨hcourse.taken, hcourse.failed.1, hcourse.failed.2⟩
  · exact (h.same hchannel hk hsame).2

/-- The store takes the second refresh token, and is out of reach when it is sent the third one. -/
theorem refreshes_together_rotated :
    let s : State := { channel := .str "chan", refreshToken := .str "r1" }
    let b : Backend := { tables := { channels := [⟨1, "chan", "!"⟩], credentials := [(1, ⟨none, "r1", none⟩)] } }
    ∃ v s' b', AtBackend "chan" s b [rotation "r1" "r2" (.ok v), rotation "r2" "r3" (.error .timeout)] s' b' ∧
      s'.refreshToken = .str "r2" ∧ ∃ k', kept b' "chan" = some k' ∧ Same s' k' := by
  intro s b
  have hexpiry : (⟨0⟩ : Moment).addSeconds? 3600 = some ⟨3600 * Moment.second⟩ := by decide
  have hname : Server.Route.IsName "chan" := by decide
  have hk : kept b "chan" = some ⟨none, "r1", none⟩ := by decide +kernel
  obtain ⟨b₁, reply, v, hx, hok⟩ := b.handle_update_taken ⟨0⟩ (g := ⟨.str "access", 3600, .str "r2"⟩)
    (Moment.addSeconds?_within hexpiry) hname hk rfl fun _ => ⟨"r2", rfl⟩
  have hfirst : Served "chan" b (rotation "r1" "r2" (.ok v)) b₁ :=
    .next rfl (.grant _ _) (.next rfl (.now _) (.next rfl (hok ▸ .answered hx) (.done rfl)))
  have hsecond : Served "chan" b₁ (rotation "r2" "r3" (.error .timeout)) b₁ :=
    .next rfl (.grant _ _) (.next rfl (.now _) (.next rfl (.lost _ _) (.done rfl)))
  have hrun : AtBackend "chan" s b ([] ++ [rotation "r1" "r2" (.ok v)] ++ [rotation "r2" "r3" (.error .timeout)]) _ b₁ :=
    .next (.next .start (runs_once.mpr (.stored ⟨.str "access", 3600, .str "r2"⟩ ⟨0⟩ v hexpiry rfl)) hfirst)
      (runs_once.mpr (.unstored ⟨.str "access", 3600, .str "r3"⟩ ⟨0⟩ .timeout hexpiry rfl)) hsecond
  obtain ⟨k', hkept, -, hsame⟩ := refreshes_together.2 "chan" s b _ _ _ _ rfl hk rfl hrun
  exact ⟨v, _, b₁, hrun, rfl, k', hkept, hsame ⟨_, List.mem_cons_self, rfl⟩⟩

end ChannelBot.Refresh
