/-
A state text is good once and for its own authorization. A callback passes only with a text that was
issued before for its authorization, it spends the text even if it refuses it, and credentials are put
for the channel that is found under the name that the text was issued for (`states_are_single_use`).
That name is normalized once more on the way, so it can be another channel's (`credentials_go_astray`).
-/
import ChannelBot.Proofs.Authorization.Runs

namespace ChannelBot.Server

/-! ## Credentials -/

namespace Tables

theorem find?_replaced {owner : Nat} {k : Credential} {rows : List (Nat × Credential)}
    (h : rows.any (·.1 == owner) = true) :
    (rows.map fun r => if r.1 == owner then (owner, k) else r).find? (·.1 == owner) = some (owner, k) := by
  induction rows with
  | nil => cases h
  | cons r rest ih =>
    rw [List.map_cons, List.find?_cons]
    by_cases hr : r.1 = owner
    · simp [hr]
    · have hne : (r.1 == owner) = false := beq_eq_false_iff_ne.mpr hr
      rw [List.any_cons, hne, Bool.false_or] at h
      simp only [hne, Bool.false_eq_true, if_false]
      exact ih h

theorem find?_replaced_other {owner id : Nat} (hid : id ≠ owner) (k : Credential) (rows : List (Nat × Credential)) :
    (rows.map fun r => if r.1 == owner then (owner, k) else r).find? (·.1 == id) = rows.find? (·.1 == id) := by
  induction rows with
  | nil => rfl
  | cons r rest ih =>
    rw [List.map_cons, List.find?_cons, List.find?_cons, ih]
    by_cases hr : r.1 = owner
    · have hother : (owner == id) = false := beq_eq_false_iff_ne.mpr (Ne.symm hid)
      rw [if_pos (beq_iff_eq.mpr hr), hr, hother]
    · rw [if_neg (by simpa using hr)]

theorem credential?_putCredential (t : Tables) (owner : Nat) (k : Credential) :
    (t.putCredential owner k).credential? owner = some k := by
  rw [credential?, putCredential]
  dsimp only
  split
  next hany => rw [find?_replaced hany, Option.map_some]
  next hnone =>
    have hfind : t.credentials.find? (·.1 == owner) = none :=
      List.find?_eq_none.mpr fun r hr hid => hnone (List.any_eq_true.mpr ⟨r, hr, hid⟩)
    rw [List.find?_append, hfind, Option.none_or]
    simp

theorem credential?_putCredential_other {owner id : Nat} (hid : id ≠ owner) (t : Tables) (k : Credential) :
    (t.putCredential owner k).credential? id = t.credential? id := by
  rw [credential?, credential?, putCredential]
  dsimp only
  split
  next => rw [find?_replaced_other hid]
  next =>
    have hsingle : [(owner, k)].find? (·.1 == id) = none := by simpa using Ne.symm hid
    rw [List.find?_append, hsingle, Option.or_none]

/-- These credentials are put for one channel, and nothing else changes. -/
structure Grants (t t' : Tables) (c : ChannelRow) (k : Credential) : Prop where
  own : t'.credential? c.id = some k
  others : ∀ id, id ≠ c.id → t'.credential? id = t.credential? id
  rest : t' = { t with credentials := t'.credentials }

theorem grants_putCredential (t : Tables) (c : ChannelRow) (k : Credential) :
    t.Grants (t.putCredential c.id k) c k where
  own := t.credential?_putCredential c.id k
  others _ hid := credential?_putCredential_other hid t k
  rest := rfl

end Tables

/-- The music callback puts the credentials that it was granted for the channel under the name that its
text was issued for, or it leaves the tables as they are. -/
theorem Authorization.musicCallback_cases {b : Backend} (hs : b.tables.Sound) (now : Moment) (origin : String)
    (answers : List HttpOutcome) (code state : String) :
    let x := musicCallback b now origin answers code state
    x.1.tables = b.tables ∧ x.2.response.status ≠ 200 ∨
      ∃ name c k, (redeem b state).2 = some (.music name) ∧
        b.tables.row? (ChannelName.normalize name) = some c ∧
        grantedCredential now (next answers).1 = .ok k ∧ b.tables.Grants x.1.tables c k := by
  dsimp only
  rw [musicCallback_eq]
  dsimp only
  split
  next name hpending =>
    rw [hs.channel_eq]
    cases hrow : b.tables.row? (ChannelName.normalize name) with
    | none => exact .inl ⟨rfl, (by decide : 404 ≠ 200)⟩
    | some c =>
      dsimp only [Search.ofOption]
      split
      next fault _ => exact .inl ⟨rfl, fault.status_ne_ok "Spotify"⟩
      next k hgranted => exact .inr ⟨name, c, k, hpending, hrow, hgranted, b.tables.grants_putCredential c k⟩
  next => exact .inl ⟨rfl, (by decide : 400 ≠ 200)⟩

namespace Visit

/-- It passes the check of the state text that it brings. -/
def Accepts (v : Visit) (f : Flow) (state : String) : Prop :=
  v.Spends f state ∧ v.reply.response ≠ Authorization.expired

variable {v : Visit}

theorem accepts_iff {f : Flow} {state : String} :
    v.Accepts f state ↔ v.Spends f state ∧ Authorization.Awaits v.held f state := by
  refine and_congr_right fun hspends => ?_
  obtain ⟨code, houtcome⟩ := hspends.1.comes_back
  rw [reply, houtcome]
  constructor
  · intro hpasses
    by_contra hnot
    rw [Authorization.comeBack_refuses hspends.2 hnot] at hpasses
    exact hpasses rfl
  · exact fun hawaits => Authorization.comeBack_passes hspends.2 hawaits _ _ _ _

/-- What is right about a visit, given those before it and after it. -/
structure Orderly (v : Visit) (before after : List Visit) : Prop where
  /-- It passes only with a text that was issued before, and only for the authorization of that text. -/
  bound : ∀ f state, v.Accepts f state → (∃ y ∈ before, ∃ p, y.Issues state p) ∧
    ∀ y ∈ before ++ v :: after, ∀ p, y.Issues state p → p.flow = f
  /-- If it passes, no later visit passes with the same text. -/
  single : ∀ f state, v.Accepts f state → ∀ w ∈ after, ∀ g, ¬ w.Accepts g state
  /-- Whether it passes or not, a text that was issued is gone afterwards. -/
  spent : ∀ f state, v.Spends f state → (∃ y ∈ before, ∃ p, y.Issues state p) →
    (∀ e ∈ v.left.pending, e.state ≠ state) ∧ ∀ w ∈ after, ∀ g, ¬ w.Accepts g state
  /-- The music callback puts credentials only if it passes, and then for the channel under the name that
  the text was issued for, normalized again. -/
  granted : v.request.endpoint? = some Flow.music.callback →
    v.left.tables = v.held.tables ∧ v.reply.response.status ≠ 200 ∨
      ∃ state name c k, v.Accepts .music state ∧ (∃ y ∈ before, y.Issues state (.music name)) ∧
        v.held.tables.row? (ChannelName.normalize name) = some c ∧
        Authorization.grantedCredential v.now (Authorization.next v.delivery.answers).1 = .ok k ∧
        v.held.tables.Grants v.left.tables c k ∧ (c.name = name ↔ ChannelName.normalize name = name)

/-- What the music callback does at a visit. -/
theorem music_cases (hs : v.held.tables.Sound) (hrouted : v.request.endpoint? = some Flow.music.callback) :
    v.left.tables = v.held.tables ∧ v.reply.response.status ≠ 200 ∨
      ∃ state name c k, v.Spends .music state ∧ (Authorization.redeem v.held state).2 = some (.music name) ∧
        v.held.tables.row? (ChannelName.normalize name) = some c ∧
        Authorization.grantedCredential v.now (Authorization.next v.delivery.answers).1 = .ok k ∧
        v.held.tables.Grants v.left.tables c k := by
  by_cases hbrings : ∃ state, v.Presents .music state
  · obtain ⟨state, hpresents⟩ := hbrings
    obtain ⟨code, houtcome⟩ := hpresents.comes_back
    rw [left, reply, houtcome]
    rcases Authorization.musicCallback_cases hs v.now v.request.origin v.delivery.answers code state with
      hnone | ⟨name, c, k, hname, hrow, hgranted, hgrants⟩
    · exact .inl hnone
    · exact .inr ⟨state, name, c, k, ⟨hpresents, trivial⟩, hname, hrow, hgranted, hgrants⟩
  · refine .inl ?_
    rw [left, reply, outcome_eq, Authorization.handle_callback v.held v.now v.delivery.answers hrouted]
    rcases v.request.callback_cases with ⟨-, response, hstatus, hspot⟩ | ⟨code, state, hcode, -⟩
    · rw [hspot]
      exact ⟨rfl, hstatus⟩
    · exact absurd ⟨state, hrouted, code, hcode⟩ hbrings

end Visit

namespace Run

variable {b : Backend} {before after : List Visit} {v : Visit}

/-- A text that was issued does not pass any more once it was spent. -/
theorem not_accepts_after (hs : b.tables.Sound) (hp : b.pending = []) (h : Run b (before ++ v :: after)) {f : Flow}
    {state : String} (hspends : v.Spends f state) (hissued : ∃ y ∈ before, ∃ p, y.Issues state p) :
    ∀ w ∈ after, ∀ g, ¬ w.Accepts g state := by
  intro w hw g haccepts
  obtain ⟨y, hy, p, hissues⟩ := hissued
  obtain ⟨older, newer, rfl⟩ := List.append_of_mem hy
  obtain ⟨between, rest, rfl⟩ := List.append_of_mem hw
  have hcut : older ++ y :: newer ++ v :: (between ++ w :: rest) =
      older ++ y :: (newer ++ v :: between) ++ w :: rest := by simp
  rw [hcut] at h
  have hkept := ((awaits_iff hs hp h hissues).mp (Visit.accepts_iff.mp haccepts).2).2
  exact hkept v (List.mem_append_right newer List.mem_cons_self) (.inl ⟨f, hspends⟩)

theorem issued_of_accepts (hs : b.tables.Sound) (hp : b.pending = []) (h : Run b (before ++ v :: after)) {f : Flow}
    {state : String} (haccepts : v.Accepts f state) : ∃ y ∈ before, ∃ p, y.Issues state p := by
  obtain ⟨e, he, rfl, -⟩ := (awaits_iff_pending hs hp h).mp (Visit.accepts_iff.mp haccepts).2
  obtain ⟨y, hy, hadds, -⟩ := begun hs hp h he
  exact ⟨y, hy, e.purpose, hadds⟩

/-- A text passes only at the callback of the authorization that it was issued for. -/
theorem flow_of_accepts (hs : b.tables.Sound) (hp : b.pending = []) (h : Run b (before ++ v :: after)) {f : Flow}
    {state : String} (haccepts : v.Accepts f state) :
    ∀ y ∈ before ++ v :: after, ∀ p, y.Issues state p → p.flow = f := by
  intro y hy p hissues
  obtain ⟨z, hz, q, hagain⟩ := issued_of_accepts hs hp h haccepts
  obtain rfl := issuer_unique hs h hy (List.mem_append_left _ hz) hissues hagain
  obtain ⟨older, newer, rfl⟩ := List.append_of_mem hz
  exact ((awaits_iff hs hp h hissues).mp (Visit.accepts_iff.mp haccepts).2).1

theorem not_pending_after (hs : b.tables.Sound) (h : Run b (before ++ v :: after)) {f : Flow} {state : String}
    (hspends : v.Spends f state) : ∀ e ∈ v.left.pending, e.state ≠ state := by
  intro e he hstate
  have hheld := h.sound hs v (List.mem_append_right before List.mem_cons_self)
  rcases (Visit.pending_iff hheld e).mp he with ⟨-, hkept⟩ | ⟨hissues, -⟩
  · exact hkept (.inl ⟨f, hstate ▸ hspends⟩)
  · exact hissues.not_spends hspends

theorem grants_for_issued (hs : b.tables.Sound) (hp : b.pending = []) (h : Run b (before ++ v :: after))
    (hrouted : v.request.endpoint? = some Flow.music.callback) :
    v.left.tables = v.held.tables ∧ v.reply.response.status ≠ 200 ∨
      ∃ state name c k, v.Accepts .music state ∧ (∃ y ∈ before, y.Issues state (.music name)) ∧
        v.held.tables.row? (ChannelName.normalize name) = some c ∧
        Authorization.grantedCredential v.now (Authorization.next v.delivery.answers).1 = .ok k ∧
        v.held.tables.Grants v.left.tables c k ∧ (c.name = name ↔ ChannelName.normalize name = name) := by
  have hheld := h.sound hs v (List.mem_append_right before List.mem_cons_self)
  rcases Visit.music_cases hheld hrouted with hnone | ⟨state, name, c, k, hspends, hname, hrow, hgranted, hgrants⟩
  · exact .inl hnone
  · have haccepts : v.Accepts .music state := Visit.accepts_iff.mpr ⟨hspends, _, hname, rfl⟩
    obtain ⟨e, he, rfl, hpurpose⟩ := Authorization.redeem_purpose hname
    obtain ⟨y, hy, hissues, -⟩ := h.begun hs hp he
    rw [hpurpose] at hissues
    refine .inr ⟨e.state, name, c, k, haccepts, ⟨y, hy, hissues⟩, hrow, hgranted, hgrants, ?_⟩
    rw [(Tables.row?_mem hrow).2]

end Run

/-- **State texts are good once and for their own authorization.** In every run from empty tables each
visit is orderly. -/
theorem states_are_single_use {b : Backend} (hb : b.tables = {}) (hp : b.pending = []) {before after : List Visit}
    {v : Visit} (h : Run b (before ++ v :: after)) : v.Orderly before after := by
  have hs : b.tables.Sound := by
    rw [hb]
    exact .empty
  exact {
    bound := fun _ _ haccepts => ⟨h.issued_of_accepts hs hp haccepts, h.flow_of_accepts hs hp haccepts⟩
    single := fun _ _ haccepts => h.not_accepts_after hs hp haccepts.1 (h.issued_of_accepts hs hp haccepts)
    spent := fun _ _ hspends hissued => ⟨h.not_pending_after hs hspends, h.not_accepts_after hs hp hspends hissued⟩
    granted := h.grants_for_issued hs hp }

/-- The bot's text is brought to the music callback, which refuses it, and is of no use to the bot's then;
a music text passes. -/
theorem states_are_single_use_crossed :
    let b : Backend :=
      { settings := { rows := [("twitch_client_id", some "id"), ("twitch_client_secret", some "secret"),
          ("spotify_client_id", some "sid"), ("spotify_client_secret", some "ssec")] } }
    let get (held : Backend) (target : String) (answers : List HttpOutcome) : Visit :=
      ⟨held, ⟨0⟩, answers, { method := "GET", target := target }⟩
    let v₁ : Visit :=
      ⟨b, ⟨0⟩, [], { method := "POST", target := "/channels", token := some adminToken,
                     body := some "\x7b\"channel_name\": \"chan\"\x7d" }⟩
    let v₂ := get v₁.left "/auth" []
    let v₃ := get v₂.left "/spotify/callback?code=c&state=state-1" []
    let v₄ := get v₃.left "/auth/callback?code=c&state=state-1" []
    let v₅ := get v₄.left "/spotify/auth/chan" []
    let v₆ := get v₅.left "/spotify/callback?code=c&state=state-2"
      [.answered ⟨200, "", "\x7b\"refresh_token\": \"r\"\x7d"⟩]
    (b.tables = {} ∧ b.pending = [] ∧ Run b [v₁, v₂, v₃, v₄, v₅, v₆]) ∧
      (v₂.Issues "state-1" .bot ∧ v₃.Spends .music "state-1" ∧ v₃.Orderly [v₁, v₂] [v₄, v₅, v₆] ∧
        ¬ v₄.Accepts .bot "state-1") ∧
      v₆.Accepts .music "state-2" ∧ v₆.Orderly [v₁, v₂, v₃, v₄, v₅] [] := by
  intro b get v₁ v₂ v₃ v₄ v₅ v₆
  have hrun : Run b [v₁, v₂, v₃, v₄, v₅, v₆] :=
    .follow (.follow (.follow (.follow (.follow (.follow .done)))))
  have hsound : v₂.held.tables.Sound := hrun.sound .empty v₂ (by simp)
  have hissues : v₂.Issues (stateText 0) .bot :=
    Visit.issues_of_issued hsound (by decide +kernel) (by decide +kernel) (by decide +kernel)
  have hspends : v₃.Spends .music "state-1" :=
    ⟨⟨by decide +kernel, "c", by decide +kernel, by decide +kernel⟩, trivial⟩
  have horderly : v₃.Orderly [v₁, v₂] [v₄, v₅, v₆] := states_are_single_use rfl rfl hrun
  have hpasses : v₆.Accepts .music "state-2" :=
    Visit.accepts_iff.mpr ⟨⟨⟨by decide +kernel, "c", by decide +kernel, by decide +kernel⟩, trivial⟩, .music "chan",
      by decide +kernel, rfl⟩
  exact ⟨⟨rfl, rfl, hrun⟩, ⟨hissues, hspends, horderly,
    (horderly.spent .music _ hspends ⟨v₂, by simp, .bot, hissues⟩).2 v₄ (by simp) .bot⟩, hpasses,
    states_are_single_use rfl rfl hrun⟩

/-- Credentials that a channel asks for can be another channel's: a name that still has white space and a
number sign in front of it after it was normalized loses them when it is normalized again. -/
theorem credentials_go_astray :
    let register (name : String) : Delivery :=
      ⟨⟨0⟩, [], { method := "POST", target := "/channels", token := some adminToken,
                  body := some ("\x7b\"channel_name\": \"" ++ name ++ "\"\x7d") }⟩
    let b : Backend :=
      { settings := { rows := [("spotify_client_id", some "sid"), ("spotify_client_secret", some "ssec")] } }
    let v₁ : Visit := ⟨b, register "x"⟩
    let v₂ : Visit := ⟨v₁.left, register "# #x"⟩
    let v₃ : Visit := ⟨v₂.left, ⟨0⟩, [], { method := "GET", target := "/spotify/auth/%23%20%23x" }⟩
    let v₄ : Visit := ⟨v₃.left, ⟨0⟩, [.answered ⟨200, "", "\x7b\"refresh_token\": \"r\"\x7d"⟩],
      { method := "GET", target := "/spotify/callback?code=c&state=state-1" }⟩
    Run b [v₁, v₂, v₃, v₄] ∧ v₃.Issues "state-1" (.music " #x") ∧ v₄.Presents .music "state-1" ∧
      v₄.held.tables.channels = [⟨1, "x", "!"⟩, ⟨2, " #x", "!"⟩] ∧
      v₄.left.tables.credentials = [(1, ⟨none, "r", none⟩)] := by
  intro register b v₁ v₂ v₃ v₄
  have hrun : Run b [v₁, v₂, v₃, v₄] :=
    .follow (.follow (.follow (.follow .done)))
  have hsound : v₃.held.tables.Sound := hrun.sound .empty v₃ (by simp)
  have hissues : v₃.Issues (stateText 0) (.music " #x") :=
    Visit.issues_of_issued hsound (by decide +kernel) (by decide +kernel) (by decide +kernel)
  refine ⟨hrun, hissues, ?_, ?_, ?_⟩
  · exact ⟨by decide +kernel, "c", by decide +kernel, by decide +kernel⟩
  · decide +kernel
  · decide +kernel

end ChannelBot.Server
