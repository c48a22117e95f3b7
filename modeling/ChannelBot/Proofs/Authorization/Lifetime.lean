/-
How long a state text is good. Its age is looked at only when another one is given out, never when it
comes back: a text of the right authorization is refused exactly if it was spent before, or if another
one was issued when it was too old (`refuses_iff_spent_or_swept`). One that comes back too late is
traded like any other if nobody had another one issued in the meantime (`late_text_is_traded`).
-/
import ChannelBot.Proofs.Authorization.Runs

namespace ChannelBot.Server

theorem Visit.dropped_iff {state : String} {p : Purpose} {began : Moment} {visits : List Visit} :
    (∃ x ∈ visits, x.Drops ⟨state, p, began⟩) ↔ (∃ x ∈ visits, ∃ f, x.Spends f state) ∨
      ∃ x ∈ visits, (∃ state' q, x.Issues state' q) ∧
        began.micros + Authorization.lifetime * Moment.second < x.now.micros := by
  constructor
  · rintro ⟨x, hx, hspends | hswept⟩
    · exact .inl ⟨x, hx, hspends⟩
    · exact .inr ⟨x, hx, hswept⟩
  · rintro (⟨x, hx, hspends⟩ | ⟨x, hx, hswept⟩)
    · exact ⟨x, hx, .inl hspends⟩
    · exact ⟨x, hx, .inr hswept⟩

/-- What it is to refuse a state text: the answer says so, nobody is asked, and nothing stored changes. -/
structure Visit.Refuses (v : Visit) : Prop where
  reply : v.reply = { response := Authorization.expired }
  untouched : v.held.Untouched v.left

theorem Visit.refuses_iff {v : Visit} {f : Flow} {state : String} (h : v.Spends f state) :
    v.Refuses ↔ ¬ Authorization.Awaits v.held f state := by
  obtain ⟨code, houtcome⟩ := h.1.comes_back
  constructor
  · intro hrefuses hawaits
    have hreply := hrefuses.reply
    rw [Visit.reply, houtcome] at hreply
    exact Authorization.comeBack_passes h.2 hawaits _ _ _ _ (congrArg Reply.response hreply)
  · intro hnot
    refine ⟨?_, ?_⟩
    · rw [Visit.reply, houtcome]
      exact Authorization.comeBack_refuses h.2 hnot _ _ _ _
    · rw [Visit.left, houtcome]
      exact Authorization.comeBack_untouched hnot _ _ _ _

/-- **When a state text is refused.** A text that was issued for a purpose and comes back to a callback is
refused if the callback is another authorization's, if the text was spent before, or if somebody had
another one issued more than ten minutes after it, and else it is not. -/
theorem refuses_iff_spent_or_swept {b : Backend} (hb : b.tables = {}) (hp : b.pending = [])
    {older between after : List Visit} {y v : Visit} (h : Run b (older ++ y :: between ++ v :: after)) {state : String} {p : Purpose}
    (hissues : y.Issues state p) {f : Flow} (hspends : v.Spends f state) :
    v.Refuses ↔ p.flow ≠ f ∨ (∃ x ∈ between, ∃ g, x.Spends g state) ∨
      ∃ x ∈ between, (∃ state' q, x.Issues state' q) ∧
        y.now.micros + Authorization.lifetime * Moment.second < x.now.micros := by
  have hs : b.tables.Sound := by
    rw [hb]
    exact .empty
  rw [Visit.refuses_iff hspends, Run.awaits_iff hs hp h hissues, ← Visit.dropped_iff]
  constructor
  · intro hnot
    by_contra hgood
    obtain ⟨hflow, hkept⟩ := not_or.mp hgood
    exact hnot ⟨not_not.mp hflow, fun x hx hdrops => hkept ⟨x, hx, hdrops⟩⟩
  · rintro (hflow | ⟨x, hx, hdrops⟩) ⟨hsame, hkept⟩
    · exact hflow hsame
    · exact hkept x hx hdrops

/-- A text that is too old when another one is issued. -/
theorem swept_text_is_refused :
    let b : Backend :=
      { settings := { rows := [("twitch_client_id", some "id"), ("twitch_client_secret", some "secret")] } }
    let get (held : Backend) (seconds : Nat) (target : String) : Visit :=
      ⟨held, ⟨seconds * Moment.second⟩, [], { method := "GET", target := target }⟩
    let v₁ := get b 0 "/auth"
    let v₂ := get v₁.left 601 "/auth"
    let v₃ := get v₂.left 602 "/auth/callback?code=c&state=state-1"
    (b.tables = {} ∧ b.pending = [] ∧ Run b [v₁, v₂, v₃]) ∧ v₁.Issues "state-1" .bot ∧
      v₃.Spends .bot "state-1" ∧ v₃.Refuses := by
  intro b get v₁ v₂ v₃
  have hrun : Run b ([] ++ v₁ :: [v₂] ++ v₃ :: []) := .follow (.follow (.follow .done))
  have hissues : v₁.Issues (stateText 0) .bot :=
    Visit.issues_of_issued .empty (by decide +kernel) rfl (by decide +kernel)
  have hsweep : v₂.Issues (stateText 1) .bot :=
    Visit.issues_of_issued (hrun.sound .empty v₂ (by simp)) (by decide +kernel) (by decide +kernel) (by decide +kernel)
  have hspends : v₃.Spends .bot "state-1" :=
    ⟨⟨by decide +kernel, "c", by decide +kernel, by decide +kernel⟩, by decide +kernel⟩
  have hrefuses : v₃.Refuses := (refuses_iff_spent_or_swept rfl rfl hrun hissues hspends).mpr <|
    .inr (.inr ⟨v₂, by simp, ⟨_, _, hsweep⟩, by decide⟩)
  exact ⟨⟨rfl, rfl, hrun⟩, hissues, hspends, hrefuses⟩

/-- A text that comes back after more than ten minutes, with nobody else there meanwhile, is traded for
tokens, which are stored. -/
theorem late_text_is_traded :
    let b : Backend :=
      { settings := { rows := [("twitch_client_id", some "id"), ("twitch_client_secret", some "secret")] } }
    let v₁ : Visit := ⟨b, ⟨0⟩, [], { method := "GET", target := "/auth" }⟩
    let v₂ : Visit := ⟨v₁.left, ⟨601 * Moment.second⟩,
      [.answered ⟨200, "", "\x7b\"access_token\": \"a\"\x7d"⟩,
        .answered ⟨200, "", "\x7b\"data\": [\x7b\"login\": \"bot\", \"display_name\": \"Bot\"\x7d]\x7d"⟩],
      { method := "GET", target := "/auth/callback?code=c&state=state-1" }⟩
    Run b [v₁, v₂] ∧ v₁.Issues "state-1" .bot ∧ v₂.Spends .bot "state-1" ∧
      v₁.now.micros + Authorization.lifetime * Moment.second < v₂.now.micros ∧
      v₂.reply.response.status = 200 ∧ v₂.reply.calls.length = 2 ∧
      v₂.held.bot = none ∧ v₂.left.bot.bind (·.access) = some "a" := by
  intro b v₁ v₂
  have hrun : Run b [v₁, v₂] := .follow (.follow .done)
  have hissues : v₁.Issues (stateText 0) .bot :=
    Visit.issues_of_issued .empty (by decide +kernel) rfl (by decide +kernel)
  have hspends : v₂.Spends .bot "state-1" :=
    ⟨⟨by decide +kernel, "c", by decide +kernel, by decide +kernel⟩, by decide +kernel⟩
  exact ⟨hrun, hissues, hspends, by decide, by decide +kernel, by decide +kernel, by decide +kernel, by decide +kernel⟩

end ChannelBot.Server
