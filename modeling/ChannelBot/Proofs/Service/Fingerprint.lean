/-
When one bot serves two accounts. Their fingerprints fit exactly if the accounts are equal up to the
order of the scopes and of the integrations, the case of the super user and the marker of the token,
where no super user and no refresh token count as empty ones (`matches_of_fits`, `fits_of_matches`).
-/
import Mathlib.Data.List.Nodup
import ChannelBot.Proofs.Text.Order
import ChannelBot.Service.Account

namespace ChannelBot.Account

variable {a b : Account} {mark current : Fingerprint}

/-- An account as settings give it: its token and its super user are texts, if they are there, and its
integrations have a key each. -/
structure IsTyped (a : Account) : Prop where
  token : a.token = .null ∨ ∃ token, a.token = .str token
  superUser : a.superUser = .null ∨ ∃ name, a.superUser = .str name
  keys : (a.integrations.map Prod.fst).Nodup

/-- A bot on the first account serves the second one. -/
structure Matches (b a : Account) : Prop where
  token : ∃ s t, b.token = .str s ∧ a.token = .str t ∧ bareToken s = bareToken t
  refreshToken : (a.refreshToken.orElse (.str "")).same (b.refreshToken.orElse (.str "")) = true
  login : a.login.same b.login = true
  clientId : a.clientId.same b.clientId = true
  clientSecret : a.clientSecret.same b.clientSecret = true
  botUserId : a.botUserId = b.botUserId
  scopes : a.scopes.Perm b.scopes
  superUser : ∃ u v, b.superUser.orElse (.str "") = .str u ∧ a.superUser.orElse (.str "") = .str v ∧
    Text.lower u = Text.lower v
  integrations : a.integrations.Perm b.integrations

/-- Only texts have a fingerprint. -/
theorem fingerprint_eq_ok (h : a.fingerprint = .ok mark) :
    ∃ token name, a.token = .str token ∧ a.superUser.orElse (.str "") = .str name ∧ mark = {
      token := bareToken token
      refreshToken := a.refreshToken.orElse (.str "")
      login := a.login
      clientId := a.clientId
      clientSecret := a.clientSecret
      botUserId := a.botUserId
      scopes := Text.sorted a.scopes
      superUser := Text.lower name
      integrations := Text.sortedOn (·.1) a.integrations } := by
  unfold fingerprint at h
  cases htoken : a.token with
  | str token =>
    cases hname : a.superUser.orElse (.str "") with
    | str name =>
      rw [htoken, hname] at h
      exact ⟨token, name, rfl, rfl, (Except.ok.inj h).symm⟩
    | _ =>
      rw [htoken, hname] at h
      cases h
  | _ =>
    rw [htoken] at h
    cases h

theorem IsTyped.exists_fingerprint (h : a.IsTyped) (htoken : a.token.holds = true) :
    ∃ mark, a.fingerprint = .ok mark := by
  obtain ⟨token, hstr⟩ : ∃ token, a.token = .str token := by
    rcases h.token with hnull | hstr
    · rw [hnull] at htoken
      cases htoken
    · exact hstr
  obtain ⟨name, hname⟩ : ∃ name, a.superUser.orElse (.str "") = .str name := by
    rcases h.superUser with hnull | ⟨name, hname⟩
    · rw [hnull]
      exact ⟨"", rfl⟩
    · rw [hname, Value.orElse]
      split
      · exact ⟨name, rfl⟩
      · exact ⟨"", rfl⟩
  unfold fingerprint
  rw [hstr, hname]
  exact ⟨_, rfl⟩

/-- A fingerprint that fits is of an account that matches. -/
theorem matches_of_fits (hb : b.fingerprint = .ok current) (ha : a.fingerprint = .ok mark)
    (h : mark.fits current = true) : b.Matches a := by
  obtain ⟨s, u, hs, hu, rfl⟩ := fingerprint_eq_ok hb
  obtain ⟨t, v, ht, hv, rfl⟩ := fingerprint_eq_ok ha
  simp only [Fingerprint.fits, Bool.and_eq_true, beq_iff_eq] at h
  obtain ⟨⟨⟨⟨⟨⟨⟨⟨htoken, hrefresh⟩, hlogin⟩, hid⟩, hsecret⟩, huser⟩, hscopes⟩, hname⟩, hoptions⟩ := h
  exact ⟨⟨s, t, hs, ht, htoken.symm⟩, hrefresh, hlogin, hid, hsecret, huser, Text.sorted_eq_iff.mp hscopes,
    ⟨u, v, hu, hv, hname.symm⟩, Text.perm_of_sortedOn_eq hoptions⟩

/-- The fingerprint of an account that matches fits. -/
theorem fits_of_matches (hb : b.fingerprint = .ok current) (ha : a.fingerprint = .ok mark)
    (hkeys : (a.integrations.map Prod.fst).Nodup) (h : b.Matches a) : mark.fits current = true := by
  obtain ⟨s, u, hs, hu, rfl⟩ := fingerprint_eq_ok hb
  obtain ⟨t, v, ht, hv, rfl⟩ := fingerprint_eq_ok ha
  obtain ⟨s', t', hs', ht', htoken⟩ := h.token
  obtain ⟨u', v', hu', hv', hname⟩ := h.superUser
  rw [hs] at hs'
  rw [ht] at ht'
  rw [hu] at hu'
  rw [hv] at hv'
  cases hs'
  cases ht'
  cases hu'
  cases hv'
  simp only [Fingerprint.fits, Bool.and_eq_true, beq_iff_eq]
  exact ⟨⟨⟨⟨⟨⟨⟨⟨htoken.symm, h.refreshToken⟩, h.login⟩, h.clientId⟩, h.clientSecret⟩, h.botUserId⟩,
    Text.sorted_eq_iff.mpr h.scopes⟩, hname.symm⟩,
    (Text.sortedOn_eq_iff (List.inj_on_of_nodup_map hkeys)).mpr h.integrations⟩

end ChannelBot.Account
