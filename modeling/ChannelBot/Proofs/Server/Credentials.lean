/-
The music credentials that the backend finds under the name of a channel (`credentialOf?`). They are what
is shown (`handle_showsCredential`), and new tokens go into them or, where there are none, nowhere
(`changeCredential_found`, `changeCredential_lacking`).
-/
import ChannelBot.Proofs.Server.Occasions

namespace ChannelBot.Server

/-- A request that puts new tokens into the music credentials of a channel. -/
structure Request.RenewsMusic (r : Request) (channel : String) (p : MusicTokens) : Prop where
  routed : r.endpoint? = some (.changeCredential channel)
  allowed : r.token = some adminToken
  said : (r.content (.changeCredential channel)).check MusicTokens.read = .valid p

/-- Credentials with new tokens in them. -/
def Credential.renewed (k : Credential) (p : MusicTokens) : Credential :=
  ⟨some p.access, (p.refresh.filter (!·.isEmpty)).getD k.refresh, p.expiresAt.map (·.shown)⟩

namespace Tables

variable {t : Tables} {name : String}

/-- The music credentials that are found under the name of a channel. -/
def credentialOf? (t : Tables) (name : String) : Option Credential :=
  match t.channel name with
  | .found c => t.credential? c.id
  | .absent | .ambiguous => none

theorem withCredential_of_some {k : Credential} (h : t.credentialOf? name = some k) :
    ∃ c, t.channel name = .found c ∧ ∀ use, t.withCredential name use = use c k := by
  rw [credentialOf?] at h
  cases hchannel : t.channel name with
  | found c =>
    rw [hchannel] at h
    have hk : t.credential? c.id = some k := h
    refine ⟨c, rfl, fun use => ?_⟩
    rw [withCredential, withChannel, hchannel, withOne, hk]
  | absent | ambiguous =>
    rw [hchannel] at h
    cases h

theorem withCredential_of_none (h : t.credentialOf? name = none) :
    ∃ response : Response, 400 ≤ response.status ∧ ∀ use, t.withCredential name use = (t, response) := by
  rw [credentialOf?] at h
  cases hchannel : t.channel name with
  | found c =>
    rw [hchannel] at h
    have hk : t.credential? c.id = none := h
    refine ⟨.missing "spotify not configured", by decide, fun use => ?_⟩
    rw [withCredential, withChannel, hchannel, withOne, hk]
  | absent =>
    refine ⟨.missing "channel not found", by decide, fun use => ?_⟩
    rw [withCredential, withChannel, hchannel, withOne]
  | ambiguous =>
    refine ⟨.crash, by decide, fun use => ?_⟩
    rw [withCredential, withChannel, hchannel, withOne]

/-- New tokens go into the credentials that are found. -/
theorem changeCredential_found {k : Credential} (p : MusicTokens) (h : t.credentialOf? name = some k) :
    (t.changeCredential name p).1.credentialOf? name = some (k.renewed p) ∧
      (t.changeCredential name p).2 = .ok (k.renewed p).toValue := by
  obtain ⟨c, hchannel, heq⟩ := withCredential_of_some h
  have hdone : t.changeCredential name p = (t.putCredential c.id (k.renewed p), .ok (k.renewed p).toValue) := by
    refine (heq _).trans ?_
    rw [Credential.renewed]
    cases p.refresh with
    | none => rfl
    | some r => cases hempty : r.isEmpty <;> simp [Option.filter, hempty]
  have hsame : (t.putCredential c.id (k.renewed p)).channel name = .found c := hchannel
  refine ⟨?_, by rw [hdone]⟩
  rw [hdone, credentialOf?, hsame]
  exact t.credential?_putCredential c.id (k.renewed p)

/-- Where no credentials are found, new tokens are refused. -/
theorem changeCredential_lacking (p : MusicTokens) (h : t.credentialOf? name = none) :
    ∃ response : Response, 400 ≤ response.status ∧ t.changeCredential name p = (t, response) := by
  obtain ⟨response, hstatus, heq⟩ := withCredential_of_none h
  exact ⟨response, hstatus, heq _⟩

end Tables

namespace Backend

variable {b : Backend} {d : Delivery} {channel : String}

theorem handle_renewsMusic {p : MusicTokens} (h : d.request.RenewsMusic channel p) :
    b.handle d.now d.answers d.request = replying (b.onTables (·.changeCredential channel p)) := by
  rw [b.handle_said d.now d.answers h.routed h.allowed h.said, serve, h.said]
  rfl

/-- Credentials that are found are shown. -/
theorem handle_showsCredential {k : Credential} (hkept : b.tables.credentialOf? channel = some k)
    (hrouted : d.request.endpoint? = some (.showCredential channel)) (hallowed : d.request.token = some adminToken) :
    b.answer d = .ok k.toValue := by
  obtain ⟨c, -, hshown⟩ := Tables.withCredential_of_some hkept
  have hserved : b.answer d = (b.tables.showCredential channel).2 := by
    rw [answer, b.handle_plain d.now d.answers hrouted (fun _ => hallowed) rfl]
    rfl
  rw [hserved, Tables.showCredential, hshown]

end Backend

end ChannelBot.Server
