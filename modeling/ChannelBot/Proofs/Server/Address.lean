/-
The address that a question to the store travels under, and where the server takes it. A name of
a path is written with escapes, but a path is decoded before it is cut, so the server sees the
name again only if it holds no slash; then the question reaches the endpoint that is meant
(`reaches_iff`).
-/
import ChannelBot.Proofs.Text.Percent
import ChannelBot.Server.Request
import ChannelBot.Server.Route
import ChannelBot.Store.Query

namespace ChannelBot

namespace Server

namespace Endpoint

/-- The names that the path gave. -/
def names : Endpoint → List String
  | .commandsPage c | .showChannel c | .removeChannel c | .changeSigil c | .listCommands c | .addCommand c
  | .addRedeem c | .showCredential c | .changeCredential c | .startMusic c => [c]
  | .showCommand c t | .removeCommand c t | .showRedeem c t | .removeRedeem c t | .addTarget c t
  | .showTarget c t | .changeTarget c t => [c, t]
  | _ => []

end Endpoint

namespace Route

/-- A text that can be one segment of a path: not empty, and without slashes. -/
def IsName (s : String) : Prop := s ≠ "" ∧ '/' ∉ s.toList

instance (s : String) : Decidable (IsName s) := inferInstanceAs (Decidable (_ ∧ _))

/-! ## Cutting a path -/

theorem pieces_of_not_mem {s : List Char} (h : '/' ∉ s) : pieces '/' s = [s] := by
  induction s with
  | nil => rfl
  | cons c rest ih =>
    rw [List.mem_cons, not_or] at h
    rw [pieces, if_neg (by simpa using Ne.symm h.1), ih h.2]

theorem pieces_ne_nil (s : List Char) : pieces '/' s ≠ [] := by
  fun_cases pieces '/' s <;> simp

theorem pieces_append (s rest : List Char) : pieces '/' (s ++ '/' :: rest) = pieces '/' s ++ pieces '/' rest := by
  induction s with
  | nil => rfl
  | cons c cs ih =>
    obtain ⟨p, ps, hps⟩ := List.exists_cons_of_ne_nil (pieces_ne_nil cs)
    rw [List.cons_append, pieces, pieces, ih, hps]
    split <;> rfl

/-- A path of these segments. -/
def joined (segments : List String) : List Char := segments.flatMap fun s => '/' :: s.toList

/-- A path is cut where its segments begin, and at the slashes in them. -/
theorem pieces_joined (first : List Char) (ss : List String) :
    pieces '/' (first ++ joined ss) = pieces '/' first ++ ss.flatMap fun s => pieces '/' s.toList := by
  induction ss generalizing first with
  | nil => rw [joined, List.flatMap_nil, List.flatMap_nil, List.append_nil, List.append_nil]
  | cons s rest ih => rw [joined, List.flatMap_cons, List.cons_append, pieces_append, ← joined, ih, List.flatMap_cons]

theorem flatMap_pieces {ss : List String} (h : ∀ s ∈ ss, '/' ∉ s.toList) :
    ss.flatMap (fun s => pieces '/' s.toList) = ss.map String.toList := by
  induction ss with
  | nil => rfl
  | cons s rest ih =>
    rw [List.flatMap_cons, pieces_of_not_mem (h s List.mem_cons_self), ih fun x hx => h x (List.mem_cons_of_mem _ hx)]
    rfl

theorem segments_joined (ss : List String) :
    segments (.ofList (joined ss)) = (ss.flatMap fun s => pieces '/' s.toList).map .ofList := by
  have hcut := pieces_joined [] ss
  rw [List.nil_append] at hcut
  rw [segments, String.toList_ofList, hcut]
  rfl

theorem segments_joined_plain {ss : List String} (h : ∀ s ∈ ss, '/' ∉ s.toList) :
    segments (.ofList (joined ss)) = ss := by
  rw [segments_joined, flatMap_pieces h, List.map_map]
  simp

theorem not_mem_pieces {s p : List Char} (h : p ∈ pieces '/' s) : '/' ∉ p := by
  induction s generalizing p with
  | nil =>
    rw [pieces, List.mem_singleton] at h
    rw [h]
    exact List.not_mem_nil
  | cons c rest ih =>
    rw [pieces] at h
    split at h
    · rcases List.mem_cons.mp h with rfl | h
      · exact List.not_mem_nil
      · exact ih h
    · rename_i hc
      have hslash : '/' ≠ c := fun heq => hc (beq_iff_eq.mpr heq.symm)
      split at h
      · rename_i q qs hq
        rcases List.mem_cons.mp h with rfl | h
        · rw [List.mem_cons, not_or]
          exact ⟨hslash, ih (hq ▸ List.mem_cons_self)⟩
        · exact ih (hq ▸ List.mem_cons_of_mem _ h)
      · rw [List.mem_singleton] at h
        rw [h, List.mem_singleton]
        exact hslash

theorem segments_no_slash {path s : String} (h : s ∈ segments path) : '/' ∉ s.toList := by
  obtain ⟨p, hp, rfl⟩ := List.mem_map.mp h
  rw [String.toList_ofList]
  exact not_mem_pieces (List.mem_of_mem_drop hp)

/-! ## What an address gives -/

theorem belowChannel_names {channel : String} {ss : List String} :
    ∀ e ∈ (belowChannel channel ss).map (·.2), ∀ n ∈ e.names, n = channel ∨ n ∈ ss ∧ n ≠ "" := by
  fun_cases belowChannel channel ss <;> simp_all [Endpoint.names]

theorem atSegments_names {ss : List String} :
    ∀ e ∈ (atSegments ss).map (·.2), ∀ n ∈ e.names, n ∈ ss ∧ n ≠ "" := by
  fun_cases atSegments ss
  case case13 channel rest _ hne =>
    intro e he n hn
    rcases belowChannel_names e he n hn with rfl | ⟨hmem, hne'⟩
    · exact ⟨List.mem_cons_of_mem _ List.mem_cons_self, by simpa using hne⟩
    · exact ⟨List.mem_cons_of_mem _ (List.mem_cons_of_mem _ hmem), hne'⟩
  all_goals simp_all [Endpoint.names]

/-- Whatever the server does at an address, the names that it was given are single segments. -/
theorem choices_names {path : String} : ∀ e ∈ (choices path).map (·.2), ∀ n ∈ e.names, IsName n := by
  have hat : ∀ path : String, ∀ e ∈ (atSegments (segments path)).map (·.2), ∀ n ∈ e.names, IsName n := by
    intro path e he n hn
    obtain ⟨hmem, hne⟩ := atSegments_names e he n hn
    exact ⟨hne, segments_no_slash hmem⟩
  intro e he
  rw [choices] at he
  split at he
  · split at he
    · exact hat _ e he
    · simp at he
  · exact hat path e he

end Route

end Server

/-! ## Questions to the store -/

namespace StoreQuery

open Server (Endpoint Request)
open Server.Route (IsName joined choices)

/-- What the server is to do about a question. -/
def endpoint : StoreQuery → Endpoint
  | .botConfig => .showProfile
  | .updateBotTokens .. => .changeTokens
  | .pushLog .. => .pushLog
  | .channels => .listChannels
  | .addChannel .. => .addChannel
  | .removeChannel c => .removeChannel c
  | .sigilOf c => .showChannel c
  | .command t c => .showCommand c t
  | .commands c => .listCommands c
  | .addCommand _ _ c _ => .addCommand c
  | .deleteCommand t c => .removeCommand c t
  | .redeem t c => .showRedeem c t
  | .addRedeem _ _ c => .addRedeem c
  | .deleteRedeem t c => .removeRedeem c t
  | .addTarget c u => .addTarget c u
  | .isProtected c u => .showTarget c u
  | .setProtection c u _ _ => .changeTarget c u
  | .spotifyTokens c => .showCredential c
  | .refreshTokens => .listRefreshTokens
  | .updateSpotifyToken c _ _ _ => .changeCredential c

/-- The segments of the path of a question. -/
def segments : StoreQuery → List String
  | .botConfig => ["bot", "config"]
  | .updateBotTokens .. => ["bot", "config", "tokens"]
  | .pushLog .. => ["bot", "logs"]
  | .channels | .addChannel .. => ["channels"]
  | .removeChannel c | .sigilOf c => ["channels", c]
  | .command t c | .deleteCommand t c => ["channels", c, "commands", t]
  | .commands c | .addCommand _ _ c _ => ["channels", c, "commands"]
  | .redeem t c | .deleteRedeem t c => ["channels", c, "redeems", t]
  | .addRedeem _ _ c => ["channels", c, "redeems"]
  | .addTarget c u | .isProtected c u | .setProtection c u _ _ => ["channels", c, "hitman", u]
  | .spotifyTokens c => ["channels", c, "spotify"]
  | .updateSpotifyToken c _ _ _ => ["channels", c, "spotify", "token"]
  | .refreshTokens => ["spotify", "refresh_tokens"]

/-- The fixed words of the paths are written as they are. -/
theorem encode_words : ∀ w ∈ ["bot", "config", "tokens", "logs", "channels", "commands", "redeems", "hitman",
    "spotify", "token", "refresh_tokens"], Percent.encode w = w := by decide

/-- A path is its segments, each as it is written. -/
theorem request_path (q : StoreQuery) :
    q.request.path.toList = q.segments.flatMap fun s => '/' :: (Percent.encode s).toList := by
  have hwords := encode_words
  simp only [List.forall_mem_cons, List.not_mem_nil, false_implies, implies_true, and_true] at hwords
  obtain ⟨hbot, hconfig, htokens, hlogs, hchannels, hcommands, hredeems, hhitman, hspotify, htoken, hrefresh⟩ :=
    hwords
  cases q <;> simp [request, segments, channelPath, itemPath, hbot, hconfig, htokens, hlogs, hchannels, hcommands,
    hredeems, hhitman, hspotify, htoken, hrefresh]

theorem bytes_segments (ss : List String) :
    Percent.bytes (ss.flatMap fun s => '/' :: (Percent.encode s).toList) = Utf8.encode (joined ss) := by
  induction ss with
  | nil => rfl
  | cons s rest ih =>
    rw [List.flatMap_cons, List.cons_append, Percent.bytes_cons_of_ne (by decide), Percent.bytes_encode, ih, joined,
      joined, List.flatMap_cons, List.cons_append, Utf8.encode, Utf8.encode, Utf8.encode, List.flatMap_cons,
      List.flatMap_append]

/-- The server sees the segments again, but no longer where an escaped slash was none of theirs. -/
theorem path_eq {q : StoreQuery} {r : Request} (h : r.target = q.request.path) :
    r.path = .ofList (joined q.segments) := by
  have hall : ∀ c ∈ q.request.path.toList, (c != '?') = true := by
    intro c hc
    rw [request_path, List.mem_flatMap] at hc
    obtain ⟨s, -, hc⟩ := hc
    rcases List.mem_cons.mp hc with rfl | hc
    · decide
    · exact bne_iff_ne.mpr (Percent.encode_no_separator hc).2
  have htake : q.request.path.toList.takeWhile (· != '?') = q.request.path.toList := by
    have happend := @List.takeWhile_append_of_pos _ (· != '?') q.request.path.toList [] hall
    rwa [List.append_nil, List.takeWhile_nil, List.append_nil] at happend
  rw [Request.path, h, htake, String.ofList_toList, Percent.decode, request_path, bytes_segments, Utf8.decode_encode]

theorem choices_joined {ss : List String} (hss : ∀ s ∈ ss, '/' ∉ s.toList) (hne : Server.Route.atSegments ss ≠ []) :
    choices (.ofList (joined ss)) = Server.Route.atSegments ss := by
  rw [choices, Server.Route.segments_joined_plain hss]
  split
  · contradiction
  · rfl

theorem segments_no_slash {q : StoreQuery} (h : ∀ n ∈ q.endpoint.names, '/' ∉ n.toList) :
    ∀ s ∈ q.segments, '/' ∉ s.toList := by
  have hwords : ∀ w ∈ ["bot", "config", "tokens", "logs", "channels", "commands", "redeems", "hitman",
      "spotify", "token", "refresh_tokens"], '/' ∉ w.toList := by decide
  simp only [List.forall_mem_cons, List.not_mem_nil, false_implies, implies_true, and_true] at hwords
  cases q <;> simp only [endpoint, Endpoint.names, segments, List.forall_mem_cons, List.not_mem_nil,
    false_implies, implies_true, and_true] at h ⊢ <;> simp only [h, hwords, not_false_eq_true, and_self]

theorem lookup_atSegments {q : StoreQuery} (h : ∀ n ∈ q.endpoint.names, n ≠ "") :
    (Server.Route.atSegments q.segments).lookup q.request.method = some q.endpoint := by
  cases q <;> simp only [endpoint, Endpoint.names, List.forall_mem_cons, List.not_mem_nil, false_implies,
    implies_true, and_true] at h <;>
    simp [segments, request, endpoint, Server.Route.atSegments, Server.Route.belowChannel, List.lookup_cons, h]

/-- **A question reaches the endpoint that is meant exactly if its names are not empty and hold no
slashes.** -/
theorem reaches_iff {q : StoreQuery} {r : Request} (hmethod : r.method = q.request.method)
    (htarget : r.target = q.request.path) :
    (choices r.path).lookup r.method = some q.endpoint ↔ ∀ n ∈ q.endpoint.names, IsName n := by
  rw [path_eq htarget, hmethod]
  constructor
  · intro h
    obtain ⟨before, after, hlist, -⟩ := List.lookup_eq_some_iff.mp h
    have hmem : (q.request.method, q.endpoint) ∈ choices (.ofList (joined q.segments)) := by
      rw [hlist]
      exact List.mem_append_right _ List.mem_cons_self
    exact Server.Route.choices_names q.endpoint (List.mem_map_of_mem hmem)
  · intro h
    have hlookup := lookup_atSegments fun n hn => (h n hn).1
    rw [choices_joined (segments_no_slash fun n hn => (h n hn).2), hlookup]
    intro hnone
    rw [hnone] at hlookup
    cases hlookup

end StoreQuery

end ChannelBot
