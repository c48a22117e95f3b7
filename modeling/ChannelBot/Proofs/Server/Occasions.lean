/-
All that happens to a backend: requests, writings of settings, starts and readings, in any order. Each of
them leaves settings of which a reader sees what the rows say (`undergo_coherent`), so whoever reads, and
whoever is answered, learns what a fresh reading would give; and the number of the bot's user stays what
the last occasion that set it made it (`userId_of_keeps`).
-/
import ChannelBot.Proofs.Server.Coherence

namespace ChannelBot.Server

/-- What happens to a backend. -/
inductive Occasion where
  /-- A request comes. -/
  | asked (d : Delivery)
  /-- Settings are written. -/
  | written (updates : SettingRows)
  /-- Settings are taken over from an environment. -/
  | started (environment : List (String × String))
  /-- The settings are read. -/
  | read

namespace Backend

/-- What a backend holds after something happened. -/
def undergo (b : Backend) : Occasion → Backend
  | .asked d => (b.handle d.now d.answers d.request).1
  | .written updates => { b with settings := (b.settings.set updates).warm }
  | .started environment => match b.settings.bootstrap? environment with
    | some s => { b with settings := s }
    | none => b
  | .read => b.warm

/-- What a backend holds after several occasions. -/
def undergoAll (b : Backend) (occasions : List Occasion) : Backend := occasions.foldl undergo b

/-- The backend with nothing read of its settings. -/
def fresh (b : Backend) : Backend := { b with settings := b.settings.fresh }

/-- An occasion sets the number of the bot's user. -/
def Sets (b : Backend) : Occasion → Option String → Prop
  | .asked d, id => b.SetsUser d id
  | .written updates, id => updates.reverse.lookup "bot_user_id" = some id
  | .started _, _ | .read, _ => False

/-- None of the occasions sets the number of the bot's user. -/
def Keeps : Backend → List Occasion → Prop
  | _, [] => True
  | b, o :: rest => (∀ id, ¬ b.Sets o id) ∧ (b.undergo o).Keeps rest

/-- The number of the bot's user, as a reader sees it. -/
def userId (b : Backend) : Option String := b.setting? "bot_user_id"

variable {b : Backend} {o : Occasion}

theorem undergo_asked (b : Backend) (d : Delivery) : b.undergo (.asked d) = (b.handle d.now d.answers d.request).1 := rfl

theorem agrees_fresh (h : b.settings.Coherent) : b.fresh.Agrees b := ⟨rfl, h.agrees, rfl, rfl, rfl, rfl⟩

/-! ## One occasion -/

/-- Nothing that happens makes a reader see anything else than the rows say. -/
theorem undergo_coherent (h : b.settings.Coherent) (o : Occasion) : (b.undergo o).settings.Coherent := by
  cases o with
  | asked d =>
    rw [undergo_asked]
    by_cases hset : ∃ id, b.SetsUser d id
    · obtain ⟨id, hid⟩ := hset
      exact hid.puts.shown
    · exact h.of_agrees (settings_of_not_setsUser fun id hid => hset ⟨id, hid⟩)
  | written updates =>
    have hcold : (b.settings.set updates).Coherent := Settings.coherent_of_cold rfl
    exact hcold.of_agrees ⟨rfl, rfl⟩
  | started environment =>
    rw [undergo]
    split
    next s hstart =>
      obtain ⟨-, rfl⟩ := Settings.bootstrap?_eq_some_iff.mp hstart
      exact Settings.coherent_of_cold rfl
    next => exact h
  | read => exact h.of_agrees ⟨rfl, rfl⟩

theorem userId_congr {b' : Backend} (h : b.settings.Coherent) (h' : b'.settings.Coherent)
    (hrow : b'.settings.rows.lookup "bot_user_id" = b.settings.rows.lookup "bot_user_id") : b'.userId = b.userId := by
  rw [userId, userId, setting?, setting?, h'.value?_eq, h.value?_eq, Settings.reading_withDefaults_congr hrow]

/-- An occasion that sets the number of the bot's user makes it that, trimmed, and none if it is blank. -/
theorem Sets.userId_eq {id : Option String} (h : b.settings.Coherent) (hset : b.Sets o id) :
    (b.undergo o).userId = id.bind Settings.filled? := by
  cases o with
  | asked d =>
    have hputs := SetsUser.puts hset
    have hrow := hputs.rows "bot_user_id"
    rw [if_pos rfl] at hrow
    rw [undergo_asked, userId, setting?, hputs.shown.value?_eq, Settings.reading, Settings.lookup_withDefaults, hrow, Option.some_or]
    exact Settings.filled?_bind_filled? id
  | written updates =>
    have hlast : updates.reverse.lookup "bot_user_id" = some id := hset
    show (b.settings.set updates).warm.value? "bot_user_id" = _
    rw [Settings.value?_set h, hlast]
  | started environment => exact hset.elim
  | read => exact hset.elim

/-- Any other occasion leaves it. -/
theorem userId_of_not_sets (h : b.settings.Coherent) (hkept : ∀ id, ¬ b.Sets o id) : (b.undergo o).userId = b.userId := by
  refine userId_congr h (undergo_coherent h o) ?_
  cases o with
  | asked d => rw [undergo_asked, (settings_of_not_setsUser hkept).rows]
  | written updates =>
    have hnone : updates.reverse.lookup "bot_user_id" = none := Option.eq_none_iff_forall_ne_some.mpr hkept
    show (b.settings.set updates).rows.lookup "bot_user_id" = _
    rw [Settings.lookup_set, hnone, Option.map_none, Option.none_or]
  | started environment =>
    rw [undergo]
    split
    next s hstart =>
      obtain ⟨-, rfl⟩ := Settings.bootstrap?_eq_some_iff.mp hstart
      exact (Settings.lookup_started environment b.settings.rows "bot_user_id").trans (Settings.started_unmapped (by decide))
    next => rfl
  | read => rfl

/-! ## Any number of them -/

theorem undergoAll_coherent (h : b.settings.Coherent) (occasions : List Occasion) :
    (b.undergoAll occasions).settings.Coherent := by
  induction occasions generalizing b with
  | nil => exact h
  | cons o rest ih => exact ih (undergo_coherent h o)

/-- The number of the bot's user stays until it is set again. -/
theorem userId_of_keeps (h : b.settings.Coherent) {occasions : List Occasion} (hkept : b.Keeps occasions) :
    (b.undergoAll occasions).userId = b.userId := by
  induction occasions generalizing b with
  | nil => rfl
  | cons o rest ih =>
    obtain ⟨hfirst, hrest⟩ := hkept
    exact (ih (undergo_coherent h o) hrest).trans (userId_of_not_sets h hfirst)

/-- A reader of the configuration is shown the number of the bot's user. -/
theorem handle_shows_userId (b : Backend) (now : Moment) (answers : List HttpOutcome) {r : Request}
    (hrouted : r.endpoint? = some .showProfile) (hallowed : r.token = some adminToken) :
    ∃ fields, (b.handle now answers r).2.response = .ok (.obj fields) ∧
      Value.lookup? "bot_user_id" fields = b.userId.map .str := by
  have hhandle := b.handle_plain now answers hrouted (fun _ => hallowed) rfl
  have hkept := b.withProfile_unchanged
  have huser : b.withProfile.1.setting? "bot_user_id" = b.userId := by
    rw [userId, setting?, setting?, Settings.value?_eq, Settings.value?_eq, hkept.settings]
  refine ⟨Value.present (b.withProfile.1.profileTable b.withProfile.2), ?_, ?_⟩
  · rw [hhandle, ← profileValue_eq]
    rfl
  · rw [lookup?_profileTable, ← huser]
    rfl

/-! ## The settings are read fresh -/

/-- **Nobody is shown old settings.** Take any backend of whose settings nothing was read yet, and let
anything happen to it. A reader then sees what a fresh reading of the rows gives; a request is answered
like one of a backend of whose settings nothing was read; whoever gets to see the configuration sees the
settings as a fresh reading after the request gives them; a writing shows at once, trimmed, none for a blank
one, and leaves the others; and the number of the bot's user that was set is shown until it is set again. -/
theorem settings_are_read_fresh {b : Backend} (hcold : b.settings.cached = none) (occasions : List Occasion) :
    let held := b.undergoAll occasions
    (held.settings.current = held.settings.fresh.current ∧ held.settings.value? = held.settings.fresh.value? ∧
      held.settings.pieces = held.settings.fresh.pieces) ∧
    (∀ d : Delivery, Tally (held.fresh.handle d.now d.answers d.request) (held.handle d.now d.answers d.request)) ∧
    (∀ (d : Delivery) (e : Endpoint), e.ShowsProfile → d.request.endpoint? = some e →
      (held.handle d.now d.answers d.request).2.response.status = 200 →
      (held.undergo (.asked d)).fresh.Shows (held.handle d.now d.answers d.request).2.response) ∧
    (∀ (updates : SettingRows) (key : String), (held.undergo (.written updates)).setting? key =
      match updates.reverse.lookup key with
      | some value => value.bind Settings.filled?
      | none => held.setting? key) ∧
    ∀ (o : Occasion) (id : Option String) (later : List Occasion) (d : Delivery), held.Sets o id →
      (held.undergo o).Keeps later → d.request.endpoint? = some .showProfile → d.request.token = some adminToken →
      ∃ fields, (((held.undergo o).undergoAll later).handle d.now d.answers d.request).2.response = .ok (.obj fields) ∧
        Value.lookup? "bot_user_id" fields = (id.bind Settings.filled?).map .str := by
  intro held
  have hheld : held.settings.Coherent := undergoAll_coherent (Settings.coherent_of_cold hcold) occasions
  refine ⟨⟨hheld.agrees.current, hheld.agrees.value?_eq, hheld.agrees.pieces_eq⟩, fun d => ?_, fun d e he hrouted hok => ?_,
    fun updates key => Settings.value?_set hheld updates key, fun o id later d hset hkept hrouted hallowed => ?_⟩
  · exact handle_agrees (agrees_fresh hheld) d.now d.answers d.request
  · have hleft := undergo_coherent hheld (.asked d)
    rw [undergo_asked] at hleft ⊢
    exact (held.handle_shows d.now d.answers he hrouted hok).of_agrees (agrees_fresh hleft)
  · have hafter := undergo_coherent hheld o
    obtain ⟨fields, hresponse, hshown⟩ :=
      ((held.undergo o).undergoAll later).handle_shows_userId d.now d.answers hrouted hallowed
    rw [userId_of_keeps hafter hkept, hset.userId_eq hheld] at hshown
    exact ⟨fields, hresponse, hshown⟩

/-- A number is set, the settings are read, and the number is shown; a blank client id is none at once. -/
theorem settings_are_read_fresh_put :
    let body : Value := .obj [("bot_user_id", .str " 7 ")]
    let put : Delivery := ⟨⟨0⟩, [],
      { method := "PUT", target := "/bot/config", token := some adminToken, body := some (body.write Value.spaced) }⟩
    let get : Delivery := ⟨⟨1⟩, [], { method := "GET", target := "/bot/config", token := some adminToken }⟩
    let b : Backend := {}
    let held := b.undergoAll [.started [("TWITCH_CLIENT_ID", " id ")], .read]
    b.settings.cached = none ∧ held.Sets (.asked put) (some " 7 ") ∧
      (held.undergo (.asked put)).fresh.Shows (held.handle put.now put.answers put.request).2.response ∧
      held.setting? "twitch_client_id" = some "id" ∧
      (held.undergo (.written [("twitch_client_id", some " ")])).setting? "twitch_client_id" = none ∧
      ∃ fields, (((held.undergo (.asked put)).undergoAll [.read]).handle get.now get.answers get.request).2.response =
        .ok (.obj fields) ∧ Value.lookup? "bot_user_id" fields = some (.str "7") := by
  intro body put get b
  have hread : Content.read (some (body.write Value.spaced)) = .value body :=
    Content.read_write Json.separates_spaced (by simp [Value.IsPlain, Value.FieldsPlain])
  have hcontent : put.request.content .changeProfile = .value body := hread
  have hchanges : put.request.Changes ⟨none, none, none, none, some " 7 "⟩ :=
    ⟨by decide +kernel, rfl, by rw [hcontent]; rfl⟩
  have hget : get.request.endpoint? = some .showProfile := by decide +kernel
  have hclient : (b.undergoAll [.started [("TWITCH_CLIENT_ID", " id ")], .read]).setting? "twitch_client_id" = some "id" := by
    decide +kernel
  have htrimmed : (some " 7 ").bind Settings.filled? = some "7" ∧ (some " ").bind Settings.filled? = none := by decide +kernel
  have hmain := settings_are_read_fresh (b := b) rfl [.started [("TWITCH_CLIENT_ID", " id ")], .read]
  revert hclient hmain
  generalize b.undergoAll [.started [("TWITCH_CLIENT_ID", " id ")], .read] = held
  intro hclient hmain
  dsimp only at hmain ⊢
  obtain ⟨-, -, hshows, hwritten, huser⟩ := hmain
  have hsets : held.Sets (.asked put) (some " 7 ") := .change hchanges rfl
  have hok : (held.handle put.now put.answers put.request).2.response.status = 200 := by
    rw [handle_changes hchanges]
    rfl
  have hshown := huser (.asked put) (some " 7 ") [.read] get hsets ⟨fun _ h => h, trivial⟩ hget rfl
  rw [htrimmed.1] at hshown
  exact ⟨rfl, hsets, hshows put .changeProfile trivial hchanges.routed hok, hclient,
    (hwritten [("twitch_client_id", some " ")] "twitch_client_id").trans htrimmed.2, hshown⟩

end Backend

end ChannelBot.Server
