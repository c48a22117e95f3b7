/-
The pages that the backend serves. Every page that it answers with is one of a few kinds, told by the endpoint, the
status and, for a listing, the number of the channel's commands (`answer_page`). So no text that is stored or asked
for has a part in the tags of a page, and a listing is read back as the channel's commands in the order of their
triggers (`stored_text_is_no_markup`).
-/
import ChannelBot.Proofs.Server.History
import ChannelBot.Proofs.Server.PageMarkup
import ChannelBot.Proofs.Server.Reachable
import ChannelBot.Proofs.Text.Order

namespace ChannelBot.Server

/-- The page of an answer, if it is one. -/
def Response.page? (r : Response) : Option String :=
  match r.body with
  | .page html => some html
  | _ => none

theorem Response.ofViolations_page? (violations : List Violation) : (ofViolations violations).page? = none := by
  rw [ofViolations]
  split <;> rfl

/-- Which page stands at an endpoint under a status, if so many commands are listed there. -/
def Page.Kind.at? (status listed : Nat) : Endpoint → Option Page.Kind
  | .front => some .front
  | .commandsPage _ => some (if status = 200 then .commands listed else .unknownChannel)
  | .botCallback => some (if status = 200 then .authorized else .failed)
  | .musicCallback => some (if status = 200 then .connected else .failed)
  | _ => none

/-! ## Answers about the tables -/

namespace Tables

variable {t : Tables}

/-- The commands that are stored for a channel. -/
def listed (t : Tables) (name : String) : List (OwnedRow CommandContent) :=
  match t.channel name with
  | .found c => OwnedRow.ofOwner c.id t.commands
  | .absent | .ambiguous => []

/-- The row of cells that shows a command of a channel. -/
def cells (c : ChannelRow) (r : OwnedRow CommandContent) : List String :=
  [c.sigil ++ r.key, r.content.body, r.content.permission.name]

theorem commandsPage_found {name : String} {c : ChannelRow} (h : t.channel name = .found c) :
    t.commandsPage name = ⟨200, .page (Page.commands c.name
      ((Text.sortedOn (·.key) (OwnedRow.ofOwner c.id t.commands)).map (cells c)))⟩ := by
  rw [commandsPage, h]
  rfl

theorem withOne_page? {α : Type} {missing : String} {use : α → Tables × Response} {s : Search α}
    (h : ∀ a, (use a).2.page? = none) : (t.withOne missing use s).2.page? = none := by
  cases s with
  | found a => exact h a
  | absent | ambiguous => rfl

theorem withChannel_page? {name : String} {use : ChannelRow → Tables × Response}
    (h : ∀ c, (use c).2.page? = none) : (t.withChannel name use).2.page? = none := withOne_page? h

theorem writeTarget_page? (owner : Nat) (user : String) (change : TargetFlags → TargetFlags) :
    (t.writeTarget owner user change).2.page? = none := by
  rw [writeTarget]
  split
  next => rfl
  next => dsimp only; split <;> rfl
  next => rfl

theorem withCredential_page? {name : String} {use : ChannelRow → Credential → Tables × Response}
    (h : ∀ c k, (use c k).2.page? = none) : (t.withCredential name use).2.page? = none := by
  refine withChannel_page? fun c => ?_
  split
  next k _ => exact h c k
  next => rfl

end Tables

/-- No call is answered with a page. -/
theorem Call.act_page? (c : Call) (t : Tables) : (c.act t).2.page? = none := by
  cases c with
  | listChannels => rfl
  | addChannel p =>
    rw [act, Tables.addChannel]
    split
    next => split <;> rfl
    next => rfl
    next => rfl
  | showChannel | changeSigil | removeChannel | listCommands => exact Tables.withChannel_page? fun _ => rfl
  | addCommand =>
    refine Tables.withChannel_page? fun c => ?_
    dsimp only
    split <;> rfl
  | addRedeem =>
    refine Tables.withChannel_page? fun c => ?_
    split <;> rfl
  | showCommand | removeCommand | showRedeem | removeRedeem | showTarget =>
    exact Tables.withChannel_page? fun _ => Tables.withOne_page? fun _ => rfl
  | addTarget | changeTarget => exact Tables.withChannel_page? fun _ => Tables.writeTarget_page? _ _ _

/-! ## Answers to callbacks -/

namespace Authorization

variable {b : Backend} {html : String}

theorem TradeFault.response_page {provider : String} {f : TradeFault} (h : (f.response provider).page? = some html) :
    (f.response provider).status ≠ 200 ∧ Page.Is .failed html := by
  cases f with
  | provider =>
    obtain rfl := Option.some.inj h
    exact ⟨(by decide : 502 ≠ 200), .failed _⟩
  | crash => cases h

theorem refused_page {status : Nat} {reason : String} (hstatus : status ≠ 200)
    (h : (refused status reason).page? = some html) :
    (refused status reason).status ≠ 200 ∧ Page.Is .failed html := by
  obtain rfl := Option.some.inj h
  exact ⟨hstatus, .failed _⟩

/-- A start sends the browser away, or refuses. -/
theorem startBot_page? (b : Backend) (now : Moment) (origin : String) : (startBot b now origin).2.page? = none := by
  rw [startBot]
  dsimp only
  split <;> rfl

theorem startMusic_page? (b : Backend) (now : Moment) (origin channel : String) :
    (startMusic b now origin channel).2.page? = none := by
  rw [startMusic]
  split
  next => rfl
  next => rfl
  next =>
    dsimp only
    split <;> rfl

/-- The page that a callback shows: that of its success, or that of a failure. -/
def Shows (done : Page.Kind) (answer : Response) : Prop :=
  ∀ html, answer.page? = some html →
    Page.Is (if answer.status = 200 then done else .failed) html

theorem Shows.of_failed {done : Page.Kind} {answer : Response}
    (h : ∀ html, answer.page? = some html → answer.status ≠ 200 ∧ Page.Is .failed html) : Shows done answer := by
  intro html hpage
  obtain ⟨hstatus, hfailed⟩ := h html hpage
  rwa [if_neg hstatus]

theorem Shows.crash {done : Page.Kind} : Shows done .crash := fun _ h => nomatch h

theorem botCallback_shows (b : Backend) (now : Moment) (origin : String) (answers : List HttpOutcome)
    (code state : String) : Shows .authorized (botCallback b now origin answers code state).2.response := by
  have hfinish : ∀ b' grant owner access, Shows .authorized (finishBot b' now grant owner access).2 := by
    intro b' grant owner access
    rw [finishBot]
    dsimp only
    split
    next => exact .of_failed fun _ => TradeFault.response_page
    next p _ =>
      intro html h
      obtain rfl := Option.some.inj h
      exact .authorized _
  rw [botCallback_eq]
  split
  next => exact .of_failed fun _ => refused_page (by decide)
  next =>
    dsimp only
    split
    next => exact .of_failed fun _ => TradeFault.response_page
    next grant access owner _ => exact hfinish _ grant owner access
  next => exact .of_failed fun _ => refused_page (by decide)

theorem musicCallback_shows (b : Backend) (now : Moment) (origin : String) (answers : List HttpOutcome)
    (code state : String) : Shows .connected (musicCallback b now origin answers code state).2.response := by
  rw [musicCallback_eq]
  dsimp only
  split
  next =>
    split
    next => exact .of_failed fun _ => refused_page (by decide)
    next => exact .crash
    next c _ =>
      split
      next => exact .of_failed fun _ => TradeFault.response_page
      next =>
        intro html h
        obtain rfl := Option.some.inj h
        exact .connected _
  next => exact .of_failed fun _ => refused_page (by decide)

end Authorization

/-! ## Served pages -/

namespace Backend

variable {b : Backend} {html : String}

/-- How many commands a request lists at an endpoint. -/
def listedAt (b : Backend) : Endpoint → Nat
  | .commandsPage name => (b.tables.listed name).length
  | _ => 0

theorem showLog_page? (b : Backend) (limit : Int) : (b.showLog limit).page? = none := by
  rw [showLog]
  split <;> rfl

theorem checked_page? {α : Type} {c : Checked α} {use : α → Backend × Reply}
    (h : ∀ a, (use a).2.response.page? = none) : (b.checked c use).2.response.page? = none := by
  cases c with
  | valid a => exact h a
  | invalid vs => exact Response.ofViolations_page? vs

/-- A callback that answers with a page has gone on. -/
theorem callback_page {r : Request} {use : String → String → Backend × Reply} {done : Page.Kind}
    (h : ∀ code state, Authorization.Shows done (use code state).2.response) :
    Authorization.Shows done (b.callback r use).2.response := by
  rw [callback]
  cases ((r.parameter "code").map Prod.mk).also (r.parameter "state") with
  | valid given => exact h given.1 given.2
  | invalid vs =>
    intro html hpage
    have hrefused : (Response.ofViolations vs).page? = some html := hpage
    rw [Response.ofViolations_page?] at hrefused
    cases hrefused

theorem commandsPage_page {t : Tables} {name : String} (h : (t.commandsPage name).page? = some html) :
    Page.Is (if (t.commandsPage name).status = 200 then .commands (t.listed name).length else .unknownChannel)
      html := by
  cases hfound : t.channel name with
  | absent =>
    rw [Tables.commandsPage, hfound] at h ⊢
    obtain rfl := Option.some.inj h
    exact .unknownChannel name
  | ambiguous =>
    rw [Tables.commandsPage, hfound] at h
    cases h
  | found c =>
    rw [Tables.commandsPage_found hfound] at h ⊢
    obtain rfl := Option.some.inj h
    have hthree : ∀ cells ∈ (Text.sortedOn (·.key) (OwnedRow.ofOwner c.id t.commands)).map (Tables.cells c),
        cells.length = 3 := by
      intro cells hcells
      obtain ⟨r, -, rfl⟩ := List.mem_map.mp hcells
      rfl
    have hpage := Page.Is.commands c.name hthree
    rw [List.length_map, (Text.sortedOn_perm _ _).length_eq] at hpage
    rwa [if_pos rfl, Tables.listed, hfound]

/-- What is served at an endpoint is no page, or the one that stands there. -/
theorem serve_page (b : Backend) (now : Moment) (answers : List HttpOutcome) (r : Request) (content : Content)
    (e : Endpoint) (h : (b.serve now answers r content e).2.response.page? = some html) :
    ∃ kind, Page.Kind.at? (b.serve now answers r content e).2.response.status (b.listedAt e) e = some kind ∧
      Page.Is kind html := by
  have hcall : ∀ c : Call, (b.serve now answers r content e).2.response = (c.act b.tables).2 →
      (b.serve now answers r content e).2.response.page? = none := fun c hserve => hserve ▸ c.act_page? b.tables
  have hother : (b.serve now answers r content e).2.response.page? = none →
      ∃ kind, Page.Kind.at? (b.serve now answers r content e).2.response.status (b.listedAt e) e = some kind ∧
        Page.Is kind html := fun hnone => nomatch hnone.symm.trans h
  cases e with
  | front =>
    obtain rfl := Option.some.inj h
    exact ⟨.front, rfl, .front⟩
  | commandsPage name => exact ⟨_, rfl, commandsPage_page h⟩
  | botCallback =>
    rw [serve] at h ⊢
    refine ⟨_, rfl, ?_⟩
    exact callback_page (Authorization.botCallback_shows b now r.origin answers) html h
  | musicCallback =>
    rw [serve] at h ⊢
    refine ⟨_, rfl, ?_⟩
    exact callback_page (Authorization.musicCallback_shows b now r.origin answers) html h
  | health | showProfile | streamLog | listRefreshTokens => exact hother rfl
  | changeProfile | changeTokens | pushLog => exact hother (checked_page? fun _ => rfl)
  | showLog =>
    rw [serve] at h
    rw [checked_page? fun limit => b.showLog_page? limit] at h
    cases h
  | listChannels => exact hother (hcall .listChannels rfl)
  | showChannel c => exact hother (hcall (.showChannel c) rfl)
  | removeChannel c => exact hother (hcall (.removeChannel c) rfl)
  | listCommands c => exact hother (hcall (.listCommands c) rfl)
  | showCommand c k => exact hother (hcall (.showCommand c k) rfl)
  | removeCommand c k => exact hother (hcall (.removeCommand c k) rfl)
  | showRedeem c k => exact hother (hcall (.showRedeem c k) rfl)
  | removeRedeem c k => exact hother (hcall (.removeRedeem c k) rfl)
  | addTarget c u => exact hother (hcall (.addTarget c u) rfl)
  | showTarget c u => exact hother (hcall (.showTarget c u) rfl)
  | addChannel => exact hother (checked_page? fun p => (Call.addChannel p).act_page? b.tables)
  | changeSigil c => exact hother (checked_page? fun s => (Call.changeSigil c s).act_page? b.tables)
  | addCommand c => exact hother (checked_page? fun p => (Call.addCommand c p).act_page? b.tables)
  | addRedeem c => exact hother (checked_page? fun p => (Call.addRedeem c p).act_page? b.tables)
  | changeTarget c u => exact hother (checked_page? fun p => (Call.changeTarget c u p).act_page? b.tables)
  | showCredential c => exact hother (Tables.withCredential_page? fun _ _ => rfl)
  | changeCredential c => exact hother (checked_page? fun p => Tables.withCredential_page? fun _ _ => rfl)
  | startBot => exact hother (Authorization.startBot_page? b now r.origin)
  | startMusic c => exact hother (Authorization.startMusic_page? b now r.origin c)

theorem serveGuarded_page (b : Backend) (now : Moment) (answers : List HttpOutcome) (r : Request) (e : Endpoint)
    (h : (b.serveGuarded now answers r e).2.response.page? = some html) :
    b.serveGuarded now answers r e = b.serve now answers r (r.content e) e := by
  rw [serveGuarded, ← Request.content] at h ⊢
  cases hcontent : r.content e with
  | broken | unreadable =>
    rw [hcontent] at h
    cases h
  | none | value v =>
    rw [hcontent] at h
    dsimp only at h ⊢
    split at h
    next => cases h
    next hallowed => rw [if_neg hallowed]

/-- An answer that is a page comes from an endpoint, and is the page that stands there. -/
theorem answer_page (b : Backend) (d : Delivery) (h : (b.answer d).page? = some html) :
    ∃ e kind, d.request.endpoint? = some e ∧
      Page.Kind.at? (b.answer d).status (b.listedAt e) e = some kind ∧ Page.Is kind html := by
  rw [Request.endpoint?]
  unfold answer handle at h ⊢
  split at h
  next hnone =>
    split at h <;> cases h
  next =>
    split at h
    next e hrouted =>
      have hserved := b.serveGuarded_page d.now d.answers d.request e h
      rw [hserved] at h ⊢
      obtain ⟨kind, hkind, hpage⟩ := b.serve_page d.now d.answers d.request (d.request.content e) e h
      exact ⟨e, kind, hrouted, hkind, hpage⟩
    next => cases h

end Backend

/-! ## Stored text is no markup -/

/-- The commands of a channel in the order of their triggers: each once, and none twice if the tables are sound. -/
theorem Tables.sorted_commands (t : Tables) (owner : Nat) :
    let stored := Text.sortedOn (·.key) (OwnedRow.ofOwner owner t.commands)
    stored.Perm (OwnedRow.ofOwner owner t.commands) ∧ stored.Pairwise (fun r s => r.key ≤ s.key) ∧
      (t.Sound → stored.Pairwise fun r s => r.key < s.key) := by
  intro stored
  have hperm : stored.Perm (OwnedRow.ofOwner owner t.commands) := Text.sortedOn_perm _ _
  have hsorted : stored.Pairwise fun r s => r.key ≤ s.key := Text.pairwise_sortedOn _ _
  refine ⟨hperm, hsorted, fun hsound => ?_⟩
  have hkeys : (OwnedRow.ofOwner owner t.commands).Pairwise fun r s => r.key ≠ s.key := by
    have hunique : t.commands.Pairwise fun r s => (r.owner, r.key) ≠ (s.owner, s.key) :=
      List.pairwise_map.mp hsound.commands.unique
    refine (hunique.sublist List.filter_sublist).imp_of_mem fun hr hs hne hkey => hne ?_
    have howner : ∀ r ∈ OwnedRow.ofOwner owner t.commands, r.owner = owner := fun r hr => by
      simpa using (List.mem_filter.mp hr).2
    rw [howner _ hr, howner _ hs, hkey]
  have hdistinct : stored.Pairwise fun r s => r.key ≠ s.key := (hperm.pairwise_iff fun h => h.symm).mpr hkeys
  exact (hsorted.and hdistinct).imp fun hrs => String.not_le.mp fun hle => hrs.2 (String.le_antisymm hrs.1 hle)

open Backend in
/-- **Stored text is no markup.** A page is of one of a few kinds, and its tags are those of its kind, whatever texts
stand in it. Whatever page the backend answers with is of the kind that its endpoint, its status and the number of
the channel's commands tell, so two such pages that agree in these have the same tags. A listing that a reader of
markup follows has one row of cells for each command of the channel, with what is stored of it, in the order of the
triggers, of which none comes twice. -/
theorem stored_text_is_no_markup {stands : String → Option String} (h : Markup.KnowsReserved stands) :
    (∀ kind html, Page.Is kind html → Markup.tags html = kind.tags) ∧
    (∀ (b : Backend) (d : Delivery) html, (b.answer d).page? = some html →
      ∃ e kind, d.request.endpoint? = some e ∧
        Page.Kind.at? (b.answer d).status (b.listedAt e) e = some kind ∧ Page.Is kind html) ∧
    (∀ (b : Backend) (d : Delivery) html e (b' : Backend) (d' : Delivery) html' e',
      (b.answer d).page? = some html → d.request.endpoint? = some e →
      (b'.answer d').page? = some html' → d'.request.endpoint? = some e' →
      Page.Kind.at? (b.answer d).status (b.listedAt e) e = Page.Kind.at? (b'.answer d').status (b'.listedAt e') e' →
      Markup.tags html = Markup.tags html') ∧
    (∀ (b : Backend) (d : Delivery) name c, d.request.endpoint? = some (.commandsPage name) →
      b.tables.channel name = .found c →
      ∃ html, ∃ stored : List (OwnedRow CommandContent), b.answer d = ⟨200, .page html⟩ ∧
        Markup.rows stands html =
          stored.map (fun r => [c.sigil ++ r.key, r.content.body, r.content.permission.name]) ∧
        stored.Perm (OwnedRow.ofOwner c.id b.tables.commands) ∧ stored.Pairwise (fun r s => r.key ≤ s.key) ∧
        (b.Reachable → stored.Pairwise fun r s => r.key < s.key)) := by
  have hkind : ∀ (b : Backend) (d : Delivery) html, (b.answer d).page? = some html →
      ∃ e kind, d.request.endpoint? = some e ∧
        Page.Kind.at? (b.answer d).status (b.listedAt e) e = some kind ∧ Page.Is kind html :=
    fun b d _ => b.answer_page d
  refine ⟨fun _ _ => Page.Is.tags_eq, hkind, ?_, ?_⟩
  · intro b d html e b' d' html' e' hpage hrouted hpage' hrouted' hsame
    obtain ⟨f, kind, hf, hat, his⟩ := hkind b d html hpage
    obtain ⟨f', kind', hf', hat', his'⟩ := hkind b' d' html' hpage'
    obtain rfl := Option.some.inj (hf.symm.trans hrouted)
    obtain rfl := Option.some.inj (hf'.symm.trans hrouted')
    obtain rfl := Option.some.inj (hat.symm.trans (hsame.trans hat'))
    rw [his.tags_eq, his'.tags_eq]
  · intro b d name c hrouted hfound
    obtain ⟨hperm, hsorted, hstrict⟩ := b.tables.sorted_commands c.id
    have hanswer : b.answer d = b.tables.commandsPage name := by
      rw [Backend.answer, b.handle_open d.now d.answers hrouted rfl rfl]
      rfl
    rw [Tables.commandsPage_found hfound] at hanswer
    refine ⟨_, _, hanswer, ?_, hperm, hsorted, fun hreach => hstrict hreach.sound⟩
    exact Page.rows_commands h c.name (by simp [Tables.cells])

/-- Texts that look like markup, one like the end of a cell and others like references. -/
theorem stored_text_is_no_markup_hostile :
    let stands := fun name => (Markup.reserved.lookup name).map String.singleton
    let c : ChannelRow := ⟨1, "<b>", "<"⟩
    let first : OwnedRow CommandContent := ⟨1, "\"a'", ⟨"&#x27;&lt;", .moderators⟩⟩
    let second : OwnedRow CommandContent := ⟨1, "z&amp;", ⟨"</td><script>", .everyone⟩⟩
    let other : OwnedRow CommandContent := ⟨2, "y", ⟨"z", .everyone⟩⟩
    let b : Backend := { tables := { channels := [c, ⟨2, "x", "!"⟩], commands := [second, other, first] } }
    let d : Delivery := ⟨⟨0⟩, [], { method := "GET", target := "/commands/%3Cb%3E" }⟩
    Markup.KnowsReserved stands ∧ d.request.endpoint? = some (.commandsPage "<b>") ∧
      b.tables.channel "<b>" = .found c ∧
      ∃ html, b.answer d = ⟨200, .page html⟩ ∧ Markup.tags html = (Page.Kind.commands 2).tags ∧
        Markup.rows stands html =
          [["<\"a'", "&#x27;&lt;", "mods"], ["<z&amp;", "</td><script>", "all"]] := by
  intro stands c first second other b d
  have hknows : Markup.KnowsReserved stands := by
    unfold Markup.KnowsReserved
    decide +kernel
  have hrouted : d.request.endpoint? = some (.commandsPage "<b>") := by decide +kernel
  have hfound : b.tables.channel "<b>" = .found c := by decide +kernel
  obtain ⟨hkinds, hpages, -, hlisting⟩ := stored_text_is_no_markup hknows
  obtain ⟨html, stored, hanswer, hrows, hperm, hsorted, -⟩ := hlisting b d "<b>" c hrouted hfound
  refine ⟨hknows, hrouted, hfound, html, hanswer, ?_, ?_⟩
  · have hpage : (b.answer d).page? = some html := by
      rw [hanswer]
      rfl
    obtain ⟨e, kind, he, hat, his⟩ := hpages b d html hpage
    obtain rfl := Option.some.inj (he.symm.trans hrouted)
    have hlisted : b.listedAt (.commandsPage "<b>") = 2 := by decide +kernel
    rw [hanswer, hlisted] at hat
    obtain rfl := Option.some.inj hat
    exact hkinds _ html his
  · have hordered : [first, second].Pairwise fun r s => r.key ≤ s.key := by decide +kernel
    have hboth : stored.Perm [first, second] := hperm.trans (List.Perm.swap first second [])
    have hkeys : ∀ r ∈ [first, second], ∀ s ∈ [first, second], r.key = s.key → r = s := by decide +kernel
    have hstored : stored = [first, second] :=
      List.Perm.eq_of_pairwise (fun r s hr hs hrs hsr =>
        hkeys r (hboth.mem_iff.mp hr) s hs (String.le_antisymm hrs hsr)) hsorted hordered hboth
    rw [hrows, hstored]
    decide +kernel

end ChannelBot.Server
