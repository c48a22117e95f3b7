/-
What the console is told of the account. The service keeps two flags, for the credentials and for the
switch, each of them perhaps not set; after every call they are what that call found (`Noted`), as long as
the console takes what it is told or fails as a store does. So a call announces just what it finds anew
(`changes_are_announced_iff`). A console that fails otherwise breaks a call off before the rest is said
(`late_console_hides_standing`).
-/
import ChannelBot.Proofs.Service.OneBot

namespace ChannelBot.Service

open Dialogue

/-! ## Announcements -/

namespace News

/-- Whether news are of the account, and so are told only if they are new. -/
def IsAnnouncement : News → Prop
  | .missing _ | .resolved | .disabled | .enabled => True
  | _ => False

theorem forall_announcement {P : News → Prop} :
    (∀ n : News, n.IsAnnouncement → P n) ↔
      (∀ reason, P (.missing reason)) ∧ P .resolved ∧ P .disabled ∧ P .enabled := by
  refine ⟨fun h => ⟨fun reason => h _ trivial, h _ trivial, h _ trivial, h _ trivial⟩, fun h n hn => ?_⟩
  cases n with
  | missing reason => exact h.1 reason
  | resolved => exact h.2.1
  | disabled => exact h.2.2.1
  | enabled => exact h.2.2.2
  | _ => exact hn.elim

theorem connecting_ne {login : Value} {s : String} (hs : s.toList.head? ≠ some 'C') :
    (connecting login).notice.message ≠ s := by
  rintro rfl
  exact hs (by simp [notice])

/-- The console can tell an announcement from all other news. -/
theorem eq_of_query {n m : News} (hn : n.IsAnnouncement) (h : m.notice.query = n.notice.query) : m = n := by
  obtain ⟨hlevel, hmessage, hdetails⟩ := StoreQuery.pushLog.inj h
  replace hlevel := Value.str.inj hlevel
  replace hmessage := Value.str.inj hmessage
  replace hdetails := Value.obj.inj hdetails
  -- Mostly level or details differ; within the same event it is the message.
  cases n with
  | missing reason => cases m <;> simp_all [notice]
  | resolved => cases m <;> simp_all [notice]
  | disabled =>
    cases m with
    | connecting login => exact absurd hmessage (connecting_ne (by decide))
    | stopped reason => cases reason <;> exact absurd hmessage (by decide)
    | disabled => rfl
    | enabled => exact absurd hmessage (by decide)
    | _ => simp_all [notice]
  | enabled =>
    cases m with
    | connecting login => exact absurd hmessage (connecting_ne (by decide))
    | stopped reason => cases reason <;> exact absurd hmessage (by decide)
    | enabled => rfl
    | disabled => exact absurd hmessage (by decide)
    | _ => simp_all [notice]
  | _ => exact hn.elim

end News

/-- The console was told these news. -/
def Pushed (turns : List (Turn surroundings)) (n : News) : Prop :=
  ∃ answer : Except Fault Value, ⟨.store n.notice.query, answer⟩ ∈ turns

/-- The console was told these news and failed otherwise than a store does. -/
def Broken (turns : List (Turn surroundings)) (n : News) : Prop :=
  ∃ (answer : Except Fault Value) (f : Fault),
    ⟨.store n.notice.query, answer⟩ ∈ turns ∧ Notice.heard answer = .error f

/-- Nothing was announced. -/
def Quiet (turns : List (Turn surroundings)) : Prop := ∀ n : News, n.IsAnnouncement → ¬ Pushed turns n

variable {α β : Type} {s s' : State} {turns first rest : List (Turn surroundings)} {n m : News} {x : Step α}

theorem Broken.pushed (h : Broken turns n) : Pushed turns n := by
  obtain ⟨answer, f, hmem, -⟩ := h
  exact ⟨answer, hmem⟩

theorem pushed_append : Pushed (first ++ rest) n ↔ Pushed first n ∨ Pushed rest n := by
  simp only [Pushed, List.mem_append, exists_or]

theorem broken_append : Broken (first ++ rest) n ↔ Broken first n ∨ Broken rest n := by
  simp only [Broken, List.mem_append, or_and_right, exists_or]

/-- A store that fails in its own way only breaks nothing off. -/
theorem not_broken (hpermitted : ∀ t ∈ turns, IsPermitted t) : ¬ Broken turns n := by
  rintro ⟨answer, f, hmem, hfault⟩
  have hstore : IsPermitted ⟨.store n.notice.query, answer⟩ := hpermitted _ hmem
  cases answer with
  | ok v => cases hfault
  | error f =>
    obtain ⟨cause, rfl⟩ := hstore f rfl
    cases hfault

theorem Quiet.nil : Quiet [] := fun _ _ ⟨_, hmem⟩ => absurd hmem List.not_mem_nil

theorem Quiet.append (hfirst : Quiet first) (hrest : Quiet rest) : Quiet (first ++ rest) :=
  fun n hn h => (pushed_append.mp h).elim (hfirst n hn) (hrest n hn)

theorem Quiet.single {t : Turn surroundings} (h : ∀ n : News, n.IsAnnouncement → t.query ≠ .store n.notice.query) :
    Quiet [t] :=
  fun n hn ⟨_, hmem⟩ => h n hn (congrArg Turn.query (List.mem_singleton.mp hmem)).symm

/-! ## Steps that announce nothing -/

/-- A step announces nothing and leaves the flags as they are, whatever it is answered. -/
def Reticent (x : Step α) : Prop :=
  ∀ ⦃s turns r s'⦄, Does x s turns r s' → Quiet turns ∧ s'.available = s.available ∧ s'.enabled = s.enabled

theorem reticent_settle (v : Except Fault α) : Reticent (settle v) := by
  intro s turns r s' h
  obtain ⟨rfl, -, rfl⟩ := does_settle.mp h
  exact ⟨.nil, rfl, rfl⟩

theorem reticent_pure (a : α) : Reticent (pure a : Step α) := reticent_settle (.ok a)

theorem reticent_throw (f : Fault) : Reticent (throw f : Step α) := reticent_settle (.error f)

theorem reticent_ask {q : Query} (hq : ∀ n : News, n.IsAnnouncement → q ≠ .store n.notice.query) :
    Reticent (ask q) := by
  intro s turns r s' h
  obtain ⟨answer, rfl, -, rfl⟩ := does_ask.mp h
  exact ⟨.single hq, rfl, rfl⟩

theorem reticent_tell (hn : ¬ n.IsAnnouncement) : Reticent (tell n) := by
  intro s turns r s' h
  obtain ⟨answer, rfl, -, rfl⟩ := does_tell.mp h
  refine ⟨.single fun m hm hquery => hn ?_, rfl, rfl⟩
  rwa [News.eq_of_query hm (Query.store.inj hquery)]

theorem reticent_setBot (bot? : Option (BotId × Account.Fingerprint)) :
    Reticent (modify ({ · with bot := bot? }) : Step Unit) := by
  intro s turns r s' h
  obtain ⟨rfl, -, rfl⟩ := does_modify.mp h
  exact ⟨.nil, rfl, rfl⟩

theorem Reticent.bind (hx : Reticent x) {f : α → Step β} (hf : ∀ a, Reticent (f a)) : Reticent (x >>= f) := by
  intro s turns r s' h
  rcases does_bind.mp h with ⟨first, rest, a, s₁, rfl, hfirst, hrest⟩ | ⟨e, hfirst, -⟩
  · obtain ⟨hquiet₁, havailable₁, henabled₁⟩ := hx hfirst
    obtain ⟨hquiet₂, havailable₂, henabled₂⟩ := hf a hrest
    exact ⟨hquiet₁.append hquiet₂, havailable₂.trans havailable₁, henabled₂.trans henabled₁⟩
  · exact hx hfirst

theorem reticent_get_bind {f : State → Step β} (hf : ∀ s, Reticent (f s)) : Reticent (get >>= f) :=
  fun s _ _ _ h => hf s (does_get_bind.mp h)

theorem reticent_stop (reason : Reason) : Reticent (stop reason) := by
  have hend : ∀ bot : BotId, Reticent (do
      let _ ← ask (.awaitEnd bot); modify ({ · with bot := none }); tell (.stopped reason)) := fun bot =>
    (reticent_ask fun _ _ => Query.noConfusion).bind fun _ => (reticent_setBot none).bind fun _ => reticent_tell id
  refine reticent_get_bind fun s => ?_
  cases s.bot with
  | none => exact reticent_pure ()
  | some current =>
    obtain ⟨bot, mark⟩ := current
    refine (reticent_ask fun _ _ => Query.noConfusion).bind fun answer => ?_
    cases answer with
    | ok v => exact hend bot
    | error f =>
      dsimp only
      split
      · exact (reticent_tell id).bind fun _ => hend bot
      · exact (reticent_throw f).bind fun _ => hend bot

theorem reticent_restart (a : Account) (mark : Account.Fingerprint) : Reticent (restart a mark) :=
  (reticent_stop _).bind fun _ => (reticent_tell id).bind fun _ =>
    (reticent_ask fun _ _ => Query.noConfusion).bind fun _ => (reticent_settle _).bind fun _ =>
      (reticent_setBot _).bind fun _ => (reticent_ask fun _ _ => Query.noConfusion).bind fun _ => reticent_pure ()

theorem reticent_keep (a : Account) : Reticent (keep a) := by
  refine (reticent_settle _).bind fun mark => reticent_get_bind fun s => ?_
  cases s.bot with
  | none => exact reticent_restart a mark
  | some current =>
    obtain ⟨bot, known⟩ := current
    dsimp only
    split
    · exact (reticent_ask fun _ _ => Query.noConfusion).bind fun answer => reticent_settle answer
    · exact reticent_restart a mark

/-! ## What is announced -/

variable {isTold : State → Bool} {note : State → State} {r : Except Fault β}

theorem pushed_single {answer : Except Fault Value} (hm : m.IsAnnouncement) :
    Pushed [⟨.store n.notice.query, answer⟩] m ↔ m = n := by
  constructor
  · rintro ⟨_, hmem⟩
    have hquery := congrArg Turn.query (List.mem_singleton.mp hmem)
    exact (News.eq_of_query hm (Query.store.inj hquery).symm).symm
  · rintro rfl
    exact ⟨answer, List.mem_singleton_self _⟩

theorem broken_single {answer : Except Fault Value} :
    Broken [⟨.store n.notice.query, answer⟩] n ↔ ∃ f, Notice.heard answer = .error f := by
  constructor
  · rintro ⟨_, f, hmem, hfault⟩
    cases List.mem_singleton.mp hmem
    exact ⟨f, hfault⟩
  · rintro ⟨f, hfault⟩
    exact ⟨answer, f, List.mem_singleton_self _, hfault⟩

/-- What is announced was not told already; nothing else is announced then. What comes behind it comes
unless the console broke off. -/
theorem announce_bind_cases {f : Unit → Step β} (h : Does (announce isTold n note >>= f) s turns r s') :
    ∃ first rest, turns = first ++ rest ∧
      (∀ m : News, m.IsAnnouncement → (Pushed first m ↔ m = n ∧ isTold s = false)) ∧
      ((¬ Broken first n ∧ Does (f ()) (note s) rest r s') ∨ (Broken first n ∧ rest = [])) := by
  cases htold : isTold s with
  | true =>
    have hnone : ∀ m : News, m.IsAnnouncement → (Pushed [] m ↔ m = n ∧ true = false) := fun m hm =>
      ⟨fun hpushed => absurd hpushed (Quiet.nil m hm), fun hcases => nomatch hcases.2⟩
    rcases does_bind.mp h with ⟨first, rest, _, s₁, rfl, hfirst, hrest⟩ | ⟨e, hfirst, -⟩
    · obtain ⟨rfl, -, rfl⟩ := (does_announce_told htold).mp hfirst
      exact ⟨[], rest, rfl, hnone, .inl ⟨fun ⟨_, _, hmem, _⟩ => absurd hmem List.not_mem_nil, hrest⟩⟩
    · cases ((does_announce_told htold).mp hfirst).2.1
  | false =>
    have hone : ∀ answer : Except Fault Value, ∀ m : News, m.IsAnnouncement →
        (Pushed [⟨.store n.notice.query, answer⟩] m ↔ m = n ∧ false = false) := fun answer m hm =>
      (pushed_single hm).trans (by simp)
    rcases does_bind.mp h with ⟨first, rest, _, s₁, rfl, hfirst, hrest⟩ | ⟨e, hfirst, -⟩
    · obtain ⟨answer, rfl, ⟨hheard, -, rfl⟩ | ⟨f, -, hfault, -⟩⟩ := (does_announce_new htold).mp hfirst
      · refine ⟨_, rest, rfl, hone answer, .inl ⟨fun hbroken => ?_, hrest⟩⟩
        obtain ⟨f, hfault⟩ := broken_single.mp hbroken
        cases hheard.symm.trans hfault
      · cases hfault
    · obtain ⟨answer, rfl, ⟨-, hdone, -⟩ | ⟨f, hfault, -, -⟩⟩ := (does_announce_new htold).mp hfirst
      · cases hdone
      · exact ⟨_, [], (List.append_nil _).symm, hone answer, .inr ⟨broken_single.mpr ⟨f, hfault⟩, rfl⟩⟩

theorem Quiet.pushed_append (h : Quiet rest) (hm : m.IsAnnouncement) : Pushed (first ++ rest) m ↔ Pushed first m :=
  Service.pushed_append.trans (or_iff_left (h m hm))

theorem Quiet.broken_append (h : Quiet rest) (hm : m.IsAnnouncement) : Broken (first ++ rest) m ↔ Broken first m :=
  Service.broken_append.trans (or_iff_left fun hbroken => h m hm hbroken.pushed)

variable {settings : Except String Account} {result : Except Fault Unit}

/-- Without credentials that is all that is announced, if it is new. -/
theorem apply_missing {reason : String} (hfinding : Finding.of settings = .missing reason)
    (h : Does (apply settings) s turns result s') :
    (∀ m : News, m.IsAnnouncement → (Pushed turns m ↔ m = .missing reason ∧ s.available ≠ some false)) ∧
      (¬ Broken turns (.missing reason) → s'.available = some false ∧ s'.enabled = none) := by
  rw [apply, hfinding] at h
  obtain ⟨first, rest, rfl, hpushed, hrest⟩ := announce_bind_cases h
  have hflag : (s.available == some false) = false ↔ s.available ≠ some false := beq_eq_false_iff_ne
  rcases hrest with ⟨-, hstop⟩ | ⟨hbroken, rfl⟩
  · obtain ⟨hquiet, havailable, henabled⟩ := reticent_stop _ hstop
    refine ⟨fun m hm => ?_, fun _ => ⟨havailable, henabled⟩⟩
    rw [hquiet.pushed_append hm, hpushed m hm, hflag]
  · rw [List.append_nil]
    refine ⟨fun m hm => ?_, fun hheard => absurd hbroken hheard⟩
    rw [hpushed m hm, hflag]

/-- With credentials it is announced that they are there, if that is new, and then how the switch stands, if
that is new and the console did not break off. -/
theorem apply_present {on : Bool} {act : Step Unit} (hact : Reticent act) (hne : n ≠ .resolved)
    (h : Does (do
      announce (·.available == some true) .resolved ({ · with available := some true })
      announce (·.enabled == some on) n ({ · with enabled := some on })
      act) s turns result s') :
    (∀ m : News, m.IsAnnouncement → (Pushed turns m ↔
      (m = .resolved ∧ s.available ≠ some true) ∨ (m = n ∧ s.enabled ≠ some on ∧ ¬ Broken turns .resolved))) ∧
      (¬ Broken turns .resolved → ¬ Broken turns n → s'.available = some true ∧ s'.enabled = some on) := by
  obtain ⟨first, later, rfl, hfirst, hlater⟩ := announce_bind_cases h
  have havailable : (s.available == some true) = false ↔ s.available ≠ some true := beq_eq_false_iff_ne
  have henabled : (s.enabled == some on) = false ↔ s.enabled ≠ some on := beq_eq_false_iff_ne
  rcases hlater with ⟨hheard, hlater⟩ | ⟨hbroken, rfl⟩
  · obtain ⟨second, rest, rfl, hsecond, hrest⟩ := announce_bind_cases hlater
    have hkept : Quiet rest ∧ (¬ Broken second n → s'.available = some true ∧ s'.enabled = some on) := by
      rcases hrest with ⟨-, hrest⟩ | ⟨hbroken, rfl⟩
      · obtain ⟨hquiet, hflags⟩ := hact hrest
        exact ⟨hquiet, fun _ => hflags⟩
      · exact ⟨.nil, fun hheard => absurd hbroken hheard⟩
    obtain ⟨hquiet, hflags⟩ := hkept
    -- Only the first announcement is of the credentials, and that one was heard.
    have hunbroken : ¬ Broken (first ++ (second ++ rest)) .resolved := by
      rw [broken_append, hquiet.broken_append (m := .resolved) trivial]
      rintro (hbroken | hbroken)
      · exact hheard hbroken
      · exact hne ((hsecond .resolved trivial).mp hbroken.pushed).1.symm
    refine ⟨fun m hm => ?_, fun _ hheard' => hflags fun hbroken => hheard' ?_⟩
    · rw [pushed_append, hquiet.pushed_append hm, hfirst m hm, hsecond m hm, havailable, henabled,
        and_iff_left hunbroken]
    · exact broken_append.mpr (.inr (broken_append.mpr (.inl hbroken)))
  · rw [List.append_nil]
    refine ⟨fun m hm => ?_, fun hheard => absurd hbroken hheard⟩
    rw [hfirst m hm, havailable]
    simp [hbroken]

/-! ## What is new -/

/-- What the account is found to be. -/
inductive Standing where
  | missing
  | disabled
  | enabled
  deriving Repr, DecidableEq

namespace Standing

def isAvailable : Standing → Bool
  | .missing => false
  | .disabled | .enabled => true

/-- Whether an account with credentials is enabled. -/
def isEnabled? : Standing → Option Bool
  | .missing => none
  | .disabled => some false
  | .enabled => some true

end Standing

/-- The standing that a finding is of. -/
def Finding.standing : Finding → Standing
  | .missing _ => .missing
  | .disabled => .disabled
  | .enabled _ => .enabled

/-- The standing in the settings of a call. -/
def Call.standing (c : Call) : Standing := (Finding.of c.settings).standing

/-- The service has in mind what was found the last time, if there was a last time. -/
structure Noted (s : State) (last : Option Standing) : Prop where
  available : s.available = last.map Standing.isAvailable
  enabled : s.enabled = last.bind Standing.isEnabled?

/-- A call announces what is new in its standing after the one that was found the last time. -/
structure Call.MarksChange (c : Call) (last : Option Standing) : Prop where
  missing : (∃ reason, Pushed c.turns (.missing reason)) ↔ c.standing = .missing ∧ last ≠ some .missing
  resolved : Pushed c.turns .resolved ↔ c.standing ≠ .missing ∧ (last = none ∨ last = some .missing)
  disabled : Pushed c.turns .disabled ↔ c.standing = .disabled ∧ last ≠ some .disabled
  enabled : Pushed c.turns .enabled ↔ c.standing = .enabled ∧ last ≠ some .enabled

/-- The console failed at no announcement otherwise than a store does. -/
def Call.IsHeard (c : Call) : Prop := ∀ n : News, n.IsAnnouncement → ¬ Broken c.turns n

variable {c : Call} {calls : List Call} {last : Option Standing}

theorem Noted.available_iff (h : Noted s last) :
    (s.available ≠ some false ↔ last ≠ some .missing) ∧
      (s.available ≠ some true ↔ last = none ∨ last = some .missing) := by
  rw [h.available]
  rcases last with _ | standing
  · simp
  · cases standing <;> simp [Standing.isAvailable]

theorem Noted.enabled_iff (h : Noted s last) :
    (s.enabled ≠ some false ↔ last ≠ some .disabled) ∧ (s.enabled ≠ some true ↔ last ≠ some .enabled) := by
  rw [h.enabled]
  rcases last with _ | standing
  · simp
  · cases standing <;> simp [Standing.isEnabled?]

/-- What a call announces: what is new in its standing, but the switch only if the console did not break off
before that. -/
structure Call.Announces (c : Call) (last : Option Standing) : Prop where
  missing : (∃ reason, Pushed c.turns (.missing reason)) ↔ c.standing = .missing ∧ last ≠ some .missing
  resolved : Pushed c.turns .resolved ↔ c.standing ≠ .missing ∧ (last = none ∨ last = some .missing)
  disabled : Pushed c.turns .disabled ↔
    c.standing = .disabled ∧ last ≠ some .disabled ∧ ¬ Broken c.turns .resolved
  enabled : Pushed c.turns .enabled ↔
    c.standing = .enabled ∧ last ≠ some .enabled ∧ ¬ Broken c.turns .resolved

/-- A call announces what is new in its standing, and has in mind what it found if the console heard it all. -/
theorem Noted.call (h : Noted s last) (hdoes : Does (apply c.settings) s c.turns c.result s') :
    c.Announces last ∧ (c.IsHeard → Noted s' (some c.standing)) := by
  obtain ⟨hnoMissing, hnoPresent⟩ := h.available_iff
  obtain ⟨hnoOff, hnoOn⟩ := h.enabled_iff
  cases hfinding : Finding.of c.settings with
  | missing reason =>
    have hstanding : c.standing = .missing := by rw [Call.standing, hfinding]; rfl
    obtain ⟨hpushed, hflags⟩ := apply_missing hfinding hdoes
    obtain ⟨hmissing, hresolved, hdisabled, henabled⟩ := News.forall_announcement.mp hpushed
    refine ⟨?_, fun hheard => ?_⟩
    · constructor <;> simp [hmissing, hresolved, hdisabled, henabled, hstanding, hnoMissing]
    · rw [hstanding]
      obtain ⟨hkept, hforgotten⟩ := hflags (hheard _ trivial)
      exact ⟨hkept, hforgotten⟩
  | disabled =>
    have hstanding : c.standing = .disabled := by rw [Call.standing, hfinding]; rfl
    rw [apply, hfinding] at hdoes
    obtain ⟨hpushed, hflags⟩ := apply_present (reticent_stop _) News.noConfusion hdoes
    obtain ⟨hmissing, hresolved, hdisabled, henabled⟩ := News.forall_announcement.mp hpushed
    refine ⟨?_, fun hheard => ?_⟩
    · constructor <;> simp [hmissing, hresolved, hdisabled, henabled, hstanding, hnoPresent, hnoOff]
    · rw [hstanding]
      obtain ⟨hkept, hswitch⟩ := hflags (hheard _ trivial) (hheard _ trivial)
      exact ⟨hkept, hswitch⟩
  | enabled a =>
    have hstanding : c.standing = .enabled := by rw [Call.standing, hfinding]; rfl
    rw [apply, hfinding] at hdoes
    obtain ⟨hpushed, hflags⟩ := apply_present (reticent_keep a) News.noConfusion hdoes
    obtain ⟨hmissing, hresolved, hdisabled, henabled⟩ := News.forall_announcement.mp hpushed
    refine ⟨?_, fun hheard => ?_⟩
    · constructor <;> simp [hmissing, hresolved, hdisabled, henabled, hstanding, hnoPresent, hnoOn]
    · rw [hstanding]
      obtain ⟨hkept, hswitch⟩ := hflags (hheard _ trivial) (hheard _ trivial)
      exact ⟨hkept, hswitch⟩

/-! ## Histories -/

/-- Calls of a service, one after the other, and the state that they lead to, whatever they are answered. -/
inductive History : List Call → State → Prop
  | opened : History [] {}
  | call {calls : List Call} {c : Call} {s s' : State} (h : History calls s)
    (hdoes : Does (apply c.settings) s c.turns c.result s') : History (calls ++ [c]) s'

/-- The standing that was found last. -/
def lastStanding (calls : List Call) : Option Standing := calls.getLast?.map Call.standing

/-- As long as the console hears it all, the flags are those of the last call. -/
theorem History.noted (h : History calls s) (hheard : ∀ c ∈ calls, c.IsHeard) : Noted s (lastStanding calls) := by
  induction h with
  | opened => exact ⟨rfl, rfl⟩
  | call _ hdoes ih =>
    rw [List.forall_mem_append, List.forall_mem_singleton] at hheard
    rw [lastStanding, List.getLast?_concat]
    exact ((ih hheard.1).call hdoes).2 hheard.2

theorem History.of_snoc (h : History (calls ++ [c]) s') :
    ∃ s, History calls s ∧ Does (apply c.settings) s c.turns c.result s' := by
  generalize hall : calls ++ [c] = all at h
  cases h with
  | opened => simp at hall
  | call h hdoes =>
    obtain ⟨rfl, hlast⟩ := List.append_inj' hall rfl
    cases hlast
    exact ⟨_, h, hdoes⟩

/-- **The console is told exactly the changes of standing.** After calls whose announcements the console took,
or failed to take only as a store does, a call tells that the credentials are unavailable, that they are
resolved, that the bot is disabled or that it is enabled exactly if its settings say so and those of the call
before did not, if there was one; unless the console breaks the call off at the announcement that the
credentials are resolved. -/
theorem changes_are_announced_iff (h : History (calls ++ [c]) s) (hheard : ∀ c' ∈ calls, c'.IsHeard) :
    c.MarksChange (lastStanding calls) ↔ ¬ Broken c.turns .resolved := by
  obtain ⟨s₀, hbefore, hdoes⟩ := h.of_snoc
  obtain ⟨hannounces, -⟩ := (hbefore.noted hheard).call hdoes
  constructor
  · intro hmarks hbroken
    obtain ⟨hpresent, hlast⟩ := hannounces.resolved.mp hbroken.pushed
    -- The switch is new too, but nothing is said of it once the console has broken off.
    cases hstanding : c.standing with
    | missing => exact hpresent hstanding
    | disabled =>
      have hdue := hmarks.disabled.mpr ⟨hstanding, by rcases hlast with hlast | hlast <;> simp [hlast]⟩
      exact (hannounces.disabled.mp hdue).2.2 hbroken
    | enabled =>
      have hdue := hmarks.enabled.mpr ⟨hstanding, by rcases hlast with hlast | hlast <;> simp [hlast]⟩
      exact (hannounces.enabled.mp hdue).2.2 hbroken
  · intro hunbroken
    refine ⟨hannounces.missing, hannounces.resolved, ?_, ?_⟩
    · rw [hannounces.disabled, and_iff_left hunbroken]
    · rw [hannounces.enabled, and_iff_left hunbroken]

/-! ## A history -/

/-- There are no credentials. -/
def withoutCall : Call := ⟨.error "missing access_token", [told (.missing "missing access_token")], .ok ()⟩

/-- The account is there, but disabled. The store fails to take the first entry. -/
def disabledCall : Call :=
  ⟨.ok { settingsOf "one" [] "owner" with enabled := false },
    [⟨.store News.resolved.notice.query, (.error (.store ⟨500, "down", none⟩) : Except Fault Value)⟩,
      told .disabled], .ok ()⟩

/-- The account is enabled, and no bot can be made. -/
def failedCall : Call :=
  let a := settingsOf "one" [] "owner"
  ⟨.ok a, [told .enabled, told (.connecting a.login), ⟨.create a, .error (.other "no bot")⟩],
    .error (.other "no bot")⟩

/-- The account is as before, and now a bot is made. -/
def retriedCall : Call :=
  let a := settingsOf "one" [] "owner"
  ⟨.ok a, [told (.connecting a.login), ⟨.create a, .ok 7⟩, ⟨.start 7, ()⟩], .ok ()⟩

/-- After the first three calls there is no bot, and that the account is enabled was told. -/
theorem history_failed : History [withoutCall, disabledCall, failedCall] ⟨none, some true, some true⟩ := by
  have hwithout : History [withoutCall] _ := .call .opened (.ask _ (.done _))
  have hdisabled : History ([withoutCall] ++ [disabledCall]) _ := .call hwithout (.ask _ (.ask _ (.done _)))
  exact .call hdisabled (.ask _ (.ask _ (.ask _ (.done _))))

/-- The bot is made on the second try, and it is not announced again that it is enabled. -/
theorem changes_are_announced_iff_retried :
    (∃ s, History ([withoutCall, disabledCall, failedCall] ++ [retriedCall]) s) ∧
      (∀ c ∈ [withoutCall, disabledCall, failedCall], c.IsHeard) ∧ ¬ Broken retriedCall.turns .resolved ∧
      retriedCall.MarksChange (some .enabled) := by
  have hretried : History ([withoutCall, disabledCall, failedCall] ++ [retriedCall]) _ :=
    .call history_failed (.ask _ (.ask _ (.ask _ (.done _))))
  have hpermitted : ∀ c ∈ [withoutCall, disabledCall, failedCall], ∀ t ∈ c.turns, IsPermitted t := by
    simp only [withoutCall, disabledCall, failedCall, List.forall_mem_cons]
    refine ⟨⟨permitted_told _, by simp⟩, ⟨fun f hf => ?_, permitted_told _, by simp⟩,
      ⟨permitted_told _, permitted_told _, trivial, by simp⟩, by simp⟩
    cases hf
    exact ⟨_, rfl⟩
  have hheard : ∀ c ∈ [withoutCall, disabledCall, failedCall], c.IsHeard := fun c hc _ _ =>
    not_broken (hpermitted c hc)
  have hunbroken : ¬ Broken retriedCall.turns .resolved :=
    not_broken (by
      simp only [retriedCall, List.forall_mem_cons]
      exact ⟨permitted_told _, trivial, trivial, by simp⟩)
  exact ⟨⟨_, hretried⟩, hheard, hunbroken, (changes_are_announced_iff hretried hheard).mpr hunbroken⟩

/-- The account is disabled, and the console does not answer in time that the credentials are resolved. -/
def lateCall : Call :=
  ⟨.ok { settingsOf "one" [] "owner" with enabled := false },
    [⟨.store News.resolved.notice.query, News.resolved.notice.query.decode .timedOut⟩], .error .timeout⟩

/-- A late answer of the console hides that the bot is disabled. -/
theorem late_console_hides_standing :
    ∃ s, History [lateCall] s ∧ lateCall.standing = .disabled ∧ ¬ Pushed lateCall.turns .disabled ∧
      ¬ lateCall.MarksChange (lastStanding []) := by
  have hhidden : ¬ Pushed lateCall.turns .disabled := fun hpushed =>
    News.noConfusion ((pushed_single (m := .disabled) trivial).mp hpushed)
  exact ⟨_, .call .opened (.ask _ (.done _)), rfl, hhidden, fun hmarks =>
    hhidden (hmarks.disabled.mpr ⟨rfl, nofun⟩)⟩

end ChannelBot.Service
