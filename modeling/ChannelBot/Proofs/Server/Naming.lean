/-
The names of channels. A stored name is the normal form of a name that was given (`Reachable.named`), and
a search puts what it looks for into normal form once more. That changes nothing just if the stored name
does not begin with white space (`normalize_normalize_iff`): white space behind a leading number sign is
kept when a name is stored, and dropped when it is looked up. So a stored channel is found under its own
name unless that begins with white space, and a name of number signs alone is stored as nothing
(`channels_are_addressable_iff`).
-/
import ChannelBot.Proofs.Line.Spelling
import ChannelBot.Proofs.Server.History
import ChannelBot.Proofs.Server.Reachable
import ChannelBot.Proofs.Text.LowerTwice

namespace ChannelBot

open Text (beginsBlank)

/-! ## Normal forms -/

namespace ChannelName

/-- What is left of a name without white space around it and without leading number signs. -/
def bare (name : String) : String := Text.dropLeading '#' (Text.trim name)

/-- Behind white space and number signs, a name goes on with a character that is not white space. -/
def Begins (name : String) : Prop := bare name ≠ "" ∧ beginsBlank (bare name) = false

instance {name : String} : Decidable (Begins name) := inferInstanceAs (Decidable (_ ∧ _))

theorem normalize_eq (name : String) : normalize name = Text.lower (bare name) := rfl

theorem bare_sublist (name : String) : (bare name).toList.Sublist (Chars.trimStart name.toList) := by
  rw [bare, Text.dropLeading, String.toList_ofList, Text.toList_trim]
  exact (List.dropWhile_suffix _).sublist.trans (Chars.trim_sublist name.toList)

/-- What is left ends where its white space was dropped, and starts with no number sign. -/
theorem bare_ends (name : String) :
    Chars.trimEnd (bare name).toList = (bare name).toList ∧ (bare name).toList.head? ≠ some '#' := by
  obtain ⟨signs, hsigns⟩ := List.dropWhile_suffix (· == '#') (l := Chars.trim name.toList)
  have hbare : (bare name).toList = (Chars.trim name.toList).dropWhile (· == '#') := by
    rw [bare, Text.dropLeading, String.toList_ofList, Text.toList_trim]
  constructor
  · rw [hbare]
    refine Chars.trimEnd_right (s := signs) ?_
    rw [hsigns, Chars.trimEnd_trim]
  · intro hhead
    have hstop := List.head?_dropWhile_not (· == '#') (Chars.trim name.toList)
    rw [← hbare, hhead] at hstop
    simp at hstop

/-- The normal form of a name starts and ends as what is left of it. -/
theorem normalize_ends (name : String) :
    beginsBlank (normalize name) = beginsBlank (bare name) ∧ (normalize name = "" ↔ bare name = "") ∧
      Chars.trimEnd (normalize name).toList = (normalize name).toList ∧
      (normalize name).toList.head? ≠ some '#' := by
  obtain ⟨hend, hhead⟩ := bare_ends name
  have hlist : (normalize name).toList = Case.lowerFrom false (bare name).toList := String.toList_ofList
  refine ⟨?_, ?_, ?_, ?_⟩
  · rw [beginsBlank, beginsBlank, hlist]
    cases (bare name).toList with
    | nil => rfl
    | cons c r =>
      obtain ⟨⟨d, tail, hcons, hblank, -⟩, -⟩ := Case.lowerAt_ends false c r
      rw [Case.lowerFrom, hcons]
      simp [hblank]
  · rw [← String.toList_eq_nil_iff, ← String.toList_eq_nil_iff, hlist]
    cases (bare name).toList with
    | nil => simp [Case.lowerFrom]
    | cons c r =>
      obtain ⟨⟨d, tail, hcons, -⟩, -⟩ := Case.lowerAt_ends false c r
      rw [Case.lowerFrom, hcons]
      simp
  · rw [hlist]
    exact Case.trimEnd_lowerFrom hend false
  · rw [hlist]
    cases hbare : (bare name).toList with
    | nil => simp [Case.lowerFrom]
    | cons c r =>
      obtain ⟨⟨d, tail, hcons, -, hhash⟩, -⟩ := Case.lowerAt_ends false c r
      rw [hbare, List.head?_cons, Ne, Option.some.injEq] at hhead
      rw [Case.lowerFrom, hcons, List.cons_append, List.head?_cons, Ne, Option.some.injEq, hhash]
      exact hhead

/-- A normal form is its own normal form if it does not begin with white space; that would be lost. -/
theorem normalize_normalize_iff (name : String) :
    normalize (normalize name) = normalize name ↔ beginsBlank (normalize name) = false := by
  obtain ⟨-, -, hend, hhead⟩ := normalize_ends name
  have hstart : beginsBlank (normalize name) = false ↔
      Chars.trimStart (normalize name).toList = (normalize name).toList := by
    rw [Chars.trimStart_eq_self_iff, beginsBlank]
    cases (normalize name).toList <;> simp
  rw [hstart]
  constructor
  · intro hsame
    -- Lower case keeps a normal form as it is, so the second one is no longer than what trimming the start leaves.
    have hsub : (bare (normalize name)).toList.Sublist (Chars.trimStart (normalize name).toList) :=
      bare_sublist (normalize name)
    have hstarts : (Chars.trimStart (normalize name).toList).Sublist (normalize name).toList :=
      (List.dropWhile_suffix _).sublist
    have hlow : normalize (normalize name) = bare (normalize name) :=
      Text.lower_eq_self (t := bare name) (hsub.trans hstarts).subset
    rw [hlow] at hsame
    rw [hsame] at hsub
    exact hstarts.eq_of_length_le hsub.length_le
  · intro hkept
    have hbare : bare (normalize name) = normalize name := by
      rw [← String.toList_inj, bare, Text.dropLeading, String.toList_ofList, Text.toList_trim, Chars.trim, hkept, hend]
      cases hname : (normalize name).toList with
      | nil => rfl
      | cons c r =>
        rw [hname, List.head?_cons, Ne, Option.some.injEq] at hhead
        exact List.dropWhile_cons_of_neg (by simpa using hhead)
    rw [normalize_eq, hbare, normalize_eq, Text.lower_lower]

end ChannelName

/-! ## Stored names -/

namespace Server

variable {t : Tables} {P : String → Prop}

/-- All channels have names of a kind. -/
def Tables.Named (P : String → Prop) (t : Tables) : Prop := ∀ c ∈ t.channels, P c.name

theorem Tables.Named.withOne (h : t.Named P) {α : Type} {missing : String} {use : α → Tables × Response}
    {s : Search α} (huse : ∀ a, (use a).1.Named P) : (t.withOne missing use s).1.Named P := by
  cases s with
  | found a => exact huse a
  | absent | ambiguous => exact h

theorem Tables.Named.writeTarget (h : t.Named P) (owner : Nat) (user : String) (change : TargetFlags → TargetFlags) :
    (t.writeTarget owner user change).1.Named P := by
  rw [Tables.writeTarget]
  split
  · exact h
  · dsimp only
    split <;> exact h
  · exact h

/-- The one call that brings a new name is a registration, and the name is the normal form of the given one. -/
theorem Call.act_named (h : t.Named P) (c : Call) (hnew : ∀ p, c = .addChannel p → P (ChannelName.normalize p.name)) :
    (c.act t).1.Named P := by
  cases c with
  | listChannels => exact h
  | addChannel p =>
    rw [act, Tables.addChannel, Tables.insertChannel?]
    split
    · dsimp only
      split
      · rename_i hinsert
        split at hinsert
        · cases hinsert
        · obtain ⟨rfl, rfl⟩ := Prod.mk.inj (Option.some.inj hinsert)
          intro c hc
          rcases List.mem_append.mp hc with hc | hc
          · exact h c hc
          · rw [List.mem_singleton.mp hc]
            exact hnew p rfl
      · exact h
    · exact h
    · exact h
  | showChannel n | listCommands n => exact h.withOne fun _ => h
  | changeSigil n s =>
    refine h.withOne fun c d hd => ?_
    obtain ⟨e, he, rfl⟩ := List.mem_map.mp hd
    split <;> exact h e he
  | removeChannel n => exact h.withOne fun c d hd => h d (List.mem_of_mem_filter hd)
  | addCommand n p =>
    refine h.withOne fun c => ?_
    dsimp only
    split <;> exact h
  | addRedeem n p =>
    refine h.withOne fun c => ?_
    split <;> exact h
  | showCommand n k | showRedeem n k | showTarget n k => exact h.withOne fun _ => h.withOne fun _ => h
  | removeCommand n k | removeRedeem n k => exact h.withOne fun _ => h.withOne fun _ => h
  | addTarget n u | changeTarget n u => exact h.withOne fun c => h.writeTarget c.id u _

/-- Every stored name is the normal form of a name that is not empty. -/
theorem Backend.Reachable.named {b : Backend} (h : b.Reachable) :
    b.tables.Named fun name => ∃ given, given ≠ "" ∧ name = ChannelName.normalize given := by
  refine h.of_writes (fun _ hc => by cases hc) fun t t' ht hwrites => ?_
  cases hwrites with
  | nothing => exact ht
  | call c content said =>
    refine c.act_named ht fun p hp => ?_
    subst hp
    exact ⟨p.name, Content.check_newChannel_name said, rfl⟩
  | credential name c found k => exact ht

/-! ## Channels and their own names -/

open ChannelName (normalize Begins)

/-- A channel is addressed by its own name: that is not empty, and a search for it finds this very channel. -/
def Tables.Addresses (t : Tables) (c : ChannelRow) : Prop := c.name ≠ "" ∧ t.channel c.name = .found c

/-- A stored channel is found under its name just if that is its own normal form. -/
theorem Tables.Sound.channel_name_iff (h : t.Sound) {c : ChannelRow} (hc : c ∈ t.channels) :
    t.channel c.name = .found c ↔ normalize c.name = c.name := by
  rw [h.channel_eq]
  constructor
  · intro hfound
    cases hrow : t.row? (normalize c.name) with
    | none =>
      rw [hrow] at hfound
      cases hfound
    | some d =>
      rw [hrow] at hfound
      obtain rfl := Search.found.inj hfound
      exact (row?_mem hrow).2.symm
  · intro hname
    rw [hname, h.row?_eq_some_iff.mpr ⟨hc, rfl⟩]
    rfl

/-- The channel is shown under its name just if that is its own normal form. -/
theorem Tables.Sound.showChannel_name_iff (h : t.Sound) {c : ChannelRow} (hc : c ∈ t.channels) :
    (t.showChannel c.name).2 = .ok c.toValue ↔ normalize c.name = c.name := by
  rw [showChannel, h.withChannel_eq]
  constructor
  · intro hshown
    cases hrow : t.row? (normalize c.name) with
    | none =>
      rw [hrow] at hshown
      cases hshown
    | some d =>
      rw [hrow] at hshown
      have hname : d.name = c.name := by
        simp only [Response.ok, Response.mk.injEq, Body.json.injEq, ChannelRow.toValue, Value.obj.injEq,
          List.cons.injEq, Prod.mk.injEq, Value.str.injEq, true_and] at hshown
        exact hshown.1
      exact (row?_mem hrow).2.symm.trans hname
  · intro hname
    rw [hname, h.row?_eq_some_iff.mpr ⟨hc, rfl⟩]

/-- A normal form is addressed by itself if the given name begins with a character behind white space and signs. -/
theorem normal_iff_begins (name : String) :
    (normalize name ≠ "" ∧ normalize (normalize name) = normalize name) ↔ Begins name := by
  obtain ⟨hblank, hempty, -⟩ := ChannelName.normalize_ends name
  rw [ChannelName.normalize_normalize_iff, hblank, Ne, hempty, Begins]

/-- **A stored channel is addressed by its own name unless that is empty or begins with white space.** Such a
name is the normal form of a given one that, behind white space and number signs, goes on with white space or
ends. What is listed is the stored names, in lower case, and what a request for one of them shows is that
channel under the same condition. -/
theorem channels_are_addressable_iff {b : Backend} (h : b.Reachable) :
    (∀ name, (normalize name ≠ "" ∧ normalize (normalize name) = normalize name) ↔ Begins name) ∧
      (∀ (d : Delivery) (p : NewChannel), d.request.Asks (.addChannel p) →
        let x := b.handle d.now d.answers d.request
        x.2.response.status = 200 →
          ∃ c ∈ x.1.tables.channels, c.name = normalize p.name ∧ (x.1.tables.Addresses c ↔ Begins p.name)) ∧
      (∀ d : Delivery, d.request.Asks .listChannels → (b.handle d.now d.answers d.request).2.response =
        .ok (.list ((Text.sortedOn (·.name) b.tables.channels).map ChannelRow.toValue))) ∧
      ∀ c ∈ b.tables.channels,
        (∃ name, name ≠ "" ∧ c.name = normalize name ∧ (b.tables.Addresses c ↔ Begins name)) ∧
        (b.tables.Addresses c ↔ c.name ≠ "" ∧ beginsBlank c.name = false) ∧
        Text.lower c.name = c.name ∧
        ∀ d : Delivery, d.request.Asks (.showChannel c.name) →
          ((b.handle d.now d.answers d.request).2.response = .ok c.toValue ↔ beginsBlank c.name = false) := by
  have haddressed : ∀ {t : Tables}, t.Sound → ∀ c ∈ t.channels, ∀ name, c.name = normalize name →
      (t.Addresses c ↔ Begins name) := fun hsound c hc name hname => by
    rw [Tables.Addresses, hsound.channel_name_iff hc, hname, normal_iff_begins]
  refine ⟨normal_iff_begins, ?_, ?_, fun c hc => ?_⟩
  · intro d p hasks
    obtain ⟨htables, hanswer⟩ := Backend.handle_tables (b := b) hasks
    have hsound := (h.handle d.now d.answers d.request).sound
    generalize b.handle d.now d.answers d.request = x at htables hanswer hsound ⊢
    intro _ hok
    obtain ⟨c, hc, hname⟩ : ∃ c ∈ x.1.tables.channels, c.name = normalize p.name := by
      rw [htables]
      rw [hanswer] at hok
      rw [Call.act, h.sound.addChannel_eq] at hok ⊢
      split at hok
      · cases hok
      · exact ⟨_, List.mem_append_right _ (List.mem_singleton_self _), rfl⟩
    exact ⟨c, hc, hname, haddressed hsound c hc p.name hname⟩
  · intro d hasks
    exact (Backend.handle_tables (b := b) hasks).2
  · obtain ⟨name, hgiven, hname⟩ := h.named c hc
    have hself : normalize c.name = c.name ↔ beginsBlank c.name = false := by
      rw [hname, ChannelName.normalize_normalize_iff]
    refine ⟨⟨name, hgiven, hname, haddressed h.sound c hc name hname⟩, ?_, ?_, ?_⟩
    · rw [Tables.Addresses, h.sound.channel_name_iff hc, hself]
    · rw [hname, ChannelName.normalize_eq, Text.lower_lower]
    · intro d hasks
      rw [(Backend.handle_tables (b := b) hasks).2, ← hself]
      exact h.sound.showChannel_name_iff hc

/-- The backend after one registration. -/
def registered (name : String) : Backend := (({} : Backend).handle ⟨0⟩ [] (registration name)).1

theorem registered_reachable (name : String) : (registered name).Reachable := .handle (.start rfl) ⟨0⟩ [] _

theorem registered_channels {name : String} (h : name ≠ "") :
    (registered name).tables.channels = [⟨1, normalize name, defaultSigil⟩] := by
  have htables := (Backend.handle_tables (b := {}) (d := ⟨⟨0⟩, [], registration name⟩) (registration_asks h)).1
  rw [registered]
  dsimp only at htables
  rw [htables, Call.act, Tables.Sound.empty.addChannel_eq]
  rfl

/-- A channel that was registered as `Chan` is addressed by its own name. -/
theorem channels_are_addressable_chan :
    (registered "Chan").Reachable ∧ (registered "Chan").tables.Addresses ⟨1, "chan", "!"⟩ := by
  have hname : normalize "Chan" = "chan" := by decide
  have hrow : ⟨1, "chan", "!"⟩ ∈ (registered "Chan").tables.channels := by
    rw [registered_channels (by decide), hname]
    exact List.mem_singleton_self _
  have hrows := (channels_are_addressable_iff (registered_reachable "Chan")).2.2.2
  exact ⟨registered_reachable "Chan", (hrows _ hrow).2.1.mpr ⟨by decide, by decide⟩⟩

/-- A channel that was registered as `# x` is stored with the blank, and cannot be found again. -/
theorem blank_name_is_lost :
    (registered "# x").Reachable ∧ ⟨1, " x", "!"⟩ ∈ (registered "# x").tables.channels ∧
      (registered "# x").tables.channel " x" = .absent := by
  have hname : normalize "# x" = " x" := by decide
  have hrows : (registered "# x").tables.channels = [⟨1, " x", "!"⟩] := by
    rw [registered_channels (by decide), hname]
    rfl
  refine ⟨registered_reachable "# x", by rw [hrows]; exact List.mem_singleton_self _, ?_⟩
  rw [Tables.channel, hrows]
  decide

end Server

end ChannelBot
