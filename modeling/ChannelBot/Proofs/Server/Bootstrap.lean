/-
Settings at the start. Each key is settled by its own row, by its own variable of the environment and
by its own default (`lookup_adopted`, `started`), and a second start finds nothing to do. But the
defaults are written for the keys that had no row before the environment was taken over, so a variable
and a default for the same missing row exclude each other (`bootstrap_keeps_precedence`).
-/
import ChannelBot.Proofs.Server.Settings

namespace ChannelBot.Server.Settings

variable {environment : List (String × String)} {rows rows' : SettingRows} {key : String}

/-! ## The environment -/

/-- What a variable of the environment offers: its value without white space around it, unless it is blank. -/
def offered? (environment : List (String × String)) (name : String) : Option String :=
  (environment.lookup name).bind filled?

/-- What the environment offers for a key. -/
def offer? (environment : List (String × String)) (key : String) : Option String :=
  (environmentKeys.lookup key).bind (offered? environment)

/-- What a key holds once an offer was made for it: the offer counts unless there is a value. -/
def taken (offer : Option String) (rows : SettingRows) (key : String) : Option (Option String) :=
  if hasValue key rows then rows.lookup key else (offer.map some).or (rows.lookup key)

/-- The rows with all that the environment offers. -/
def adopted (environment : List (String × String)) (rows : SettingRows) : SettingRows :=
  environmentKeys.foldl (adopt environment) rows

theorem hasValue_congr (h : rows'.lookup key = rows.lookup key) : hasValue key rows' = hasValue key rows := by
  rw [hasValue, hasValue, h]

theorem taken_congr (h : rows'.lookup key = rows.lookup key) (offer : Option String) :
    taken offer rows' key = taken offer rows key := by
  rw [taken, taken, hasValue_congr h, h]

@[simp] theorem taken_none (rows : SettingRows) (key : String) : taken none rows key = rows.lookup key := by
  rw [taken, Option.map_none, Option.none_or, ite_self]

theorem lookup_adopt_self (environment : List (String × String)) (rows : SettingRows) (source : String × String) :
    (adopt environment rows source).lookup source.1 = taken (offered? environment source.2) rows source.1 := by
  rw [adopt, ← offered?]
  cases offered? environment source.2 with
  | none => rw [taken_none]
  | some v =>
    dsimp only
    rw [taken]
    split
    · rfl
    · rw [lookup_put, if_pos rfl]
      rfl

theorem lookup_adopt_other (environment : List (String × String)) (rows : SettingRows) {source : String × String}
    (h : key ≠ source.1) : (adopt environment rows source).lookup key = rows.lookup key := by
  rw [adopt]
  split
  · split
    · rfl
    · rw [lookup_put, if_neg h]
  · rfl

/-- Taking over settings one after another gives each key what is offered for it. -/
theorem lookup_foldl_adopt (environment : List (String × String)) {sources : List (String × String)}
    (hkeys : (sources.map Prod.fst).Nodup) (rows : SettingRows) (key : String) :
    (sources.foldl (adopt environment) rows).lookup key =
      taken ((sources.lookup key).bind (offered? environment)) rows key := by
  induction sources generalizing rows with
  | nil => rw [List.foldl_nil, List.lookup_nil, Option.bind_none, taken_none]
  | cons source rest ih =>
    obtain ⟨hfresh, hrest⟩ := List.nodup_cons.mp hkeys
    rw [List.foldl_cons, ih hrest, lookup_cons_eq]
    by_cases hkey : key = source.1
    · -- no later source has this key
      have hlater : rest.lookup key = none := by
        refine List.lookup_eq_none_iff.mpr fun p hp => bne_iff_ne.mpr fun heq => hfresh ?_
        exact List.mem_map.mpr ⟨p, hp, heq.symm.trans hkey⟩
      rw [hlater, Option.bind_none, taken_none, if_pos hkey, hkey, lookup_adopt_self]
      rfl
    · rw [if_neg hkey, taken_congr (lookup_adopt_other environment rows hkey)]

theorem nodup_environmentKeys : (environmentKeys.map Prod.fst).Nodup := by decide

theorem lookup_environmentKeys : ∀ source ∈ environmentKeys, environmentKeys.lookup source.1 = some source.2 := by decide

/-- What each key holds when the environment was taken over. -/
theorem lookup_adopted (environment : List (String × String)) (rows : SettingRows) (key : String) :
    (adopted environment rows).lookup key = taken (offer? environment key) rows key :=
  lookup_foldl_adopt environment nodup_environmentKeys rows key

theorem isEmpty_of_filled? {value text : String} (h : filled? value = some text) : text.isEmpty = false := by
  simp only [filled?] at h
  split at h
  next => cases h
  next hfull =>
    cases h
    exact Bool.eq_false_iff.mpr hfull

theorem isEmpty_of_offer? {text : String} (h : offer? environment key = some text) : text.isEmpty = false := by
  obtain ⟨name, -, hname⟩ := Option.bind_eq_some_iff.mp h
  obtain ⟨value, -, hvalue⟩ := Option.bind_eq_some_iff.mp hname
  exact isEmpty_of_filled? hvalue

/-- Where there is an offer there is a value afterwards. -/
theorem hasValue_adopted (h : (offer? environment key).isSome = true) :
    hasValue key (adopted environment rows) = true := by
  obtain ⟨text, htext⟩ := Option.isSome_iff_exists.mp h
  have hlookup := lookup_adopted environment rows key
  rw [taken] at hlookup
  cases hvalue : hasValue key rows with
  | true =>
    rw [hvalue, if_pos rfl] at hlookup
    rw [hasValue_congr hlookup, hvalue]
  | false =>
    rw [hvalue, if_neg Bool.false_ne_true, htext] at hlookup
    rw [hasValue, show (adopted environment rows).lookup key = some (some text) from hlookup]
    exact congrArg not (isEmpty_of_offer? htext)

/-- Where every key with an offer has a value, taking over settings changes nothing. -/
theorem adopted_eq_self (h : ∀ key, (offer? environment key).isSome = true → hasValue key rows = true) :
    adopted environment rows = rows := by
  have hone : ∀ source ∈ environmentKeys, adopt environment rows source = rows := by
    intro source hsource
    have hoffer : offer? environment source.1 = offered? environment source.2 := by
      rw [offer?, lookup_environmentKeys source hsource, Option.bind_some]
    have hvalue := h source.1
    rw [adopt, ← offered?]
    rw [hoffer] at hvalue
    cases hsome : offered? environment source.2 with
    | none => rfl
    | some v =>
      rw [hsome] at hvalue
      exact if_pos (hvalue rfl)
  rw [adopted]
  generalize environmentKeys = sources at hone
  induction sources with
  | nil => rfl
  | cons source rest ih =>
    rw [List.foldl_cons, hone source List.mem_cons_self]
    exact ih fun later hlater => hone later (List.mem_cons_of_mem source hlater)

/-! ## The defaults -/

theorem hasRow_withDefaults {d : String × String} (hd : d ∈ defaults) (rows : SettingRows) :
    hasRow d.1 (withDefaults rows) = true := by
  have hdefault : (defaults.lookup d.1).isSome = true := List.lookup_isSome_iff.mpr ⟨d, hd, beq_self_eq_true d.1⟩
  rw [hasRow_eq, lookup_withDefaults, Option.isSome_or, Option.isSome_map, hdefault, Bool.or_true]

theorem withDefaults_eq_self (h : ∀ d ∈ defaults, hasRow d.1 rows = true) : withDefaults rows = rows := by
  have hnone : (defaults.filter fun d => !hasRow d.1 rows) = [] := by
    refine List.filter_eq_nil_iff.mpr fun d hd => ?_
    rw [h d hd]
    exact Bool.false_ne_true
  rw [withDefaults, hnone, List.map_nil, List.append_nil]

theorem hasValue_withDefaults (h : hasValue key rows = true) : hasValue key (withDefaults rows) = true := by
  cases hrow : rows.lookup key with
  | none =>
    rw [hasValue, hrow] at h
    cases h
  | some v =>
    have hsame : (withDefaults rows).lookup key = rows.lookup key := by
      rw [lookup_withDefaults, hrow, Option.some_or]
    rw [hasValue_congr hsame, h]

/-- No default competes with the environment: each has a row already, or no offer. -/
def Clear (environment : List (String × String)) (rows : SettingRows) : Prop :=
  ∀ d ∈ defaults, hasRow d.1 rows = true ∨ offer? environment d.1 = none

/-- Whether there is a row after the environment was taken over. -/
theorem hasRow_adopted (environment : List (String × String)) (rows : SettingRows) (key : String) :
    hasRow key (adopted environment rows) = (hasRow key rows || (offer? environment key).isSome) := by
  rw [hasRow_eq, hasRow_eq, lookup_adopted, taken]
  cases hrow : rows.lookup key with
  | none =>
    have hvalue : hasValue key rows = false := by rw [hasValue, hrow]
    rw [hvalue, if_neg Bool.false_ne_true, Option.or_none, Option.isSome_map, Option.isSome_none, Bool.false_or]
  | some v =>
    rw [Option.isSome_some, Bool.true_or]
    split
    · rfl
    · rw [Option.isSome_or, Option.isSome_some, Bool.or_true]

theorem bootstrap?_of_clear (s : Settings) (h : Clear environment s.rows) :
    bootstrap? environment s = some { rows := withDefaults (adopted environment s.rows) } := by
  have hsame : ∀ d ∈ defaults, hasRow d.1 (adopted environment s.rows) = hasRow d.1 s.rows := by
    intro d hd
    rw [hasRow_adopted]
    rcases h d hd with hrow | hnone
    · rw [hrow, Bool.true_or]
    · rw [hnone, Option.isSome_none, Bool.or_false]
  have hfresh : (defaults.filter fun d => !hasRow d.1 s.rows) =
      defaults.filter fun d => !hasRow d.1 (adopted environment s.rows) :=
    List.filter_congr fun d hd => by rw [hsame d hd]
  have hnone : ((defaults.filter fun d => !hasRow d.1 s.rows).any
      fun d => hasRow d.1 (adopted environment s.rows)) = false := by
    refine List.any_eq_false.mpr fun d hd => ?_
    obtain ⟨hd, hlacks⟩ := List.mem_filter.mp hd
    rw [hsame d hd]
    simpa using hlacks
  rw [adopted] at hnone hfresh
  rw [bootstrap?]
  dsimp only
  rw [hnone, if_neg Bool.false_ne_true, withDefaults, adopted, hfresh]

theorem bootstrap?_of_not_clear (s : Settings) (h : ¬ Clear environment s.rows) : bootstrap? environment s = none := by
  obtain ⟨d, hd, hcompetes⟩ : ∃ d ∈ defaults, ¬ (hasRow d.1 s.rows = true ∨ offer? environment d.1 = none) := by
    by_contra hnot
    exact h fun d hd => by_contra fun hd' => hnot ⟨d, hd, hd'⟩
  obtain ⟨hlacks, hoffer⟩ := not_or.mp hcompetes
  have hrow : hasRow d.1 (adopted environment s.rows) = true := by
    rw [hasRow_adopted, Option.isSome_iff_ne_none.mpr hoffer, Bool.or_true]
  have hany : ((defaults.filter fun d => !hasRow d.1 s.rows).any
      fun d => hasRow d.1 (adopted environment s.rows)) = true :=
    List.any_eq_true.mpr ⟨d, List.mem_filter.mpr ⟨hd, by simpa using hlacks⟩, hrow⟩
  rw [adopted] at hany
  rw [bootstrap?]
  dsimp only
  rw [hany, if_pos rfl]

/-- What a start leads to that succeeds. -/
theorem bootstrap?_eq_some_iff {s s' : Settings} : bootstrap? environment s = some s' ↔
    Clear environment s.rows ∧ s' = { rows := withDefaults (adopted environment s.rows) } := by
  by_cases hclear : Clear environment s.rows
  · rw [bootstrap?_of_clear s hclear, Option.some.injEq, eq_comm]
    exact (and_iff_right hclear).symm
  · rw [bootstrap?_of_not_clear s hclear]
    exact iff_of_false (fun h => nomatch h) fun h => hclear h.1

/-! ## One row for each key -/

theorem keys_put (key : String) (value : Option String) (rows : SettingRows) :
    (put key value rows).map Prod.fst =
      if key ∈ rows.map Prod.fst then rows.map Prod.fst else rows.map Prod.fst ++ [key] := by
  induction rows with
  | nil => rfl
  | cons row rest ih =>
    obtain ⟨k, v⟩ := row
    rw [put]
    by_cases hk : k = key
    · subst hk
      simp
    · have hkey : ¬ key = k := fun h => hk h.symm
      simp only [beq_iff_eq, hk, if_false, List.map_cons, ih, List.mem_cons, hkey, false_or]
      split <;> rfl

theorem nodup_put (h : (rows.map Prod.fst).Nodup) (key : String) (value : Option String) :
    ((put key value rows).map Prod.fst).Nodup := by
  rw [keys_put]
  split
  next => exact h
  next hfresh =>
    refine List.nodup_append.mpr ⟨h, List.pairwise_singleton _ key, fun k hk k' hk' heq => hfresh ?_⟩
    rw [List.mem_singleton] at hk'
    rwa [heq, hk'] at hk

theorem nodup_adopted (h : (rows.map Prod.fst).Nodup) : ((adopted environment rows).map Prod.fst).Nodup := by
  rw [adopted]
  generalize environmentKeys = sources
  induction sources generalizing rows with
  | nil => exact h
  | cons source rest ih =>
    refine ih ?_
    rw [adopt]
    split
    · split
      · exact h
      · exact nodup_put h _ _
    · exact h

theorem nodup_withDefaults (h : (rows.map Prod.fst).Nodup) : ((withDefaults rows).map Prod.fst).Nodup := by
  have hdefaults : (defaults.map Prod.fst).Nodup := by decide
  rw [withDefaults, List.map_append, List.map_map]
  refine List.nodup_append.mpr ⟨h, hdefaults.sublist (List.filter_sublist.map Prod.fst), ?_⟩
  intro k hk k' hk' heq
  obtain ⟨d, hd, rfl⟩ := List.mem_map.mp hk'
  obtain ⟨row, hrow, hkey⟩ := List.mem_map.mp hk
  have hlacks := (List.mem_filter.mp hd).2
  have hthere : hasRow d.1 rows = true := List.any_eq_true.mpr ⟨row, hrow, beq_iff_eq.mpr (hkey.trans heq)⟩
  rw [hthere] at hlacks
  cases hlacks

/-! ## The start -/

/-- What a key holds after the start: its value if it had one, else what the environment offers, else what
it held, or its default if it had no row. -/
def started (environment : List (String × String)) (rows : SettingRows) (key : String) : Option (Option String) :=
  if hasValue key rows then rows.lookup key
  else match offer? environment key with
    | some text => some (some text)
    | none => (rows.lookup key).or ((defaults.lookup key).map some)

/-- A key that no variable is for has no default either. -/
theorem started_unmapped (h : environmentKeys.lookup key = none) :
    started environment rows key = rows.lookup key := by
  have hmapped : ∀ d ∈ defaults, environmentKeys.lookup d.1 ≠ none := by decide
  have hdefault : defaults.lookup key = none :=
    List.lookup_eq_none_iff.mpr fun d hd => bne_iff_ne.mpr fun heq => hmapped d hd (heq ▸ h)
  rw [started, offer?, h, hdefault, Option.bind_none, Option.map_none, Option.or_none, ite_self]

theorem lookup_started (environment : List (String × String)) (rows : SettingRows) (key : String) :
    (withDefaults (adopted environment rows)).lookup key = started environment rows key := by
  rw [lookup_withDefaults, lookup_adopted, started, taken]
  cases hvalue : hasValue key rows with
  | true =>
    cases hrow : rows.lookup key with
    | none =>
      rw [hasValue, hrow] at hvalue
      cases hvalue
    | some v => rfl
  | false =>
    rw [if_neg Bool.false_ne_true, if_neg Bool.false_ne_true]
    cases offer? environment key with
    | none => rfl
    | some text => rfl

/-- **The start fails where a default meets its variable.** It succeeds exactly if every key that has a
default has a row already, or is offered nothing by the environment. If it does, then each key holds what
it is to hold, keys that no variable is for are as before, no key has two rows, and a second start in the
same environment changes nothing. -/
theorem bootstrap_keeps_precedence (environment : List (String × String)) (s : Settings) :
    ((bootstrap? environment s).isSome = true ↔ Clear environment s.rows) ∧
    ∀ s', bootstrap? environment s = some s' →
      (∀ key, s'.rows.lookup key = started environment s.rows key) ∧
      (∀ key, environmentKeys.lookup key = none → s'.rows.lookup key = s.rows.lookup key) ∧
      ((s.rows.map Prod.fst).Nodup → (s'.rows.map Prod.fst).Nodup) ∧
      bootstrap? environment s' = some s' := by
  refine ⟨?_, fun s' hstart => ?_⟩
  · rw [Option.isSome_iff_exists]
    exact ⟨fun ⟨_, hstart⟩ => (bootstrap?_eq_some_iff.mp hstart).1, fun hclear => ⟨_, bootstrap?_of_clear s hclear⟩⟩
  · obtain ⟨-, rfl⟩ := bootstrap?_eq_some_iff.mp hstart
    have hrows : ∀ d ∈ defaults, hasRow d.1 (withDefaults (adopted environment s.rows)) = true :=
      fun d hd => hasRow_withDefaults hd _
    have hvalues : ∀ key, (offer? environment key).isSome = true →
        hasValue key (withDefaults (adopted environment s.rows)) = true :=
      fun key hkey => hasValue_withDefaults (hasValue_adopted hkey)
    refine ⟨fun key => lookup_started environment s.rows key, fun key hkey => ?_, fun hnodup => ?_, ?_⟩
    · exact (lookup_started environment s.rows key).trans (started_unmapped hkey)
    · exact nodup_withDefaults (nodup_adopted hnodup)
    · rw [bootstrap?_of_clear _ fun d hd => .inl (hrows d hd), adopted_eq_self hvalues, withDefaults_eq_self hrows]

/-- A start with a blank row under the key that has a default, a value that stays, and two variables of
which one is blank. -/
theorem bootstrap_keeps_precedence_each :
    let environment := [("TWITCH_CLIENT_ID", " id "), ("SUPER_USER", "other"), ("TRANSLATE_URL", " ")]
    let s : Settings := { rows := [("bot_app_scopes", none), ("super_user", some "owner"), ("kept", some "")] }
    let s' : Settings := { rows := s.rows ++ [("twitch_client_id", some "id")] }
    bootstrap? environment s = some s' ∧ (s.rows.map Prod.fst).Nodup ∧ (s'.rows.map Prod.fst).Nodup ∧
      s'.rows.lookup "twitch_client_id" = started environment s.rows "twitch_client_id" ∧
      s'.rows.lookup "kept" = s.rows.lookup "kept" ∧ bootstrap? environment s' = some s' := by
  intro environment s s'
  have hstart : bootstrap? environment s = some s' := by decide +kernel
  have hnodup : (s.rows.map Prod.fst).Nodup := by decide
  obtain ⟨hkeys, hothers, hrows, hagain⟩ := (bootstrap_keeps_precedence environment s).2 s' hstart
  exact ⟨hstart, hnodup, hrows hnodup, hkeys _, hothers _ (by decide), hagain⟩

/-- With a variable for the scopes, a start on an empty table fails, although the scopes are to be those. -/
theorem start_fails_on_empty_table :
    let environment := [("BOT_APP_SCOPES", "a b")]
    bootstrap? environment {} = none ∧ started environment [] "bot_app_scopes" = some (some "a b") := by
  decide +kernel

end ChannelBot.Server.Settings
