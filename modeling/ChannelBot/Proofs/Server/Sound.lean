/-
Sound tables: no two channels share a number or a name, names are as a search compares them, and
every other row belongs to a channel that exists and is told apart there by its key. Under these
rules every search finds at most one row, so what each request does is a plain case distinction
(`addChannel_eq`, `withChannel_eq`, …), and each change of the tables keeps them sound.
-/
import Mathlib.Data.List.Nodup
import ChannelBot.Proofs.Server.Rows
import ChannelBot.Proofs.Text.Lower
import ChannelBot.Server.Channels

namespace ChannelBot.Server.Tables

/-- The numbers of the channels. -/
def ids (t : Tables) : List Nat := t.channels.map (·.id)

/-- The row of the channel of exactly this name. -/
def row? (t : Tables) (name : String) : Option ChannelRow := t.channels.find? (·.name == name)

/-- What every history of requests keeps of the tables. -/
structure Sound (t : Tables) : Prop where
  numbers : t.ids.Nodup
  names : (t.channels.map (·.name)).Nodup
  lower : ∀ c ∈ t.channels, folded c.name = c.name
  commands : OwnedRow.Sound t.ids t.commands
  redeems : OwnedRow.Sound t.ids t.redeems
  targets : OwnedRow.Sound t.ids t.targets
  users : ∀ r ∈ t.targets, folded r.key = r.key
  credentials : (t.credentials.map (·.1)).Nodup
  owned : ∀ e ∈ t.credentials, e.1 ∈ t.ids

theorem Sound.empty : Sound {} where
  numbers := List.nodup_nil
  names := List.nodup_nil
  lower := by simp
  commands := .nil
  redeems := .nil
  targets := .nil
  users := by simp
  credentials := List.nodup_nil
  owned := by simp

variable {t : Tables}

/-! ## Searches -/

theorem row?_mem {name : String} {c : ChannelRow} (h : t.row? name = some c) :
    c ∈ t.channels ∧ c.name = name :=
  ⟨List.mem_of_find?_eq_some h, by simpa using List.find?_some h⟩

theorem row?_id_mem {name : String} {c : ChannelRow} (h : t.row? name = some c) : c.id ∈ t.ids :=
  List.mem_map_of_mem (row?_mem h).1

theorem Sound.channel_eq (h : t.Sound) (name : String) :
    t.channel name = .ofOption (t.row? (ChannelName.normalize name)) := by
  have hpred : ∀ c ∈ t.channels,
      (folded c.name == ChannelName.normalize name) = (c.name == ChannelName.normalize name) :=
    fun c hc => by rw [h.lower c hc]
  rw [channel, List.filter_congr hpred, Search.of_filter (pairwise_not_both h.names fun c hc => by simpa using hc)]
  rfl

theorem Sound.target_eq (h : t.Sound) (owner : Nat) (user : String) :
    t.target owner user =
      .ofOption ((OwnedRow.get? owner (Text.lower user) t.targets).map fun f => ⟨owner, Text.lower user, f⟩) := by
  have hpred : ∀ r ∈ t.targets, (r.owner == owner && folded r.key == Text.lower user) =
      OwnedRow.isAt owner (Text.lower user) r :=
    fun r hr => by rw [h.users r hr, OwnedRow.isAt]
  rw [target, List.filter_congr hpred, ← h.targets.find_eq]
  rfl

/-- A channel is found under its name. -/
theorem Sound.row?_eq_some_iff (h : t.Sound) {name : String} {c : ChannelRow} :
    t.row? name = some c ↔ c ∈ t.channels ∧ c.name = name := by
  refine ⟨row?_mem, ?_⟩
  intro hmem
  obtain ⟨hc, rfl⟩ := hmem
  cases hrow : t.row? c.name with
  | none =>
    have hne := List.find?_eq_none.mp hrow c hc
    simp at hne
  | some d => rw [List.inj_on_of_nodup_map h.names (row?_mem hrow).1 hc (row?_mem hrow).2]

theorem Sound.row?_eq_of_id (h : t.Sound) {name : String} {c d : ChannelRow} (hc : t.row? name = some c)
    (hd : d ∈ t.channels) (hid : d.id = c.id) : d = c :=
  List.inj_on_of_nodup_map h.numbers hd (row?_mem hc).1 hid

/-! ## Requests as case distinctions -/

theorem Sound.withChannel_eq (h : t.Sound) (name : String) (use : ChannelRow → Tables × Response) :
    t.withChannel name use = match t.row? (ChannelName.normalize name) with
      | some c => use c
      | none => (t, .missing "channel not found") := by
  rw [withChannel, h.channel_eq]
  cases t.row? (ChannelName.normalize name) <;> rfl

theorem Sound.addChannel_eq (h : t.Sound) (p : NewChannel) :
    t.addChannel p = match t.row? (ChannelName.normalize p.name) with
      | some _ => (t, .taken "channel already exists")
      | none =>
        let row : ChannelRow := ⟨t.nextId, ChannelName.normalize p.name, p.sigil⟩
        ({ t with channels := t.channels ++ [row] }, .ok row.toValue) := by
  rw [addChannel, h.channel_eq]
  cases hrow : t.row? (ChannelName.normalize p.name) with
  | some c => rfl
  | none =>
    have hany : t.channels.any (·.name == ChannelName.normalize p.name) = false := by
      rw [List.any_eq_false]
      exact List.find?_eq_none.mp hrow
    simp only [Search.ofOption, insertChannel?, hany, Bool.false_eq_true, if_false]

theorem Sound.withCommand_eq (h : t.Sound) (name trigger : String)
    (use : OwnedRow CommandContent → Tables × Response) :
    t.withCommand name trigger use = t.withChannel name fun c =>
      match OwnedRow.get? c.id trigger t.commands with
      | some k => use ⟨c.id, trigger, k⟩
      | none => (t, .missing "command not found") := by
  rw [withCommand]
  congr 1
  funext c
  rw [h.commands.find_eq]
  cases OwnedRow.get? c.id trigger t.commands <;> rfl

theorem Sound.withRedeem_eq (h : t.Sound) (name title : String) (use : OwnedRow String → Tables × Response) :
    t.withRedeem name title use = t.withChannel name fun c =>
      match OwnedRow.get? c.id title t.redeems with
      | some a => use ⟨c.id, title, a⟩
      | none => (t, .missing "redeem not found") := by
  rw [withRedeem]
  congr 1
  funext c
  rw [h.redeems.find_eq]
  cases OwnedRow.get? c.id title t.redeems <;> rfl

theorem Sound.showTarget_eq (h : t.Sound) (name user : String) :
    t.showTarget name user = t.withChannel name fun c =>
      match OwnedRow.get? c.id (Text.lower user) t.targets with
      | some f => (t, .ok (targetValue (Text.lower user) f))
      | none => (t, .missing "hitman target not found") := by
  rw [showTarget]
  congr 1
  funext c
  rw [h.target_eq]
  cases OwnedRow.get? c.id (Text.lower user) t.targets <;> rfl

theorem Sound.writeTarget_eq (h : t.Sound) (owner : Nat) (user : String) (change : TargetFlags → TargetFlags) :
    t.writeTarget owner user change =
      match OwnedRow.get? owner (Text.lower user) t.targets with
      | some f =>
        ({ t with targets := OwnedRow.update owner (Text.lower user) (change f) t.targets },
          .ok (targetValue (Text.lower user) (change f)))
      | none =>
        ({ t with targets := t.targets ++ [⟨owner, Text.lower user, change ⟨false, false⟩⟩] },
          .ok (targetValue (Text.lower user) (change ⟨false, false⟩))) := by
  rw [writeTarget, h.target_eq]
  cases hget : OwnedRow.get? owner (Text.lower user) t.targets with
  | some f => rfl
  | none => simp [Search.ofOption, OwnedRow.insert?_eq, hget]

/-! ## Changes keep the tables sound -/

theorem Sound.setCommands (h : t.Sound) {rows : List (OwnedRow CommandContent)}
    (hrows : OwnedRow.Sound t.ids rows) : Sound { t with commands := rows } := { h with commands := hrows }

theorem Sound.setRedeems (h : t.Sound) {rows : List (OwnedRow String)}
    (hrows : OwnedRow.Sound t.ids rows) : Sound { t with redeems := rows } := { h with redeems := hrows }

theorem Sound.setTargets (h : t.Sound) {rows : List (OwnedRow TargetFlags)}
    (hrows : OwnedRow.Sound t.ids rows) (husers : ∀ r ∈ rows, folded r.key = r.key) :
    Sound { t with targets := rows } := { h with targets := hrows, users := husers }

/-- The next number is beyond all that are in use, so no row belongs to it. -/
theorem nextId_not_mem (t : Tables) : t.nextId ∉ t.ids := by
  have hmax : ∀ (l : List Nat) (a : Nat), a ≤ l.foldl max a ∧ ∀ i ∈ l, i ≤ l.foldl max a := by
    intro l
    induction l with
    | nil => simp
    | cons x l ih =>
      intro a
      obtain ⟨hle, hall⟩ := ih (max a x)
      refine ⟨by rw [List.foldl_cons]; omega, fun i hi => ?_⟩
      rw [List.foldl_cons]
      rcases List.mem_cons.mp hi with rfl | hi
      · omega
      · exact hall i hi
  intro hmem
  have := (hmax t.ids 0).2 _ hmem
  rw [nextId] at this
  exact absurd this (by rw [ids]; omega)

theorem Sound.appendChannel (h : t.Sound) {c : ChannelRow} (hid : c.id ∉ t.ids)
    (hname : t.row? c.name = none) (hlower : folded c.name = c.name) :
    Sound { t with channels := t.channels ++ [c] } := by
  have hids : t.ids ⊆ ids { t with channels := t.channels ++ [c] } := by
    intro i hi
    rw [ids, List.map_append]
    exact List.mem_append_left _ hi
  have hnew : c.name ∉ t.channels.map (·.name) := by
    rw [List.mem_map]
    intro hmem
    obtain ⟨d, hd, hdc⟩ := hmem
    exact absurd hdc (by simpa using List.find?_eq_none.mp hname d hd)
  refine ⟨?_, ?_, ?_, h.commands.mono hids, h.redeems.mono hids, h.targets.mono hids, h.users,
    h.credentials, fun e he => hids (h.owned e he)⟩
  · rw [ids, List.map_append, List.map_singleton]
    exact List.nodup_append.mpr ⟨h.numbers, List.nodup_singleton _, by
      intro a ha b hb heq
      subst heq
      exact hid (List.mem_singleton.mp hb ▸ ha)⟩
  · rw [List.map_append, List.map_singleton]
    exact List.nodup_append.mpr ⟨h.names, List.nodup_singleton _, by
      intro a ha b hb heq
      subst heq
      exact hnew (List.mem_singleton.mp hb ▸ ha)⟩
  · intro d hd
    rcases List.mem_append.mp hd with hd | hd
    · exact h.lower d hd
    · rw [List.mem_singleton.mp hd]
      exact hlower

theorem Sound.setSigil (h : t.Sound) (id : Nat) (sigil : String) : (t.setSigil id sigil).Sound := by
  have hid : ∀ c : ChannelRow, (if c.id == id then { c with sigil := sigil } else c).id = c.id := by
    intro c
    split <;> rfl
  have hname : ∀ c : ChannelRow, (if c.id == id then { c with sigil := sigil } else c).name = c.name := by
    intro c
    split <;> rfl
  have hids : (t.setSigil id sigil).ids = t.ids := by
    simp only [ids, Tables.setSigil, List.map_map]
    exact List.map_congr_left fun c _ => hid c
  refine ⟨hids ▸ h.numbers, ?_, ?_, hids ▸ h.commands, hids ▸ h.redeems, hids ▸ h.targets, h.users,
    h.credentials, hids ▸ h.owned⟩
  · have hnames : (t.setSigil id sigil).channels.map (·.name) = t.channels.map (·.name) := by
      simp only [Tables.setSigil, List.map_map]
      exact List.map_congr_left fun c _ => hname c
    exact hnames ▸ h.names
  · intro d hd
    obtain ⟨c, hc, rfl⟩ := List.mem_map.mp hd
    rw [hname c]
    exact h.lower c hc

theorem Sound.eraseChannel (h : t.Sound) (id : Nat) : (t.eraseChannel id).Sound := by
  have hids : ∀ i ∈ t.ids, i ≠ id → i ∈ (t.eraseChannel id).ids := by
    intro i hi hne
    obtain ⟨c, hc, rfl⟩ := List.mem_map.mp hi
    exact List.mem_map.mpr ⟨c, List.mem_filter.mpr ⟨hc, by simpa using hne⟩, rfl⟩
  refine ⟨h.numbers.sublist (List.filter_sublist.map _), h.names.sublist (List.filter_sublist.map _),
    fun c hc => h.lower c (List.mem_of_mem_filter hc), h.commands.withoutOwner hids,
    h.redeems.withoutOwner hids, h.targets.withoutOwner hids,
    fun r hr => h.users r (List.mem_of_mem_filter hr),
    h.credentials.sublist (List.filter_sublist.map _), fun e he => ?_⟩
  obtain ⟨hmem, hne⟩ := List.mem_filter.mp he
  exact hids _ (h.owned e hmem) (by simpa using hne)

theorem Sound.putCredential (h : t.Sound) {owner : Nat} (ho : owner ∈ t.ids) (k : Credential) :
    (t.putCredential owner k).Sound := by
  have hkeys : (t.putCredential owner k).credentials.map (·.1) =
      if t.credentials.any (·.1 == owner) then t.credentials.map (·.1)
      else t.credentials.map (·.1) ++ [owner] := by
    simp only [Tables.putCredential]
    split
    · rw [List.map_map]
      refine List.map_congr_left fun e _ => ?_
      simp only [Function.comp_apply]
      split <;> simp_all
    · simp
  refine { h with credentials := ?_, owned := fun e he => ?_ }
  · rw [hkeys]
    split
    · exact h.credentials
    · rename_i hnone
      refine List.nodup_append.mpr ⟨h.credentials, List.nodup_singleton _, ?_⟩
      intro a ha b hb heq
      subst heq
      obtain ⟨e, he, rfl⟩ := List.mem_map.mp ha
      exact hnone (List.any_eq_true.mpr ⟨e, he, by simpa using hb⟩)
  · have hmem : e.1 ∈ (t.putCredential owner k).credentials.map (·.1) := List.mem_map_of_mem he
    rw [hkeys] at hmem
    have hold : ∀ i ∈ t.credentials.map (·.1), i ∈ t.ids := by
      intro i hi
      obtain ⟨e', he', rfl⟩ := List.mem_map.mp hi
      exact h.owned e' he'
    split at hmem
    · exact hold _ hmem
    · rcases List.mem_append.mp hmem with hmem | hmem
      · exact hold _ hmem
      · exact List.mem_singleton.mp hmem ▸ ho

end ChannelBot.Server.Tables
