/-
The tables mean a ledger: a map from channel names to records, each with a sigil and the maps of
its commands, redemptions and targets. `Call.enter` says what a call does to a ledger and what it
answers, without rows, numbers or searches; `Tables.ledger` reads the ledger off the tables, and
each change of sound tables changes one record of it (`ledger_setCommands`, `ledger_eraseChannel`,
`ledger_appendChannel`, …).
-/
import Std.Data.ExtTreeMap
import ChannelBot.Proofs.Server.Call
import ChannelBot.Proofs.Text.Order

namespace ChannelBot.Server

open Std (ExtTreeMap)

/-! ## Ledgers -/

/-- What a ledger holds of a channel. -/
structure ChannelRecord where
  sigil : String
  commands : ExtTreeMap String CommandContent := ∅
  redeems : ExtTreeMap String String := ∅
  targets : ExtTreeMap String TargetFlags := ∅

/-- Records by the normal form of a channel's name. -/
abbrev Ledger : Type := ExtTreeMap String ChannelRecord

namespace Ledger

/-- How a channel shows. -/
def channelValue (name sigil : String) : Value := .obj [("channel_name", .str name), ("prefix", .str sigil)]

/-- Goes on with the record of a channel, under its normal name. -/
def withRecord (m : Ledger) (channel : String) (use : String → ChannelRecord → Ledger × Response) :
    Ledger × Response :=
  match m[ChannelName.normalize channel]? with
  | some r => use (ChannelName.normalize channel) r
  | none => (m, .missing "channel not found")

/-- Goes on with what a map of a record has under a key. -/
def withEntry {α : Type} (m : Ledger) (missing : String) (use : α → Ledger × Response) :
    Option α → Ledger × Response
  | some a => use a
  | none => (m, .missing missing)

/-- Writes the flags of a target. -/
def putTarget (m : Ledger) (name : String) (r : ChannelRecord) (user : String) (flags : TargetFlags) :
    Ledger × Response :=
  (m.insert name { r with targets := r.targets.insert user flags }, .ok (targetValue user flags))

end Ledger

open Ledger in
/-- What a call does to a ledger, and its answer. -/
def Call.enter : Call → Ledger → Ledger × Response
  | .listChannels, m => (m, .ok (.list (m.toList.map fun e => channelValue e.1 e.2.sigil)))
  | .addChannel p, m =>
    let name := ChannelName.normalize p.name
    if name ∈ m then (m, .taken "channel already exists")
    else (m.insert name { sigil := p.sigil }, .ok (channelValue name p.sigil))
  | .showChannel c, m => m.withRecord c fun name r => (m, .ok (channelValue name r.sigil))
  | .changeSigil c s, m => m.withRecord c fun name r =>
    (m.insert name { r with sigil := s }, .ok (channelValue name s))
  | .removeChannel c, m => m.withRecord c fun name _ => (m.erase name, .done)
  | .listCommands c, m => m.withRecord c fun _ r => (m, .ok (.list (r.commands.keys.map .str)))
  | .addCommand c p, m => m.withRecord c fun name r =>
    let content : CommandContent := ⟨p.body, p.permission⟩
    if p.trigger ∈ r.commands then (m, .taken "command already exists")
    else (m.insert name { r with commands := r.commands.insert p.trigger content },
      .ok (commandValue p.trigger content))
  | .showCommand c k, m => m.withRecord c fun _ r =>
    m.withEntry "command not found" (fun content => (m, .ok (commandValue k content))) r.commands[k]?
  | .removeCommand c k, m => m.withRecord c fun name r =>
    m.withEntry "command not found"
      (fun _ => (m.insert name { r with commands := r.commands.erase k }, .done)) r.commands[k]?
  | .addRedeem c p, m => m.withRecord c fun name r =>
    if p.title ∈ r.redeems then (m, .taken "redeem already exists")
    else (m.insert name { r with redeems := r.redeems.insert p.title p.action },
      .ok (redeemValue p.title p.action))
  | .showRedeem c k, m => m.withRecord c fun _ r =>
    m.withEntry "redeem not found" (fun action => (m, .ok (redeemValue k action))) r.redeems[k]?
  | .removeRedeem c k, m => m.withRecord c fun name r =>
    m.withEntry "redeem not found"
      (fun _ => (m.insert name { r with redeems := r.redeems.erase k }, .done)) r.redeems[k]?
  | .addTarget c u, m => m.withRecord c fun name r =>
    let flags := r.targets[Text.lower u]?.getD ⟨false, false⟩
    m.putTarget name r (Text.lower u) { flags with completed := false }
  | .showTarget c u, m => m.withRecord c fun _ r =>
    m.withEntry "hitman target not found"
      (fun flags => (m, .ok (targetValue (Text.lower u) flags))) r.targets[Text.lower u]?
  | .changeTarget c u p, m => m.withRecord c fun name r =>
    let flags := r.targets[Text.lower u]?.getD ⟨false, false⟩
    m.putTarget name r (Text.lower u) ⟨p.guarded, p.completed.getD flags.completed⟩

/-! ## Maps of rows -/

namespace OwnedRow

variable {α : Type}

/-- The rows of a channel as a map. -/
def toMap (owner : Nat) (rows : List (OwnedRow α)) : ExtTreeMap String α :=
  rows.foldr (fun r m => if r.owner = owner then m.insert r.key r.content else m) ∅

@[simp] theorem getElem?_toMap (owner : Nat) (rows : List (OwnedRow α)) (key : String) :
    (toMap owner rows)[key]? = get? owner key rows := by
  induction rows with
  | nil => simp [toMap]
  | cons r rest ih =>
    rw [get?_cons, ← ih, toMap, List.foldr_cons, ← toMap]
    by_cases ho : r.owner = owner
    · simp [ho, ExtTreeMap.getElem?_insert]
    · simp [ho]

theorem mem_toMap {owner : Nat} {rows : List (OwnedRow α)} {key : String} :
    key ∈ toMap owner rows ↔ (get? owner key rows).isSome = true := by
  rw [ExtTreeMap.mem_iff_isSome_getElem?, getElem?_toMap]

theorem toMap_congr {owner : Nat} {rows rows' : List (OwnedRow α)}
    (h : ∀ key, get? owner key rows' = get? owner key rows) : toMap owner rows' = toMap owner rows :=
  ExtTreeMap.ext_getElem? fun key => by rw [getElem?_toMap, getElem?_toMap, h]

theorem toMap_eq_empty {owner : Nat} {rows : List (OwnedRow α)} (h : ∀ key, get? owner key rows = none) :
    toMap owner rows = ∅ :=
  ExtTreeMap.ext_getElem? fun key => by simp [h]

theorem toMap_append_single {owner : Nat} {key : String} {content : α} {rows : List (OwnedRow α)}
    (hnone : get? owner key rows = none) :
    toMap owner (rows ++ [⟨owner, key, content⟩]) = (toMap owner rows).insert key content := by
  refine ExtTreeMap.ext_getElem? fun key' => ?_
  rw [ExtTreeMap.getElem?_insert, getElem?_toMap, getElem?_toMap, get?_append_single]
  by_cases hk : key = key'
  · subst hk
    simp [hnone]
  · simp [hk]

theorem toMap_erase (owner : Nat) (key : String) (rows : List (OwnedRow α)) :
    toMap owner (erase owner key rows) = (toMap owner rows).erase key := by
  refine ExtTreeMap.ext_getElem? fun key' => ?_
  rw [ExtTreeMap.getElem?_erase, getElem?_toMap, getElem?_toMap, get?_erase]
  by_cases hk : key = key'
  · simp [hk]
  · simp [hk, Ne.symm hk]

theorem toMap_update {owner : Nat} {key : String} {content old : α} {rows : List (OwnedRow α)}
    (hsome : get? owner key rows = some old) :
    toMap owner (update owner key content rows) = (toMap owner rows).insert key content := by
  refine ExtTreeMap.ext_getElem? fun key' => ?_
  rw [ExtTreeMap.getElem?_insert, getElem?_toMap, getElem?_toMap, get?_update]
  by_cases hk : key = key'
  · subst hk
    simp [hsome]
  · simp [hk, Ne.symm hk]

end OwnedRow

/-! ## The ledger of the tables -/

namespace Tables

/-- What the tables hold of a channel. -/
def record (t : Tables) (c : ChannelRow) : ChannelRecord where
  sigil := c.sigil
  commands := OwnedRow.toMap c.id t.commands
  redeems := OwnedRow.toMap c.id t.redeems
  targets := OwnedRow.toMap c.id t.targets

/-- What the tables hold. -/
def ledger (t : Tables) : Ledger := t.channels.foldr (fun c m => m.insert c.name (t.record c)) ∅

variable {t t' : Tables} {name : String} {c : ChannelRow}

theorem getElem?_ledger (t : Tables) (name : String) : t.ledger[name]? = (t.row? name).map t.record := by
  rw [ledger, row?]
  induction t.channels with
  | nil => simp
  | cons c rest ih =>
    rw [List.foldr_cons, ExtTreeMap.getElem?_insert, List.find?_cons, ih]
    by_cases hn : c.name = name
    · simp [hn]
    · have hb : (c.name == name) = false := by simpa using hn
      simp [hn, hb]

theorem mem_ledger : name ∈ t.ledger ↔ (t.row? name).isSome = true := by
  rw [ExtTreeMap.mem_iff_isSome_getElem?, getElem?_ledger, Option.isSome_map]

theorem record_congr (hcommands : ∀ key, OwnedRow.get? c.id key t'.commands = OwnedRow.get? c.id key t.commands)
    (hredeems : ∀ key, OwnedRow.get? c.id key t'.redeems = OwnedRow.get? c.id key t.redeems)
    (htargets : ∀ key, OwnedRow.get? c.id key t'.targets = OwnedRow.get? c.id key t.targets) :
    t'.record c = t.record c := by
  simp only [record, OwnedRow.toMap_congr hcommands, OwnedRow.toMap_congr hredeems,
    OwnedRow.toMap_congr htargets]

/-- Tables that differ in one channel have ledgers that differ in its record. -/
theorem ledger_eq_insert (t' : Tables) (c' : ChannelRow)
    (hrow : ∀ m, t'.row? m = if m = name then some c' else t.row? m)
    (hrest : ∀ m d, m ≠ name → t.row? m = some d → t'.record d = t.record d) :
    t'.ledger = t.ledger.insert name (t'.record c') := by
  refine ExtTreeMap.ext_getElem? fun m => ?_
  rw [ExtTreeMap.getElem?_insert, getElem?_ledger, getElem?_ledger, hrow]
  by_cases hm : m = name
  · subst hm
    simp
  · rw [if_neg hm, if_neg (by simpa using Ne.symm hm)]
    cases hd : t.row? m with
    | none => rfl
    | some d => exact congrArg some (hrest m d hm hd)

theorem ledger_eq_erase (hrow : ∀ m, t'.row? m = if m = name then none else t.row? m)
    (hrest : ∀ m d, m ≠ name → t.row? m = some d → t'.record d = t.record d) :
    t'.ledger = t.ledger.erase name := by
  refine ExtTreeMap.ext_getElem? fun m => ?_
  rw [ExtTreeMap.getElem?_erase, getElem?_ledger, getElem?_ledger, hrow]
  by_cases hm : m = name
  · subst hm
    simp
  · rw [if_neg hm, if_neg (by simpa using Ne.symm hm)]
    cases hd : t.row? m with
    | none => rfl
    | some d => exact congrArg some (hrest m d hm hd)

/-- Channels of different names have different numbers. -/
theorem Sound.id_ne (h : t.Sound) {m : String} {d : ChannelRow} (hc : t.row? name = some c)
    (hd : t.row? m = some d) (hm : m ≠ name) : d.id ≠ c.id := by
  intro hid
  have hdc := h.row?_eq_of_id hc (row?_mem hd).1 hid
  exact hm ((row?_mem hd).2.symm.trans (hdc ▸ (row?_mem hc).2))

/-! ## Changes of the tables -/

theorem Sound.ledger_setCommands (h : t.Sound) (hc : t.row? name = some c)
    {rows : List (OwnedRow CommandContent)}
    (hrest : ∀ owner key, owner ≠ c.id → OwnedRow.get? owner key rows = OwnedRow.get? owner key t.commands) :
    ledger { t with commands := rows } =
      t.ledger.insert name { t.record c with commands := OwnedRow.toMap c.id rows } := by
  refine ledger_eq_insert { t with commands := rows } c (fun m => ?_) fun m d hm hd => ?_
  · split
    · rename_i hm
      exact hm ▸ hc
    · rfl
  · exact record_congr (fun key => hrest d.id key (h.id_ne hc hd hm)) (fun _ => rfl) fun _ => rfl

theorem Sound.ledger_setRedeems (h : t.Sound) (hc : t.row? name = some c) {rows : List (OwnedRow String)}
    (hrest : ∀ owner key, owner ≠ c.id → OwnedRow.get? owner key rows = OwnedRow.get? owner key t.redeems) :
    ledger { t with redeems := rows } =
      t.ledger.insert name { t.record c with redeems := OwnedRow.toMap c.id rows } := by
  refine ledger_eq_insert { t with redeems := rows } c (fun m => ?_) fun m d hm hd => ?_
  · split
    · rename_i hm
      exact hm ▸ hc
    · rfl
  · exact record_congr (fun _ => rfl) (fun key => hrest d.id key (h.id_ne hc hd hm)) fun _ => rfl

theorem Sound.ledger_setTargets (h : t.Sound) (hc : t.row? name = some c) {rows : List (OwnedRow TargetFlags)}
    (hrest : ∀ owner key, owner ≠ c.id → OwnedRow.get? owner key rows = OwnedRow.get? owner key t.targets) :
    ledger { t with targets := rows } =
      t.ledger.insert name { t.record c with targets := OwnedRow.toMap c.id rows } := by
  refine ledger_eq_insert { t with targets := rows } c (fun m => ?_) fun m d hm hd => ?_
  · split
    · rename_i hm
      exact hm ▸ hc
    · rfl
  · exact record_congr (fun _ => rfl) (fun _ => rfl) fun key => hrest d.id key (h.id_ne hc hd hm)

theorem row?_setSigil (t : Tables) (id : Nat) (sigil name : String) :
    (t.setSigil id sigil).row? name =
      (t.row? name).map fun c => if c.id == id then { c with sigil := sigil } else c := by
  rw [row?, row?, setSigil, List.find?_map]
  congr 2
  funext c
  simp only [Function.comp_apply]
  split <;> rfl

theorem Sound.ledger_setSigil (h : t.Sound) (hc : t.row? name = some c) (sigil : String) :
    (t.setSigil c.id sigil).ledger = t.ledger.insert name { t.record c with sigil := sigil } := by
  refine ledger_eq_insert (t.setSigil c.id sigil) { c with sigil := sigil } (fun m => ?_)
    fun _ _ _ _ => rfl
  rw [row?_setSigil]
  by_cases hm : m = name
  · subst hm
    simp [hc]
  · rw [if_neg hm]
    cases hd : t.row? m with
    | none => rfl
    | some d => simp [h.id_ne hc hd hm]

theorem Sound.ledger_eraseChannel (h : t.Sound) (hc : t.row? name = some c) :
    (t.eraseChannel c.id).ledger = t.ledger.erase name := by
  have hrow : ∀ m, (t.eraseChannel c.id).row? m = if m = name then none else t.row? m := by
    intro m
    refine Option.ext fun d => ?_
    rw [(h.eraseChannel c.id).row?_eq_some_iff, Tables.eraseChannel, List.mem_filter, bne_iff_ne]
    by_cases hm : m = name
    · subst hm
      simp only [if_true, reduceCtorEq, iff_false]
      intro hmem
      obtain ⟨⟨hd, hne⟩, hname⟩ := hmem
      have hdc : some d = some c := (h.row?_eq_some_iff.mpr ⟨hd, hname⟩).symm.trans hc
      cases hdc
      exact hne rfl
    · rw [if_neg hm, h.row?_eq_some_iff]
      refine ⟨fun ⟨⟨hd, _⟩, hname⟩ => ⟨hd, hname⟩, fun ⟨hd, hname⟩ => ⟨⟨hd, ?_⟩, hname⟩⟩
      exact h.id_ne hc (h.row?_eq_some_iff.mpr ⟨hd, hname⟩) hm
  refine ledger_eq_erase hrow fun m d hm hd => ?_
  have hne := h.id_ne hc hd hm
  refine record_congr (fun key => ?_) (fun key => ?_) fun key => ?_ <;>
    exact (OwnedRow.get?_withoutOwner ..).trans (if_neg hne)

/-- A new channel has nothing, whatever was there under its number or its name before. -/
theorem Sound.ledger_appendChannel (h : t.Sound) (hid : c.id ∉ t.ids) (hname : t.row? c.name = none) :
    ledger { t with channels := t.channels ++ [c] } = t.ledger.insert c.name { sigil := c.sigil } := by
  have hrecord : record { t with channels := t.channels ++ [c] } c = { sigil := c.sigil } := by
    simp only [record, OwnedRow.toMap_eq_empty (h.commands.get?_of_not_mem hid),
      OwnedRow.toMap_eq_empty (h.redeems.get?_of_not_mem hid),
      OwnedRow.toMap_eq_empty (h.targets.get?_of_not_mem hid)]
  rw [← hrecord]
  refine ledger_eq_insert { t with channels := t.channels ++ [c] } c (fun m => ?_) fun _ _ _ _ => rfl
  rw [row?, List.find?_append]
  by_cases hm : m = c.name
  · subst hm
    rw [row?] at hname
    simp [hname]
  · have hb : (c.name == m) = false := by simpa using Ne.symm hm
    simp [hm, hb, row?]

/-! ## Listings -/

/-- Lists in strictly ascending order of a text with the same members are the same. -/
theorem eq_of_ascending {α : Type} (key : α → String) {l l' : List α}
    (h : l.Pairwise fun a b => key a < key b) (h' : l'.Pairwise fun a b => key a < key b)
    (hmem : ∀ a, a ∈ l ↔ a ∈ l') : l = l' := by
  have hnodup : ∀ {l : List α}, l.Pairwise (fun a b => key a < key b) → l.Nodup := by
    intro l hl
    refine hl.imp fun {a b} hlt hab => ?_
    subst hab
    exact String.lt_irrefl _ hlt
  refine List.Perm.eq_of_pairwise (fun a b _ _ hab hba => ?_) h h'
    ((List.perm_ext_iff_of_nodup (hnodup h) (hnodup h')).mpr hmem)
  exact absurd (String.lt_trans hab hba) (String.lt_irrefl _)

theorem sortedOn_ascending {α : Type} {key : α → String} {items : List α} (h : (items.map key).Nodup) :
    (Text.sortedOn key items).Pairwise fun a b => key a < key b := by
  have hne : (Text.sortedOn key items).Pairwise fun a b => key a ≠ key b := by
    have hperm := (Text.sortedOn_perm key items).map key
    exact List.pairwise_map.mp (hperm.nodup_iff.mpr h)
  refine ((Text.pairwise_sortedOn key items).and hne).imp fun hab => ?_
  rw [← String.not_le]
  exact fun hba => hab.2 (String.le_antisymm hab.1 hba)

theorem keys_ascending {β : Type} (m : ExtTreeMap String β) : m.keys.Pairwise fun a b => a < b := by
  have hkeys : m.keys.Pairwise fun a b => compare a b = .lt := ExtTreeMap.ordered_keys
  exact hkeys.imp fun h => compareOfLessAndEq_eq_lt.mp h

theorem toList_ascending {β : Type} (m : ExtTreeMap String β) : m.toList.Pairwise fun a b => a.1 < b.1 := by
  have hkeys := keys_ascending m
  rw [← ExtTreeMap.map_fst_toList_eq_keys] at hkeys
  exact List.pairwise_map.mp hkeys

/-- The triggers of a channel's rows, in order, are the keys of its map. -/
theorem sorted_keys {α : Type} {ids : List Nat} {rows : List (OwnedRow α)} (h : OwnedRow.Sound ids rows)
    (owner : Nat) :
    Text.sorted ((OwnedRow.ofOwner owner rows).map (·.key)) = (OwnedRow.toMap owner rows).keys := by
  have hnodup : ((OwnedRow.ofOwner owner rows).map (·.key)).Nodup := by
    have hpairs := h.unique.sublist ((List.filter_sublist (p := (·.owner == owner))).map _)
    rw [List.Nodup, List.pairwise_map] at hpairs ⊢
    refine hpairs.imp_of_mem fun {r s} hr hs hne hkey => hne ?_
    have hro := List.of_mem_filter hr
    have hso := List.of_mem_filter hs
    simp only [beq_iff_eq] at hro hso
    rw [hro, hso, hkey]
  refine eq_of_ascending id (sortedOn_ascending (by rwa [List.map_id])) (keys_ascending _) fun k => ?_
  rw [Text.sorted, (Text.sortedOn_perm id _).mem_iff, ExtTreeMap.mem_keys, OwnedRow.mem_toMap,
    Option.isSome_iff_ne_none, ne_eq, OwnedRow.get?_eq_none_iff]
  simp only [List.mem_map, OwnedRow.ofOwner, List.mem_filter, beq_iff_eq, not_forall, not_not]
  constructor
  · intro hmem
    obtain ⟨r, ⟨hr, ho⟩, hk⟩ := hmem
    exact ⟨r, hr, ho, hk⟩
  · intro hmem
    obtain ⟨r, hr, ho, hk⟩ := hmem
    exact ⟨r, ⟨hr, ho⟩, hk⟩

/-- The channels, in the order of their names, are the ledger in its order. -/
theorem Sound.sorted_channels (h : t.Sound) :
    (Text.sortedOn (·.name) t.channels).map (fun c => (c.name, t.record c)) = t.ledger.toList := by
  refine eq_of_ascending Prod.fst ?_ (toList_ascending _) fun e => ?_
  · exact List.pairwise_map.mpr (sortedOn_ascending h.names)
  · obtain ⟨name, r⟩ := e
    rw [ExtTreeMap.mem_toList_iff_getElem?_eq_some, getElem?_ledger, Option.map_eq_some_iff, List.mem_map]
    constructor
    · intro hmem
      obtain ⟨c, hc, hcr⟩ := hmem
      rw [(Text.sortedOn_perm _ _).mem_iff] at hc
      cases hcr
      exact ⟨c, h.row?_eq_some_iff.mpr ⟨hc, rfl⟩, rfl⟩
    · intro hmem
      obtain ⟨c, hc, rfl⟩ := hmem
      obtain ⟨hmem, rfl⟩ := row?_mem hc
      exact ⟨c, (Text.sortedOn_perm _ _).mem_iff.mpr hmem, rfl⟩

end Tables

end ChannelBot.Server
