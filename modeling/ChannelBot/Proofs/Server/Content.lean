/-
The body of a request that carries an object reads as that object (`Content.read_write`): its
first two characters are ASCII and not NUL, so the bytes are taken for UTF-8, and what was written
as JSON is read back.
-/
import ChannelBot.Proofs.Value.Json
import ChannelBot.Server.Payload

namespace ChannelBot

namespace Units

theorem form_bytes {a b : Nat} (ha : a ≠ 0) (hb : b ≠ 0) (rest : List Nat) : Form.of (a :: b :: rest) = .bytes := by
  unfold Form.of
  split <;> simp_all

/-- Text that starts with two characters other than NUL is taken for UTF-8. -/
theorem decode_encode {c d : Char} (hc : 0 < c.toNat ∧ c.toNat < 128) (hd : 0 < d.toNat ∧ d.toNat < 128)
    (rest : List Char) : decode? (Utf8.encode (c :: d :: rest)) = some (c :: d :: rest) := by
  have hbytes : Utf8.encode (c :: d :: rest) = c.toNat :: d.toNat :: Utf8.encode rest := by
    have hone : ∀ {c : Char}, c.toNat < 128 → Utf8.encodeChar c = [c.toNat] := fun h => if_pos h
    rw [Utf8.encode, List.flatMap_cons, List.flatMap_cons, hone hc.2, hone hd.2]
    rfl
  have hform : Form.of (Utf8.encode (c :: d :: rest)) = .bytes := by
    rw [hbytes]
    exact form_bytes (by omega) (by omega) _
  rw [decode?, hform]
  simp only [Utf8.decode_encode]

end Units

namespace Server

theorem writtenFields_head (l : Value.Layout) (fields : List (String × Value)) :
    ∃ d rest, Json.writtenFields l fields = d :: rest ∧ 0 < d.toNat ∧ d.toNat < 128 := by
  fun_cases Json.writtenFields l fields <;> exact ⟨_, _, rfl, by decide, by decide⟩

/-- A body that is an object written as JSON is read as JSON. -/
theorem Content.read_object (l : Value.Layout) (fields : List (String × Value)) :
    Content.read (some ((Value.obj fields).write l)) =
      match Json.read ((Value.obj fields).write l) with
      | .ok v => .value v
      | .error (.tooLong _) => .unreadable
      | .error _ => .broken := by
  obtain ⟨d, rest, hrest, hd⟩ := writtenFields_head l fields
  have hlist : ((Value.obj fields).write l).toList = '\x7b' :: d :: rest := by
    rw [← hrest]
    exact Json.writtenValue_obj l fields
  have hempty : ((Value.obj fields).write l).isEmpty = false := by
    rw [← Bool.not_eq_true, String.isEmpty_iff]
    intro hnone
    rw [hnone] at hlist
    cases hlist
  have hback : String.ofList ('\x7b' :: d :: rest) = (Value.obj fields).write l := by
    rw [← hlist, String.ofList_toList]
  have hmark : (('\x7b' :: d :: rest).head? == some '\ufeff') = false := rfl
  rw [Content.read, hempty, hlist, Units.decode_encode (by decide) hd]
  cases hread : Json.read ((Value.obj fields).write l) with
  | ok v => simp only [hmark, Bool.false_eq_true, if_false, hback, hread]
  | error f => cases f <;> simp only [hmark, Bool.false_eq_true, if_false, hback, hread]

/-- An object that was written as JSON is what the body of a request says. -/
theorem Content.read_write {l : Value.Layout} {afterComma afterColon : List Char}
    (hl : Json.Separates l afterComma afterColon) {fields : List (String × Value)} (h : (Value.obj fields).IsPlain) :
    Content.read (some ((Value.obj fields).write l)) = .value (.obj fields) := by
  rw [Content.read_object, Json.read_write hl h]

/-! ## What a valid part says -/

theorem Checked.filledText_str (s : String) :
    Checked.filledText (.str s) = if s = "" then Checked.broken (.atLeast 1) (.str s) else .valid s := by
  by_cases hs : s = "" <;> simp [Checked.filledText, Checked.text, hs]

theorem Checked.filledText_eq_valid_iff {v : Value} {s : String} :
    Checked.filledText v = .valid s ↔ v = .str s ∧ s ≠ "" := by
  cases v with
  | str t =>
    rw [Checked.filledText_str]
    by_cases ht : t = ""
    · simp [ht, Checked.broken]
    · simp only [if_neg ht, Checked.valid.injEq, Value.str.injEq]
      constructor
      · rintro rfl
        exact ⟨rfl, ht⟩
      · exact fun h => h.1
  | _ => simp [Checked.filledText, Checked.text, Checked.broken]

theorem Checked.shortText_eq_valid_iff {most : Nat} {v : Value} {s : String} :
    Checked.shortText most v = .valid s ↔ v = .str s ∧ 1 ≤ s.length ∧ s.length ≤ most := by
  cases v with
  | str t =>
    rw [Checked.shortText, Checked.filledText_str]
    by_cases ht : t = ""
    · subst ht
      simp only [if_true, Checked.broken, reduceCtorEq, Value.str.injEq, false_iff]
      rintro ⟨rfl, hpos, -⟩
      exact absurd hpos (by decide)
    · have hpos : 1 ≤ t.length := by
        rw [← String.length_toList]
        exact List.length_pos_iff.mpr (by simpa using ht)
      rw [if_neg ht]
      by_cases hlong : t.length > most
      · simp only [if_pos hlong, Checked.broken, reduceCtorEq, Value.str.injEq, false_iff]
        rintro ⟨rfl, -, hle⟩
        omega
      · simp only [if_neg hlong, Checked.valid.injEq, Value.str.injEq]
        constructor
        · rintro rfl
          exact ⟨rfl, hpos, Nat.le_of_not_gt hlong⟩
        · exact fun h => h.1
  | _ => simp [Checked.shortText, Checked.filledText, Checked.text, Checked.broken]

theorem Checked.under_eq_valid_iff {α : Type} {p : Place} {c : Checked α} {a : α} :
    c.under p = .valid a ↔ c = .valid a := by
  cases c <;> simp [Checked.under]

theorem Checked.map_eq_valid_iff {α β : Type} {f : α → β} {c : Checked α} {b : β} :
    c.map f = .valid b ↔ ∃ a, c = .valid a ∧ f a = b := by
  cases c <;> simp [Checked.map]

theorem Checked.also_eq_valid_iff {α β : Type} {c : Checked (α → β)} {d : Checked α} {b : β} :
    c.also d = .valid b ↔ ∃ f a, c = .valid f ∧ d = .valid a ∧ f a = b := by
  cases c <;> cases d <;> simp [Checked.also]

theorem Content.check_eq_valid_iff {α : Type} {read : List (String × Value) → Checked α} {k : Content} {a : α} :
    k.check read = .valid a ↔ ∃ fields, k = .value (.obj fields) ∧ read fields = .valid a := by
  cases k with
  | value v => cases v <;> simp [Content.check, Checked.under_eq_valid_iff, Checked.broken]
  | _ => simp [Content.check, Checked.under_eq_valid_iff, Checked.broken]

theorem Checked.text_eq_valid_iff {v : Value} {s : String} : Checked.text v = .valid s ↔ v = .str s := by
  cases v <;> simp [Checked.text, Checked.broken]

theorem Checked.each_text_eq_valid_iff {items : List Value} {texts : List String} {index : Nat} :
    Checked.each Checked.text index items = .valid texts ↔ items = texts.map .str := by
  induction items generalizing texts index with
  | nil => cases texts <;> simp [Checked.each]
  | cons v rest ih =>
    simp only [Checked.each, also_eq_valid_iff, map_eq_valid_iff, under_eq_valid_iff, text_eq_valid_iff, ih]
    cases texts with
    | nil => simp
    | cons t ts =>
      constructor
      · rintro ⟨_, ts', ⟨t', rfl, rfl⟩, rfl, hcons⟩
        obtain ⟨rfl, rfl⟩ := List.cons.inj hcons
        rfl
      · intro h
        obtain ⟨rfl, rfl⟩ := List.cons.inj h
        exact ⟨_, ts, ⟨t, rfl, rfl⟩, rfl, rfl⟩

theorem Checked.texts_eq_valid_iff {v : Value} {texts : List String} :
    Checked.texts v = .valid texts ↔ v = .list (texts.map .str) := by
  cases v with
  | list items => rw [Checked.texts, each_text_eq_valid_iff, Value.list.injEq]
  | _ => simp [Checked.texts, Checked.broken]

/-- A field that may be left out or null is read as what it says if it is there and not null. -/
theorem Checked.optional_orNull {α : Type} {key : String} {check : Value → Checked α} {body : List (String × Value)}
    {given : Option α} (h : Checked.optional key none (Checked.orNull check) body = .valid given) (a : α) :
    given = some a ↔ ∃ v, Value.lookup? key body = some v ∧ v ≠ .null ∧ check v = .valid a := by
  rw [Checked.optional, under_eq_valid_iff] at h
  cases hfound : Value.lookup? key body with
  | none =>
    rw [hfound] at h
    cases h
    simp
  | some v =>
    rw [hfound] at h
    have hread : given = some a ↔ v ≠ .null ∧ check v = .valid a := by
      cases v with
      | null =>
        cases h
        simp
      | _ =>
        obtain ⟨read, hread, rfl⟩ := map_eq_valid_iff.mp h
        simp [hread]
    rw [hread]
    constructor
    · exact fun ⟨hgiven, hsays⟩ => ⟨v, rfl, hgiven, hsays⟩
    · rintro ⟨_, hv, hgiven, hsays⟩
      cases hv
      exact ⟨hgiven, hsays⟩

/-- A field that must be there is there, and read as what it says. -/
theorem Checked.required_eq_valid_iff {α : Type} {key : String} {check : Value → Checked α}
    {body : List (String × Value)} {a : α} :
    Checked.required key check body = .valid a ↔ ∃ v, Value.lookup? key body = some v ∧ check v = .valid a := by
  rw [Checked.required, under_eq_valid_iff]
  cases Value.lookup? key body <;> simp [Checked.broken]

/-! ## What is said about new channels, commands and redemptions -/

theorem Checked.permission_str (level : String) {p : Permission} :
    Checked.permission (.str level) = .valid p ↔ p.name = level := by
  rw [Checked.permission]
  have hfind : Permission.levels.find? (·.name == level) = some p ↔ p.name = level := by
    constructor
    · intro h
      simpa using List.find?_some h
    · intro heq
      subst heq
      cases p <;> decide
  rw [← hfind]
  cases Permission.levels.find? (·.name == level) with
  | none => simp [Checked.broken]
  | some q => simp

/-- The fields with which a command is added. -/
def newCommandFields (trigger body level : String) : List (String × Value) :=
  [("trigger", .str trigger), ("body", .str body), ("permission", .str level)]

/-- The fields with which a redemption is added. -/
def newRedeemFields (title action : String) : List (String × Value) := [("title", .str title), ("action", .str action)]

theorem isPlain_newCommand (trigger body level : String) :
    (Value.obj (newCommandFields trigger body level)).IsPlain := by
  simp [newCommandFields, Value.IsPlain, Value.FieldsPlain]

theorem isPlain_newRedeem (title action : String) : (Value.obj (newRedeemFields title action)).IsPlain := by
  simp [newRedeemFields, Value.IsPlain, Value.FieldsPlain]

theorem Content.check_newCommand {trigger body level : String} {p : NewCommand} :
    (Content.value (.obj (newCommandFields trigger body level))).check NewCommand.read = .valid p ↔
      trigger ≠ "" ∧ body ≠ "" ∧ p.trigger = trigger ∧ p.body = body ∧ p.permission.name = level := by
  obtain ⟨trigger', body', permission⟩ := p
  rw [← Checked.permission_str]
  by_cases ht : trigger = "" <;> by_cases hb : body = "" <;> cases hp : Checked.permission (.str level) <;>
    simp [Content.check, NewCommand.read, Checked.required, Checked.optional, newCommandFields, Value.lookup?,
      Checked.filledText_str, ht, hb, hp, Checked.under, Checked.map, Checked.also, Checked.broken, eq_comm]

/-- A channel can be registered under any name that is not empty; it gets the default sigil. -/
theorem Content.check_newChannel {name : String} (h : name ≠ "") :
    (Content.value (.obj [("channel_name", .str name)])).check NewChannel.read = .valid ⟨name, defaultSigil⟩ := by
  simp [Content.check, NewChannel.read, Checked.required, Checked.optional, Value.lookup?, Checked.filledText_str, h,
    Checked.under, Checked.map, Checked.also]

/-- A channel is registered under a name that is not empty. -/
theorem Content.check_newChannel_name {k : Content} {p : NewChannel} (h : k.check NewChannel.read = .valid p) :
    p.name ≠ "" := by
  obtain ⟨fields, -, hread⟩ := Content.check_eq_valid_iff.mp h
  obtain ⟨f, s, hname, -, rfl⟩ := Checked.also_eq_valid_iff.mp hread
  obtain ⟨given, hgiven, rfl⟩ := Checked.map_eq_valid_iff.mp hname
  rw [Checked.required, Checked.under_eq_valid_iff] at hgiven
  split at hgiven
  · exact (Checked.filledText_eq_valid_iff.mp hgiven).2
  · cases hgiven

theorem Content.check_newRedeem {title action : String} {p : NewRedeem} :
    (Content.value (.obj (newRedeemFields title action))).check NewRedeem.read = .valid p ↔
      title ≠ "" ∧ action ≠ "" ∧ p = ⟨title, action⟩ := by
  by_cases ht : title = "" <;> by_cases ha : action = "" <;>
    simp [Content.check, NewRedeem.read, Checked.required, newRedeemFields, Value.lookup?, Checked.filledText_str,
      ht, ha, Checked.under, Checked.map, Checked.also, Checked.broken, eq_comm]

end Server

end ChannelBot
