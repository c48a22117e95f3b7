/-
What a reader makes of any value that was written as JSON. A number may be too long to be read, or be read as
another one, but whatever is read ends where it was written to end, and it is a text or null exactly if that is
what was written (`read_echoes`).
-/
import ChannelBot.Proofs.Value.Numeral

namespace ChannelBot

/-- A value that was read where another one was written: the same text, or null like the other, or neither a
text nor null like the other. -/
structure Value.Echoes (written read : Value) : Prop where
  text : ∀ s, read = .str s ↔ written = .str s
  null : read = .null ↔ written = .null

theorem Value.Echoes.refl (v : Value) : v.Echoes v := ⟨fun _ => .rfl, .rfl⟩

/-- Two values of which neither is a text or null. -/
theorem Value.Echoes.of_other {written read : Value} (htext : ∀ s, read ≠ .str s) (hnull : read ≠ .null)
    (htext' : ∀ s, written ≠ .str s) (hnull' : written ≠ .null) : written.Echoes read :=
  ⟨fun s => iff_of_false (htext s) (htext' s), iff_of_false hnull hnull'⟩

namespace Json

/-! ## How far numbers and words are read -/

/-- The reader passes from one place to a later one, over nothing that can stand behind a value. -/
def Passes (s s' : List Char) : Prop := ∃ p, s = p ++ s' ∧ ∀ c ∈ p, isCloser c = false

variable {s s' s'' : List Char} {c : Char}

theorem Passes.refl (s : List Char) : Passes s s := ⟨[], rfl, nofun⟩

theorem Passes.trans (h : Passes s s') (h' : Passes s' s'') : Passes s s'' := by
  obtain ⟨p, rfl, hp⟩ := h
  obtain ⟨p', rfl, hp'⟩ := h'
  exact ⟨p ++ p', (List.append_assoc ..).symm, fun c hc => (List.mem_append.mp hc).elim (hp c) (hp' c)⟩

theorem Passes.cons (hc : isCloser c = false) (h : Passes s s') : Passes (c :: s) s' := by
  obtain ⟨p, rfl, hp⟩ := h
  exact ⟨c :: p, rfl, List.forall_mem_cons.mpr ⟨hc, hp⟩⟩

theorem Passes.word {w : String} (h : s = w.toList ++ s') (hw : w.toList.all (isCloser · == false) = true) :
    Passes s s' :=
  ⟨_, h, fun c hc => beq_iff_eq.mp (List.all_eq_true.mp hw c hc)⟩

theorem digit_noCloser (h : Text.isAsciiDigit c = true) : isCloser c = false := by
  rw [isCloser, ← Bool.not_eq_true]
  intro hcloser
  simp only [Bool.or_eq_true, beq_iff_eq] at hcloser
  rcases hcloser with (rfl | rfl) | rfl <;> revert h <;> decide

theorem digitRow_passes (s : List Char) : Passes s (digitRow s).2 :=
  ⟨_, List.takeWhile_append_dropWhile.symm, fun _ hc => digit_noCloser (List.mem_takeWhile_imp hc)⟩

theorem fractionPart_passes (s : List Char) : Passes s (fractionPart s).2 := by
  unfold fractionPart
  split
  · dsimp only
    split
    · exact .refl _
    · exact .cons rfl (digitRow_passes _)
  · exact .refl _

theorem splitSign_passes (s : List Char) : Passes s (Number.splitSign s).2 := by
  unfold Number.splitSign
  split
  · exact .cons rfl (.refl _)
  · exact .cons rfl (.refl _)
  · exact .refl _

theorem exponentPart_passes (s : List Char) : Passes s (exponentPart s).2 := by
  unfold exponentPart
  split
  next c r =>
    split
    next hmark =>
      have hc : isCloser c = false := by
        rw [Bool.or_eq_true, beq_iff_eq, beq_iff_eq] at hmark
        rcases hmark with rfl | rfl <;> rfl
      dsimp only
      split
      · exact .refl _
      · exact .cons hc ((splitSign_passes r).trans (digitRow_passes _))
    · exact .refl _
  · exact .refl _

/-- What is read as a number is neither a text nor null. -/
theorem readNumber?_passes {start next : Cursor} {v : Value} (h : readNumber? start = some (.ok (v, next))) :
    Passes start.rest next.rest ∧ (∀ s, v ≠ .str s) ∧ v ≠ .null := by
  unfold readNumber? at h
  split at h
  rename_i minus body hsign
  split at h
  rename_i whole afterWhole hwhole
  split at h
  · cases h
  split at h
  rename_i fraction afterFraction hfraction
  split at h
  rename_i exponent rest hexponent
  dsimp only at h
  have hpasses : Passes start.rest rest := by
    have hbody : Passes start.rest body := by
      split at hsign
      · cases hsign
        exact ‹start.rest = _› ▸ .cons rfl (.refl _)
      · cases hsign
        exact .refl _
    have hrest : Passes body afterWhole := by
      split at hwhole
      · cases hwhole
        exact .cons rfl (.refl _)
      · have hrow := digitRow_passes body
        rwa [hwhole] at hrow
    have hfrac := fractionPart_passes afterWhole
    have hexp := exponentPart_passes afterFraction
    rw [hfraction] at hfrac
    rw [hexponent] at hexp
    exact hbody.trans (hrest.trans (hfrac.trans hexp))
  split at h
  · split at h
    · cases h
      exact ⟨hpasses, nofun, nofun⟩
    · cases h
    · cases h
  · cases h
    exact ⟨hpasses, nofun, nofun⟩

/-- What is read as a word is no text, and null only where the letters of null stand. -/
theorem readWord?_passes {start next : Cursor} {v : Value} (h : readWord? start = some (v, next)) :
    Passes start.rest next.rest ∧ (∀ s, v ≠ .str s) ∧ (v = .null → ∃ more, start.rest = 'n' :: 'u' :: more) := by
  obtain ⟨⟨word, value⟩, hfind, heq⟩ := Option.map_eq_some_iff.mp h
  have hfound := List.find?_some hfind
  have hprefix : word.toList.isPrefixOf start.rest = true := hfound
  obtain ⟨more, hmore⟩ := List.isPrefixOf_iff_prefix.mp hprefix
  have hskip : start.rest = word.toList ++ next.rest := by
    cases heq
    rw [Cursor.skip, ← String.length_toList, ← hmore, List.drop_left]
  have hvalue : v = value := by
    cases heq
    rfl
  have hmem := List.mem_of_find?_eq_some hfind
  rw [hvalue]
  simp only [wordValues, List.mem_cons, Prod.mk.injEq, List.not_mem_nil, or_false] at hmem
  rcases hmem with ⟨rfl, rfl⟩ | ⟨rfl, rfl⟩ | ⟨rfl, rfl⟩ | ⟨rfl, rfl⟩ | ⟨rfl, rfl⟩ | ⟨rfl, rfl⟩
  · exact ⟨.word hskip (by decide), by simp, fun _ => ⟨_, hskip⟩⟩
  all_goals exact ⟨.word hskip (by decide), by simp, by simp⟩

/-! ## Numbers -/

/-- A text that can stand behind a value. -/
def Closes (s : List Char) : Prop := ∃ c rest, s = c :: rest ∧ isCloser c = true

/-- A text that is the rest of a number, where a reader of a list or an object does not go on. -/
def Stuck (s : List Char) : Prop := ∃ c rest, s = c :: rest ∧ isNumeral c = true

/-- Over a number, a reader passes to its end or into it. -/
theorem Passes.of_spelled {w rest : List Char} (hw : ∀ c ∈ w, isNumeral c = true) (hrest : Closes rest)
    (h : Passes (w ++ rest) s) : s = rest ∨ Stuck s := by
  obtain ⟨p, hp, hpassed⟩ := h
  rcases List.append_eq_append_iff.mp hp with ⟨past, rfl, hpast⟩ | ⟨left, rfl, rfl⟩
  · cases past with
    | nil => exact .inl hpast.symm
    | cons c past =>
      obtain ⟨d, more, hd, hcloser⟩ := hrest
      obtain rfl : d = c := by
        rw [hd] at hpast
        exact (List.cons.inj hpast).1
      rw [hpassed d (List.mem_append_right _ List.mem_cons_self)] at hcloser
      cases hcloser
  · cases left with
    | nil => exact .inl rfl
    | cons c left => exact .inr ⟨c, _, rfl, hw c (List.mem_append_right _ List.mem_cons_self)⟩

theorem readValue_numeral {fuel offset : Nat} {rest : List Char} (hc : isNumeral c = true) :
    readValue (fuel + 1) ⟨offset, c :: rest⟩ =
      match readWord? ⟨offset, c :: rest⟩ with
      | some found => .ok found
      | none => (readNumber? ⟨offset, c :: rest⟩).getD (refuse .noValue offset) := by
  have hopens := isNumeral_opens hc
  rw [readValue]
  split
  · rename_i heq
    exact absurd (List.cons.inj heq).1 hopens.noText
  · rename_i heq
    exact absurd (List.cons.inj heq).1 hopens.noList
  · rename_i heq
    exact absurd (List.cons.inj heq).1 hopens.noObject
  · rfl

/-- Where a number was written, no text and no null is read. -/
theorem readValue_spelled {fuel offset : Nat} {w rest : List Char} {v : Value} {next : Cursor} (hw : Spelled w)
    (hrest : Closes rest) (h : readValue fuel ⟨offset, w ++ rest⟩ = .ok (v, next)) :
    (next.rest = rest ∨ Stuck next.rest) ∧ (∀ s, v ≠ .str s) ∧ v ≠ .null := by
  obtain ⟨c, w, rfl⟩ := List.exists_cons_of_ne_nil hw.some
  cases fuel with
  | zero => cases h
  | succ fuel =>
    rw [List.cons_append, readValue_numeral (hw.all c List.mem_cons_self)] at h
    cases hword : readWord? ⟨offset, c :: (w ++ rest)⟩ with
    | some found =>
      rw [hword] at h
      cases h
      obtain ⟨hpasses, htext, hnull⟩ := readWord?_passes hword
      refine ⟨hpasses.of_spelled (w := c :: w) hw.all hrest, htext, fun hv => ?_⟩
      obtain ⟨more, hmore⟩ := hnull hv
      -- The second letter of null is none of a number, and nothing that can stand behind one.
      cases w with
      | nil =>
        obtain ⟨d, last, rfl, hd⟩ := hrest
        have hletter : d = 'u' := (List.cons.inj (List.cons.inj hmore).2).1
        subst hletter
        cases hd
      | cons d w =>
        have hletter : d = 'u' := (List.cons.inj (List.cons.inj hmore).2).1
        exact (isNumeral_opens (hw.all d (by simp))).noNull hletter
    | none =>
      rw [hword] at h
      cases hnumber : readNumber? ⟨offset, c :: (w ++ rest)⟩ with
      | none =>
        rw [hnumber] at h
        cases h
      | some result =>
        rw [hnumber] at h
        obtain rfl : result = .ok (v, next) := h
        obtain ⟨hpasses, htext, hnull⟩ := readNumber?_passes hnumber
        exact ⟨hpasses.of_spelled (w := c :: w) hw.all hrest, htext, hnull⟩

/-! ## Lists and objects -/

variable {l : Value.Layout} {afterComma afterColon : List Char}

/-- Whatever value is written, it starts with a character that is no blank and closes nothing. -/
theorem writtenValue_opens (l : Value.Layout) (v : Value) : ∃ c rest, writtenValue l v = c :: rest ∧ Opens c := by
  have hnumber : ∀ {w}, Spelled w → ∃ c rest, w = c :: rest ∧ Opens c := by
    intro w hw
    obtain ⟨c, rest, rfl⟩ := List.exists_cons_of_ne_nil hw.some
    exact ⟨c, rest, rfl, (isNumeral_opens (hw.all c List.mem_cons_self)).toOpens⟩
  cases v with
  | int n => exact hnumber (writtenValue_int_spelled l n)
  | real x => exact hnumber (writtenValue_real_spelled l x)
  | null => exact ⟨_, _, writtenValue_null l, by constructor <;> decide⟩
  | bool b =>
    cases b with
    | false => exact ⟨_, _, writtenValue_false l, by constructor <;> decide⟩
    | true => exact ⟨_, _, writtenValue_true l, by constructor <;> decide⟩
  | str s => exact ⟨_, _, writtenValue_str l s, by constructor <;> decide⟩
  | list items => exact ⟨_, _, writtenValue_list l items, by constructor <;> decide⟩
  | obj fields => exact ⟨_, _, writtenValue_obj l fields, by constructor <;> decide⟩

theorem inked_written (l : Value.Layout) (v : Value) (rest : List Char) : Inked (writtenValue l v ++ rest) := by
  obtain ⟨c, s, hs, hc⟩ := writtenValue_opens l v
  rw [hs, List.cons_append]
  exact .cons hc.inked _

theorem writtenItems_opens (l : Value.Layout) (v : Value) (items : List Value) :
    ∃ c rest, writtenItems l (v :: items) = c :: rest ∧ Opens c := by
  obtain ⟨c, s, hs, hc⟩ := writtenValue_opens l v
  cases items with
  | nil => exact ⟨c, s ++ [']'], by rw [writtenItems, hs, List.cons_append], hc⟩
  | cons w items =>
    exact ⟨c, s ++ l.comma.toList ++ writtenItems l (w :: items),
      by rw [writtenItems, hs, List.cons_append, List.cons_append], hc⟩

/-- What is done after an item. -/
def afterItem (fuel : Nat) (done : List Value) : Value × Cursor → Except JsonFault (List Value × Cursor)
  | (v, next) =>
    match next.blank.rest with
    | ']' :: _ => .ok ((v :: done).reverse, next.blank.skip 1)
    | ',' :: _ => readItems fuel (v :: done) (next.blank.skip 1).blank
    | _ => refuse .noComma next.blank.offset

theorem readItems_eq (fuel : Nat) (done : List Value) (c : Cursor) :
    readItems (fuel + 1) done c = readValue fuel c >>= afterItem fuel done := by
  rw [readItems]
  rfl

theorem blank_of_inked {next : Cursor} {s : List Char} (h : next.rest = s) (hs : Inked s) : next.blank = next := by
  obtain ⟨offset, rest⟩ := next
  subst h
  exact blank_inked hs

theorem blank_skip {next : Cursor} {c : Char} {blanks more : List Char} (h : next.rest = c :: (blanks ++ more))
    (hblanks : blanks.all isBlank = true) (hmore : Inked more) : ((next.skip 1).blank).rest = more := by
  obtain ⟨offset, rest⟩ := next
  obtain rfl : rest = c :: (blanks ++ more) := h
  exact congrArg Cursor.rest (@blank_append (offset + 1) _ _ hblanks hmore)

/-- Whether a field that was read echoes one that was written. -/
def FieldEchoes (written read : String × Value) : Prop := read.1 = written.1 ∧ written.2.Echoes read.2

/-- What a reader makes of written values, with so much fuel: if it succeeds it ends where they end, except in
the middle of a number. -/
structure Rereads (l : Value.Layout) (fuel : Nat) : Prop where
  value : ∀ {v : Value} {offset rest v' next}, Closes rest →
    readValue fuel ⟨offset, writtenValue l v ++ rest⟩ = .ok (v', next) →
      (next.rest = rest ∨ Stuck next.rest) ∧ v.Echoes v'
  items : ∀ {v : Value} {items : List Value} {c : Cursor} {done rest items' next},
    c.rest = writtenItems l (v :: items) ++ rest → readItems fuel done c = .ok (items', next) → next.rest = rest
  fields : ∀ {f : String × Value} {fields : List (String × Value)} {c : Cursor} {done rest fields' next},
    c.rest = writtenFields l (f :: fields) ++ rest → readFields fuel done c = .ok (fields', next) →
      next.rest = rest ∧ (((done ++ f :: fields).map (·.1)).Nodup →
        ∃ read, fields' = done ++ read ∧ List.Forall₂ FieldEchoes (f :: fields) read)

theorem rereads_zero (l : Value.Layout) : Rereads l 0 :=
  ⟨fun _ h => (nomatch h), fun _ h => (nomatch h), fun _ h => (nomatch h)⟩

theorem afterItem_stuck {fuel : Nat} {done : List Value} {v : Value} {next : Cursor} (h : Stuck next.rest) :
    ∃ f, afterItem fuel done (v, next) = .error f := by
  obtain ⟨c, rest, hrest, hc⟩ := h
  have hopens := isNumeral_opens hc
  rw [afterItem, blank_of_inked hrest (.cons hopens.inked rest)]
  split
  next heq =>
    obtain ⟨rfl, -⟩ := List.cons.inj (hrest.symm.trans heq)
    exact absurd rfl hopens.open_list
  next heq =>
    obtain ⟨rfl, -⟩ := List.cons.inj (hrest.symm.trans heq)
    exact absurd hopens.noCloser (by decide)
  · exact ⟨_, rfl⟩

theorem afterField_stuck {fuel : Nat} {done : List (String × Value)} {key : String} {v : Value} {next : Cursor}
    (h : Stuck next.rest) : ∃ f, afterField fuel done key (v, next) = .error f := by
  obtain ⟨c, rest, hrest, hc⟩ := h
  have hopens := isNumeral_opens hc
  rw [afterField, blank_of_inked hrest (.cons hopens.inked rest)]
  split
  next heq =>
    obtain ⟨rfl, -⟩ := List.cons.inj (hrest.symm.trans heq)
    exact absurd hopens.noCloser (by decide)
  next heq =>
    obtain ⟨rfl, -⟩ := List.cons.inj (hrest.symm.trans heq)
    exact absurd hopens.noCloser (by decide)
  · exact ⟨_, rfl⟩

section Steps

variable {fuel : Nat} {v : Value} {rest : List Char} {next : Cursor}

theorem afterItem_last {done : List Value} (h : next.rest = ']' :: rest) :
    afterItem fuel done (v, next) = .ok ((v :: done).reverse, next.skip 1) := by
  rw [afterItem, blank_of_inked h (.cons rfl rest), h]
  rfl

theorem afterItem_more {done : List Value} (h : next.rest = ',' :: rest) :
    afterItem fuel done (v, next) = readItems fuel (v :: done) (next.skip 1).blank := by
  rw [afterItem, blank_of_inked h (.cons rfl rest), h]
  rfl

theorem afterField_last {done : List (String × Value)} {key : String} (h : next.rest = '\x7d' :: rest) :
    afterField fuel done key (v, next) = .ok (Value.insert key v done, next.skip 1) := by
  rw [afterField, blank_of_inked h (.cons rfl rest), h]
  rfl

theorem afterField_more {done : List (String × Value)} {key : String} (h : next.rest = ',' :: rest) :
    afterField fuel done key (v, next) = readFields fuel (Value.insert key v done) (next.skip 1).blank := by
  rw [afterField, blank_of_inked h (.cons rfl rest), h]
  rfl

theorem skip_rest {c : Char} (h : next.rest = c :: rest) : (next.skip 1).rest = rest := by
  rw [Cursor.skip, h]
  rfl

end Steps

namespace Rereads

variable {fuel : Nat}

/-- Whoever goes on after a written value, but not in the middle of a number, goes on where it ends. -/
theorem step {α : Type} (h : Rereads l fuel) {v : Value} {offset : Nat} {rest : List Char} (hrest : Closes rest)
    {goOn : Value × Cursor → Except JsonFault α} (hstuck : ∀ v next, Stuck next.rest → ∃ f, goOn (v, next) = .error f)
    {a : α} (hread : (readValue fuel ⟨offset, writtenValue l v ++ rest⟩ >>= goOn) = .ok a) :
    ∃ v' mid, goOn (v', mid) = .ok a ∧ mid.rest = rest ∧ v.Echoes v' := by
  cases hvalue : readValue fuel ⟨offset, writtenValue l v ++ rest⟩ with
  | error f =>
    rw [hvalue] at hread
    cases hread
  | ok found =>
    obtain ⟨v', mid⟩ := found
    rw [hvalue] at hread
    have hgo : goOn (v', mid) = .ok a := hread
    obtain ⟨hmid | hmid, hechoes⟩ := h.value hrest hvalue
    · exact ⟨v', mid, hgo, hmid, hechoes⟩
    · obtain ⟨f, hf⟩ := hstuck v' mid hmid
      cases hf.symm.trans hgo

theorem items_succ (hl : Separates l afterComma afterColon) (h : Rereads l fuel) {v : Value} {items : List Value}
    {c : Cursor} {done : List Value} {rest : List Char} {items' : List Value} {next : Cursor}
    (hc : c.rest = writtenItems l (v :: items) ++ rest) (hread : readItems (fuel + 1) done c = .ok (items', next)) :
    next.rest = rest := by
  obtain ⟨offset, text⟩ := c
  obtain rfl : text = writtenItems l (v :: items) ++ rest := hc
  rw [readItems_eq] at hread
  cases items with
  | nil =>
    rw [writtenItems, List.append_assoc, List.singleton_append] at hread
    obtain ⟨v', mid, hgo, hmid, -⟩ := h.step ⟨_, _, rfl, rfl⟩ (fun _ _ => afterItem_stuck) hread
    rw [afterItem_last hmid] at hgo
    cases hgo
    exact skip_rest hmid
  | cons w items =>
    rw [writtenItems, hl.comma, List.append_assoc, List.append_assoc, List.cons_append] at hread
    obtain ⟨v', mid, hgo, hmid, -⟩ := h.step ⟨_, _, rfl, rfl⟩ (fun _ _ => afterItem_stuck) hread
    rw [afterItem_more hmid] at hgo
    obtain ⟨d, s, hs, hd⟩ := writtenItems_opens l w items
    have hinked : Inked (writtenItems l (w :: items) ++ rest) := by
      rw [hs, List.cons_append]
      exact .cons hd.inked _
    exact h.items (blank_skip hmid hl.afterComma hinked) hgo

theorem fields_succ (hl : Separates l afterComma afterColon) (h : Rereads l fuel) {f : String × Value}
    {fields : List (String × Value)} {c : Cursor} {done : List (String × Value)} {rest : List Char}
    {fields' : List (String × Value)} {next : Cursor} (hc : c.rest = writtenFields l (f :: fields) ++ rest)
    (hread : readFields (fuel + 1) done c = .ok (fields', next)) :
    next.rest = rest ∧ (((done ++ f :: fields).map (·.1)).Nodup →
      ∃ read, fields' = done ++ read ∧ List.Forall₂ FieldEchoes (f :: fields) read) := by
  obtain ⟨offset, text⟩ := c
  obtain rfl : text = writtenFields l (f :: fields) ++ rest := hc
  obtain ⟨k, v⟩ := f
  cases fields with
  | nil =>
    rw [writtenFields, writtenField, hl.colon] at hread
    simp only [List.append_assoc, List.cons_append, List.nil_append] at hread
    obtain ⟨start, hkey⟩ := @readFields_key l.asciiOnly k fuel offset done afterColon _ hl.afterColon
      (inked_written l v ('\x7d' :: rest))
    rw [List.cons_append] at hkey
    rw [hkey] at hread
    obtain ⟨v', mid, hgo, hmid, hechoes⟩ := h.step ⟨_, _, rfl, rfl⟩ (fun _ _ => afterField_stuck) hread
    rw [afterField_last hmid] at hgo
    cases hgo
    refine ⟨skip_rest hmid, fun hkeys => ⟨[(k, v')], ?_, .cons ⟨rfl, hechoes⟩ .nil⟩⟩
    exact Value.insert_of_not_mem (not_mem_of_nodup hkeys) v'
  | cons f fields =>
    rw [writtenFields, writtenField, hl.colon, hl.comma] at hread
    simp only [List.append_assoc, List.cons_append] at hread
    obtain ⟨start, hkey⟩ := @readFields_key l.asciiOnly k fuel offset done afterColon _ hl.afterColon
      (inked_written l v (',' :: (afterComma ++ (writtenFields l (f :: fields) ++ rest))))
    rw [List.cons_append] at hkey
    rw [hkey] at hread
    obtain ⟨v', mid, hgo, hmid, hechoes⟩ := h.step ⟨_, _, rfl, rfl⟩ (fun _ _ => afterField_stuck) hread
    rw [afterField_more hmid] at hgo
    obtain ⟨hrest, hfields⟩ := h.fields (blank_skip hmid hl.afterComma (inked_fields l (f :: fields) rest)) hgo
    refine ⟨hrest, fun hkeys => ?_⟩
    rw [Value.insert_of_not_mem (not_mem_of_nodup hkeys)] at hfields
    obtain ⟨read, rfl, hrest⟩ := hfields (by simpa using hkeys)
    exact ⟨(k, v') :: read, by simp, .cons ⟨rfl, hechoes⟩ hrest⟩

theorem object_succ (h : Rereads l fuel) {fields : List (String × Value)} {offset : Nat} {rest : List Char} {v' : Value}
    {next : Cursor} (hread : readValue (fuel + 1) ⟨offset, writtenValue l (.obj fields) ++ rest⟩ = .ok (v', next)) :
    next.rest = rest ∧
      ∃ fields', v' = .obj fields' ∧ ((fields.map (·.1)).Nodup → List.Forall₂ FieldEchoes fields fields') := by
  rw [writtenValue_obj] at hread
  cases fields with
  | nil =>
    rw [readValue] at hread
    cases hread
    exact ⟨rfl, [], rfl, fun _ => .nil⟩
  | cons f fields =>
    obtain ⟨s, hs⟩ := writtenFields_quote l f fields
    rw [hs, List.cons_append, List.cons_append, readValue_fields] at hread
    cases hfields : readFields fuel [] ⟨offset + 1, '"' :: (s ++ rest)⟩ with
    | error f =>
      rw [hfields] at hread
      cases hread
    | ok found =>
      obtain ⟨fields', last⟩ := found
      rw [hfields] at hread
      cases hread
      have htext : '"' :: (s ++ rest) = writtenFields l (f :: fields) ++ rest := by
        rw [hs]
        rfl
      obtain ⟨hlast, hechoes⟩ := h.fields htext hfields
      refine ⟨hlast, fields', rfl, fun hkeys => ?_⟩
      obtain ⟨read, rfl, hread⟩ := hechoes hkeys
      exact hread

theorem value_succ (h : Rereads l fuel) {v : Value} {offset : Nat} {rest : List Char} {v' : Value} {next : Cursor}
    (hrest : Closes rest) (hread : readValue (fuel + 1) ⟨offset, writtenValue l v ++ rest⟩ = .ok (v', next)) :
    (next.rest = rest ∨ Stuck next.rest) ∧ v.Echoes v' := by
  cases v with
  | int n =>
    obtain ⟨hnext, htext, hnull⟩ := readValue_spelled (writtenValue_int_spelled l n) hrest hread
    exact ⟨hnext, .of_other htext hnull (by simp) (by simp)⟩
  | real x =>
    obtain ⟨hnext, htext, hnull⟩ := readValue_spelled (writtenValue_real_spelled l x) hrest hread
    exact ⟨hnext, .of_other htext hnull (by simp) (by simp)⟩
  | null =>
    rw [writtenValue_null, readValue_null] at hread
    cases hread
    exact ⟨.inl rfl, .refl _⟩
  | bool b =>
    cases b with
    | false =>
      rw [writtenValue_false, readValue_false] at hread
      cases hread
      exact ⟨.inl rfl, .refl _⟩
    | true =>
      rw [writtenValue_true, readValue_true] at hread
      cases hread
      exact ⟨.inl rfl, .refl _⟩
  | str s =>
    obtain ⟨last, hlast⟩ := readValue_text l.asciiOnly s fuel offset rest
    rw [writtenValue_str, hlast] at hread
    cases hread
    exact ⟨.inl rfl, .refl _⟩
  | list items =>
    rw [writtenValue_list] at hread
    cases items with
    | nil =>
      rw [readValue] at hread
      cases hread
      exact ⟨.inl rfl, .refl _⟩
    | cons w items =>
      obtain ⟨c, s, hs, hc⟩ := writtenItems_opens l w items
      rw [hs, List.cons_append, List.cons_append, readValue_items hc] at hread
      cases hitems : readItems fuel [] ⟨offset + 1, c :: (s ++ rest)⟩ with
      | error f =>
        rw [hitems] at hread
        cases hread
      | ok found =>
        obtain ⟨items', last⟩ := found
        rw [hitems] at hread
        cases hread
        have htext : c :: (s ++ rest) = writtenItems l (w :: items) ++ rest := by
          rw [hs]
          rfl
        have hlast := h.items htext hitems
        exact ⟨.inl hlast, .of_other (by simp) (by simp) (by simp) (by simp)⟩
  | obj fields =>
    obtain ⟨hnext, fields', rfl, -⟩ := h.object_succ hread
    exact ⟨.inl hnext, .of_other (by simp) (by simp) (by simp) (by simp)⟩

end Rereads

theorem rereads (hl : Separates l afterComma afterColon) (fuel : Nat) : Rereads l fuel := by
  induction fuel with
  | zero => exact rereads_zero l
  | succ fuel ih => exact ⟨ih.value_succ, ih.items_succ hl, ih.fields_succ hl⟩

/-- **What is read where an object was written has its fields.** If the object has no key twice and a reader
succeeds, then it reads the same keys in the same order, and where a text or null was written it reads that, and
nowhere else a text or null. -/
theorem read_echoes (hl : Separates l afterComma afterColon) {fields : List (String × Value)}
    (hkeys : (fields.map (·.1)).Nodup) {v : Value} (hread : read ((Value.obj fields).write l) = .ok v) :
    ∃ fields', v = .obj fields' ∧ List.Forall₂ FieldEchoes fields fields' := by
  have htext : ((Value.obj fields).write l).toList = '\x7b' :: writtenFields l fields := writtenValue_obj l fields
  have hmark : (((Value.obj fields).write l).toList.head? == some '\ufeff') = false := by
    rw [htext]
    rfl
  have hstart : (Cursor.mk 0 ((Value.obj fields).write l).toList).blank = ⟨0, writtenValue l (.obj fields) ++ []⟩ := by
    rw [List.append_nil]
    exact blank_of_inked rfl (by rw [htext]; exact .cons rfl _)
  rw [read, hmark, if_neg Bool.false_ne_true] at hread
  simp only [hstart] at hread
  cases hvalue : readValue (2 * ((Value.obj fields).write l).length + 2) ⟨0, writtenValue l (.obj fields) ++ []⟩ with
  | error f =>
    rw [hvalue] at hread
    cases hread
  | ok found =>
    obtain ⟨v', last⟩ := found
    obtain ⟨-, fields', rfl, hechoes⟩ := (rereads hl _).object_succ hvalue
    rw [hvalue] at hread
    refine ⟨fields', ?_, hechoes hkeys⟩
    simp only [bind, Except.bind] at hread
    split at hread
    · exact (Except.ok.inj hread).symm
    · cases hread

end Json

end ChannelBot
