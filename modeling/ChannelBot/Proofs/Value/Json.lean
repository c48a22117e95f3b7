/-
A value written as JSON is read back as it was (`read_write`), in every layout whose separators
are a comma and a colon with blanks behind them. Values with numbers are left aside, and so are
objects with two fields of one key, of which the reader keeps one.
-/
import ChannelBot.Proofs.Value.Text

namespace ChannelBot

namespace Value

mutual

/-- A value without numbers and without objects in which a key stands twice. -/
def IsPlain : Value → Prop
  | .null | .bool _ | .str _ => True
  | .int _ | .real _ => False
  | .list items => ItemsPlain items
  | .obj fields => FieldsPlain fields ∧ (fields.map (·.1)).Nodup

/-- All items of a list are plain. -/
def ItemsPlain : List Value → Prop
  | [] => True
  | v :: rest => IsPlain v ∧ ItemsPlain rest

/-- All fields of an object are plain. -/
def FieldsPlain : List (String × Value) → Prop
  | [] => True
  | (_, v) :: rest => IsPlain v ∧ FieldsPlain rest

end

theorem insert_of_not_mem {key : String} {fields : List (String × Value)} (h : key ∉ fields.map (·.1)) (v : Value) :
    insert key v fields = fields ++ [(key, v)] := by
  induction fields with
  | nil => rfl
  | cons e rest ih =>
    obtain ⟨k, w⟩ := e
    rw [List.map_cons, List.mem_cons, not_or] at h
    have hk : (k == key) = false := by simpa using Ne.symm h.1
    rw [insert, hk, if_neg Bool.false_ne_true, ih h.2, List.cons_append]

end Value

namespace Json

/-! ## Blanks -/

/-- A blank of JSON. -/
def isBlank (c : Char) : Bool := c == ' ' || c == '\t' || c == '\n' || c == '\r'

/-- The text does not start with a blank. -/
def Inked (s : List Char) : Prop := ∀ c ∈ s.head?, isBlank c = false

theorem Inked.cons {c : Char} (h : isBlank c = false) (rest : List Char) : Inked (c :: rest) := by
  rintro d ⟨⟩
  exact h

theorem blank_append {offset : Nat} {blanks s : List Char} (hblanks : blanks.all isBlank = true) (hs : Inked s) :
    (Cursor.mk offset (blanks ++ s)).blank = ⟨offset + blanks.length, s⟩ := by
  have hall : ∀ c ∈ blanks, isBlank c = true := List.all_eq_true.mp hblanks
  have htake : (blanks ++ s).takeWhile isBlank = blanks := by
    rw [List.takeWhile_append_of_pos hall]
    cases s with
    | nil => simp
    | cons c rest => simp [hs c rfl]
  show Cursor.skip ((blanks ++ s).takeWhile isBlank).length _ = _
  rw [htake, Cursor.skip, List.drop_left]

theorem blank_inked {offset : Nat} {s : List Char} (hs : Inked s) : (Cursor.mk offset s).blank = ⟨offset, s⟩ :=
  @blank_append offset [] s rfl hs

/-- The separators of a layout: a comma and a colon, with blanks behind them. -/
structure Separates (l : Value.Layout) (afterComma afterColon : List Char) : Prop where
  comma : l.comma.toList = ',' :: afterComma
  colon : l.colon.toList = ':' :: afterColon
  afterComma : afterComma.all isBlank = true
  afterColon : afterColon.all isBlank = true

theorem separates_compact : Separates Value.compact [] [] := ⟨rfl, rfl, rfl, rfl⟩

theorem separates_spaced : Separates Value.spaced [' '] [' '] := ⟨rfl, rfl, rfl, rfl⟩

/-! ## Written values -/

/-- A value as it is written, as characters. -/
def writtenValue (l : Value.Layout) (v : Value) : List Char := (v.write l).toList

/-- The items of a list as they are written, up to the closing bracket. -/
def writtenItems (l : Value.Layout) : List Value → List Char
  | [] => [']']
  | [v] => writtenValue l v ++ [']']
  | v :: w :: rest => writtenValue l v ++ l.comma.toList ++ writtenItems l (w :: rest)

/-- A field as it is written, behind the opening quote of its key. -/
def writtenField (l : Value.Layout) (key : String) (v : Value) : List Char :=
  written l.asciiOnly key ++ l.colon.toList ++ writtenValue l v

/-- The fields of an object as they are written, up to the closing brace. -/
def writtenFields (l : Value.Layout) : List (String × Value) → List Char
  | [] => ['\x7d']
  | [(k, v)] => '"' :: writtenField l k v ++ ['\x7d']
  | (k, v) :: f :: rest => '"' :: writtenField l k v ++ l.comma.toList ++ writtenFields l (f :: rest)

theorem writtenValue_list (l : Value.Layout) (items : List Value) :
    writtenValue l (.list items) = '[' :: writtenItems l items := by
  have hitems : ∀ items, (String.intercalate l.comma (Value.writeItems l items)).toList ++ [']'] =
      writtenItems l items := by
    intro items
    fun_induction writtenItems l items with
    | case1 => simp [Value.writeItems]
    | case2 v => simp [Value.writeItems, writtenValue]
    | case3 v w rest ih =>
      rw [← ih]
      simp [Value.writeItems, writtenValue]
  rw [writtenValue, Value.write, ← hitems]
  simp

theorem writtenValue_obj (l : Value.Layout) (fields : List (String × Value)) :
    writtenValue l (.obj fields) = '\x7b' :: writtenFields l fields := by
  have hfields : ∀ fields, (String.intercalate l.comma (Value.writeFields l fields)).toList ++ ['\x7d'] =
      writtenFields l fields := by
    intro fields
    fun_induction writtenFields l fields with
    | case1 => simp [Value.writeFields]
    | case2 k v => simp [Value.writeFields, writtenField, writtenValue, toList_writeText]
    | case3 k v f rest ih =>
      rw [← ih]
      simp [Value.writeFields, writtenField, writtenValue, toList_writeText]
  rw [writtenValue, Value.write, ← hfields]
  simp

theorem writtenValue_null (l : Value.Layout) : writtenValue l .null = ['n', 'u', 'l', 'l'] := by
  rw [writtenValue, Value.write]
  rfl

theorem writtenValue_false (l : Value.Layout) : writtenValue l (.bool false) = ['f', 'a', 'l', 's', 'e'] := by
  rw [writtenValue, Value.write]
  rfl

theorem writtenValue_true (l : Value.Layout) : writtenValue l (.bool true) = ['t', 'r', 'u', 'e'] := by
  rw [writtenValue, Value.write]
  rfl

theorem writtenValue_str (l : Value.Layout) (s : String) :
    writtenValue l (.str s) = '"' :: written l.asciiOnly s := by
  rw [writtenValue, Value.write, toList_writeText]

/-- A character with which a value may start: no blank, no order mark, and nothing that closes a list. -/
structure Opens (c : Char) : Prop where
  inked : isBlank c = false
  unmarked : c ≠ '\ufeff'
  open_list : c ≠ ']'

/-- A plain value starts with a character that is no blank and closes nothing. -/
theorem writtenValue_head (l : Value.Layout) {v : Value} (hv : v.IsPlain) :
    ∃ c rest, writtenValue l v = c :: rest ∧ Opens c := by
  cases v with
  | null => exact ⟨_, _, writtenValue_null l, by constructor <;> decide⟩
  | bool b =>
    cases b with
    | false => exact ⟨_, _, writtenValue_false l, by constructor <;> decide⟩
    | true => exact ⟨_, _, writtenValue_true l, by constructor <;> decide⟩
  | int n => exact hv.elim
  | real x => exact hv.elim
  | str s => exact ⟨_, _, writtenValue_str l s, by constructor <;> decide⟩
  | list items => exact ⟨_, _, writtenValue_list l items, by constructor <;> decide⟩
  | obj fields => exact ⟨_, _, writtenValue_obj l fields, by constructor <;> decide⟩

/-! ## Reading back -/

variable {l : Value.Layout} {afterComma afterColon : List Char}

theorem inked_value (l : Value.Layout) {v : Value} (hv : v.IsPlain) (rest : List Char) :
    Inked (writtenValue l v ++ rest) := by
  obtain ⟨c, s, hs, hc⟩ := writtenValue_head l hv
  rw [hs, List.cons_append]
  exact .cons hc.inked _

theorem writtenItems_head (l : Value.Layout) {v : Value} (hv : v.IsPlain) (items : List Value) :
    ∃ c rest, writtenItems l (v :: items) = c :: rest ∧ Opens c := by
  obtain ⟨c, s, hs, hc⟩ := writtenValue_head l hv
  cases items with
  | nil => exact ⟨c, s ++ [']'], by rw [writtenItems, hs, List.cons_append], hc⟩
  | cons w items =>
    exact ⟨c, s ++ l.comma.toList ++ writtenItems l (w :: items),
      by rw [writtenItems, hs, List.cons_append, List.cons_append], hc⟩

theorem inked_items (l : Value.Layout) {v : Value} (hv : v.IsPlain) (items : List Value) (rest : List Char) :
    Inked (writtenItems l (v :: items) ++ rest) := by
  obtain ⟨c, s, hs, hc⟩ := writtenItems_head l hv items
  rw [hs, List.cons_append]
  exact .cons hc.inked _

theorem inked_fields (l : Value.Layout) (fields : List (String × Value)) (rest : List Char) :
    Inked (writtenFields l fields ++ rest) := by
  fun_cases writtenFields l fields <;> exact .cons rfl _

theorem writtenFields_quote (l : Value.Layout) (f : String × Value) (fields : List (String × Value)) :
    ∃ s, writtenFields l (f :: fields) = '"' :: s := by
  obtain ⟨k, v⟩ := f
  cases fields <;> exact ⟨_, rfl⟩

theorem readValue_null (fuel offset : Nat) (rest : List Char) :
    readValue (fuel + 1) ⟨offset, ['n', 'u', 'l', 'l'] ++ rest⟩ = .ok (.null, ⟨offset + 4, rest⟩) := by
  rw [readValue]
  rfl

theorem readValue_false (fuel offset : Nat) (rest : List Char) :
    readValue (fuel + 1) ⟨offset, ['f', 'a', 'l', 's', 'e'] ++ rest⟩ = .ok (.bool false, ⟨offset + 5, rest⟩) := by
  rw [readValue]
  rfl

theorem readValue_true (fuel offset : Nat) (rest : List Char) :
    readValue (fuel + 1) ⟨offset, ['t', 'r', 'u', 'e'] ++ rest⟩ = .ok (.bool true, ⟨offset + 4, rest⟩) := by
  rw [readValue]
  rfl

/-- A string of JSON where a value is expected. -/
theorem readValue_text (asciiOnly : Bool) (s : String) (fuel offset : Nat) (rest : List Char) :
    ∃ next, readValue (fuel + 1) ⟨offset, '"' :: written asciiOnly s ++ rest⟩ = .ok (.str s, ⟨next, rest⟩) := by
  obtain ⟨next, hread⟩ := readText_written asciiOnly s offset (offset + 1) rest
  refine ⟨next, ?_⟩
  rw [readValue, List.cons_append]
  simp only
  rw [hread]
  rfl

/-- A list that is not empty is read item by item. -/
theorem readValue_items {fuel offset : Nat} {c : Char} {s : List Char} (hc : Opens c) :
    readValue (fuel + 1) ⟨offset, '[' :: c :: s⟩ =
      (readItems fuel [] ⟨offset + 1, c :: s⟩).map fun (items, next) => (.list items, next) := by
  have hskip : ((Cursor.mk offset ('[' :: c :: s)).skip 1).blank = ⟨offset + 1, c :: s⟩ :=
    blank_inked (.cons hc.inked s)
  rw [readValue]
  simp only [hskip]
  split
  · rename_i heq
    cases heq
    exact absurd rfl hc.open_list
  · rfl

/-- An object that is not empty is read field by field. -/
theorem readValue_fields {fuel offset : Nat} {s : List Char} :
    readValue (fuel + 1) ⟨offset, '\x7b' :: '"' :: s⟩ =
      (readFields fuel [] ⟨offset + 1, '"' :: s⟩).map fun (fields, next) => (.obj fields, next) := by
  have hskip : ((Cursor.mk offset ('\x7b' :: '"' :: s)).skip 1).blank = ⟨offset + 1, '"' :: s⟩ :=
    blank_inked (.cons rfl s)
  rw [readValue]
  simp only [hskip]
  rfl

/-- The last item of a list. -/
theorem readItems_last {fuel offset next : Nat} {done : List Value} {v : Value} {s rest : List Char}
    (hread : readValue fuel ⟨offset, s⟩ = .ok (v, ⟨next, ']' :: rest⟩)) :
    readItems (fuel + 1) done ⟨offset, s⟩ = .ok (done.reverse ++ [v], ⟨next + 1, rest⟩) := by
  have hblank : (Cursor.mk next (']' :: rest)).blank = ⟨next, ']' :: rest⟩ := blank_inked (.cons rfl rest)
  rw [readItems, hread]
  simp only [bind, Except.bind, hblank, List.reverse_cons]
  rfl

/-- An item with others behind it. -/
theorem readItems_more {fuel offset next : Nat} {done : List Value} {v : Value} {s blanks more : List Char}
    (hread : readValue fuel ⟨offset, s⟩ = .ok (v, ⟨next, ',' :: (blanks ++ more)⟩))
    (hblanks : blanks.all isBlank = true) (hmore : Inked more) :
    readItems (fuel + 1) done ⟨offset, s⟩ = readItems fuel (v :: done) ⟨next + 1 + blanks.length, more⟩ := by
  have hblank : (Cursor.mk next (',' :: (blanks ++ more))).blank = ⟨next, ',' :: (blanks ++ more)⟩ :=
    blank_inked (.cons rfl _)
  have hskip : ((Cursor.mk next (',' :: (blanks ++ more))).skip 1).blank = ⟨next + 1 + blanks.length, more⟩ :=
    blank_append hblanks hmore
  rw [readItems, hread]
  simp only [bind, Except.bind, hblank, hskip]

/-- What is done after the value of a field. -/
def afterField (fuel : Nat) (done : List (String × Value)) (key : String) :
    Value × Cursor → Except JsonFault (List (String × Value) × Cursor)
  | (v, next) =>
    match next.blank.rest with
    | '\x7d' :: _ => .ok (Value.insert key v done, next.blank.skip 1)
    | ',' :: _ => readFields fuel (Value.insert key v done) (next.blank.skip 1).blank
    | _ => refuse .noComma next.blank.offset

/-- What is read of a field up to its value. -/
theorem readFields_key {asciiOnly : Bool} {key : String} {fuel offset : Nat} {done : List (String × Value)}
    {blanks s : List Char} (hblanks : blanks.all isBlank = true) (hs : Inked s) :
    ∃ next, readFields (fuel + 1) done ⟨offset, '"' :: written asciiOnly key ++ ':' :: (blanks ++ s)⟩ =
      readValue fuel ⟨next, s⟩ >>= afterField fuel done key := by
  obtain ⟨next, hread⟩ := readText_written asciiOnly key offset (offset + 1) (':' :: (blanks ++ s))
  have hskip : ((Cursor.mk next (':' :: (blanks ++ s))).skip 1).blank = ⟨next + 1 + blanks.length, s⟩ :=
    blank_append hblanks hs
  refine ⟨next + 1 + blanks.length, ?_⟩
  rw [readFields, List.cons_append]
  simp only
  rw [hread]
  show (readValue fuel ((Cursor.mk next (':' :: (blanks ++ s))).skip 1).blank >>= _) = _
  rw [hskip]
  rfl

/-- The last field of an object. -/
theorem readFields_last {asciiOnly : Bool} {key : String} {fuel offset : Nat} {done : List (String × Value)}
    {v : Value} {blanks s rest : List Char} (hblanks : blanks.all isBlank = true) (hs : Inked s)
    (hread : ∀ offset, ∃ next, readValue fuel ⟨offset, s⟩ = .ok (v, ⟨next, '\x7d' :: rest⟩))
    (hkey : key ∉ done.map (·.1)) :
    ∃ next, readFields (fuel + 1) done ⟨offset, '"' :: written asciiOnly key ++ ':' :: (blanks ++ s)⟩ =
      .ok (done ++ [(key, v)], ⟨next, rest⟩) := by
  obtain ⟨mid, hfield⟩ := @readFields_key asciiOnly key fuel offset done blanks s hblanks hs
  obtain ⟨next, hvalue⟩ := hread mid
  have hblank : (Cursor.mk next ('\x7d' :: rest)).blank = ⟨next, '\x7d' :: rest⟩ := blank_inked (.cons rfl rest)
  refine ⟨next + 1, ?_⟩
  rw [hfield, hvalue]
  simp only [bind, Except.bind, afterField, hblank, Value.insert_of_not_mem hkey]
  rfl

/-- A field with others behind it. -/
theorem readFields_more {asciiOnly : Bool} {key : String} {fuel offset : Nat} {done : List (String × Value)}
    {v : Value} {blanks s after more : List Char} (hblanks : blanks.all isBlank = true) (hs : Inked s)
    (hread : ∀ offset, ∃ next, readValue fuel ⟨offset, s⟩ = .ok (v, ⟨next, ',' :: (after ++ more)⟩))
    (hafter : after.all isBlank = true) (hmore : Inked more) (hkey : key ∉ done.map (·.1)) :
    ∃ next, readFields (fuel + 1) done ⟨offset, '"' :: written asciiOnly key ++ ':' :: (blanks ++ s)⟩ =
      readFields fuel (done ++ [(key, v)]) ⟨next, more⟩ := by
  obtain ⟨mid, hfield⟩ := @readFields_key asciiOnly key fuel offset done blanks s hblanks hs
  obtain ⟨next, hvalue⟩ := hread mid
  have hblank : (Cursor.mk next (',' :: (after ++ more))).blank = ⟨next, ',' :: (after ++ more)⟩ :=
    blank_inked (.cons rfl _)
  have hskip : ((Cursor.mk next (',' :: (after ++ more))).skip 1).blank = ⟨next + 1 + after.length, more⟩ :=
    blank_append hafter hmore
  refine ⟨next + 1 + after.length, ?_⟩
  rw [hfield, hvalue]
  simp only [bind, Except.bind, afterField, hblank, hskip, Value.insert_of_not_mem hkey]

theorem not_mem_of_nodup {done rest : List (String × Value)} {k : String} {v : Value}
    (h : ((done ++ (k, v) :: rest).map (·.1)).Nodup) : k ∉ done.map (·.1) := by
  rw [List.map_append, List.map_cons, List.nodup_append] at h
  exact fun hk => h.2.2 k hk k List.mem_cons_self rfl

/-- With this much fuel all is read back that is written with at most half as many characters,
whatever follows it. -/
structure ReadsBack (l : Value.Layout) (fuel : Nat) : Prop where
  value : ∀ {v : Value}, v.IsPlain → ∀ (offset : Nat) (rest : List Char), 2 * (writtenValue l v).length ≤ fuel →
    ∃ next, readValue fuel ⟨offset, writtenValue l v ++ rest⟩ = .ok (v, ⟨next, rest⟩)
  items : ∀ {v : Value} {items : List Value}, Value.ItemsPlain (v :: items) →
    ∀ (offset : Nat) (done : List Value) (rest : List Char), 2 * (writtenItems l (v :: items)).length ≤ fuel →
    ∃ next, readItems fuel done ⟨offset, writtenItems l (v :: items) ++ rest⟩ =
      .ok (done.reverse ++ v :: items, ⟨next, rest⟩)
  fields : ∀ {f : String × Value} {fields : List (String × Value)}, Value.FieldsPlain (f :: fields) →
    ∀ (offset : Nat) (done : List (String × Value)) (rest : List Char),
    ((done ++ f :: fields).map (·.1)).Nodup → 2 * (writtenFields l (f :: fields)).length ≤ fuel →
    ∃ next, readFields fuel done ⟨offset, writtenFields l (f :: fields) ++ rest⟩ =
      .ok (done ++ f :: fields, ⟨next, rest⟩)

theorem readsBack_zero (l : Value.Layout) : ReadsBack l 0 where
  value hv _ _ hfuel := by
    obtain ⟨c, s, hs, -⟩ := writtenValue_head l hv
    rw [hs, List.length_cons] at hfuel
    omega
  items hv _ _ _ hfuel := by
    rw [Value.ItemsPlain] at hv
    obtain ⟨c, s, hs, -⟩ := writtenItems_head l hv.1 _
    rw [hs, List.length_cons] at hfuel
    omega
  fields {f fields} _ _ _ _ _ hfuel := by
    obtain ⟨s, hs⟩ := writtenFields_quote l f fields
    rw [hs, List.length_cons] at hfuel
    omega

namespace ReadsBack

variable {fuel : Nat}

/-- A written value is read back. -/
theorem value_succ (h : ReadsBack l fuel) {v : Value} (hv : v.IsPlain) (offset : Nat) (rest : List Char)
    (hfuel : 2 * (writtenValue l v).length ≤ fuel + 1) :
    ∃ next, readValue (fuel + 1) ⟨offset, writtenValue l v ++ rest⟩ = .ok (v, ⟨next, rest⟩) := by
  cases v with
  | null =>
    rw [writtenValue_null]
    exact ⟨_, readValue_null fuel offset rest⟩
  | bool b =>
    cases b with
    | false =>
      rw [writtenValue_false]
      exact ⟨_, readValue_false fuel offset rest⟩
    | true =>
      rw [writtenValue_true]
      exact ⟨_, readValue_true fuel offset rest⟩
  | int n => exact hv.elim
  | real x => exact hv.elim
  | str s =>
    rw [writtenValue_str]
    exact readValue_text l.asciiOnly s fuel offset rest
  | list items =>
    rw [writtenValue_list, List.length_cons] at hfuel
    rw [writtenValue_list]
    rw [Value.IsPlain] at hv
    cases items with
    | nil =>
      refine ⟨offset + 2, ?_⟩
      rw [readValue]
      rfl
    | cons v items =>
      obtain ⟨next, hread⟩ := h.items hv (offset + 1) [] rest (by omega)
      rw [Value.ItemsPlain] at hv
      obtain ⟨c, s, hs, hc⟩ := writtenItems_head l hv.1 items
      rw [hs, List.cons_append] at hread
      rw [hs, List.cons_append, List.cons_append, readValue_items hc, hread]
      exact ⟨next, rfl⟩
  | obj fields =>
    rw [writtenValue_obj, List.length_cons] at hfuel
    rw [writtenValue_obj]
    rw [Value.IsPlain] at hv
    cases fields with
    | nil =>
      refine ⟨offset + 2, ?_⟩
      rw [readValue]
      rfl
    | cons f fields =>
      obtain ⟨next, hread⟩ := h.fields hv.1 (offset + 1) [] rest hv.2 (by omega)
      obtain ⟨s, hs⟩ := writtenFields_quote l f fields
      rw [hs, List.cons_append] at hread
      rw [hs, List.cons_append, List.cons_append, readValue_fields, hread]
      exact ⟨next, rfl⟩

/-- The written items of a list are read back, up to the closing bracket. -/
theorem items_succ (hl : Separates l afterComma afterColon) (h : ReadsBack l fuel) {v : Value} {items : List Value}
    (hv : Value.ItemsPlain (v :: items)) (offset : Nat) (done : List Value) (rest : List Char)
    (hfuel : 2 * (writtenItems l (v :: items)).length ≤ fuel + 1) :
    ∃ next, readItems (fuel + 1) done ⟨offset, writtenItems l (v :: items) ++ rest⟩ =
      .ok (done.reverse ++ v :: items, ⟨next, rest⟩) := by
  rw [Value.ItemsPlain] at hv
  cases items with
  | nil =>
    rw [writtenItems, List.length_append, List.length_singleton] at hfuel
    obtain ⟨next, hread⟩ := h.value hv.1 offset (']' :: rest) (by omega)
    rw [writtenItems, List.append_assoc, List.singleton_append]
    exact ⟨next + 1, readItems_last hread⟩
  | cons w items =>
    rw [writtenItems, hl.comma, List.length_append, List.length_append, List.length_cons] at hfuel
    have hw := hv.2
    rw [Value.ItemsPlain] at hw
    obtain ⟨mid, hread⟩ := h.value hv.1 offset (',' :: (afterComma ++ (writtenItems l (w :: items) ++ rest))) (by omega)
    obtain ⟨next, hrest⟩ := h.items hv.2 (mid + 1 + afterComma.length) (v :: done) rest (by omega)
    refine ⟨next, ?_⟩
    rw [writtenItems, hl.comma, List.append_assoc, List.append_assoc, List.cons_append,
      readItems_more hread hl.afterComma (inked_items l hw.1 items rest), hrest, List.reverse_cons,
      List.append_assoc, List.singleton_append]

/-- The written fields of an object are read back, up to the closing brace. -/
theorem fields_succ (hl : Separates l afterComma afterColon) (h : ReadsBack l fuel) {f : String × Value}
    {fields : List (String × Value)} (hv : Value.FieldsPlain (f :: fields)) (offset : Nat)
    (done : List (String × Value)) (rest : List Char) (hkeys : ((done ++ f :: fields).map (·.1)).Nodup)
    (hfuel : 2 * (writtenFields l (f :: fields)).length ≤ fuel + 1) :
    ∃ next, readFields (fuel + 1) done ⟨offset, writtenFields l (f :: fields) ++ rest⟩ =
      .ok (done ++ f :: fields, ⟨next, rest⟩) := by
  obtain ⟨k, v⟩ := f
  rw [Value.FieldsPlain] at hv
  cases fields with
  | nil =>
    rw [writtenFields, writtenField, hl.colon] at hfuel ⊢
    simp only [List.length_append, List.length_cons, List.append_assoc, List.cons_append, List.nil_append] at hfuel ⊢
    exact readFields_last hl.afterColon (inked_value l hv.1 _)
      (fun offset => h.value hv.1 offset ('\x7d' :: rest) (by omega)) (not_mem_of_nodup hkeys)
  | cons f fields =>
    rw [writtenFields, writtenField, hl.colon, hl.comma] at hfuel ⊢
    simp only [List.length_append, List.length_cons, List.append_assoc, List.cons_append] at hfuel ⊢
    obtain ⟨mid, hstep⟩ := @readFields_more l.asciiOnly k fuel offset done v afterColon _ afterComma _ hl.afterColon
      (inked_value l hv.1 _)
      (fun offset => h.value hv.1 offset (',' :: (afterComma ++ (writtenFields l (f :: fields) ++ rest))) (by omega))
      hl.afterComma (inked_fields l (f :: fields) rest) (not_mem_of_nodup hkeys)
    obtain ⟨next, hrest⟩ := h.fields hv.2 mid (done ++ [(k, v)]) rest
      (by rwa [List.append_assoc, List.singleton_append]) (by omega)
    refine ⟨next, ?_⟩
    rw [← List.cons_append, hstep, hrest, List.append_assoc, List.singleton_append]

end ReadsBack

/-- Any amount of fuel is good for half as many characters. -/
theorem readsBack (hl : Separates l afterComma afterColon) (fuel : Nat) : ReadsBack l fuel := by
  induction fuel with
  | zero => exact readsBack_zero l
  | succ fuel ih => exact ⟨ih.value_succ, ih.items_succ hl, ih.fields_succ hl⟩

/-- **A plain value written as JSON is read back as it was.** -/
theorem read_write (hl : Separates l afterComma afterColon) {v : Value} (hv : v.IsPlain) :
    read (v.write l) = .ok v := by
  obtain ⟨c, s, hs, hc⟩ := writtenValue_head l hv
  have hfuel : 2 * (writtenValue l v).length ≤ 2 * (v.write l).length + 2 := by
    rw [writtenValue, String.length_toList]
    omega
  obtain ⟨next, hread⟩ := (readsBack hl _).value hv 0 [] hfuel
  rw [List.append_nil] at hread
  have hmark : ¬ ((v.write l).toList.head? == some '\ufeff') = true := by
    rw [show (v.write l).toList = c :: s from hs]
    simpa using hc.unmarked
  have hstart : (Cursor.mk 0 (writtenValue l v)).blank = ⟨0, writtenValue l v⟩ := by
    rw [hs]
    exact blank_inked (.cons hc.inked s)
  have hend : (Cursor.mk next []).blank = ⟨next, []⟩ := blank_inked (by rintro d ⟨⟩)
  rw [read, if_neg hmark]
  show (readValue _ (Cursor.mk 0 (writtenValue l v)).blank >>= _) = _
  rw [hstart, hread]
  simp only [bind, Except.bind, hend, List.isEmpty_nil, if_true]
  rfl

end Json

end ChannelBot
