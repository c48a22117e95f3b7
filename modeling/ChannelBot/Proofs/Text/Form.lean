/-
A form is read back as it was written (`decodeForm_encodeForm`): names and values are written
without `&` and `=`, so the cuts find the same parts again, and each part stands for what was
written. What is written is plain but for the percent and plus signs, so every part is ASCII and is
decoded in one piece.
-/
import Mathlib.Data.List.Basic
import ChannelBot.Proofs.Text.Percent

namespace ChannelBot.Percent

/-- A plus sign as a space, as the reader of a form sees it. -/
def unplus (c : Char) : Char := if c == '+' then ' ' else c

theorem isPlain_hexDigit {n : Nat} (h : n < 16) : isPlain (hexDigit n) = true := by
  have hall : ∀ i : Fin 16, isPlain (hexDigit i) = true := by decide
  exact hall ⟨n, h⟩

theorem isPlain_ne {c d : Char} (h : isPlain c = true) (hd : isPlain d = false) : c ≠ d := by
  rintro rfl
  rw [hd] at h
  cases h

theorem isPlain_lt {c : Char} (h : isPlain c = true) : c.toNat < 0x80 := by
  have hle : ∀ {d : Char}, d.toNat < 0x80 → c ≤ d → c.toNat < 0x80 := by
    intro d hd hc
    have : c.toNat ≤ d.toNat := UInt32.le_iff_toNat_le.mp hc
    omega
  simp only [isPlain, Bool.or_eq_true, Bool.and_eq_true, decide_eq_true_eq, beq_iff_eq] at h
  rcases h with (((((h | h) | h) | rfl) | rfl) | rfl) | rfl
  · exact hle (by decide) h.2
  · exact hle (by decide) h.2
  · exact hle (by decide) h.2
  all_goals decide

theorem mem_encodeChar {c d : Char} (h : d ∈ encodeChar c) : d = '%' ∨ isPlain d = true := by
  rw [encodeChar] at h
  split at h
  · rename_i hplain
    rw [List.mem_singleton.mp h]
    exact .inr hplain
  · obtain ⟨b, hb, hd⟩ := List.mem_flatMap.mp h
    have hlt := encodeChar_lt hb
    simp only [escapeByte, List.mem_cons, List.not_mem_nil, or_false] at hd
    rcases hd with rfl | rfl | rfl
    · exact .inl rfl
    · exact .inr (isPlain_hexDigit (by omega))
    · exact .inr (isPlain_hexDigit (by omega))

theorem mem_encodeField {s : String} {d : Char} (h : d ∈ (encodeField s).toList) :
    d = '+' ∨ d = '%' ∨ isPlain d = true := by
  rw [encodeField, String.toList_ofList] at h
  obtain ⟨c, -, hd⟩ := List.mem_flatMap.mp h
  split at hd
  · exact .inl (List.mem_singleton.mp hd)
  · exact .inr (mem_encodeChar hd)

/-- What is written of a name or a value holds no separator of forms. -/
theorem encodeField_no_separator {s : String} {d : Char} (h : d ∈ (encodeField s).toList) : d ≠ '&' ∧ d ≠ '=' := by
  rcases mem_encodeField h with rfl | rfl | hplain
  · decide
  · decide
  · exact ⟨isPlain_ne hplain (by decide), isPlain_ne hplain (by decide)⟩

/-! ## One part -/

/-- A text of ASCII characters is decoded in one piece. -/
theorem decodePart_go {s : List Char} (h : ∀ c ∈ s, c.toNat < 0x80) (seen : List Char) :
    decodePart.go seen s = Utf8.decode (bytes (seen.reverse ++ s.map unplus)) := by
  induction s generalizing seen with
  | nil => rw [decodePart.go, List.map_nil, List.append_nil]
  | cons c rest ih =>
    have hc := h c List.mem_cons_self
    rw [decodePart.go, if_pos hc, ih fun d hd => h d (List.mem_cons_of_mem _ hd), List.map_cons, List.reverse_cons,
      List.append_assoc, List.singleton_append, unplus]

theorem map_unplus_encodeChar (c : Char) : (encodeChar c).map unplus = encodeChar c := by
  refine (List.map_congr_left fun d hd => ?_).trans (List.map_id' _)
  have hne : d ≠ '+' := by
    rcases mem_encodeChar hd with rfl | hplain
    · decide
    · exact isPlain_ne hplain (by decide)
  rw [unplus, if_neg (by simpa using hne)]

theorem bytes_unplus (s : List Char) :
    bytes ((s.flatMap fun c => if c == ' ' then ['+'] else encodeChar c).map unplus) = Utf8.encode s := by
  rw [Utf8.encode]
  induction s with
  | nil => rfl
  | cons c rest ih =>
    rw [List.flatMap_cons, List.map_append, List.flatMap_cons]
    by_cases hc : c = ' '
    · subst hc
      have hplus : ['+'].map unplus = [' '] := rfl
      rw [if_pos (beq_self_eq_true ' '), hplus, List.singleton_append, bytes_cons_of_ne (by decide), ih]
    · rw [if_neg (by simpa using hc), map_unplus_encodeChar, bytes_encodeChar, ih]

theorem decodePart_encodeField (s : String) : decodePart (encodeField s) = s := by
  have hascii : ∀ c ∈ (encodeField s).toList, c.toNat < 0x80 := by
    intro c hc
    rcases mem_encodeField hc with rfl | rfl | hplain
    · decide
    · decide
    · exact isPlain_lt hplain
  rw [decodePart, decodePart_go hascii, List.reverse_nil, List.nil_append, encodeField, String.toList_ofList,
    bytes_unplus, Utf8.decode_encode, String.ofList_toList]

/-! ## Whole forms -/

/-- A name and a value as they stand in a form. -/
def writtenField (field : String × String) : List Char :=
  (encodeField field.1).toList ++ '=' :: (encodeField field.2).toList

theorem toList_encodeForm (fields : List (String × String)) :
    (encodeForm fields).toList = ['&'].intercalate (fields.map writtenField) := by
  have hmark : "&".toList = ['&'] := rfl
  have hform : encodeForm fields =
      String.intercalate "&" (fields.map fun field => encodeField field.1 ++ "=" ++ encodeField field.2) := rfl
  rw [hform, String.toList_intercalate, hmark, List.map_map]
  refine congrArg _ (List.map_congr_left fun field _ => ?_)
  simp [writtenField]

theorem cut_writtenField (field : String × String) :
    (decodePart (.ofList ((writtenField field).takeWhile (· != '='))),
      decodePart (.ofList (((writtenField field).dropWhile (· != '=')).drop 1))) = field := by
  have hname : ∀ c ∈ (encodeField field.1).toList, (c != '=') = true :=
    fun c hc => bne_iff_ne.mpr (encodeField_no_separator hc).2
  have hstop : ('=' != '=') = false := rfl
  rw [writtenField, List.takeWhile_append_of_pos hname, List.dropWhile_append_of_pos hname, List.takeWhile_cons,
    List.dropWhile_cons, hstop]
  simp only [Bool.false_eq_true, if_false, List.append_nil, List.drop_succ_cons, List.drop_zero, String.ofList_toList,
    decodePart_encodeField]

/-- A form is read back as it was written. -/
theorem decodeForm_encodeForm (fields : List (String × String)) : decodeForm (encodeForm fields) = fields := by
  rw [decodeForm, toList_encodeForm]
  cases fields with
  | nil => rfl
  | cons f fs =>
    have hcut : (['&'].intercalate ((f :: fs).map writtenField)).splitOn '&' = (f :: fs).map writtenField := by
      refine List.splitOn_intercalate '&' (fun part hpart hmem => ?_) (List.cons_ne_nil _ _)
      obtain ⟨field, -, rfl⟩ := List.mem_map.mp hpart
      rcases List.mem_append.mp hmem with hname | hvalue
      · exact (encodeField_no_separator hname).1 rfl
      · rcases List.mem_cons.mp hvalue with heq | hvalue
        · exact absurd heq (by decide)
        · exact (encodeField_no_separator hvalue).1 rfl
    have hfilled : ∀ part ∈ (f :: fs).map writtenField, (!part.isEmpty) = true := by
      intro part hpart
      obtain ⟨field, -, rfl⟩ := List.mem_map.mp hpart
      simp [writtenField]
    rw [hcut, List.filter_eq_self.mpr hfilled, List.map_map]
    exact (List.map_congr_left fun field _ => cut_writtenField field).trans (List.map_id' _)

end ChannelBot.Percent
