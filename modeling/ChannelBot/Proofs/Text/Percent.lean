/-
A text written with percent escapes is read back as it was (`bytes_encode`), and what is written
has neither slashes nor question marks (`encode_no_separator`), so it is one segment of a path.
-/
import ChannelBot.Proofs.Text.Utf8
import ChannelBot.Text.Percent

namespace ChannelBot.Percent

/-- A separator of addresses, or the sign that starts an escape. -/
def IsMark (c : Char) : Prop := c = '/' ∨ c = '?' ∨ c = '%'

theorem isPlain_not_mark {c : Char} (h : isPlain c = true) : ¬ IsMark c := by
  rintro (rfl | rfl | rfl) <;> exact absurd h (by decide)

theorem hexDigit_not_mark {n : Nat} (h : n < 16) : ¬ IsMark (hexDigit n) := by
  have hall : ∀ i : Fin 16, hexDigit i ≠ '/' ∧ hexDigit i ≠ '?' ∧ hexDigit i ≠ '%' := by decide
  obtain ⟨hslash, hquery, hpercent⟩ := hall ⟨n, h⟩
  intro h
  rcases h with hm | hm | hm
  · exact hslash hm
  · exact hquery hm
  · exact hpercent hm

theorem hexValue_hexDigit {n : Nat} (h : n < 16) : Json.hexValue? (hexDigit n) = some n := by
  have hall : ∀ i : Fin 16, Json.hexValue? (hexDigit i) = some i.val := by decide
  exact hall ⟨n, h⟩

theorem encodeChar_lt {c : Char} {b : Nat} (h : b ∈ Utf8.encodeChar c) : b < 256 := by
  have hvalid := Utf8.isValid c
  rw [Utf8.encodeChar] at h
  generalize c.toNat = n at h hvalid
  split at h
  · simp only [List.mem_singleton] at h
    omega
  split at h
  · simp only [List.mem_cons, List.not_mem_nil, or_false] at h
    omega
  split at h
  · simp only [List.mem_cons, List.not_mem_nil, or_false] at h
    omega
  · simp only [List.mem_cons, List.not_mem_nil, or_false] at h
    omega

/-! ## Reading back -/

theorem bytes_cons_of_ne {c : Char} (h : c ≠ '%') (rest : List Char) :
    bytes (c :: rest) = Utf8.encodeChar c ++ bytes rest := by
  rw [bytes]
  intro a b r heq
  subst heq
  exact absurd rfl h

theorem bytes_escapeByte {b : Nat} (h : b < 256) (rest : List Char) :
    bytes (escapeByte b ++ rest) = b :: bytes rest := by
  rw [escapeByte, List.cons_append, List.cons_append, List.cons_append, List.nil_append, bytes,
    hexValue_hexDigit (by omega), hexValue_hexDigit (by omega)]
  simp only [List.cons.injEq, and_true]
  omega

theorem bytes_escapeBytes {bs : List Nat} (h : ∀ b ∈ bs, b < 256) (rest : List Char) :
    bytes (bs.flatMap escapeByte ++ rest) = bs ++ bytes rest := by
  induction bs with
  | nil => rfl
  | cons b bs ih =>
    rw [List.flatMap_cons, List.append_assoc, bytes_escapeByte (h b List.mem_cons_self),
      ih fun x hx => h x (List.mem_cons_of_mem _ hx), List.cons_append]

theorem bytes_encodeChar (c : Char) (rest : List Char) :
    bytes (encodeChar c ++ rest) = Utf8.encodeChar c ++ bytes rest := by
  rw [encodeChar]
  split
  · rename_i hplain
    exact bytes_cons_of_ne (fun hc => isPlain_not_mark hplain (.inr (.inr hc))) rest
  · exact bytes_escapeBytes (fun _ => encodeChar_lt) rest

/-- What is written stands for the bytes of the text. -/
theorem bytes_encode (s : String) (rest : List Char) :
    bytes ((encode s).toList ++ rest) = Utf8.encode s.toList ++ bytes rest := by
  rw [encode, String.toList_ofList, Utf8.encode]
  induction s.toList with
  | nil => rfl
  | cons c cs ih =>
    rw [List.flatMap_cons, List.append_assoc, bytes_encodeChar, ih, List.flatMap_cons, List.append_assoc]

/-! ## What is written -/

/-- What is written holds no slash and no question mark. -/
theorem encode_no_separator {s : String} {c : Char} (h : c ∈ (encode s).toList) : c ≠ '/' ∧ c ≠ '?' := by
  rw [encode, String.toList_ofList, List.mem_flatMap] at h
  obtain ⟨d, -, hc⟩ := h
  rw [encodeChar] at hc
  split at hc
  · rename_i hplain
    rw [List.mem_singleton.mp hc]
    exact ⟨fun hm => isPlain_not_mark hplain (.inl hm), fun hm => isPlain_not_mark hplain (.inr (.inl hm))⟩
  · obtain ⟨b, hb, hc⟩ := List.mem_flatMap.mp hc
    have hlt := encodeChar_lt hb
    simp only [escapeByte, List.mem_cons, List.not_mem_nil, or_false] at hc
    rcases hc with rfl | rfl | rfl
    · decide
    · have hdigit := hexDigit_not_mark (n := b / 16) (by omega)
      exact ⟨fun hm => hdigit (.inl hm), fun hm => hdigit (.inr (.inl hm))⟩
    · have hdigit := hexDigit_not_mark (n := b % 16) (by omega)
      exact ⟨fun hm => hdigit (.inl hm), fun hm => hdigit (.inr (.inl hm))⟩

end ChannelBot.Percent
