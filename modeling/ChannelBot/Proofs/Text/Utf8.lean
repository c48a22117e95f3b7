/-
Decoding the bytes of a text gives the text back (`decode_encode`). A character is written in one
to four bytes; its first byte says how many, and in which range the second one lies.
-/
import ChannelBot.Text.Utf8

namespace ChannelBot.Utf8

theorem isValid (c : Char) : c.toNat < 0xd800 ∨ 0xdfff < c.toNat ∧ c.toNat < 0x110000 := c.valid

/-! ## First bytes -/

theorem start_one {b : Nat} (h : b < 0x80) : start b = ([Char.ofNat b], none) := if_pos h

theorem start_two {b : Nat} (h : 0xc2 ≤ b ∧ b ≤ 0xdf) : start b = ([], some ⟨b - 0xc0, 1, 0x80, 0xbf⟩) := by
  rw [start, if_neg (by omega), if_pos h]

/-- The first of three bytes leaves two open, the next of them in the range of the second byte. -/
theorem start_three {n : Nat} (hn : 0x800 ≤ n ∧ n < 0x10000) (hv : n < 0xd800 ∨ 0xdfff < n) :
    ∃ low high, start (0xe0 + n / 4096) = ([], some ⟨n / 4096, 2, low, high⟩) ∧
      low ≤ 0x80 + n / 64 % 64 ∧ 0x80 + n / 64 % 64 ≤ high := by
  rw [start, if_neg (by omega), if_neg (by omega)]
  by_cases h0 : n / 4096 = 0
  · exact ⟨0xa0, 0xbf, by rw [if_pos (by omega), h0], by omega, by omega⟩
  rw [if_neg (by omega)]
  by_cases hd : n / 4096 = 0xd
  · exact ⟨0x80, 0x9f, by rw [if_pos (by omega), hd], by omega, by omega⟩
  rw [if_neg (by omega), if_pos (by omega), Nat.add_sub_cancel_left]
  exact ⟨0x80, 0xbf, rfl, by omega, by omega⟩

theorem start_four {n : Nat} (hn : 0x10000 ≤ n ∧ n < 0x110000) :
    ∃ low high, start (0xf0 + n / 262144) = ([], some ⟨n / 262144, 3, low, high⟩) ∧
      low ≤ 0x80 + n / 4096 % 64 ∧ 0x80 + n / 4096 % 64 ≤ high := by
  rw [start, if_neg (by omega), if_neg (by omega), if_neg (by omega), if_neg (by omega), if_neg (by omega)]
  by_cases h0 : n / 262144 = 0
  · exact ⟨0x90, 0xbf, by rw [if_pos (by omega), h0], by omega, by omega⟩
  rw [if_neg (by omega)]
  by_cases h4 : n / 262144 = 4
  · exact ⟨0x80, 0x8f, by rw [if_neg (by omega), if_pos (by omega), h4], by omega, by omega⟩
  rw [if_pos (by omega), Nat.add_sub_cancel_left]
  exact ⟨0x80, 0xbf, rfl, by omega, by omega⟩

/-! ## Further bytes -/

theorem decodeFrom_more {value missing low high b : Nat} (hb : low ≤ b ∧ b ≤ high) (hm : missing ≠ 1)
    (rest : List Nat) :
    decodeFrom (some ⟨value, missing, low, high⟩) (b :: rest) =
      decodeFrom (some ⟨value * 64 + (b - 0x80), missing - 1, 0x80, 0xbf⟩) rest := by
  rw [decodeFrom, advance]
  simp only [if_pos hb, if_neg hm, List.nil_append]

theorem decodeFrom_last {value low high b : Nat} (hb : low ≤ b ∧ b ≤ high) (rest : List Nat) :
    decodeFrom (some ⟨value, 1, low, high⟩) (b :: rest) =
      Char.ofNat (value * 64 + (b - 0x80)) :: decodeFrom none rest := by
  rw [decodeFrom, advance]
  simp only [if_pos hb, if_true, List.singleton_append]

theorem decodeFrom_start {b : Nat} {p : Pending} (h : start b = ([], some p)) (rest : List Nat) :
    decodeFrom none (b :: rest) = decodeFrom (some p) rest := by
  rw [decodeFrom, advance]
  simp only [h, List.nil_append]

/-! ## Characters and texts -/

theorem decodeFrom_encodeChar (c : Char) (rest : List Nat) :
    decodeFrom none (encodeChar c ++ rest) = c :: decodeFrom none rest := by
  have hvalid := isValid c
  have hback : ∀ m, m = c.toNat → Char.ofNat m = c := fun m hm => hm ▸ Char.ofNat_toNat c
  rw [encodeChar]
  generalize c.toNat = n at hvalid hback
  by_cases h1 : n < 0x80
  · simp only [if_pos h1, List.singleton_append]
    rw [decodeFrom, advance, start_one h1]
    simp only [List.singleton_append, hback n rfl]
  by_cases h2 : n < 0x800
  · simp only [if_neg h1, if_pos h2, List.cons_append, List.nil_append]
    rw [decodeFrom_start (start_two (by omega)), decodeFrom_last (by omega), hback]
    omega
  by_cases h3 : n < 0x10000
  · simp only [if_neg h1, if_neg h2, if_pos h3, List.cons_append, List.nil_append]
    obtain ⟨low, high, hstart, hlow, hhigh⟩ := start_three (n := n) (by omega) (by omega)
    rw [decodeFrom_start hstart, decodeFrom_more ⟨hlow, hhigh⟩ (by omega), decodeFrom_last (by omega), hback]
    omega
  · simp only [if_neg h1, if_neg h2, if_neg h3, List.cons_append, List.nil_append]
    obtain ⟨low, high, hstart, hlow, hhigh⟩ := start_four (n := n) (by omega)
    rw [decodeFrom_start hstart, decodeFrom_more ⟨hlow, hhigh⟩ (by omega), decodeFrom_more (by omega) (by omega),
      decodeFrom_last (by omega), hback]
    omega

/-- Decoding the bytes of a text gives the text back. -/
theorem decode_encode (s : List Char) : decode (encode s) = s := by
  rw [decode, encode]
  induction s with
  | nil => rfl
  | cons c rest ih => rw [List.flatMap_cons, decodeFrom_encodeChar, ih]

end ChannelBot.Utf8
