/-
Percent-coded texts are read back as they were: the escapes give the bytes of the text again
(`unescapeFrom_percentEncode`), and the bytes of a text are read as that text, without any replacement
(`ofUtf8_utf8`). Of the characters that are kept nothing is needed but that the percent sign is none of them.
-/
import Mathlib
import Steward.Text.Percent

namespace Steward.Text

/-! ## Bytes -/

theorem readFrom_cons (p : Option Unfinished) (b : UInt8) (rest : List UInt8) :
    readFrom p (b :: rest) = (continueChar p b).1 ++ readFrom (continueChar p b).2 rest := by
  cases p <;> rfl

theorem toNat_byte {n : Nat} (h : n < 256) : (UInt8.ofNat n).toNat = n := by
  rw [UInt8.toNat_ofNat', Nat.mod_eq_of_lt h]

/-- A byte of which six bits belong to the code. -/
theorem continueChar_tail {u : Unfinished} {x : Nat} (hx : x < 64) (hlow : u.low ≤ x + 0x80)
    (hhigh : x + 0x80 ≤ u.high) : continueChar (some u) (UInt8.ofNat (x + 0x80)) =
      match u.more with
      | 0 => ([Char.ofNat (u.code * 64 + x)], none)
      | more + 1 => ([], some ⟨u.code * 64 + x, more, 0x80, 0xBF⟩) := by
  simp only [continueChar, toNat_byte (show x + 0x80 < 256 by omega)]
  rw [if_pos ⟨hlow, hhigh⟩]
  cases u.more <;> simp only [Nat.add_sub_cancel]

theorem beginChar_one {n : Nat} (h : n < 0x80) : beginChar (UInt8.ofNat n) = ([Char.ofNat n], none) := by
  simp only [beginChar, toNat_byte (show n < 256 by omega), if_pos h]

theorem beginChar_two {n : Nat} (hlow : 2 ≤ n) (hhigh : n < 32) :
    beginChar (UInt8.ofNat (n + 0xC0)) = ([], some ⟨n, 0, 0x80, 0xBF⟩) := by
  simp only [beginChar, toNat_byte (show n + 0xC0 < 256 by omega)]
  rw [if_neg (by omega), if_pos (by omega), Nat.add_sub_cancel]

theorem beginChar_three {n : Nat} (h : n < 16) : beginChar (UInt8.ofNat (n + 0xE0)) =
    ([], some ⟨n, 1, if n = 0 then 0xA0 else 0x80, if n = 13 then 0x9F else 0xBF⟩) := by
  simp only [beginChar, toNat_byte (show n + 0xE0 < 256 by omega)]
  rw [if_neg (by omega), if_neg (by omega), if_pos (by omega), Nat.add_sub_cancel]
  simp

theorem beginChar_four {n : Nat} (h : n < 5) : beginChar (UInt8.ofNat (n + 0xF0)) =
    ([], some ⟨n, 2, if n = 0 then 0x90 else 0x80, if n = 4 then 0x8F else 0xBF⟩) := by
  simp only [beginChar, toNat_byte (show n + 0xF0 < 256 by omega)]
  rw [if_neg (by omega), if_neg (by omega), if_neg (by omega), if_pos (by omega), Nat.add_sub_cancel]
  simp

/-- The bytes of a character are read as that character, whatever comes after them. -/
theorem readFrom_utf8EncodeChar (c : Char) (rest : List UInt8) :
    readFrom none (String.utf8EncodeChar c ++ rest) = c :: readFrom none rest := by
  have hvalid : c.val.toNat < 0xD800 ∨ 0xDFFF < c.val.toNat ∧ c.val.toNat < 0x110000 := c.valid
  have hchar : Char.ofNat c.val.toNat = c := Char.ofNat_toNat c
  generalize hv : c.val.toNat = v at hvalid hchar
  simp only [String.utf8EncodeChar, hv]
  split_ifs with h1 h2 h3
  · rw [List.singleton_append, readFrom_cons, continueChar, beginChar_one (by omega), hchar]
    rfl
  · have hcode : v / 64 % 32 * 64 + v % 64 = v := by omega
    simp only [List.cons_append, List.nil_append, readFrom_cons]
    rw [continueChar, beginChar_two (by omega) (by omega)]
    simp only [List.nil_append]
    rw [continueChar_tail (by omega) (by simp) (by simp; omega), hcode, hchar]
    rfl
  · have hcode : (v / 4096 % 16 * 64 + v / 64 % 64) * 64 + v % 64 = v := by omega
    simp only [List.cons_append, List.nil_append, readFrom_cons]
    rw [continueChar, beginChar_three (by omega)]
    simp only [List.nil_append]
    rw [continueChar_tail (by omega) (by simp only; split <;> omega) (by simp only; split <;> omega)]
    simp only [List.nil_append]
    rw [continueChar_tail (by omega) (by simp) (by simp; omega), hcode, hchar]
    rfl
  · have hcode : ((v / 262144 % 8 * 64 + v / 4096 % 64) * 64 + v / 64 % 64) * 64 + v % 64 = v := by omega
    simp only [List.cons_append, List.nil_append, readFrom_cons]
    rw [continueChar, beginChar_four (by omega)]
    simp only [List.nil_append]
    rw [continueChar_tail (by omega) (by simp only; split <;> omega) (by simp only; split <;> omega)]
    simp only [List.nil_append]
    rw [continueChar_tail (by omega) (by simp) (by simp; omega)]
    simp only [List.nil_append]
    rw [continueChar_tail (by omega) (by simp) (by simp; omega), hcode, hchar]
    rfl

theorem ofUtf8_utf8 (s : List Char) : ofUtf8 (utf8 s) = s := by
  induction s with
  | nil => rfl
  | cons c s ih => rw [ofUtf8, utf8, List.flatMap_cons, readFrom_utf8EncodeChar, ← utf8, ← ofUtf8, ih]

/-! ## Escapes -/

theorem utf8_append (s t : List Char) : utf8 (s ++ t) = utf8 s ++ utf8 t := List.flatMap_append

theorem unescapeFrom_cons {b : UInt8} (h : b ≠ 0x25) (rest : List UInt8) :
    unescapeFrom 0 (b :: rest) = b :: unescapeFrom 0 rest := by
  match rest with
  | [] | [_] | _ :: _ :: _ => simp only [unescapeFrom, if_neg h]

/-- What holds no percent sign is read as it stands. -/
theorem unescapeFrom_append {bytes : List UInt8} (h : 0x25 ∉ bytes) (rest : List UInt8) :
    unescapeFrom 0 (bytes ++ rest) = bytes ++ unescapeFrom 0 rest := by
  induction bytes with
  | nil => rfl
  | cons b bytes ih =>
    obtain ⟨hb, hbytes⟩ := not_or.1 (List.mem_cons.not.1 h)
    rw [List.cons_append, unescapeFrom_cons (Ne.symm hb), ih hbytes, List.cons_append]

/-- The byte of a percent sign is part of no other character. -/
theorem eq_percent_of_mem {c : Char} (h : 0x25 ∈ String.utf8EncodeChar c) : c = '%' := by
  have hbyte {n : Nat} (hn : n < 256) (he : (0x25 : UInt8) = UInt8.ofNat n) : n = 0x25 := by
    rw [← toNat_byte hn, ← he]
    rfl
  simp only [String.utf8EncodeChar] at h
  split_ifs at h with h1 h2 h3
  · have hcode : c.val.toNat = 0x25 := hbyte (by omega) (List.mem_singleton.1 h)
    exact Char.ext (UInt32.toNat_inj.1 hcode)
  · simp only [List.mem_cons, List.not_mem_nil, or_false] at h
    rcases h with h | h <;> have := hbyte (by omega) h <;> omega
  · simp only [List.mem_cons, List.not_mem_nil, or_false] at h
    rcases h with h | h | h <;> have := hbyte (by omega) h <;> omega
  · simp only [List.mem_cons, List.not_mem_nil, or_false] at h
    rcases h with h | h | h | h <;> have := hbyte (by omega) h <;> omega

/-- The digit of a number below sixteen is one byte, which says that number. -/
theorem hexDigit_digits : ∀ n : Fin 16, (hexDigit n).isAlphanum = true ∧
    (String.utf8EncodeChar (hexDigit n)).map hexDigitValue? = [some n.val] := by
  decide

theorem exists_hexDigit_byte {n : Nat} (h : n < 16) :
    ∃ b, String.utf8EncodeChar (hexDigit n) = [b] ∧ hexDigitValue? b = some n := by
  have hdigit := (hexDigit_digits ⟨n, h⟩).2
  obtain ⟨b, hb, hvalue⟩ := List.map_eq_singleton_iff.1 hdigit
  exact ⟨b, hb, hvalue⟩

/-- An escape is read as the byte that it was made from. -/
theorem unescapeFrom_percentByte (b : UInt8) (rest : List UInt8) :
    unescapeFrom 0 (utf8 (percentByte b) ++ rest) = b :: unescapeFrom 0 rest := by
  have hb : b.toNat < 256 := b.toNat_lt
  obtain ⟨x, hx, hhigh⟩ := exists_hexDigit_byte (n := b.toNat / 16) (by omega)
  obtain ⟨y, hy, hlow⟩ := exists_hexDigit_byte (n := b.toNat % 16) (Nat.mod_lt _ (by decide))
  have hbytes : utf8 (percentByte b) = [0x25, x, y] := by
    simp only [utf8, percentByte, List.flatMap_cons, List.flatMap_nil, hx, hy]
    rfl
  have hbyte : hexByte? x y = some b := by
    rw [hexByte?, hhigh, hlow, Option.bind_some, Option.map_some, Nat.div_add_mod, UInt8.ofNat_toNat]
  simp only [hbytes, List.cons_append, List.nil_append, unescapeFrom, if_true, hbyte]

theorem unescapeFrom_percentBytes (bytes rest : List UInt8) :
    unescapeFrom 0 (utf8 (bytes.flatMap percentByte) ++ rest) = bytes ++ unescapeFrom 0 rest := by
  induction bytes with
  | nil => rfl
  | cons b bytes ih =>
    rw [List.flatMap_cons, utf8_append, List.append_assoc, unescapeFrom_percentByte, ih, List.cons_append]

variable {kept : List Char}

theorem unescapeFrom_percentChar (h : '%' ∉ kept) (c : Char) (rest : List UInt8) :
    unescapeFrom 0 (utf8 (percentChar kept c) ++ rest) =
      String.utf8EncodeChar c ++ unescapeFrom 0 rest := by
  rw [percentChar]
  split
  · rename_i hc
    have hne : c ≠ '%' := by
      rintro rfl
      rw [Bool.or_eq_true, List.contains_iff_mem] at hc
      exact hc.elim (by decide) h
    have hbytes : utf8 [c] = String.utf8EncodeChar c := List.flatMap_singleton _ _
    rw [hbytes]
    exact unescapeFrom_append (fun hmem => hne (eq_percent_of_mem hmem)) rest
  · exact unescapeFrom_percentBytes _ rest

theorem unescapeFrom_percentEncode (h : '%' ∉ kept) (s : List Char) :
    unescapeFrom 0 (utf8 (s.flatMap (percentChar kept))) = utf8 s := by
  induction s with
  | nil => rfl
  | cons c s ih =>
    rw [List.flatMap_cons, utf8_append, unescapeFrom_percentChar h, ih]
    rfl

theorem percentDecode_percentEncode (h : '%' ∉ kept) (s : String) :
    percentDecode (percentEncode kept s) = s := by
  rw [percentDecode, percentEncode, String.toList_ofList, unescapeFrom_percentEncode h, ofUtf8_utf8,
    String.ofList_toList]

theorem percentEncode_inj (h : '%' ∉ kept) {s t : String} :
    percentEncode kept s = percentEncode kept t ↔ s = t := by
  refine ⟨fun he => ?_, fun he => he ▸ rfl⟩
  rw [← percentDecode_percentEncode h s, he, percentDecode_percentEncode h]

/-- The characters that a coded text is made of. -/
theorem mem_percentEncode {s : String} {c : Char} (h : c ∈ (percentEncode kept s).toList) :
    c.isAlphanum = true ∨ c ∈ kept ∨ c = '%' := by
  rw [percentEncode, String.toList_ofList] at h
  obtain ⟨d, -, hc⟩ := List.mem_flatMap.1 h
  rw [percentChar] at hc
  split at hc
  · rename_i hd
    rw [List.mem_singleton.1 hc]
    simpa [or_assoc] using Or.inl hd
  · obtain ⟨b, -, hb⟩ := List.mem_flatMap.1 hc
    have hbyte : b.toNat < 256 := b.toNat_lt
    simp only [percentByte, List.mem_cons, List.not_mem_nil, or_false] at hb
    rcases hb with rfl | rfl | rfl
    · exact .inr (.inr rfl)
    · exact .inl (hexDigit_digits ⟨b.toNat / 16, by omega⟩).1
    · exact .inl (hexDigit_digits ⟨b.toNat % 16, Nat.mod_lt _ (by decide)⟩).1

end Steward.Text
