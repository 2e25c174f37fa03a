import Mathlib.Data.List.Basic
import ReplyStage.Text.Utf8
/-!
# Decoding undoes encoding

The bytes of a character are read back as this character, whatever comes after them, and so a text
is read back from its bytes. A character of several bytes begins with one that tells how many there
are and what the second one can be; those after the second can be any continuation. The first byte
grows with the number of bytes, so that texts compare as their bytes do (`encode_lt`).
-/

namespace ReplyStage.Text.Utf8

/-! ## One byte -/

theorem toNat_ofNat {n : Nat} (h : n < 256) : (UInt8.ofNat n).toNat = n := by
  rw [UInt8.toNat_ofNat']
  exact Nat.mod_eq_of_lt h

/-- Bytes compare as their values do. -/
theorem ofNat_lt_iff {n : Nat} (h : n < 256) (b : UInt8) : UInt8.ofNat n < b ↔ n < b.toNat := by
  rw [UInt8.lt_iff_toNat_lt, toNat_ofNat h]

theorem ofNat_eq_iff {n : Nat} (h : n < 256) (b : UInt8) : UInt8.ofNat n = b ↔ n = b.toNat := by
  rw [← UInt8.toNat_inj, toNat_ofNat h]

/-- A byte that lies where the next one of a character has to lie. -/
theorem scan_pending {bits missing size n : Nat} {low high : UInt8} (hlow : low.toNat ≤ n)
    (hhigh : n ≤ high.toNat) (rest : Bytes) :
    scan (some ⟨bits, missing, low, high, size⟩) (UInt8.ofNat n :: rest) =
      if missing = 1 then .char (Char.ofNat (bits * 64 + (n - 0x80))) :: scan none rest
      else scan (some ⟨bits * 64 + (n - 0x80), missing - 1, 0x80, 0xBF, size + 1⟩) rest := by
  have hn : n < 256 := Nat.lt_of_le_of_lt hhigh high.toNat_lt
  have hle : low ≤ UInt8.ofNat n ∧ UInt8.ofNat n ≤ high := by
    simp only [UInt8.le_iff_toNat_le, toNat_ofNat hn]
    exact ⟨hlow, hhigh⟩
  rw [scan, if_pos hle, toNat_ofNat hn]

/-- The last byte of a character. -/
theorem scan_last {bits size n : Nat} (hlow : 0x80 ≤ n) (hhigh : n ≤ 0xBF) (rest : Bytes) :
    scan (some ⟨bits, 1, 0x80, 0xBF, size⟩) (UInt8.ofNat n :: rest) =
      .char (Char.ofNat (bits * 64 + (n - 0x80))) :: scan none rest :=
  (scan_pending hlow hhigh rest).trans (if_pos rfl)

/-! ## How a character begins -/

/-- A byte that is a character by itself. -/
theorem scan_one {n : Nat} (h : n < 0x80) (rest : Bytes) :
    scan none (UInt8.ofNat n :: rest) = .char (Char.ofNat n) :: scan none rest := by
  have hn : n < 256 := by omega
  have hlt : UInt8.ofNat n < 0x80 := (ofNat_lt_iff hn _).mpr h
  rw [scan, begin, if_pos hlt, toNat_ofNat hn]

/-- The first of two bytes. -/
theorem scan_two {n : Nat} (hlow : 0xC2 ≤ n) (hhigh : n < 0xE0) (rest : Bytes) :
    scan none (UInt8.ofNat n :: rest) = scan (some ⟨n - 0xC0, 1, 0x80, 0xBF, 1⟩) rest := by
  have hn : n < 256 := by omega
  have hbegin : begin (UInt8.ofNat n) = .inr ⟨n - 0xC0, 1, 0x80, 0xBF, 1⟩ := by
    simp [begin, ofNat_lt_iff hn, toNat_ofNat hn, hhigh, Nat.not_lt.mpr hlow,
      show ¬ n < 0x80 by omega]
  rw [scan, hbegin]

/-- The first two of three bytes: those of a short character and of a surrogate are left out. -/
theorem scan_three {n m : Nat} (hlow : 0xE0 ≤ n) (hhigh : n < 0xF0) (hm : 0x80 ≤ m ∧ m ≤ 0xBF)
    (hshort : n = 0xE0 → 0xA0 ≤ m) (hsurrogate : n = 0xED → m ≤ 0x9F) (rest : Bytes) :
    scan none (UInt8.ofNat n :: UInt8.ofNat m :: rest) =
      scan (some ⟨(n - 0xE0) * 64 + (m - 0x80), 1, 0x80, 0xBF, 2⟩) rest := by
  have hn : n < 256 := by omega
  have hbegin : begin (UInt8.ofNat n) = .inr ⟨n - 0xE0, 2, if n = 0xE0 then 0xA0 else 0x80,
      if n = 0xED then 0x9F else 0xBF, 1⟩ := by
    simp [begin, ofNat_lt_iff hn, ofNat_eq_iff hn, toNat_ofNat hn, hhigh, Nat.not_lt.mpr hlow,
      show ¬ n < 0x80 by omega, show ¬ n < 0xC2 by omega]
  rw [scan, hbegin]
  refine (scan_pending ?_ ?_ rest).trans (if_neg (by decide))
  · split
    · exact hshort ‹_›
    · exact hm.1
  · split
    · exact hsurrogate ‹_›
    · exact hm.2

/-- The first two of four bytes: those of a short character and of none at all are left out. -/
theorem scan_four {n m : Nat} (hlow : 0xF0 ≤ n) (hhigh : n < 0xF5) (hm : 0x80 ≤ m ∧ m ≤ 0xBF)
    (hshort : n = 0xF0 → 0x90 ≤ m) (hlarge : n = 0xF4 → m ≤ 0x8F) (rest : Bytes) :
    scan none (UInt8.ofNat n :: UInt8.ofNat m :: rest) =
      scan (some ⟨(n - 0xF0) * 64 + (m - 0x80), 2, 0x80, 0xBF, 2⟩) rest := by
  have hn : n < 256 := by omega
  have hbegin : begin (UInt8.ofNat n) = .inr ⟨n - 0xF0, 3, if n = 0xF0 then 0x90 else 0x80,
      if n = 0xF4 then 0x8F else 0xBF, 1⟩ := by
    simp [begin, ofNat_lt_iff hn, ofNat_eq_iff hn, toNat_ofNat hn, hhigh, Nat.not_lt.mpr hlow,
      show ¬ n < 0x80 by omega, show ¬ n < 0xC2 by omega, show ¬ n < 0xE0 by omega]
  rw [scan, hbegin]
  refine (scan_pending ?_ ?_ rest).trans (if_neg (by decide))
  · split
    · exact hshort ‹_›
    · exact hm.1
  · split
    · exact hlarge ‹_›
    · exact hm.2

/-! ## Characters and texts -/

/-- A character is one byte with its number, or all of its bytes are above those that are characters
by themselves. -/
theorem utf8EncodeChar_cases (c : Char) :
    (c.toNat < 0x80 ∧ String.utf8EncodeChar c = [UInt8.ofNat c.toNat]) ∨
      ∀ b ∈ String.utf8EncodeChar c, 0x80 ≤ b.toNat := by
  have hc : c.val.toNat = c.toNat := rfl
  unfold String.utf8EncodeChar
  rw [hc]
  simp only
  split
  · exact .inl ⟨by omega, rfl⟩
  · refine .inr ?_
    split
    · simp only [List.forall_mem_cons, UInt8.toNat_ofNat']
      exact ⟨by omega, by omega, nofun⟩
    split
    · simp only [List.forall_mem_cons, UInt8.toNat_ofNat']
      exact ⟨by omega, by omega, by omega, nofun⟩
    · simp only [List.forall_mem_cons, UInt8.toNat_ofNat']
      exact ⟨by omega, by omega, by omega, by omega, nofun⟩

/-- The bytes of a character are read as this character. -/
theorem scan_utf8EncodeChar (c : Char) (rest : Bytes) :
    scan none (String.utf8EncodeChar c ++ rest) = .char c :: scan none rest := by
  have hc : Char.ofNat c.val.toNat = c := Char.ofNat_toNat c
  have hvalid : c.val.toNat < 0xD800 ∨ 0xDFFF < c.val.toNat ∧ c.val.toNat < 0x110000 := c.valid
  unfold String.utf8EncodeChar
  generalize c.val.toNat = v at hc hvalid
  simp only
  split
  · rw [List.singleton_append, scan_one (by omega), hc]
  split
  · rw [List.cons_append, List.singleton_append, scan_two (by omega) (by omega),
      scan_last (by omega) (by omega)]
    have hbits : (v / 64 % 32 + 192 - 0xC0) * 64 + (v % 64 + 128 - 0x80) = v := by omega
    rw [hbits, hc]
  split
  · rw [List.cons_append, List.cons_append, List.singleton_append,
      scan_three (by omega) (by omega) (by omega) (by omega) (by omega),
      scan_last (by omega) (by omega)]
    have hbits : ((v / 4096 % 16 + 224 - 0xE0) * 64 + (v / 64 % 64 + 128 - 0x80)) * 64 +
        (v % 64 + 128 - 0x80) = v := by omega
    rw [hbits, hc]
  · rw [List.cons_append, List.cons_append, List.cons_append, List.singleton_append,
      scan_four (by omega) (by omega) (by omega) (by omega) (by omega),
      scan_pending (show 0x80 ≤ _ by omega) (show _ ≤ 0xBF by omega), if_neg (by decide),
      scan_last (by omega) (by omega)]
    have hbits : (((v / 262144 % 8 + 240 - 0xF0) * 64 + (v / 4096 % 64 + 128 - 0x80)) * 64 +
        (v / 64 % 64 + 128 - 0x80)) * 64 + (v % 64 + 128 - 0x80) = v := by omega
    rw [hbits, hc]

theorem encodeChars_cons (c : Char) (cs : List Char) :
    encodeChars (c :: cs) = String.utf8EncodeChar c ++ encodeChars cs := rfl

theorem encodeChars_append (cs ds : List Char) :
    encodeChars (cs ++ ds) = encodeChars cs ++ encodeChars ds :=
  List.flatMap_append

theorem encodeChars_singleton (c : Char) : encodeChars [c] = String.utf8EncodeChar c :=
  List.flatMap_singleton ..

theorem pieces_encodeChars (cs : List Char) : pieces (encodeChars cs) = cs.map .char := by
  induction cs with
  | nil => rfl
  | cons c cs ih =>
    rw [pieces, encodeChars_cons, scan_utf8EncodeChar, List.map_cons, ← ih]
    rfl

theorem collect_map_char (validBytes : Nat) (cs : List Char) :
    collect validBytes (cs.map .char) = .ok cs := by
  induction cs generalizing validBytes with
  | nil => rfl
  | cons c cs ih =>
    rw [List.map_cons, collect, ih]
    rfl

/-- Decoding undoes encoding. -/
theorem decode_encodeChars (cs : List Char) : decode (encodeChars cs) = .ok (String.ofList cs) := by
  rw [decode, pieces_encodeChars, collect_map_char]
  rfl

/-! ## Order -/

/-- Bytes compare by the first one that differs. -/
theorem cons_lt_cons_of_le {n m : Nat} {s t : Bytes} (hm : m < 256) (hle : n ≤ m)
    (h : n = m → s < t) : UInt8.ofNat n :: s < UInt8.ofNat m :: t := by
  have hn : n < 256 := by omega
  rw [List.cons_lt_cons_iff, ofNat_lt_iff hn, ofNat_eq_iff hn, toNat_ofNat hm]
  rcases Nat.lt_or_eq_of_le hle with hlt | heq
  · exact .inl hlt
  · exact .inr ⟨heq, h heq⟩

/-- Characters compare as their bytes do, whatever comes after them. -/
theorem utf8EncodeChar_append_lt {c d : Char} (h : c < d) (s t : Bytes) :
    String.utf8EncodeChar c ++ s < String.utf8EncodeChar d ++ t := by
  have hlt : c.val.toNat < d.val.toNat := h
  have hvalid : d.val.toNat < 0xD800 ∨ 0xDFFF < d.val.toNat ∧ d.val.toNat < 0x110000 := d.valid
  unfold String.utf8EncodeChar
  generalize c.val.toNat = v at hlt
  generalize d.val.toNat = w at hlt hvalid
  dsimp only
  repeat' split
  -- a character of fewer bytes begins with a smaller one
  all_goals try omega
  all_goals
    simp only [List.cons_append, List.nil_append]
    refine cons_lt_cons_of_le (by omega) (by omega) fun hfirst => ?_
    try omega
  -- of two with the same number of bytes, the first byte that differs decides
  · refine cons_lt_cons_of_le (by omega) (by omega) fun _ => ?_
    omega
  · refine cons_lt_cons_of_le (by omega) (by omega) fun _ => ?_
    refine cons_lt_cons_of_le (by omega) (by omega) fun _ => ?_
    omega
  · refine cons_lt_cons_of_le (by omega) (by omega) fun _ => ?_
    refine cons_lt_cons_of_le (by omega) (by omega) fun _ => ?_
    refine cons_lt_cons_of_le (by omega) (by omega) fun _ => ?_
    omega

/-- Texts compare as their bytes do. -/
theorem encodeChars_lt {cs ds : List Char} (h : cs < ds) : encodeChars cs < encodeChars ds := by
  have hcons : ∀ (c : Char) (rest : List Char),
      encodeChars (c :: rest) = String.utf8EncodeChar c ++ encodeChars rest := fun _ _ => rfl
  induction h with
  | @nil d rest =>
    obtain ⟨b, bytes, hd⟩ := List.exists_cons_of_ne_nil (String.utf8EncodeChar_ne_nil (c := d))
    rw [hcons, hd]
    exact List.nil_lt_cons _ _
  | rel hlt =>
    rw [hcons, hcons]
    exact utf8EncodeChar_append_lt hlt _ _
  | cons _ ih =>
    rw [hcons, hcons]
    exact List.append_left_lt ih

theorem encode_lt {s t : String} (h : s < t) : encode s < encode t :=
  encodeChars_lt (String.lt_iff.mp h)

end ReplyStage.Text.Utf8
