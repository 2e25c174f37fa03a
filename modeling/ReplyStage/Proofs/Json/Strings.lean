import ReplyStage.Proofs.Json.Grammar
import ReplyStage.Proofs.Results
import ReplyStage.Proofs.Text.Utf8
/-!
# Strings are read

Reading a string comes to the characters that its content stands for, and skipping one finds nothing
wrong with what looks like a string.
-/

namespace ReplyStage.Json

/-! ## Where a string ends -/

/-- A character that stands for itself has no byte that ends or escapes anything. -/
theorem Unescaped.bytes {c : Char} (hc : Unescaped c) :
    ∀ b ∈ String.utf8EncodeChar c, 0x20 ≤ b.toNat ∧ b ≠ 0x22 ∧ b ≠ 0x5C := by
  obtain ⟨hspace, hquote, hslash⟩ := hc
  rcases Text.Utf8.utf8EncodeChar_cases c with ⟨hlt, heq⟩ | hlarge
  · have hn : c.toNat < 256 := by omega
    rw [heq, List.forall_mem_singleton, Text.Utf8.toNat_ofNat hn, Ne, Ne,
      Text.Utf8.ofNat_eq_iff hn, Text.Utf8.ofNat_eq_iff hn]
    exact ⟨hspace, hquote, hslash⟩
  · intro b hb
    have := hlarge b hb
    refine ⟨by omega, ?_, ?_⟩
    all_goals
      rintro rfl
      exact absurd this (by decide)

theorem Recognizable.append {bytes rest : Bytes} (h : Recognizable rest)
    (hbytes : ∀ b ∈ bytes, 0x20 ≤ b.toNat ∧ b ≠ 0x22 ∧ b ≠ 0x5C) : Recognizable (bytes ++ rest) := by
  induction bytes with
  | nil => exact h
  | cons b bytes ih =>
    obtain ⟨⟨hspace, hquote, hslash⟩, hrest⟩ := List.forall_mem_cons.mp hbytes
    exact .unescaped hspace hquote hslash (ih hrest)

/-- What stands for characters looks like the content of a string. -/
theorem Content.recognizable {cs : List Char} {content : Bytes} (h : Content cs content) :
    Recognizable content := by
  induction h with
  | nil => exact .nil
  | unescaped hc _ ih => exact ih.append hc.bytes
  | escape hb _ ih => exact .escape hb ih
  | unicode hn _ _ _ ih => exact .unicode hn ih
  | surrogates hhigh _ hlow _ _ ih => exact .unicode hhigh (.unicode hlow ih)

theorem splitQuoted_escape (b : UInt8) (rest : Bytes) :
    splitQuoted (0x5C :: b :: rest) =
      (0x5C :: b :: (splitQuoted rest).1, (splitQuoted rest).2.1, (splitQuoted rest).2.2) := by
  rw [splitQuoted]

theorem splitQuoted_unescaped {b : UInt8} (hspace : 0x20 ≤ b.toNat) (hquote : b ≠ 0x22)
    (hslash : b ≠ 0x5C) (rest : Bytes) :
    splitQuoted (b :: rest) =
      (b :: (splitQuoted rest).1, (splitQuoted rest).2.1, (splitQuoted rest).2.2) := by
  have hcontrol : ¬ b < 0x20 := fun h => by
    rw [UInt8.lt_iff_toNat_lt] at h
    exact absurd hspace (Nat.not_le.mpr h)
  rw [splitQuoted, if_neg hcontrol]
  · exact hquote
  · rintro _ _ rfl
    contradiction

theorem splitQuoted_hexDigit {b : UInt8} {n : Nat} (h : Quoted.hexValue? b = some n)
    (rest : Bytes) :
    splitQuoted (b :: rest) =
      (b :: (splitQuoted rest).1, (splitQuoted rest).2.1, (splitQuoted rest).2.2) := by
  refine splitQuoted_unescaped ?_ ?_ ?_ rest
  · unfold Quoted.hexValue? at h
    simp only [UInt8.le_iff_toNat_le, UInt8.reduceToNat] at h
    split at h
    · omega
    split at h
    · omega
    split at h
    · omega
    · cases h
  all_goals
    rintro rfl
    cases h

theorem hexValue?_of_hexQuad? {a b c d : UInt8} {n : Nat} (h : Quoted.hexQuad? a b c d = some n) :
    (∃ m, Quoted.hexValue? a = some m) ∧ (∃ m, Quoted.hexValue? b = some m) ∧
      (∃ m, Quoted.hexValue? c = some m) ∧ ∃ m, Quoted.hexValue? d = some m := by
  unfold Quoted.hexQuad? at h
  obtain ⟨a', ha, h⟩ := Option.bind_eq_some_iff.mp h
  obtain ⟨b', hb, h⟩ := Option.bind_eq_some_iff.mp h
  obtain ⟨c', hc, h⟩ := Option.bind_eq_some_iff.mp h
  obtain ⟨d', hd, -⟩ := Option.bind_eq_some_iff.mp h
  exact ⟨⟨a', ha⟩, ⟨b', hb⟩, ⟨c', hc⟩, ⟨d', hd⟩⟩

/-- The first quote that is not escaped ends a string. -/
theorem splitQuoted_recognizable {content : Bytes} (h : Recognizable content) (rest : Bytes) :
    splitQuoted (content ++ 0x22 :: rest) = (content, .closed, rest) := by
  induction h with
  | nil => rw [List.nil_append, splitQuoted]
  | unescaped hspace hquote hslash _ ih =>
    rw [List.cons_append, splitQuoted_unescaped hspace hquote hslash, ih]
  | escape _ _ ih => rw [List.cons_append, List.cons_append, splitQuoted_escape, ih]
  | unicode hn _ ih =>
    obtain ⟨⟨_, ha⟩, ⟨_, hb⟩, ⟨_, hc⟩, ⟨_, hd⟩⟩ := hexValue?_of_hexQuad? hn
    simp only [List.cons_append]
    rw [splitQuoted_escape, splitQuoted_hexDigit ha, splitQuoted_hexDigit hb,
      splitQuoted_hexDigit hc, splitQuoted_hexDigit hd, ih]

/-- Reading a string after its opening quote comes to its content. -/
theorem readQuoted_recognizable {content : Bytes} (h : Recognizable content) (offset : Nat)
    (rest : Bytes) :
    readQuoted offset (content ++ 0x22 :: rest) =
      (⟨offset, content, .closed, 1 + rest.length⟩, offset + content.length + 1, rest) := by
  rw [readQuoted, splitQuoted_recognizable h]
  rfl

/-! ## What a string stands for -/

namespace Quoted

variable (q : Quoted) (offset : Nat)

theorem unescape_of_ne {b : UInt8} (h : b ≠ 0x5C) (rest : Bytes) :
    q.unescape offset (b :: rest) = (q.unescape (offset + 1) rest).map (b :: ·) := by
  rw [unescape]
  all_goals
    intros
    contradiction

theorem unescape_append {bytes : Bytes} (h : ∀ b ∈ bytes, b ≠ 0x5C) (rest : Bytes) :
    q.unescape offset (bytes ++ rest) =
      (q.unescape (offset + bytes.length) rest).map (bytes ++ ·) := by
  induction bytes generalizing offset with
  | nil => cases hrest : q.unescape offset rest <;> simp [hrest, Except.map]
  | cons b bytes ih =>
    obtain ⟨hb, hbytes⟩ := List.forall_mem_cons.mp h
    rw [List.cons_append, unescape_of_ne q offset hb, ih (offset + 1) hbytes, List.length_cons,
      Nat.add_assoc, Nat.add_comm 1]
    cases q.unescape (offset + (bytes.length + 1)) rest <;> simp [Except.map]

theorem unescape_escape {b e : UInt8} (h : simpleEscape? b = some e) (rest : Bytes) :
    q.unescape offset (0x5C :: b :: rest) = (q.unescape (offset + 2) rest).map (e :: ·) := by
  have hb : b ≠ 0x75 := by
    rintro rfl
    cases h
  rw [unescape, h]
  all_goals
    intros
    contradiction

theorem unescape_unicode {a b c d : UInt8} {n : Nat} (hn : hexQuad? a b c d = some n)
    (hhigh : isHighSurrogate n = false) (hlow : isLowSurrogate n = false) (rest : Bytes) :
    q.unescape offset (0x5C :: 0x75 :: a :: b :: c :: d :: rest) =
      (q.unescape (offset + 6) rest).map (String.utf8EncodeChar (Char.ofNat n) ++ ·) := by
  rw [unescape, hn]
  simp only [hlow, hhigh, Bool.false_eq_true, if_false]

theorem unescape_surrogates {a b c d e f g h : UInt8} {high low : Nat}
    (hhigh : hexQuad? a b c d = some high) (hishigh : isHighSurrogate high = true)
    (hlow : hexQuad? e f g h = some low) (hislow : isLowSurrogate low = true) (rest : Bytes) :
    q.unescape offset
        (0x5C :: 0x75 :: a :: b :: c :: d :: 0x5C :: 0x75 :: e :: f :: g :: h :: rest) =
      (q.unescape (offset + 12) rest).map
        (String.utf8EncodeChar (joinSurrogates high low) ++ ·) := by
  have hnotlow : isLowSurrogate high = false := by
    simp only [isHighSurrogate, isLowSurrogate, Bool.and_eq_true, Bool.and_eq_false_iff,
      decide_eq_true_eq, decide_eq_false_iff_not] at hishigh ⊢
    omega
  rw [unescape, hhigh]
  simp only [hnotlow, hishigh, hlow, hislow, Bool.false_eq_true, if_false, if_true]

/-- The byte that a short escape stands for is a character. -/
theorem utf8EncodeChar_of_simpleEscape? {b e : UInt8} (h : simpleEscape? b = some e) :
    String.utf8EncodeChar (Char.ofNat e.toNat) = [e] := by
  unfold simpleEscape? at h
  repeat' split at h
  all_goals
    cases h
  all_goals
    rfl

/-- Undoing the escapes gives the bytes of the characters. -/
theorem unescape_content {cs : List Char} {content : Bytes} (h : Content cs content) :
    q.unescape offset content = .ok (Text.Utf8.encodeChars cs) := by
  induction h generalizing offset with
  | nil => rw [unescape]; rfl
  | unescaped hc _ ih =>
    rw [unescape_append q offset fun b hb => (hc.bytes b hb).2.2, ih]
    rfl
  | escape hb _ ih =>
    rw [unescape_escape q offset hb, ih, Text.Utf8.encodeChars, Text.Utf8.encodeChars,
      List.flatMap_cons, utf8EncodeChar_of_simpleEscape? hb]
    rfl
  | unicode hn hhigh hlow _ ih =>
    rw [unescape_unicode q offset hn hhigh hlow, ih]
    rfl
  | surrogates hhigh hishigh hlow hislow _ ih =>
    rw [unescape_surrogates q offset hhigh hishigh hlow hislow, ih]
    rfl

/-- Reading a string gives the characters that its content stands for. -/
theorem read_content {s : String} {content : Bytes} (h : Content s.toList content)
    (start following : Nat) : read ⟨start, content, .closed, following⟩ = .ok s := by
  rw [read, unescape_content _ _ h]
  simp only [bind, Except.bind, Text.Utf8.decode_encodeChars, String.ofList_toList]

/-! ## Strings that are skipped -/

theorem skipEscapes_of_ne {b : UInt8} (h : b ≠ 0x5C) (rest : Bytes) :
    q.skipEscapes offset (b :: rest) = q.skipEscapes (offset + 1) rest := by
  rw [skipEscapes]
  all_goals
    intros
    contradiction

theorem skipEscapes_escape {b e : UInt8} (h : simpleEscape? b = some e) (rest : Bytes) :
    q.skipEscapes offset (0x5C :: b :: rest) = q.skipEscapes (offset + 2) rest := by
  have hb : b ≠ 0x75 := by
    rintro rfl
    cases h
  rw [skipEscapes, h]
  all_goals
    intros
    contradiction

/-- Nothing is wrong with what looks like the content of a string. -/
theorem skipEscapes_recognizable {content : Bytes} (h : Recognizable content) :
    q.skipEscapes offset content = none := by
  induction h generalizing offset with
  | nil => rw [skipEscapes]
  | unescaped _ _ hslash _ ih => rw [skipEscapes_of_ne q offset hslash, ih]
  | escape hb _ ih => rw [skipEscapes_escape q offset hb, ih]
  | unicode hn _ ih =>
    rw [skipEscapes, hn]
    exact ih _

theorem skipFault?_recognizable {content : Bytes} (h : Recognizable content)
    (start following : Nat) : skipFault? ⟨start, content, .closed, following⟩ = none := by
  rw [skipFault?, skipEscapes_recognizable _ _ h]

end Quoted
end ReplyStage.Json
