import ReplyStage.Json.Writer
import ReplyStage.Proofs.Json.Strings
import ReplyStage.Proofs.Text.Integer
/-!
# The compact form

What is written of a string is a text of it, and parts with nothing but commas between them are a
list. So everything that has a text has a compact one.
-/

namespace ReplyStage.Json

/-! ## Strings -/

/-- The bytes that are written of a string. -/
def quoteBytes (s : String) : Bytes := Text.Utf8.encodeChars (quoteChars s)

/-- The escape that is written of a control character. -/
theorem encodeChars_control : ∀ n < 0x20,
    Text.Utf8.encodeChars ['\\', 'u', '0', '0', hexDigit (n / 16), hexDigit (n % 16)] =
        [0x5C, 0x75, 0x30, 0x30, UInt8.ofNat (hexDigit (n / 16)).toNat,
          UInt8.ofNat (hexDigit (n % 16)).toNat] ∧
      Quoted.hexQuad? 0x30 0x30 (UInt8.ofNat (hexDigit (n / 16)).toNat)
        (UInt8.ofNat (hexDigit (n % 16)).toNat) = some n := by decide

/-- The escape of one letter that is written of a character. -/
theorem content_short {c letter : Char} {cs : List Char} {rest : Bytes}
    (hbytes : Text.Utf8.encodeChars ['\\', letter] = [0x5C, UInt8.ofNat letter.toNat])
    (hescape : Quoted.simpleEscape? (UInt8.ofNat letter.toNat) = some (UInt8.ofNat c.toNat))
    (hc : Char.ofNat (UInt8.ofNat c.toNat).toNat = c) (h : Content cs rest) :
    Content (c :: cs) (Text.Utf8.encodeChars ['\\', letter] ++ rest) := by
  have hcontent := Content.escape hescape h
  rw [hc] at hcontent
  rw [hbytes]
  exact hcontent

/-- What is written of a character stands for it. -/
theorem content_escapeChar (c : Char) {cs : List Char} {rest : Bytes} (h : Content cs rest) :
    Content (c :: cs) (Text.Utf8.encodeChars (escapeChar c) ++ rest) := by
  unfold escapeChar
  split
  · rename_i hc
    subst hc
    exact content_short rfl rfl rfl h
  rename_i hquote
  split
  · rename_i hc
    subst hc
    exact content_short rfl rfl rfl h
  rename_i hslash
  iterate 5
    split
    · rename_i hc
      subst hc
      exact content_short rfl rfl rfl h
  split
  · rename_i hcontrol
    have hlt : c.toNat < 0x20 := hcontrol
    obtain ⟨hbytes, hquad⟩ := encodeChars_control c.toNat hlt
    rw [hbytes]
    have hcontent := Content.unicode hquad (by simp [Quoted.isHighSurrogate]; omega)
      (by simp [Quoted.isLowSurrogate]; omega) h
    rwa [Char.ofNat_toNat] at hcontent
  · rename_i hcontrol
    have hle : 0x20 ≤ c.toNat := Nat.le_of_not_lt hcontrol
    have hunescaped : Unescaped c := by
      refine ⟨hle, fun h => hquote ?_, fun h => hslash ?_⟩
      · exact Char.toNat_inj.mp h
      · exact Char.toNat_inj.mp h
    rw [Text.Utf8.encodeChars_singleton]
    exact .unescaped hunescaped h

/-- What is written of a string is a text of it. -/
theorem stringText_quoteBytes (s : String) : StringText s (quoteBytes s) := by
  have hcontent : ∀ cs : List Char, Content cs (Text.Utf8.encodeChars (cs.flatMap escapeChar)) := by
    intro cs
    induction cs with
    | nil => exact .nil
    | cons c cs ih =>
      rw [List.flatMap_cons, Text.Utf8.encodeChars_append]
      exact content_escapeChar c ih
  refine ⟨_, hcontent s.toList, ?_⟩
  rw [quoteBytes, quoteChars, inQuotes, List.cons_append, Text.Utf8.encodeChars_cons,
    Text.Utf8.encodeChars_append]
  rfl

/-! ## Numbers -/

/-- The byte of a digit. -/
theorem digitValue?_digit : ∀ d < 10, digitValue? (UInt8.ofNat (0x30 + d)) = some d := by decide

/-- What is written of a digit. -/
theorem utf8EncodeChar_digit {c : Char} {d : Nat} (h : Text.digit? c = some d) :
    String.utf8EncodeChar c = [UInt8.ofNat (0x30 + d)] ∧ d < 10 := by
  have hdigits : ∀ d < 10,
      String.utf8EncodeChar (Char.ofNat (0x30 + d)) = [UInt8.ofNat (0x30 + d)] := by decide
  obtain ⟨rfl, hd⟩ := Text.eq_of_digit? h
  exact ⟨hdigits d hd, hd⟩

theorem digits_encodeChars {cs : List Char} (hne : cs ≠ [])
    (h : ∀ c ∈ cs, (Text.digit? c).isSome = true) : Digits (Text.Utf8.encodeChars cs) := by
  constructor
  · obtain ⟨c, rest, rfl⟩ := List.exists_cons_of_ne_nil hne
    obtain ⟨d, hd⟩ := Option.isSome_iff_exists.mp (h c List.mem_cons_self)
    rw [Text.Utf8.encodeChars_cons, (utf8EncodeChar_digit hd).1]
    exact List.cons_ne_nil _ _
  · intro b hb
    obtain ⟨c, hc, hb⟩ := List.mem_flatMap.mp hb
    obtain ⟨d, hd⟩ := Option.isSome_iff_exists.mp (h c hc)
    obtain ⟨hbyte, hlt⟩ := utf8EncodeChar_digit hd
    rw [hbyte, List.mem_singleton] at hb
    rw [hb, digitValue?_digit d hlt]
    rfl

/-- Digits without a zero in front of others. -/
theorem wholeText_encodeChars {cs : List Char} (hne : cs ≠ [])
    (h : ∀ c ∈ cs, (Text.digit? c).isSome = true) (hzero : ∀ rest, cs = '0' :: rest → rest = []) :
    WholeText (Text.Utf8.encodeChars cs) := by
  refine ⟨digits_encodeChars hne h, fun hhead => ?_⟩
  obtain ⟨c, rest, rfl⟩ := List.exists_cons_of_ne_nil hne
  obtain ⟨d, hd⟩ := Option.isSome_iff_exists.mp (h c List.mem_cons_self)
  obtain ⟨hbyte, hlt⟩ := utf8EncodeChar_digit hd
  rw [Text.Utf8.encodeChars_cons, hbyte] at hhead
  have hfirst := digitValue?_digit d hlt
  rw [Option.some.inj hhead] at hfirst
  cases hfirst
  obtain ⟨rfl, -⟩ := Text.eq_of_digit? hd
  obtain rfl := hzero rest rfl
  rfl

/-- What is written of a number stands for it. -/
theorem decimal_encodeChars {cs : List Char} {n : Nat} (h : Text.Decimal cs n) :
    Decimal (Text.Utf8.encodeChars cs) n := by
  induction h with
  | digit hd =>
    obtain ⟨hbyte, hlt⟩ := utf8EncodeChar_digit hd
    rw [Text.Utf8.encodeChars_singleton, hbyte]
    exact .digit (digitValue?_digit _ hlt)
  | more _ hd ih =>
    obtain ⟨hbyte, hlt⟩ := utf8EncodeChar_digit hd
    rw [Text.Utf8.encodeChars_append, Text.Utf8.encodeChars_singleton, hbyte]
    exact ih.more (digitValue?_digit _ hlt)

theorem wholeText_toDigits (n : Nat) : WholeText (Text.Utf8.encodeChars (Nat.toDigits 10 n)) :=
  wholeText_encodeChars Nat.toDigits_ne_nil (fun _ => (Text.decimal_toDigits n).isSome_digit?)
    (Text.canonicalDigits_toDigits n).noLeadingZero

/-- Every number has digits without zeros in front. -/
theorem exists_wholeText (n : Nat) : ∃ text, WholeText text ∧ Decimal text n :=
  ⟨_, wholeText_toDigits n, decimal_encodeChars (Text.decimal_toDigits n)⟩

/-! ## Lists and objects -/

/-- Parts with a comma between each two of them. -/
def joinParts : List Bytes → Bytes
  | [] => []
  | [part] => part
  | part :: next :: parts => part ++ 0x2C :: joinParts (next :: parts)

theorem listed_joinParts : (parts : List Bytes) → Listed parts (joinParts parts)
  | [] => .nil nofun
  | [part] => by
    have hlast : Listed [part] ([] ++ (part ++ [])) := .last nofun nofun
    rwa [List.nil_append, List.append_nil] at hlast
  | part :: next :: parts => by
    have hmore : Listed (part :: next :: parts)
        ([] ++ (part ++ ([] ++ 0x2C :: joinParts (next :: parts)))) :=
      .more nofun nofun (listed_joinParts (next :: parts))
    rwa [List.nil_append, List.nil_append] at hmore

/-- The compact form of a list. -/
def arrayBytes (items : List Bytes) : Bytes := 0x5B :: (joinParts items ++ [0x5D])

theorem arrayText_arrayBytes (items : List Bytes) : ArrayText items (arrayBytes items) :=
  ⟨joinParts items, listed_joinParts items, rfl⟩

/-- Members as they are written, with nothing but commas between them. -/
def membersBytes (written : List (Bytes × Bytes)) : Bytes :=
  0x7B :: (joinParts (written.map fun member => member.1 ++ 0x3A :: member.2) ++ [0x7D])

theorem objectText_membersBytes (written : List (Bytes × Bytes)) :
    ObjectText written (membersBytes written) := by
  refine ⟨_, _, ?_, listed_joinParts _, rfl⟩
  exact List.forall₂_map_right_iff.mpr
    (List.forall₂_same.mpr fun member _ => ⟨[], [], nofun, nofun, rfl⟩)

/-- The compact form of an object. -/
def objectBytes (members : List (String × Bytes)) : Bytes :=
  0x7B :: (joinParts (members.map fun member => quoteBytes member.1 ++ 0x3A :: member.2) ++ [0x7D])

theorem namedText_objectBytes (members : List (String × Bytes)) :
    NamedText members (objectBytes members) := by
  refine ⟨members.map fun member => (quoteBytes member.1, member.2), ?_, ?_⟩
  · have htext := objectText_membersBytes (members.map fun member => (quoteBytes member.1, member.2))
    rwa [membersBytes, List.map_map] at htext
  · refine List.forall₂_map_right_iff.mpr (List.forall₂_same.mpr fun member _ => ?_)
    exact ⟨stringText_quoteBytes member.1, rfl⟩

end ReplyStage.Json
