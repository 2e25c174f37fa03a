import ReplyStage.Proofs.Json.Compact
import ReplyStage.Proofs.Json.Documents
/-!
# What is written of a document

The compact form of every document is JSON with nothing between its parts but what has to be there
(`compactText_render`).
-/

namespace ReplyStage.Json

open Text.Utf8 (encodeChars encode)

/-! ## Numbers with a binary point -/

/-- A number without a sign. -/
def UnsignedText (text : Bytes) : Prop :=
  ∃ whole fraction exponent, WholeText whole ∧ FractionText fraction ∧ ExponentText exponent ∧
    text = whole ++ (fraction ++ exponent)

theorem UnsignedText.numberText {sign text : Bytes} (h : UnsignedText text)
    (hsign : sign = [] ∨ sign = [0x2D]) : NumberText (sign ++ text) := by
  obtain ⟨whole, fraction, exponent, hwhole, hfraction, hexponent, rfl⟩ := h
  exact ⟨sign, whole, fraction, exponent, hsign, hwhole, hfraction, hexponent, rfl⟩

/-- Characters that are all digits. -/
def AllDigits (cs : List Char) : Prop := ∀ c ∈ cs, (Text.digit? c).isSome = true

theorem allDigits_digitChars (n : Nat) : AllDigits (Binary64.digitChars n) := by
  rw [Binary64.digitChars, Nat.toList_repr]
  exact fun _ => (Text.decimal_toDigits n).isSome_digit?

theorem digitChars_ne_nil (n : Nat) : Binary64.digitChars n ≠ [] := by
  rw [Binary64.digitChars, Nat.toList_repr]
  exact Nat.toDigits_ne_nil

/-- Only zero begins with a zero. -/
theorem digitChars_zero {n : Nat} {rest : List Char} (h : Binary64.digitChars n = '0' :: rest) :
    n = 0 ∧ rest = [] := by
  rw [Binary64.digitChars, Nat.toList_repr] at h
  obtain rfl := (Text.canonicalDigits_toDigits n).noLeadingZero rest h
  exact ⟨Text.eq_zero_of_decimal (h ▸ Text.decimal_toDigits n), rfl⟩

theorem allDigits_zeros (count : Nat) : AllDigits (Binary64.zeros count) := by
  intro c hc
  rw [List.eq_of_mem_replicate hc]
  rfl

theorem AllDigits.append {cs ds : List Char} (h : AllDigits cs) (h' : AllDigits ds) :
    AllDigits (cs ++ ds) :=
  fun c hc => (List.mem_append.mp hc).elim (h c) (h' c)

/-- A point with digits after it. -/
theorem fractionText_point {cs : List Char} (hne : cs ≠ []) (h : AllDigits cs) :
    FractionText (encodeChars ('.' :: cs)) :=
  .inr ⟨encodeChars cs, digits_encodeChars hne h, rfl⟩

/-- Characters of a number without an exponent. -/
theorem unsignedText_point {whole fraction : List Char} (hwhole : WholeText (encodeChars whole))
    (hne : fraction ≠ []) (hfraction : AllDigits fraction) :
    UnsignedText (encodeChars (whole ++ '.' :: fraction)) := by
  refine ⟨_, _, [], hwhole, fractionText_point hne hfraction, .inl rfl, ?_⟩
  rw [Text.Utf8.encodeChars_append, List.append_nil]

/-- An exponent with its sign. -/
theorem exponentText_digitChars {sign : Char} (hsign : sign = '+' ∨ sign = '-') (n : Nat) :
    ExponentText (encodeChars ('e' :: sign :: Binary64.digitChars n)) := by
  have hdigits := digits_encodeChars (digitChars_ne_nil n) (allDigits_digitChars n)
  rcases hsign with rfl | rfl
  · exact .inr ⟨0x65, [0x2B], _, .inl rfl, .inr (.inl rfl), hdigits, rfl⟩
  · exact .inr ⟨0x65, [0x2D], _, .inl rfl, .inr (.inr rfl), hdigits, rfl⟩

/-- Characters of a number with one digit before the point, and with an exponent. -/
theorem unsignedText_scientific {digits : List Char} (hne : digits ≠ []) (h : AllDigits digits)
    (point : Int) : UnsignedText (encodeChars (Binary64.magnitudeChars.scientific digits point)) := by
  obtain ⟨d, rest, rfl⟩ := List.exists_cons_of_ne_nil hne
  obtain ⟨hd, hrest⟩ := List.forall_mem_cons.mp h
  have hwhole : WholeText (encodeChars [d]) :=
    wholeText_encodeChars (List.cons_ne_nil _ _) (List.forall_mem_singleton.mpr hd)
      fun _ hcons => (List.cons.inj hcons).2.symm
  have hsign : (if point - 1 < 0 then '-' else '+') = '+' ∨
      (if point - 1 < 0 then '-' else '+') = '-' := by
    split
    · exact .inr rfl
    · exact .inl rfl
  have hexponent := exponentText_digitChars hsign (point - 1).natAbs
  cases rest with
  | nil =>
    refine ⟨_, [], _, hwhole, .inl rfl, hexponent, ?_⟩
    rw [List.nil_append, ← Text.Utf8.encodeChars_append]
    rfl
  | cons next rest =>
    refine ⟨_, _, _, hwhole, fractionText_point (List.cons_ne_nil next rest) hrest, hexponent, ?_⟩
    rw [← Text.Utf8.encodeChars_append, ← Text.Utf8.encodeChars_append]
    rfl

/-- Characters of a magnitude. Zeros are put behind the digits only where these do not begin with
one. -/
theorem unsignedText_magnitudeChars {d : Binary64.Decimal}
    (h : 0 < d.exponent → d.exponent < 16 → d.digits ≠ 0) :
    UnsignedText (encodeChars (Binary64.magnitudeChars d)) := by
  obtain ⟨digits, e⟩ := d
  have hne := digitChars_ne_nil digits
  have hdigits := allDigits_digitChars digits
  have hlength := List.length_pos_of_ne_nil hne
  unfold Binary64.magnitudeChars
  dsimp only
  cases e with
  | ofNat e =>
    dsimp only
    split
    · rename_i hpoint
      refine unsignedText_point (wholeText_encodeChars ?_ ?_ ?_) (List.cons_ne_nil '0' []) ?_
      · exact List.append_ne_nil_of_left_ne_nil hne _
      · exact hdigits.append (allDigits_zeros e)
      · intro rest hrest
        obtain ⟨c, cs, hcs⟩ := List.exists_cons_of_ne_nil hne
        rw [hcs, List.cons_append] at hrest
        obtain ⟨rfl, rfl⟩ := List.cons.inj hrest
        obtain ⟨rfl, rfl⟩ := digitChars_zero hcs
        obtain rfl : e = 0 := by
          by_contra hpos
          rw [hcs] at hpoint
          simp only [List.length_singleton, Int.ofNat_eq_natCast] at hpoint h
          exact h (by omega) (by omega) rfl
        rfl
      · exact List.forall_mem_singleton.mpr rfl
    · exact unsignedText_scientific hne hdigits _
  | negSucc e =>
    dsimp only
    split
    · rename_i hpoint
      have hpos : 0 < ((Binary64.digitChars digits).length + Int.negSucc e).toNat := by omega
      have hlt : ((Binary64.digitChars digits).length + Int.negSucc e).toNat <
        (Binary64.digitChars digits).length := by omega
      generalize ((Binary64.digitChars digits).length + Int.negSucc e).toNat = point at hpos hlt
      refine unsignedText_point (wholeText_encodeChars ?_ ?_ ?_) ?_ ?_
      · exact fun htake => absurd (List.take_eq_nil_iff.mp htake) (by simp [hne]; omega)
      · exact fun c hc => hdigits c (List.mem_of_mem_take hc)
      · intro rest hrest
        obtain ⟨c, cs, hcs⟩ := List.exists_cons_of_ne_nil hne
        obtain ⟨point, rfl⟩ := Nat.exists_eq_add_of_lt hpos
        rw [hcs, Nat.zero_add, List.take_succ_cons] at hrest
        obtain ⟨rfl, rfl⟩ := List.cons.inj hrest
        rw [(digitChars_zero hcs).2, List.take_nil]
      · simpa using hlt
      · exact fun c hc => hdigits c (List.mem_of_mem_drop hc)
    · split
      · rename_i hpoint
        have hzero : WholeText (encodeChars ['0']) := wholeText_toDigits 0
        refine unsignedText_point hzero ?_ ?_
        · exact List.append_ne_nil_of_right_ne_nil _ hne
        · exact (allDigits_zeros _).append hdigits
      · exact unsignedText_scientific hne hdigits _

/-- What is written of a number is a number. -/
theorem numberText_toChars {x : Binary64} (h : x.Storable) : NumberText (encodeChars x.toChars) := by
  have hmagnitude : UnsignedText (encodeChars
      (if x.isZero then ['0', '.', '0'] else Binary64.magnitudeChars x.shortest)) := by
    split
    · have hzero : WholeText (encodeChars ['0']) := wholeText_toDigits 0
      exact unsignedText_point hzero (List.cons_ne_nil '0' []) (List.forall_mem_singleton.mpr rfl)
    · rename_i hzero
      have hne : x.mantissa ≠ 0 := by simpa [Binary64.isZero] using hzero
      exact unsignedText_magnitudeChars (Binary64.shortest_digits_ne_zero h hne)
  unfold Binary64.toChars
  dsimp only
  split
  · exact hmagnitude.numberText (.inr rfl)
  · exact hmagnitude.numberText (.inl rfl)

/-! ## Integers -/

/-- An integer, with a sign only if it is negative. -/
inductive IntegerText : Int → Bytes → Prop
  | unsigned {n : Nat} {text} : WholeText text → Decimal text n → IntegerText n text
  | negative {n : Nat} {text} : 0 < n → WholeText text → Decimal text n →
      IntegerText (-n) (0x2D :: text)

/-- What is written of an integer is a text of it. -/
theorem integerText_toString (i : Int) : IntegerText i (encode (toString i)) := by
  cases i with
  | ofNat n =>
    rw [encode, show (toString (Int.ofNat n)).toList = Nat.toDigits 10 n from Text.toList_toString n]
    exact .unsigned (wholeText_toDigits n) (decimal_encodeChars (Text.decimal_toDigits n))
  | negSucc n =>
    rw [encode, Text.toList_toString_negSucc, Text.toList_toString]
    exact .negative (Nat.succ_pos n) (wholeText_toDigits (n + 1))
      (decimal_encodeChars (Text.decimal_toDigits (n + 1)))

/-! ## Documents -/

/-- The compact form of a document: there is no white space but in strings. -/
inductive CompactText : Json → Bytes → Prop
  | null : CompactText .null [0x6E, 0x75, 0x6C, 0x6C]
  | true : CompactText (.bool true) [0x74, 0x72, 0x75, 0x65]
  | false : CompactText (.bool false) [0x66, 0x61, 0x6C, 0x73, 0x65]
  | integer {i text} : IntegerText i text → CompactText (.number (.integer i)) text
  | real {x text} : NumberText text → CompactText (.number (.real x)) text
  | string {s text} : StringText s text → CompactText (.string s) text
  | array {items texts} : List.Forall₂ CompactText items texts →
      CompactText (.array items) (arrayBytes texts)
  | object {members : List (String × Json)} {names texts} :
      List.Forall₂ StringText (members.map Prod.fst) names →
      List.Forall₂ CompactText (members.map Prod.snd) texts →
      CompactText (.object members) (membersBytes (names.zip texts))

theorem encodeChars_itemChars : (items : List Json) →
    encodeChars (itemChars items) = joinParts (items.map fun item => encodeChars (toChars item))
  | [] => rfl
  | [item] => by rw [itemChars, List.map_singleton, joinParts]
  | item :: next :: rest => by
    rw [itemChars, Text.Utf8.encodeChars_append, Text.Utf8.encodeChars_cons,
      encodeChars_itemChars (next :: rest)]
    rfl

theorem encodeChars_memberChars : (members : List (String × Json)) →
    encodeChars (memberChars members) =
      joinParts (members.map fun member =>
        quoteBytes member.1 ++ 0x3A :: encodeChars (toChars member.2))
  | [] => rfl
  | [(name, value)] => by
    rw [memberChars, Text.Utf8.encodeChars_append, Text.Utf8.encodeChars_cons]
    rfl
  | (name, value) :: next :: rest => by
    rw [memberChars, Text.Utf8.encodeChars_append, Text.Utf8.encodeChars_append,
      Text.Utf8.encodeChars_cons, Text.Utf8.encodeChars_cons, encodeChars_memberChars (next :: rest)]
    rfl

/-- What is written of a document is its compact form. -/
theorem compactText_toChars {depth : Nat} {j : Json} (h : Readable depth j) :
    CompactText j (encodeChars (toChars j)) := by
  induction h with
  | null => exact .null
  | @bool _ b =>
    cases b with
    | false => exact .false
    | true => exact .true
  | number hn =>
    cases hn with
    | @integer i => exact .integer (integerText_toString i)
    | real hx => exact .real (numberText_toChars hx)
  | @string _ s => exact .string (stringText_quoteBytes s)
  | @array _ items _ ih =>
    have hbytes : encodeChars (toChars (.array items)) =
        arrayBytes (items.map fun item => encodeChars (toChars item)) := by
      rw [toChars, Text.Utf8.encodeChars_append, Text.Utf8.encodeChars_cons, encodeChars_itemChars]
      rfl
    rw [hbytes]
    exact .array (List.forall₂_map_right_iff.mpr (List.forall₂_same.mpr ih))
  | @object _ members _ _ ih =>
    have hbytes : encodeChars (toChars (.object members)) = membersBytes
        ((members.map fun member => quoteBytes member.1).zip
          (members.map fun member => encodeChars (toChars member.2))) := by
      rw [toChars, Text.Utf8.encodeChars_append, Text.Utf8.encodeChars_cons, encodeChars_memberChars,
        List.zip_map', membersBytes, List.map_map]
      rfl
    rw [hbytes]
    refine .object (List.forall₂_map_left_iff.mpr (List.forall₂_map_right_iff.mpr ?_))
      (List.forall₂_map_left_iff.mpr (List.forall₂_map_right_iff.mpr ?_))
    · exact List.forall₂_same.mpr fun member _ => stringText_quoteBytes member.1
    · exact List.forall₂_same.mpr ih

theorem compactText_render {depth : Nat} {j : Json} (h : Readable depth j) :
    CompactText j (encode j.render) := by
  rw [encode, render, String.toList_ofList]
  exact compactText_toChars h

end ReplyStage.Json
