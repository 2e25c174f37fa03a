import ReplyStage.Proofs.Json.Grammar
/-!
# Numbers are read

A number is read up to its end, and that is where something comes that ends a value: no digit, point
or exponent can follow. What is read has the digits that were written.
-/

namespace ReplyStage.Json

/-- What can come after a value: nothing, white space, or what ends a part of a list or an object. -/
def Ends (rest : Bytes) : Prop :=
  ∀ b ∈ rest.head?, isSpace b = true ∨ b = 0x2C ∨ b = 0x5D ∨ b = 0x7D

/-- No digit comes next. -/
def NoDigit (rest : Bytes) : Prop := ∀ b ∈ rest.head?, digitValue? b = none

/-- The values of digits. -/
def digitValues (digits : Bytes) : List Nat := digits.filterMap digitValue?

section Ends

variable {b : UInt8} {rest : Bytes}

theorem Ends.cases (h : Ends (b :: rest)) :
    b ∈ [0x20, 0x09, 0x0A, 0x0D, 0x2C, 0x5D, 0x7D] := by
  have hb := h b rfl
  simp only [isSpace, Bool.or_eq_true, decide_eq_true_eq] at hb
  simp only [List.mem_cons]
  tauto

theorem Ends.noDigit (h : Ends rest) : NoDigit rest := by
  cases rest with
  | nil => nofun
  | cons b rest =>
    rintro _ ⟨⟩
    exact (by simp [digitValue?] :
      ∀ b ∈ [0x20, 0x09, 0x0A, 0x0D, 0x2C, 0x5D, 0x7D], digitValue? b = none) b h.cases

end Ends

/-! ## Digits -/

theorem digitValues_cons {b : UInt8} {d : Nat} (h : digitValue? b = some d) (digits : Bytes) :
    digitValues (b :: digits) = d :: digitValues digits :=
  List.filterMap_cons_some h

theorem readDigits_digits {digits rest : Bytes} (h : ∀ b ∈ digits, (digitValue? b).isSome = true)
    (hrest : NoDigit rest) : readDigits (digits ++ rest) = (digitValues digits, rest) := by
  induction digits with
  | nil =>
    cases rest with
    | nil => rfl
    | cons b rest => rw [List.nil_append, readDigits, hrest b rfl]; rfl
  | cons b digits ih =>
    obtain ⟨hb, hdigits⟩ := List.forall_mem_cons.mp h
    obtain ⟨d, hd⟩ := Option.isSome_iff_exists.mp hb
    rw [List.cons_append, readDigits, hd, ih hdigits, digitValues_cons hd]

theorem length_digitValues {digits : Bytes} (h : ∀ b ∈ digits, (digitValue? b).isSome = true) :
    (digitValues digits).length = digits.length := by
  induction digits with
  | nil => rfl
  | cons b digits ih =>
    obtain ⟨hb, hdigits⟩ := List.forall_mem_cons.mp h
    obtain ⟨d, hd⟩ := Option.isSome_iff_exists.mp hb
    rw [digitValues_cons hd, List.length_cons, List.length_cons, ih hdigits]

theorem Digits.values_eq_cons {digits : Bytes} (h : Digits digits) :
    ∃ d ds, digitValues digits = d :: ds := by
  obtain ⟨hne, hdigits⟩ := h
  obtain ⟨b, rest, rfl⟩ := List.exists_cons_of_ne_nil hne
  obtain ⟨d, hd⟩ := Option.isSome_iff_exists.mp (hdigits b List.mem_cons_self)
  exact ⟨d, _, digitValues_cons hd rest⟩

/-! ## The parts of a number -/

theorem digitValue?_eq_zero {b : UInt8} (h : digitValue? b = some 0) : b = 0x30 := by
  unfold digitValue? at h
  split at h
  · rename_i hb
    simp only [UInt8.le_iff_toNat_le, UInt8.reduceToNat, Option.some.injEq] at hb h
    apply UInt8.toNat_inj.mp
    simp only [UInt8.reduceToNat]
    omega
  · cases h

/-- Zeros stand alone. -/
theorem WholeText.values_ne {whole : Bytes} (h : WholeText whole) (d : Nat) (ds : List Nat) :
    digitValues whole ≠ 0 :: d :: ds := by
  obtain ⟨⟨hne, hdigits⟩, hzero⟩ := h
  obtain ⟨b, rest, rfl⟩ := List.exists_cons_of_ne_nil hne
  obtain ⟨e, he⟩ := Option.isSome_iff_exists.mp (hdigits b List.mem_cons_self)
  rw [digitValues_cons he]
  intro heq
  obtain ⟨rfl, hrest⟩ := List.cons.inj heq
  obtain rfl := digitValue?_eq_zero he
  obtain ⟨-, rfl⟩ := List.cons.inj (hzero rfl)
  cases hrest

theorem readWhole_text {whole rest : Bytes} (h : WholeText whole) (hrest : NoDigit rest)
    (offset : Nat) :
    readWhole offset (whole ++ rest) = .ok (digitValues whole, offset + whole.length, rest) := by
  have hlength := length_digitValues h.1.2
  obtain ⟨d, ds, hvalues⟩ := h.1.values_eq_cons
  rw [readWhole, readDigits_digits h.1.2 hrest]
  have hne := h.values_ne
  rw [hvalues] at hlength hne ⊢
  split
  · rename_i heq
    cases heq
  · rename_i heq
    cases heq
    exact absurd rfl (hne _ _)
  · rename_i heq
    cases heq
    rw [hlength]

theorem NoDigit.append {text rest : Bytes} (h : NoDigit rest)
    (htext : ∀ b ∈ text.head?, digitValue? b = none) : NoDigit (text ++ rest) := by
  cases text with
  | nil => exact h
  | cons b text => exact htext

theorem FractionText.noDigit {fraction : Bytes} (h : FractionText fraction) :
    ∀ b ∈ fraction.head?, digitValue? b = none := by
  rcases h with rfl | ⟨digits, -, rfl⟩
  · nofun
  · rintro _ ⟨⟩
    rfl

theorem ExponentText.noDigit {exponent : Bytes} (h : ExponentText exponent) :
    ∀ b ∈ exponent.head?, digitValue? b = none := by
  rcases h with rfl | ⟨_, sign, digits, rfl | rfl, -, -, rfl⟩
  · nofun
  all_goals
    rintro _ ⟨⟩
    rfl

theorem readFraction_text {fraction rest : Bytes} (h : FractionText fraction) (hrest : NoDigit rest)
    (hpoint : rest.head? ≠ some 0x2E) (offset : Nat) :
    ∃ ds, readFraction offset (fraction ++ rest) = .ok (ds, offset + fraction.length, rest) ∧
      (fraction = [] → ds = none) := by
  rcases h with rfl | ⟨digits, hdigits, rfl⟩
  · refine ⟨none, ?_, fun _ => rfl⟩
    rw [List.nil_append, readFraction]
    · rfl
    · rintro rest rfl
      exact hpoint rfl
  · obtain ⟨d, ds, hvalues⟩ := hdigits.values_eq_cons
    have hlength := length_digitValues hdigits.2
    refine ⟨some (d :: ds), ?_, nofun⟩
    rw [List.cons_append, readFraction, readDigits_digits hdigits.2 hrest]
    rw [hvalues] at hlength ⊢
    simp only [hlength, List.length_cons, Nat.add_assoc, Nat.add_comm 1]

theorem readExponentDigits_text {sign digits rest : Bytes}
    (hsign : sign = [] ∨ sign = [0x2B] ∨ sign = [0x2D]) (h : Digits digits) (hrest : NoDigit rest)
    (offset : Nat) :
    ∃ e, readExponentDigits offset (sign ++ (digits ++ rest)) =
      .ok (e, offset + sign.length + digits.length, rest) := by
  obtain ⟨d, ds, hvalues⟩ := h.values_eq_cons
  have hlength := length_digitValues h.2
  rw [hvalues] at hlength
  rcases hsign with rfl | rfl | rfl
  · obtain ⟨b, more, rfl⟩ := List.exists_cons_of_ne_nil h.1
    have hb := h.2 b List.mem_cons_self
    refine ⟨some ⟨Bool.false, d :: ds, offset⟩, ?_⟩
    rw [readExponentDigits, List.nil_append, readDigits_digits h.2 hrest, hvalues]
    · simp only [hlength, List.length_nil, Nat.add_zero]
    all_goals
      rintro _ heq
      cases heq
      cases hb
  · refine ⟨some ⟨Bool.false, d :: ds, offset + 1⟩, ?_⟩
    simp only [readExponentDigits, List.singleton_append, readDigits_digits h.2 hrest, hvalues,
      hlength, List.length_singleton]
  · refine ⟨some ⟨Bool.true, d :: ds, offset + 1⟩, ?_⟩
    simp only [readExponentDigits, List.singleton_append, readDigits_digits h.2 hrest, hvalues,
      hlength, List.length_singleton]

theorem readExponent_text {exponent rest : Bytes} (h : ExponentText exponent) (hrest : NoDigit rest)
    (hletter : ∀ b ∈ rest.head?, b ≠ 0x65 ∧ b ≠ 0x45) (offset : Nat) :
    ∃ e, readExponent offset (exponent ++ rest) = .ok (e, offset + exponent.length, rest) ∧
      (exponent = [] → e = none) := by
  rcases h with rfl | ⟨letter, sign, digits, hl, hsign, hdigits, rfl⟩
  · refine ⟨none, ?_, fun _ => rfl⟩
    rw [List.nil_append, readExponent]
    · rfl
    · rintro rest rfl
      exact (hletter _ rfl).1 rfl
    · rintro rest rfl
      exact (hletter _ rfl).2 rfl
  · obtain ⟨e, he⟩ := readExponentDigits_text hsign hdigits hrest (offset + 1)
    refine ⟨e, ?_, nofun⟩
    have hlength : offset + (letter :: (sign ++ digits)).length =
        offset + 1 + sign.length + digits.length := by
      simp only [List.length_cons, List.length_append]
      omega
    rw [hlength, ← he, List.cons_append, List.append_assoc]
    rcases hl with rfl | rfl
    · rw [readExponent]
    · rw [readExponent]

/-- A number after its sign is read to its end. -/
theorem readNumeral_text {whole fraction exponent rest : Bytes} (hwhole : WholeText whole)
    (hfraction : FractionText fraction) (hexponent : ExponentText exponent) (hrest : Ends rest)
    (negative : Bool) (offset : Nat) :
    ∃ n, readNumeral negative offset (whole ++ (fraction ++ (exponent ++ rest))) =
        .ok (n, offset + (whole ++ (fraction ++ exponent)).length, rest) ∧
      n.negative = negative ∧ n.whole = digitValues whole ∧ (fraction = [] → n.fraction = none) ∧
      (exponent = [] → n.exponent = none) := by
  have hends : ∀ b ∈ rest.head?, b ≠ 0x65 ∧ b ≠ 0x45 ∧ b ≠ 0x2E := by
    cases rest with
    | nil => nofun
    | cons b rest =>
      rintro _ ⟨⟩
      exact (by simp : ∀ b ∈ [0x20, 0x09, 0x0A, 0x0D, 0x2C, 0x5D, 0x7D],
        b ≠ 0x65 ∧ b ≠ 0x45 ∧ b ≠ (0x2E : UInt8)) b hrest.cases
  have hafter : NoDigit (exponent ++ rest) := hrest.noDigit.append hexponent.noDigit
  have hpoint : (exponent ++ rest).head? ≠ some 0x2E := by
    rcases hexponent with rfl | ⟨_, sign, digits, rfl | rfl, -, -, rfl⟩
    · exact fun h => (hends _ h).2.2 rfl
    all_goals nofun
  obtain ⟨f, hf, hfnone⟩ :=
    readFraction_text hfraction hafter hpoint (offset + whole.length)
  obtain ⟨e, he, henone⟩ := readExponent_text hexponent hrest.noDigit
    (fun b hb => ⟨(hends b hb).1, (hends b hb).2.1⟩) (offset + whole.length + fraction.length)
  refine ⟨⟨negative, digitValues whole, f, e, offset + (whole ++ (fraction ++ exponent)).length⟩, ?_,
    rfl, rfl, hfnone, henone⟩
  have hread := readWhole_text hwhole (hafter.append hfraction.noDigit) offset
  rw [readNumeral, hread]
  simp only [bind, Except.bind, hf, he, pure, Except.pure]
  simp only [List.length_append, Nat.add_assoc]

/-! ## What a count stands for -/

/-- Digits are taken in as long as their number fits. -/
theorem absorb_decimal {digits : Bytes} {n : Nat} (h : Decimal digits n)
    (hle : n ≤ Numeral.maxSignificand) (more : List Nat) :
    Numeral.absorb 0 (digitValues digits ++ more) = Numeral.absorb n more := by
  induction h generalizing more with
  | @digit b d hd =>
    rw [digitValues_cons hd, List.cons_append, Numeral.absorb, Nat.zero_mul, Nat.zero_add,
      if_pos hle]
    rfl
  | @more digits n b d _ hd ih =>
    have hlast : digitValues (digits ++ [b]) ++ more = digitValues digits ++ d :: more := by
      rw [digitValues, List.filterMap_append, List.append_assoc]
      congr 1
      exact congrArg (· ++ more) (digitValues_cons hd [])
    rw [hlast, ih (by omega), Numeral.absorb, if_pos hle]

/-- Digits that fit are read as an integer. -/
theorem read_decimal {n : Nat} {text : Bytes} (h : Decimal text n) (hle : n ≤ Numeral.maxSignificand)
    (negative : Bool) (finish : Nat) :
    Numeral.read ⟨negative, digitValues text, none, none, finish⟩ =
      Numeral.integer ⟨negative, digitValues text, none, none, finish⟩ n := by
  have habsorb := absorb_decimal h hle []
  rw [List.append_nil, Numeral.absorb] at habsorb
  rw [Numeral.read]
  simp only [habsorb, if_true]

/-- A count stands for its number. -/
theorem read_count {n : Nat} {text : Bytes} (h : CountText n text) (finish : Nat) :
    Numeral.read ⟨Bool.false, digitValues text, none, none, finish⟩ = .ok (.integer n) := by
  rw [read_decimal h.2.2 h.1]
  rfl

/-- Digits after a minus sign stand for the negative of their number. -/
theorem read_negative {n : Nat} {text : Bytes} (h : Decimal text n) (hpos : 0 < n)
    (hle : n ≤ Nat.pow 2 63) (finish : Nat) :
    Numeral.read ⟨Bool.true, digitValues text, none, none, finish⟩ = .ok (.integer (-n)) := by
  have hmax : n ≤ Numeral.maxSignificand := Nat.le_trans hle (by decide)
  rw [read_decimal h hmax, Numeral.integer, if_pos rfl, if_pos ⟨hpos, hle⟩]

end ReplyStage.Json
