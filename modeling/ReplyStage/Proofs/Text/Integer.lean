import Mathlib.Data.List.Induction
import Mathlib.Data.Nat.Digits.Defs
import ReplyStage.Proofs.Results
import ReplyStage.Proofs.Text.Items
import ReplyStage.Text.Integer
/-!
# Numbers as they are written

Which texts are read as which numbers: digits after an optional sign, as long as the number is within
the range (`readNat_eq_ok_iff`, `readInt_eq_ok_iff`). What is written of a number is such a text
(`natText_toString`, `intText_toString`), so that the number comes back (`readNat_toString`).
-/

namespace ReplyStage.Text

/-! ## Decimal notation -/

/-- Digits, of which there is at least one, and the number that they stand for. -/
inductive Decimal : List Char → Nat → Prop
  | digit {c d} : digit? c = some d → Decimal [c] d
  | more {cs n c d} : Decimal cs n → digit? c = some d → Decimal (cs ++ [c]) (n * 10 + d)

/-- A number without a minus sign. -/
def NatText (s : String) (n : Nat) : Prop :=
  Decimal s.toList n ∨ ∃ digits, s.toList = '+' :: digits ∧ Decimal digits n

/-- A number with any sign or none. -/
def IntText (s : String) (i : Int) : Prop :=
  (∃ n : Nat, NatText s n ∧ i = n) ∨
    ∃ (digits : List Char) (n : Nat), s.toList = '-' :: digits ∧ Decimal digits n ∧ i = -n

/-- Digits as they are normally written: no zero stands in front of others. -/
structure CanonicalDigits (cs : List Char) (n : Nat) : Prop where
  decimal : Decimal cs n
  noLeadingZero : ∀ rest, cs = '0' :: rest → rest = []

/-- A number without a sign as it is normally written. -/
def CanonicalNat (s : String) (n : Nat) : Prop := CanonicalDigits s.toList n

/-- A number as it is normally written: a minus sign stands only in front of a number other than
zero, and there is no other sign. -/
inductive CanonicalInt (s : String) : Int → Prop
  | unsigned {n : Nat} : CanonicalNat s n → CanonicalInt s n
  | negative {digits} {n : Nat} : s.toList = '-' :: digits → CanonicalDigits digits n → 0 < n →
      CanonicalInt s (-n)

theorem Decimal.ne_nil {cs : List Char} {n : Nat} (h : Decimal cs n) : cs ≠ [] := by
  cases h <;> simp

theorem Decimal.isSome_digit? {cs : List Char} {n : Nat} (h : Decimal cs n) {c : Char}
    (hc : c ∈ cs) : (digit? c).isSome = true := by
  induction h with
  | digit hd =>
    rw [List.mem_singleton.mp hc, hd]
    rfl
  | more _ hd ih =>
    rcases List.mem_append.mp hc with hc | hc
    · exact ih hc
    · rw [List.mem_singleton.mp hc, hd]
      rfl

theorem Decimal.not_sign {sign : Char} {cs : List Char} {n : Nat}
    (hsign : digit? sign = none) : ¬ Decimal (sign :: cs) n := by
  intro h
  have hsome := h.isSome_digit? List.mem_cons_self
  rw [hsign] at hsome
  cases hsome

/-! ## Reading -/

/-- Digits are read one after another. -/
theorem readDigits_append (bound : Nat) (beyond : IntegerError) (value : Nat) (cs more : List Char) :
    readDigits bound beyond value (cs ++ more) =
      (readDigits bound beyond value cs).bind fun next => readDigits bound beyond next more := by
  induction cs generalizing value with
  | nil => rfl
  | cons c rest ih =>
    rw [List.cons_append, readDigits, readDigits]
    split
    · rfl
    · split
      · exact ih _
      · rfl

theorem readDigits_singleton {bound : Nat} {beyond : IntegerError} {value n : Nat} {c : Char} :
    readDigits bound beyond value [c] = .ok n ↔
      ∃ d, digit? c = some d ∧ n = value * 10 + d ∧ n ≤ bound := by
  rw [readDigits]
  cases digit? c with
  | none => simp
  | some d =>
    by_cases hle : value * 10 + d ≤ bound
    · simp only [hle, if_true, readDigits, Except.ok.injEq, Option.some.injEq, exists_eq_left']
      omega
    · simp only [hle, if_false, reduceCtorEq, Option.some.injEq, exists_eq_left', false_iff]
      omega

theorem readDigits_of_decimal {bound : Nat} (beyond : IntegerError) {cs : List Char} {n : Nat}
    (h : Decimal cs n) (hle : n ≤ bound) : readDigits bound beyond 0 cs = .ok n := by
  induction h with
  | digit hd => exact readDigits_singleton.mpr ⟨_, hd, by omega, hle⟩
  | more _ hd ih =>
    rw [readDigits_append, ih (by omega)]
    exact readDigits_singleton.mpr ⟨_, hd, rfl, hle⟩

theorem decimal_of_readDigits {bound : Nat} {beyond : IntegerError} {cs : List Char} {n : Nat}
    (hne : cs ≠ []) (h : readDigits bound beyond 0 cs = .ok n) : Decimal cs n ∧ n ≤ bound := by
  induction cs using List.reverseRecOn generalizing n with
  | nil => exact absurd rfl hne
  | append_singleton cs c ih =>
    rw [readDigits_append] at h
    cases hcs : readDigits bound beyond 0 cs with
    | error e =>
      rw [hcs] at h
      cases h
    | ok next =>
      rw [hcs] at h
      obtain ⟨d, hd, rfl, hle⟩ := readDigits_singleton.mp h
      by_cases hnil : cs = []
      · subst hnil
        cases hcs
        rw [Nat.zero_mul, Nat.zero_add] at hle ⊢
        exact ⟨.digit hd, hle⟩
      · exact ⟨.more (ih hnil hcs).1 hd, hle⟩

theorem eq_zero_of_decimal {n : Nat} (h : Decimal ['0'] n) : n = 0 := by
  have hread : readDigits n .tooLarge 0 ['0'] = .ok n :=
    readDigits_of_decimal .tooLarge h (Nat.le_refl n)
  obtain ⟨d, hd, rfl, -⟩ := readDigits_singleton.mp hread
  cases hd
  rfl

theorem readMagnitude_eq_ok_iff {bound : Nat} {beyond : IntegerError} {cs : List Char} {n : Nat} :
    readMagnitude bound beyond cs = .ok n ↔ Decimal cs n ∧ n ≤ bound := by
  cases cs with
  | nil =>
    rw [readMagnitude]
    exact ⟨nofun, fun h => absurd rfl h.1.ne_nil⟩
  | cons c rest =>
    rw [readMagnitude]
    · exact ⟨decimal_of_readDigits (List.cons_ne_nil c rest),
        fun h => readDigits_of_decimal beyond h.1 h.2⟩
    · exact List.cons_ne_nil c rest

/-- Which texts are read as a number without a minus sign. -/
theorem readNat_eq_ok_iff {bound : Nat} {s : String} {n : Nat} :
    readNat bound s = .ok n ↔ NatText s n ∧ n ≤ bound := by
  unfold readNat NatText
  split
  · rename_i hs
    rw [hs]
    refine ⟨nofun, ?_⟩
    rintro ⟨h | ⟨digits, hdigits, -⟩, -⟩
    · exact absurd rfl h.ne_nil
    · cases hdigits
  · rename_i digits hs
    rw [hs, readMagnitude_eq_ok_iff]
    have hsign : ¬ Decimal ('+' :: digits) n := Decimal.not_sign (by decide)
    simp [hsign]
  · rename_i cs _ hplus
    rw [readMagnitude_eq_ok_iff]
    have hsign : ¬ ∃ digits, s.toList = '+' :: digits ∧ Decimal digits n :=
      fun ⟨digits, hs, _⟩ => hplus digits hs
    simp [hsign]

/-- A text stands for one number only. -/
theorem natText_unique {s : String} {n m : Nat} (h : NatText s n) (h' : NatText s m) : n = m := by
  have hread : readNat (max n m) s = .ok n := readNat_eq_ok_iff.mpr ⟨h, Nat.le_max_left n m⟩
  rw [readNat_eq_ok_iff.mpr ⟨h', Nat.le_max_right n m⟩] at hread
  exact (Except.ok.inj hread).symm

theorem readInt_of_minus {bound : Nat} {s : String} {digits : List Char}
    (h : s.toList = '-' :: digits) :
    readInt bound s = (readMagnitude (bound + 1) .tooSmall digits).map fun n => -Int.ofNat n := by
  unfold readInt
  rw [h]
  rfl

/-- Without a minus sign a number is read like one that cannot have any. -/
theorem readInt_of_no_minus {bound : Nat} {s : String} (h : ∀ digits, s.toList ≠ '-' :: digits) :
    readInt bound s = (readNat bound s).map Int.ofNat := by
  unfold readInt readNat
  split
  · rename_i hs
    rw [hs]
    rfl
  · rename_i digits hs
    rw [hs]
    rfl
  · rename_i digits hs
    exact absurd hs (h digits)
  · rename_i hnil hplus _
    split
    · rename_i hs
      exact absurd hs hnil
    · rename_i digits hs
      exact absurd hs (hplus digits)
    · rfl

/-- Which texts are read as a number with any sign. -/
theorem readInt_eq_ok_iff {bound : Nat} {s : String} {i : Int} :
    readInt bound s = .ok i ↔ IntText s i ∧ -(bound + 1 : Int) ≤ i ∧ i ≤ bound := by
  unfold IntText
  by_cases hminus : ∃ digits, s.toList = '-' :: digits
  · obtain ⟨digits, hs⟩ := hminus
    have hno : ∀ n, ¬ NatText s n := by
      rintro n (h | ⟨digits', hs', -⟩)
      · rw [hs] at h
        exact Decimal.not_sign (by decide) h
      · rw [hs] at hs'
        cases hs'
    simp only [readInt_of_minus hs, map_eq_ok_iff, readMagnitude_eq_ok_iff, hno, false_and,
      exists_false, false_or, hs, List.cons.injEq, true_and]
    constructor
    · rintro ⟨n, ⟨hn, hle⟩, rfl⟩
      exact ⟨⟨digits, n, rfl, hn, rfl⟩, by simp only [Int.ofNat_eq_natCast]; omega,
        by simp only [Int.ofNat_eq_natCast]; omega⟩
    · rintro ⟨⟨digits', n, rfl, hn, rfl⟩, hlow, -⟩
      exact ⟨n, ⟨hn, by omega⟩, rfl⟩
  · have hno : ∀ digits, s.toList ≠ '-' :: digits := fun digits hs => hminus ⟨digits, hs⟩
    simp only [readInt_of_no_minus hno, map_eq_ok_iff, readNat_eq_ok_iff, hno, false_and,
      exists_false, or_false]
    constructor
    · rintro ⟨n, ⟨hn, hle⟩, rfl⟩
      exact ⟨⟨n, hn, rfl⟩, by simp only [Int.ofNat_eq_natCast]; omega,
        by simp only [Int.ofNat_eq_natCast]; omega⟩
    · rintro ⟨⟨n, hn, rfl⟩, -, hle⟩
      exact ⟨n, ⟨hn, by omega⟩, rfl⟩

/-! ## Writing -/

theorem eq_of_digit? {c : Char} {d : Nat} (h : digit? c = some d) :
    c = Char.ofNat (0x30 + d) ∧ d < 10 := by
  unfold digit? at h
  split at h
  · rename_i hc
    have hlow : 0x30 ≤ c.toNat := hc.1
    have hhigh : c.toNat ≤ 0x39 := hc.2
    have hd : c.toNat - 0x30 = d := Option.some.inj h
    rw [show 0x30 + d = c.toNat by omega, Char.ofNat_toNat]
    exact ⟨rfl, by omega⟩
  · cases h

theorem digit?_digitChar {d : Nat} (h : d < 10) : digit? d.digitChar = some d := by
  revert d
  decide

theorem decimal_toDigits (n : Nat) : Decimal (Nat.toDigits 10 n) n := by
  induction n using Nat.strong_induction_on with
  | _ n ih =>
    by_cases hn : n < 10
    · rw [Nat.toDigits_of_lt_base hn]
      exact .digit (digit?_digitChar hn)
    · have hmore := Decimal.more (ih (n / 10) (by omega)) (digit?_digitChar (Nat.mod_lt n (by omega)))
      rw [show n / 10 * 10 + n % 10 = n by omega] at hmore
      rwa [Nat.toDigits_of_base_le (by omega) (by omega)]

/-- What is written of a number has no zeros in front. -/
theorem canonicalDigits_toDigits (n : Nat) : CanonicalDigits (Nat.toDigits 10 n) n := by
  refine ⟨decimal_toDigits n, ?_⟩
  induction n using Nat.strong_induction_on with
  | _ n ih =>
    intro rest hrest
    by_cases hn : n < 10
    · rw [Nat.toDigits_of_lt_base hn] at hrest
      exact (List.cons.inj hrest).2.symm
    · rw [Nat.toDigits_of_base_le (by omega) (by omega)] at hrest
      obtain ⟨c, cs, hcs⟩ := List.exists_cons_of_ne_nil
        (Nat.toDigits_ne_nil : Nat.toDigits 10 (n / 10) ≠ [])
      rw [hcs, List.cons_append] at hrest
      obtain ⟨rfl, -⟩ := List.cons.inj hrest
      -- the digits in front are not a zero, since what they stand for is none
      obtain rfl := ih (n / 10) (by omega) cs hcs
      have hzero : n / 10 = 0 := eq_zero_of_decimal (hcs ▸ decimal_toDigits (n / 10))
      omega

theorem toList_toString (n : Nat) : (toString n).toList = Nat.toDigits 10 n := by
  rw [Nat.toString_eq_repr, Nat.toList_repr]

/-- Only digits stand in a number without a sign. -/
theorem not_mem_toString {c : Char} (h : digit? c = none) (n : Nat) : c ∉ (toString n).toList := by
  intro hc
  rw [toList_toString] at hc
  have hsome := (decimal_toDigits n).isSome_digit? hc
  rw [h] at hsome
  cases hsome

theorem natText_toString (n : Nat) : NatText (toString n) n := by
  left
  rw [toList_toString]
  exact decimal_toDigits n

theorem canonicalNat_toString (n : Nat) : CanonicalNat (toString n) n := by
  rw [CanonicalNat, toList_toString]
  exact canonicalDigits_toDigits n

theorem toList_toString_negSucc (n : Nat) :
    (toString (Int.negSucc n)).toList = '-' :: (toString (n + 1)).toList := by
  show ("-" ++ toString (n + 1)).toList = _
  rw [String.toList_append]
  rfl

theorem not_mem_toString_int {c : Char} (h : digit? c = none) (hminus : c ≠ '-') (i : Int) :
    c ∉ (toString i).toList := by
  cases i with
  | ofNat n => exact not_mem_toString h n
  | negSucc n =>
    rw [toList_toString_negSucc, List.mem_cons, not_or]
    exact ⟨hminus, not_mem_toString h (n + 1)⟩

theorem intText_toString (i : Int) : IntText (toString i) i := by
  cases i with
  | ofNat n => exact .inl ⟨n, natText_toString n, rfl⟩
  | negSucc n =>
    right
    refine ⟨Nat.toDigits 10 (n + 1), n + 1, ?_, decimal_toDigits (n + 1), rfl⟩
    rw [toList_toString_negSucc, toList_toString]

theorem canonicalInt_toString (i : Int) : CanonicalInt (toString i) i := by
  cases i with
  | ofNat n => exact .unsigned (canonicalNat_toString n)
  | negSucc n =>
    exact .negative (toList_toString_negSucc n) (canonicalNat_toString (n + 1)) (Nat.succ_pos n)

/-- A number comes back from its digits. -/
theorem readNat_toString {bound n : Nat} (h : n ≤ bound) : readNat bound (toString n) = .ok n :=
  readNat_eq_ok_iff.mpr ⟨natText_toString n, h⟩

theorem isBlank_of_isDigit {c : Char} (h : c.isDigit = true) : isBlank c = false := by
  have hdigits : ∀ d, d < 10 → isBlank (Char.ofNat (48 + d)) = false := by decide
  obtain ⟨hlow, hhigh⟩ : 48 ≤ c.toNat ∧ c.toNat ≤ 57 := by
    simpa [Char.isDigit, UInt32.le_iff_toNat_le] using h
  have hc := hdigits (c.toNat - 48) (by omega)
  rwa [show 48 + (c.toNat - 48) = c.toNat by omega, Char.ofNat_toNat] at hc

theorem isBlank_of_mem_toString {n : Nat} {c : Char} (h : c ∈ (toString n).toList) :
    isBlank c = false := by
  rw [toList_toString] at h
  exact isBlank_of_isDigit (Nat.isDigit_of_mem_toDigits (by omega) (by omega) h)

theorem isBlankText_toString (n : Nat) : isBlankText (toString n) = false := by
  obtain ⟨c, cs, hcs⟩ := List.exists_cons_of_ne_nil (Nat.toDigits_ne_nil : Nat.toDigits 10 n ≠ [])
  have hmem : c ∈ (toString n).toList := by
    rw [toList_toString, hcs]
    exact List.mem_cons_self
  rw [isBlankText, List.all_eq_false]
  exact ⟨c, hmem, by simp [isBlank_of_mem_toString hmem]⟩

theorem trim_toString (n : Nat) : trim (toString n) = toString n :=
  trim_eq_self_of_no_blank fun _ hc => isBlank_of_mem_toString hc

end ReplyStage.Text
