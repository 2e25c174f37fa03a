import Mathlib.Algebra.Order.Ring.Nat
import ReplyStage.Binary64
/-!
# Numbers with a binary point

Rounding leaves a mantissa of at most 53 bits (`storable_ofRatio?`). For a number with such a mantissa
one of the grids that are tried has a decimal, at least where the decimal would be written without an
exponent (`shortest_digits_ne_zero`).
-/

namespace ReplyStage.Binary64

/-! ## The mantissa -/

/-- A mantissa as it can be stored. -/
def Storable (x : Binary64) : Prop := x.mantissa < Nat.pow 2 53

theorem divRound_cases (num den : Nat) :
    divRound num den = num / den ∨ divRound num den = num / den + 1 := by
  unfold divRound
  dsimp only
  split
  · exact .inl rfl
  · split
    · exact .inr rfl
    · split
      · exact .inl rfl
      · exact .inr rfl

theorem divRound_le_succ (num den : Nat) : divRound num den ≤ num / den + 1 := by
  rcases divRound_cases num den with h | h
  · exact h ▸ Nat.le_succ _
  · exact h ▸ Nat.le_refl _

theorem le_divRound (num den : Nat) : num / den ≤ divRound num den := by
  rcases divRound_cases num den with h | h
  · exact h ▸ Nat.le_refl _
  · exact h ▸ Nat.le_succ _

theorem mul_two_pow_lt {num den a b : Nat} (hden : 0 < den)
    (h : num.log2 + 1 + a ≤ den.log2 + b) : num * 2 ^ a < den * 2 ^ b := by
  calc num * 2 ^ a < 2 ^ (num.log2 + 1) * 2 ^ a :=
        Nat.mul_lt_mul_of_pos_right Nat.lt_log2_self (Nat.two_pow_pos a)
    _ = 2 ^ (num.log2 + 1 + a) := (Nat.pow_add ..).symm
    _ ≤ 2 ^ (den.log2 + b) := Nat.pow_le_pow_right (by decide) h
    _ = 2 ^ den.log2 * 2 ^ b := Nat.pow_add ..
    _ ≤ den * 2 ^ b := Nat.mul_le_mul_right _ (Nat.log2_self_le (by omega))

/-- An exponent above the guess brings the quotient below `2 ^ 53`. -/
theorem scaled_lt {num den : Nat} (hden : 0 < den) {e : Int}
    (he : (num.log2 : Int) - den.log2 - 53 < e) :
    (scaled num den e).1 < (scaled num den e).2 * Nat.pow 2 53 := by
  cases e with
  | ofNat k =>
    have hlt : num * 2 ^ 0 < den * 2 ^ (k + 53) :=
      mul_two_pow_lt hden (by simp only [Int.ofNat_eq_natCast] at he; omega)
    rw [Nat.pow_add, ← Nat.mul_assoc, Nat.pow_zero, Nat.mul_one] at hlt
    simpa only [scaled, Nat.pow_eq] using hlt
  | negSucc k =>
    have hlt : num * 2 ^ (k + 1) < den * 2 ^ 53 := mul_two_pow_lt hden (by omega)
    simpa only [scaled, Nat.pow_eq] using hlt

theorem settle_lt {num den : Nat} (hden : 0 < den) {guess : Int}
    (hguess : (num.log2 : Int) - den.log2 - 53 ≤ guess) :
    (scaled num den (settle num den guess)).1 <
      (scaled num den (settle num den guess)).2 * Nat.pow 2 53 := by
  unfold settle
  dsimp only
  split
  · assumption
  · exact scaled_lt hden (by omega)

theorem divRound_settle_le {num den : Nat} (hden : 0 < den) {guess : Int}
    (hguess : (num.log2 : Int) - den.log2 - 53 ≤ guess) :
    divRound (scaled num den (settle num den guess)).1 (scaled num den (settle num den guess)).2 ≤
      Nat.pow 2 53 :=
  Nat.le_trans (divRound_le_succ _ _)
    (Nat.succ_le_of_lt (Nat.div_lt_of_lt_mul (settle_lt hden hguess)))

theorem storable_ofRatio? {negative : Bool} {num den : Nat} {x : Binary64} (hden : 0 < den)
    (h : ofRatio? negative num den = some x) : x.Storable := by
  unfold ofRatio? at h
  split at h
  · cases h
    exact Nat.two_pow_pos 53
  · -- the quotient stays as it is, since nothing may work the power of two out digit by digit
    extract_lets guess e at h
    have hround : divRound (scaled num den e).1 (scaled num den e).2 ≤ Nat.pow 2 53 :=
      divRound_settle_le hden (Int.le_max_left guess minExponent)
    generalize scaled num den e = quotient at h hround
    split at h
    extract_lets m at h
    change m ≤ _ at hround
    clear_value m
    split at h
    rename_i hcarried
    split at h
    · obtain rfl := Option.some.inj h
      show _ < Nat.pow 2 53
      split at hcarried
      · obtain ⟨rfl, -⟩ := Prod.mk.inj hcarried
        exact Nat.pow_lt_pow_right (a := 2) (m := 52) (n := 53) (by decide) (by decide)
      · rename_i hm
        obtain ⟨rfl, -⟩ := Prod.mk.inj hcarried
        exact Nat.lt_of_le_of_ne hround hm
    · exact absurd h (Option.some_ne_none x).symm

theorem storable_ofNat? {n : Nat} {x : Binary64} (h : ofNat? n = some x) : x.Storable :=
  storable_ofRatio? Nat.one_pos h

theorem ratio_snd_pos (x : Binary64) : 0 < x.ratio.2 := by
  unfold ratio
  cases x.exponent with
  | ofNat k => exact Nat.one_pos
  | negSucc k => exact Nat.pow_pos (by decide)

theorem ratio_fst_pos {x : Binary64} (h : x.mantissa ≠ 0) : 0 < x.ratio.1 := by
  unfold ratio
  cases x.exponent with
  | ofNat k => exact Nat.mul_pos (Nat.pos_of_ne_zero h) (Nat.pow_pos (by decide))
  | negSucc k => exact Nat.pos_of_ne_zero h

theorem storable_mul? {x y z : Binary64} (h : x.mul? y = some z) : z.Storable :=
  storable_ofRatio? (Nat.mul_pos x.ratio_snd_pos y.ratio_snd_pos) h

theorem storable_div? {x y z : Binary64} (h : x.div? y = some z) : z.Storable := by
  unfold div? at h
  split at h
  · cases h
  · rename_i hy
    have hne : y.mantissa ≠ 0 := by simpa [isZero] using hy
    exact storable_ofRatio? (Nat.mul_pos x.ratio_snd_pos (ratio_fst_pos hne)) h

theorem storable_zero (negative : Bool) : (zero negative).Storable := Nat.two_pow_pos 53

theorem Storable.neg {x : Binary64} (h : x.Storable) : x.neg.Storable := h

/-! ## The shortest decimal -/

namespace Rounding

variable {i : Rounding} {digits : Nat} {e : Int}

theorem holds_of_lt (hlow : i.low * (tenTo e).2 < digits * (tenTo e).1 * i.den)
    (hhigh : digits * (tenTo e).1 * i.den < i.high * (tenTo e).2) : i.holds digits e = true := by
  unfold holds
  dsimp only
  split
  · simp only [Bool.and_eq_true, decide_eq_true_eq]
    exact ⟨Nat.le_of_lt hlow, Nat.le_of_lt hhigh⟩
  · simp only [Bool.and_eq_true, decide_eq_true_eq]
    exact ⟨hlow, hhigh⟩

/-- Zero rounds to no other number. -/
theorem not_holds_zero (hlow : 0 < i.low) : i.holds 0 e = false := by
  have hten : 0 < (tenTo e).2 := by
    cases e with
    | ofNat k => exact Nat.one_pos
    | negSucc k => exact Nat.pow_pos (by decide)
  have hpos := Nat.mul_pos hlow hten
  unfold holds
  dsimp only
  rw [Nat.zero_mul, Nat.zero_mul, decide_eq_false (Nat.not_le.mpr hpos),
    decide_eq_false (Nat.not_lt_zero _)]
  split
  all_goals rfl

theorem digits_ne_zero_of_onGrid? (hlow : 0 < i.low) (h : i.onGrid? e = some digits) :
    digits ≠ 0 := by
  unfold onGrid? at h
  dsimp only at h
  split at h
  · rename_i hbelow _
    cases h
    intro hzero
    have hle := le_divRound (i.value * (tenTo e).2) (i.den * (tenTo e).1)
    rw [hzero] at hle
    rw [Nat.eq_zero_of_le_zero hle, not_holds_zero hlow] at hbelow
    cases hbelow
  · rename_i hbelow _
    cases h
    intro hzero
    rw [hzero, not_holds_zero hlow] at hbelow
    cases hbelow
  · cases h
    exact Nat.succ_ne_zero _
  · cases h

/-- A grid that is fine enough has a decimal: the next one above the number. -/
theorem onGrid?_ne_none (hden : 0 < i.den * (tenTo e).1)
    (hlow : i.low * (tenTo e).2 ≤ i.value * (tenTo e).2)
    (hhigh : i.value * (tenTo e).2 + i.den * (tenTo e).1 < i.high * (tenTo e).2) :
    i.onGrid? e ≠ none := by
  have habove : i.holds (i.value * (tenTo e).2 / (i.den * (tenTo e).1) + 1) e = true := by
    have hmul : (i.value * (tenTo e).2 / (i.den * (tenTo e).1) + 1) * (tenTo e).1 * i.den =
        i.value * (tenTo e).2 / (i.den * (tenTo e).1) * (i.den * (tenTo e).1) +
          i.den * (tenTo e).1 := by
      rw [Nat.mul_assoc, Nat.mul_comm (tenTo e).1, Nat.add_mul, Nat.one_mul]
    have hdiv := Nat.div_add_mod' (i.value * (tenTo e).2) (i.den * (tenTo e).1)
    have hmod := Nat.mod_lt (i.value * (tenTo e).2) hden
    refine holds_of_lt ?_ ?_
    · rw [hmul]
      omega
    · rw [hmul]
      omega
  unfold onGrid?
  dsimp only
  rw [habove]
  split
  all_goals
    simp_all

/-- Where no grid has a decimal, the finest of them does not. -/
theorem coarsest_eq (hlow : 0 < i.low) (count : Nat) (h : (i.coarsest e (count + 1)).digits = 0) :
    (i.coarsest e (count + 1)).exponent = e - (count + 1) ∧ i.onGrid? (e - count) = none := by
  induction count generalizing e with
  | zero =>
    rw [coarsest] at h ⊢
    split at h
    · rename_i hgrid
      exact absurd h (digits_ne_zero_of_onGrid? hlow hgrid)
    · rename_i hgrid
      simpa [coarsest] using hgrid
  | succ count ih =>
    rw [coarsest] at h ⊢
    split at h
    · rename_i hgrid
      exact absurd h (digits_ne_zero_of_onGrid? hlow hgrid)
    · obtain ⟨hexponent, hgrid⟩ := ih h
      refine ⟨by rw [hexponent]; push_cast; omega, ?_⟩
      rwa [show e - ((count + 1 : Nat) : Int) = e - 1 - count by push_cast; omega]

end Rounding

theorem rounding_low_pos {x : Binary64} (h : x.mantissa ≠ 0) : 0 < x.rounding.low := by
  have hbelow : ∀ (p : Prop) [Decidable p], 0 < 4 * x.mantissa - if p then 1 else 2 := by
    intro p _
    split <;> omega
  unfold rounding
  cases x.exponent with
  | ofNat k => exact Nat.mul_pos (hbelow _) (Nat.pow_pos (by decide))
  | negSucc k => exact Nat.mul_pos (hbelow _) Nat.one_pos

/-- A number with a large exponent is a multiple of that power of two, and the numbers next to it are
half as far away as they are from each other. -/
theorem rounding_ofNat {x : Binary64} {k : Nat} (h : x.exponent = .ofNat k) :
    x.rounding.low ≤ x.rounding.value ∧ x.rounding.high = x.rounding.value + 2 * 2 ^ k ∧
      x.rounding.den = 4 := by
  unfold rounding
  rw [h]
  exact ⟨Nat.mul_le_mul_right _ (Nat.sub_le ..), Nat.add_mul .., rfl⟩

/-- The shortest decimal has digits, where they are to be followed by fewer than sixteen zeros. -/
theorem shortest_digits_ne_zero {x : Binary64} (hx : x.Storable) (hne : x.mantissa ≠ 0)
    (hpos : 0 < x.shortest.exponent) (hlt : x.shortest.exponent < 16) : x.shortest.digits ≠ 0 := by
  intro hdigits
  obtain ⟨hexponent, hgrid⟩ := Rounding.coarsest_eq (rounding_low_pos hne) 23 hdigits
  change x.shortest.exponent = _ at hexponent
  rw [hexponent] at hpos hlt
  have hlog : x.mantissa.log2 < 53 := (Nat.log2_lt hne).mpr hx
  -- the finest grid that was tried is a power of ten with a small exponent
  obtain ⟨k, hk⟩ : ∃ k, x.exponent = .ofNat k :=
    Int.eq_ofNat_of_zero_le (a := x.exponent) (by omega)
  obtain ⟨n, hn⟩ := Int.eq_ofNat_of_zero_le
    (a := ((x.mantissa.log2 : Int) + x.exponent) * 30103 / 100000 + 2 - (23 : Nat)) (by omega)
  have hexponents : 4 * n + 1 < k := by
    rw [hk] at hn hpos hlt
    simp only [Int.ofNat_eq_natCast] at hn hpos hlt
    omega
  have hfine : 2 * 10 ^ n < 2 ^ k := by
    calc 2 * 10 ^ n ≤ 2 * 16 ^ n := Nat.mul_le_mul_left 2 (Nat.pow_le_pow_left (by decide) n)
      _ = 2 ^ (4 * n + 1) := by rw [Nat.pow_succ, Nat.pow_mul, Nat.mul_comm]
      _ < 2 ^ k := Nat.pow_lt_pow_right (by decide) hexponents
  obtain ⟨hlow, hhigh, hden⟩ := rounding_ofNat hk
  have htenTo : tenTo (n : Int) = (10 ^ n, 1) := rfl
  rw [hn] at hgrid
  refine Rounding.onGrid?_ne_none ?_ ?_ ?_ hgrid
  · rw [hden, htenTo]
    exact Nat.mul_pos (by decide) (Nat.pow_pos (by decide))
  · exact Nat.mul_le_mul_right _ hlow
  · rw [hhigh, hden, htenTo, Nat.mul_one, Nat.mul_one]
    omega

end ReplyStage.Binary64
