import Mathlib.Algebra.Order.Ring.Nat
import Mathlib.Tactic.Ring
import CloudPolicy.Number.Binary64

/-! Rounding. A rounded number of units is a whole number of steps, half a step at most away from
what was rounded. So the results of the operations are numbers of the format, and what stays half a
step below the limit does not become infinite. -/

namespace CloudPolicy.Binary64

/-! ### Steps -/

theorem bitLength_le_iff {n k : Nat} : bitLength n ≤ k ↔ n < 2 ^ k := by
  rw [bitLength]
  split
  next h =>
    rw [h]
    exact iff_of_true (Nat.zero_le k) (Nat.two_pow_pos k)
  next h => rw [Nat.succ_le_iff, Nat.log2_lt h]

theorem two_pow_le_of_lt_bitLength {n k : Nat} (h : k < bitLength n) : 2 ^ k ≤ n := by
  by_contra hlt
  exact absurd (bitLength_le_iff.2 (Nat.not_le.1 hlt)) (Nat.not_le.2 h)

theorem spacing_pos (units : Nat) : 0 < spacing units := Nat.two_pow_pos _

theorem spacing_le {units k : Nat} (h : units < 2 ^ (precision + k)) : spacing units ≤ 2 ^ k := by
  have hbits := bitLength_le_iff.2 h
  exact Nat.pow_le_pow_right (by decide) (by omega)

theorem two_pow_dvd_spacing {units k : Nat} (h : 2 ^ (precision + k) ≤ units) :
    2 ^ (k + 1) ∣ spacing units := by
  have hbits : ¬ bitLength units ≤ precision + k := by
    rw [bitLength_le_iff]
    exact Nat.not_lt.2 h
  exact Nat.pow_dvd_pow 2 (by omega)

/-- Steps are units, or small against the number. -/
theorem spacing_eq_one_or_le (units : Nat) :
    spacing units = 1 ∨ spacing units * 2 ^ (precision - 1) ≤ units := by
  by_cases h : bitLength units ≤ precision
  · left
    rw [spacing, Nat.sub_eq_zero_of_le h]
  · right
    show 2 ^ (bitLength units - precision) * 2 ^ (precision - 1) ≤ units
    rw [← Nat.pow_add]
    exact two_pow_le_of_lt_bitLength (by simp only [precision] at h ⊢; omega)

theorem limit_eq : limit = 2 ^ (precision + (2044 + 1)) := by decide +kernel

-- The powers are too large to be written out.
attribute [local irreducible] limit one

/-- The units of a finite number of the format. -/
def Representable (units : Nat) : Prop := units < limit ∧ spacing units ∣ units

theorem spacing_dvd_mul {steps : Nat} (hsteps : steps ≤ 2 ^ precision) (k : Nat) :
    spacing (steps * 2 ^ k) ∣ steps * 2 ^ k := by
  rcases Nat.lt_or_eq_of_le hsteps with hlt | rfl
  · have hless : steps * 2 ^ k < 2 ^ (precision + k) := by
      rw [Nat.pow_add]
      exact Nat.mul_lt_mul_of_pos_right hlt (Nat.two_pow_pos k)
    have hbits := bitLength_le_iff.2 hless
    exact Dvd.dvd.mul_left (Nat.pow_dvd_pow 2 (by omega)) steps
  · rw [← Nat.pow_add]
    have hbits : bitLength (2 ^ (precision + k)) ≤ precision + k + 1 :=
      bitLength_le_iff.2 (Nat.pow_lt_pow_right (by decide) (Nat.lt_succ_self _))
    exact Nat.pow_dvd_pow 2 (by simp only [precision] at hbits ⊢; omega)

/-! ### Rounding to steps -/

theorem nearest_le (num den step : Nat) : nearest num den step ≤ num / (den * step) + 1 := by
  rw [nearest]
  split
  · omega
  · split <;> omega

/-- A rounded number lies at most half a step above what was rounded. -/
theorem two_mul_nearest_le (num : Nat) {den step : Nat} (h : 0 < den * step) :
    2 * (nearest num den step * (den * step)) ≤ 2 * num + den * step := by
  have hdiv := Nat.div_add_mod num (den * step)
  have hmod := Nat.mod_lt num h
  rw [nearest]
  generalize num / (den * step) = quotient at *
  generalize num % (den * step) = remainder at *
  generalize den * step = unit at *
  rw [Nat.mul_comm] at hdiv
  split
  · omega
  next hbelow =>
    have hup : (quotient + 1) * unit = quotient * unit + unit := Nat.succ_mul quotient unit
    split
    · omega
    · have heven : (quotient + quotient % 2) * unit ≤ (quotient + 1) * unit :=
        Nat.mul_le_mul_right _ (by omega)
      omega

theorem two_mul_roundUnits_le (num : Nat) {den : Nat} (hden : 0 < den) :
    2 * (roundUnits num den * den) ≤ 2 * num + den * spacing (num / den) := by
  have h := two_mul_nearest_le num (Nat.mul_pos hden (spacing_pos (num / den)))
  rw [roundUnits]
  rwa [Nat.mul_assoc, Nat.mul_comm (spacing _)]

theorem representable_roundUnits {num den : Nat} (h : roundUnits num den < limit) :
    Representable (roundUnits num den) := by
  refine ⟨h, ?_⟩
  have hlt : num / den < spacing (num / den) * 2 ^ precision := by
    show _ < 2 ^ (bitLength (num / den) - precision) * 2 ^ precision
    rw [← Nat.pow_add]
    exact bitLength_le_iff.1 (by omega)
  have hquotient : num / (den * spacing (num / den)) < 2 ^ precision := by
    rw [← Nat.div_div_eq_div_mul]
    exact Nat.div_lt_of_lt_mul hlt
  exact spacing_dvd_mul ((nearest_le _ _ _).trans hquotient) _

/-- The relative error of rounding whole units. -/
theorem roundUnits_one_le (units : Nat) :
    roundUnits units 1 * 2 ^ precision ≤ units * (2 ^ precision + 1) := by
  have h := two_mul_roundUnits_le units Nat.one_pos
  rw [Nat.mul_one, Nat.one_mul, Nat.div_one] at h
  have hhalf : 2 ^ precision = 2 * 2 ^ (precision - 1) := rfl
  rw [Nat.mul_add, Nat.mul_one]
  rcases spacing_eq_one_or_le units with hone | hsmall
  · have hle : roundUnits units 1 ≤ units := by omega
    have := Nat.mul_le_mul_right (2 ^ precision) hle
    omega
  · have := Nat.mul_le_mul_right (2 ^ (precision - 1)) h
    rw [Nat.add_mul] at this
    rw [hhalf]
    calc roundUnits units 1 * (2 * 2 ^ (precision - 1))
        = 2 * roundUnits units 1 * 2 ^ (precision - 1) := by ring
      _ ≤ 2 * units * 2 ^ (precision - 1) + spacing units * 2 ^ (precision - 1) := this
      _ ≤ units * (2 * 2 ^ (precision - 1)) + units := by
        rw [Nat.mul_assoc, Nat.mul_left_comm]
        exact Nat.add_le_add_left hsmall _

/-- What stays half a step below the limit is rounded to a number below the limit. -/
theorem roundUnits_lt_limit {num den : Nat} (hden : 0 < den)
    (h : num + den * 2 ^ 2044 < den * limit) : roundUnits num den < limit := by
  have hquotient : num / den < 2 ^ (precision + (2044 + 1)) :=
    limit_eq ▸ Nat.div_lt_of_lt_mul (Nat.lt_of_le_of_lt (Nat.le_add_right _ _) h)
  have hstep : den * spacing (num / den) ≤ den * (2 * 2 ^ 2044) :=
    Nat.mul_le_mul_left den ((spacing_le hquotient).trans_eq (pow_succ' 2 2044))
  have hround := two_mul_roundUnits_le num hden
  rw [Nat.mul_left_comm] at hstep
  rw [Nat.mul_comm (roundUnits _ _)] at hround
  generalize 2 ^ 2044 = half at h hstep
  exact Nat.lt_of_mul_lt_mul_left (a := den) (by omega)

/-- A number of the format is rounded to itself. -/
theorem roundUnits_mul {units den : Nat} (hden : 0 < den) (h : spacing units ∣ units) :
    roundUnits (units * den) den = units := by
  have hquotient : units * den / den = units := Nat.mul_div_cancel units hden
  obtain ⟨steps, hsteps⟩ := h
  have hexact : units * den = steps * (den * spacing units) := by
    conv_lhs => rw [hsteps]
    ring
  have hpos : 0 < den * spacing units := Nat.mul_pos hden (spacing_pos units)
  have hnearest : nearest (units * den) den (spacing units) = steps := by
    unfold nearest
    dsimp only
    rw [hexact, Nat.mul_mod_left, if_pos hpos, Nat.mul_div_cancel _ hpos]
  unfold roundUnits
  dsimp only
  rw [hquotient, hnearest, Nat.mul_comm]
  exact hsteps.symm

theorem one_eq : one = 2 ^ 1074 := by decide +kernel

theorem one_pos : 0 < one := by decide +kernel

/-- A natural number that fits into the significand is not rounded. -/
theorem ofUnits_of_le {n den : Nat} (h : n ≤ 2 ^ precision) (hden : 0 < den) (negative : Bool) :
    ofUnits negative (n * one * den) den = finite negative (n * one) := by
  have hspacing : spacing (n * one) ∣ n * one := by
    rw [one_eq]
    exact spacing_dvd_mul h 1074
  have hlimit : n * one < limit := by
    calc n * one ≤ 2 ^ precision * one := Nat.mul_le_mul_right _ h
      _ < limit := by decide +kernel
  unfold ofUnits
  simp only [roundUnits_mul hden hspacing, if_pos hlimit]

theorem ofNat_of_le {n : Nat} (h : n ≤ 2 ^ precision) : ofNat n = finite false (n * one) := by
  have hsign : decide ((n : Int) < 0) = false := decide_eq_false (by omega)
  have hexact := ofUnits_of_le h Nat.one_pos false
  rw [Nat.mul_one] at hexact
  rw [ofNat, ofInt, hsign, Int.natAbs_natCast, hexact]

/-- Rounding does not cross a power of two. -/
theorem two_pow_le_roundUnits {num k : Nat} (h : 2 ^ k ≤ num) : 2 ^ k ≤ roundUnits num 1 := by
  have hbits : k < bitLength num := by
    by_contra hle
    exact absurd (bitLength_le_iff.1 (Nat.not_lt.1 hle)) (Nat.not_lt.2 h)
  obtain ⟨power, hpower⟩ : ∃ power, bitLength num = power + 1 :=
    ⟨bitLength num - 1, by omega⟩
  have hleading : 2 ^ power ≤ num := two_pow_le_of_lt_bitLength (by omega)
  obtain ⟨steps, hsteps⟩ : spacing num ∣ 2 ^ power :=
    Nat.pow_dvd_pow 2 (by simp only [precision]; omega)
  have hquotient : steps ≤ num / spacing num := by
    rw [Nat.le_div_iff_mul_le (spacing_pos num), Nat.mul_comm]
    exact hsteps ▸ hleading
  have hnearest : num / spacing num ≤ nearest num 1 (spacing num) := by
    unfold nearest
    rw [Nat.one_mul]
    dsimp only
    split
    · exact Nat.le_refl _
    · split <;> omega
  calc 2 ^ k ≤ 2 ^ power := Nat.pow_le_pow_right (by decide) (by omega)
    _ = steps * spacing num := hsteps.trans (Nat.mul_comm _ _)
    _ ≤ nearest num 1 (spacing num) * spacing num :=
      Nat.mul_le_mul_right _ (hquotient.trans hnearest)
    _ = roundUnits num 1 := by rw [roundUnits, Nat.div_one]

/-! ### Results of operations -/

/-- The value is a number of the format. -/
def Sound : Binary64 → Prop
  | finite _ units => Representable units
  | infinite _ => True
  | nan => True

theorem sound_zero (negative : Bool) : (finite negative 0).Sound :=
  ⟨limit_eq ▸ Nat.two_pow_pos _, Nat.dvd_zero _⟩

theorem sound_ofUnits (negative : Bool) (num den : Nat) : (ofUnits negative num den).Sound := by
  rw [ofUnits]
  split
  next h => exact representable_roundUnits h
  next => exact True.intro

theorem sound_ofNat (n : Nat) : (ofNat n).Sound := by
  rw [ofNat, ofInt]
  exact sound_ofUnits _ _ _

theorem sound_negate {x : Binary64} (h : x.Sound) : x.negate.Sound := by
  cases x <;> exact h

theorem sound_mul (x y : Binary64) : (x.mul y).Sound := by
  cases x with
  | nan => exact True.intro
  | finite negative units =>
      cases y with
      | nan => exact True.intro
      | infinite other =>
          rw [mul]
          split <;> exact True.intro
      | finite other units' => exact sound_ofUnits _ _ _
  | infinite negative =>
      cases y with
      | nan => exact True.intro
      | infinite other => exact True.intro
      | finite other units' =>
          rw [mul]
          split <;> exact True.intro

theorem sound_div (x y : Binary64) : (x.div y).Sound := by
  cases x with
  | nan => exact True.intro
  | finite negative units =>
      cases y with
      | nan => exact True.intro
      | infinite other => exact sound_zero _
      | finite other units' =>
          rw [div]
          split
          · split <;> exact True.intro
          · exact sound_ofUnits _ _ _
  | infinite negative => cases y <;> exact True.intro

/-! ### Results that are numbers -/

theorem ofUnits_ne_nan (negative : Bool) (num den : Nat) : ofUnits negative num den ≠ nan := by
  unfold ofUnits
  dsimp only
  split <;> nofun

theorem negate_ne_nan {x : Binary64} (h : x ≠ nan) : x.negate ≠ nan := by
  cases x with
  | nan => exact absurd rfl h
  | _ => nofun

/-- Dividing by a finite number other than zero gives a number. -/
theorem div_ne_nan {x : Binary64} (h : x ≠ nan) (negative : Bool) {units : Nat} (hunits : units ≠ 0) :
    x.div (finite negative units) ≠ nan := by
  cases x with
  | nan => exact absurd rfl h
  | infinite other => nofun
  | finite other dividend =>
      rw [div, if_neg hunits]
      exact ofUnits_ne_nan _ _ _

/-- Nothing but what is not a number differs from itself. -/
theorem equal_self {x : Binary64} (h : x ≠ nan) : x.equal x = true := by
  cases x with
  | nan => exact absurd rfl h
  | infinite negative => simp [equal, compare?]
  | finite negative units => simp [equal, compare?]

end CloudPolicy.Binary64
