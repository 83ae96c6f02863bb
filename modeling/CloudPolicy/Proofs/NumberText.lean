import CloudPolicy.Json.Printer
import CloudPolicy.Json.Reader
import CloudPolicy.Proofs.Rounding

/-! Written numbers are read as numbers. The reader takes the text of a number off the front of what
follows it, and does not find it too large: a decimal is written no more than half a step above the
number that it stands for, and what the reader loses by cutting digits, and by rounding twice, does
not reach the limit from there. -/

namespace CloudPolicy

-- The powers are too large to be written out.
attribute [local irreducible] Binary64.one Binary64.limit

/-! ### Digits -/

namespace Number

/-- Decimal digits, at least one. -/
def IsDigits (text : List Char) : Prop := text ≠ [] ∧ ∀ c ∈ text, c.isDigit

theorem isDigits_natDigits (n : Nat) : IsDigits (natDigits n) :=
  ⟨Nat.toDigits_ne_nil, fun _ => Nat.isDigit_of_mem_toDigits (by decide) (by decide)⟩

theorem isDigits_zero : IsDigits ['0'] :=
  ⟨List.cons_ne_nil _ _, List.forall_mem_singleton.2 (by decide)⟩

theorem digitValue_lt {c : Char} (hc : c.isDigit) : digitValue c < 10 := by
  simp only [Char.isDigit, Bool.and_eq_true, decide_eq_true_eq] at hc
  have hnine : c.toNat ≤ 57 := hc.2
  show c.toNat - 48 < 10
  omega

theorem ofDigitChars_lt {digits : List Char} (hdigits : ∀ c ∈ digits, c.isDigit) (n : Nat) :
    Nat.ofDigitChars 10 digits n < (n + 1) * 10 ^ digits.length := by
  induction digits generalizing n with
  | nil =>
      rw [Nat.ofDigitChars_nil, List.length_nil]
      omega
  | cons c digits ih =>
      have hc : c.toNat - '0'.toNat < 10 := digitValue_lt (hdigits c List.mem_cons_self)
      rw [Nat.ofDigitChars_cons]
      refine (ih (fun d hd => hdigits d (List.mem_cons_of_mem c hd)) _).trans_le ?_
      rw [List.length_cons, Nat.pow_succ', ← Nat.mul_assoc]
      exact Nat.mul_le_mul_right _ (by omega)

theorem mul_pow_le_ofDigitChars (digits : List Char) (n : Nat) :
    n * 10 ^ digits.length ≤ Nat.ofDigitChars 10 digits n := by
  rw [Nat.ofDigitChars_eq_ofDigitChars_zero, Nat.mul_comm]
  exact Nat.le_add_right _ _

/-- A number above zero is written without leading zeros. -/
theorem head_natDigits_ne_zero {n : Nat} (hn : 0 < n) : (natDigits n).head? ≠ some '0' := by
  intro hzero
  obtain ⟨digits, hdigits⟩ := List.head?_eq_some_iff.1 hzero
  have hvalue : Nat.ofDigitChars 10 digits 0 = n := by
    rw [← Nat.ofDigitChars_ten_toDigits (n := n)]
    show _ = Nat.ofDigitChars 10 (natDigits n) 0
    rw [hdigits, Nat.ofDigitChars_cons]
    rfl
  have hall : ∀ c ∈ digits, c.isDigit := fun c hc =>
    (isDigits_natDigits n).2 c (hdigits ▸ List.mem_cons_of_mem _ hc)
  have hlt : n < 10 ^ digits.length := by
    have := ofDigitChars_lt hall 0
    rwa [hvalue, Nat.zero_add, Nat.one_mul] at this
  rcases Nat.eq_zero_or_pos digits.length with hnone | hsome
  · rw [hnone] at hlt
    omega
  · have hlength : (natDigits n).length ≤ digits.length :=
      (Nat.length_toDigits_le_iff (by decide) hsome).2 hlt
    rw [hdigits, List.length_cons] at hlength
    omega

/-! ### Shortest decimals -/

/-- Moving `z` places between a number and its power of ten. -/
theorem mul_pow_le_iff (a b z : Nat) (p : Int) :
    a * 10 ^ (p + z).toNat ≤ b * 10 ^ (-(p + z)).toNat ↔
      a * 10 ^ z * 10 ^ p.toNat ≤ b * 10 ^ (-p).toNat := by
  obtain ⟨moved, hleft, hright⟩ : ∃ moved, z + p.toNat = (p + z).toNat + moved ∧
      (-p).toNat = (-(p + z)).toNat + moved := ⟨z + p.toNat - (p + z).toNat, by omega, by omega⟩
  rw [Nat.mul_assoc, ← Nat.pow_add, hleft, hright, Nat.pow_add, Nat.pow_add, ← Nat.mul_assoc,
    ← Nat.mul_assoc, Nat.mul_le_mul_right_iff (Nat.pow_pos (by decide))]

namespace Decimal

/-- The power of ten of the last digit. -/
def last (d : Decimal) : Int := d.exponent + 1 - d.digits.length

/-- The decimal can be written, and it is no more than half a step above a number of units. -/
structure Writes (d : Decimal) (units : Nat) : Prop where
  digits : IsDigits d.digits
  leading : d.exponent ≠ 0 → d.digits.head? ≠ some '0'
  bound : 4 * ofDigits d.digits * Binary64.one * 10 ^ d.last.toNat ≤
    (4 * units + 2 * Binary64.spacing units) * 10 ^ (-d.last).toNat

end Decimal

/-- Digits without the zeros at their end. -/
theorem exists_trailing_zeros (digits : List Char) : ∃ z : Nat,
    digits = (digits.reverse.dropWhile (· = '0')).reverse ++ List.replicate z '0' := by
  refine ⟨(digits.reverse.takeWhile (· = '0')).length, ?_⟩
  have hzeros : digits.reverse.takeWhile (· = '0') =
      List.replicate (digits.reverse.takeWhile (· = '0')).length '0' :=
    List.eq_replicate_iff.2 ⟨rfl, fun c hc => by
      simpa using List.all_eq_true.1 List.all_takeWhile c hc⟩
  rw [← List.reverse_replicate, ← hzeros, ← List.reverse_append, List.takeWhile_append_dropWhile,
    List.reverse_reverse]

/-- What a candidate was made of: a multiple of its power of ten within the rounding range. -/
theorem exists_of_candidate {units : Nat} {power : Int} {count : Nat} {d : Decimal}
    (h : candidate? units power count = some d) : ∃ n : Nat, 0 < n ∧
      d = ⟨((natDigits n).reverse.dropWhile (· = '0')).reverse,
        power + 1 - count + (natDigits n).length - 1⟩ ∧
      4 * n * Binary64.one * 10 ^ (power + 1 - count).toNat ≤
        (4 * units + 2 * Binary64.spacing units) * 10 ^ (-(power + 1 - count)).toNat := by
  obtain ⟨n, hn, rfl⟩ := Option.map_eq_some_iff.1 h
  have hinside := List.find?_some hn
  simp only [decide_eq_true_eq] at hinside
  obtain ⟨hpos, hinside⟩ := hinside
  refine ⟨n, hpos, rfl, ?_⟩
  generalize power + 1 - (count : Int) = last at hinside ⊢
  by_cases hlast : last < 0
  · have hgreatest : 4 * n * Binary64.one ≤
        (4 * units + 2 * Binary64.spacing units) * 10 ^ last.natAbs := by
      simp only [if_pos hlast] at hinside
      split at hinside <;> simp only [decide_eq_true_eq] at hinside
      · exact hinside.2
      · exact hinside.2.le
    rw [Int.toNat_of_nonpos hlast.le, Nat.pow_zero, Nat.mul_one]
    rwa [show (-last).toNat = last.natAbs by omega]
  · have hgreatest : 4 * n * (Binary64.one * 10 ^ last.natAbs) ≤
        4 * units + 2 * Binary64.spacing units := by
      simp only [if_neg hlast] at hinside
      split at hinside <;> simp only [decide_eq_true_eq] at hinside
      · exact hinside.2
      · exact hinside.2.le
    rw [show (-last).toNat = 0 by omega, Nat.pow_zero, Nat.mul_one, Nat.mul_assoc]
    rwa [show last.toNat = last.natAbs by omega]

theorem writes_of_candidate {units : Nat} {power : Int} {count : Nat} {d : Decimal}
    (h : candidate? units power count = some d) : d.Writes units := by
  obtain ⟨n, hpos, rfl, hbound⟩ := exists_of_candidate h
  obtain ⟨z, hz⟩ := exists_trailing_zeros (natDigits n)
  generalize ((natDigits n).reverse.dropWhile (· = '0')).reverse = kept at hz ⊢
  have hvalue : ofDigits kept * 10 ^ z = n := by
    have := Nat.ofDigitChars_ten_toDigits (n := n)
    rwa [show Nat.toDigits 10 n = natDigits n from rfl, hz, Nat.ofDigitChars_append,
      Nat.ofDigitChars_replicate_zero, Nat.mul_comm] at this
  have hsome : kept ≠ [] := by
    rintro rfl
    rw [show ofDigits [] = 0 from rfl, Nat.zero_mul] at hvalue
    omega
  refine ⟨⟨hsome, fun c hc => ?_⟩, fun _ => ?_, ?_⟩
  · exact (isDigits_natDigits n).2 c (hz ▸ List.mem_append_left _ hc)
  · have hhead := head_natDigits_ne_zero hpos
    rw [hz, List.head?_append] at hhead
    intro hzero
    rw [hzero] at hhead
    exact hhead rfl
  · have hlast : (⟨kept, power + 1 - count + (natDigits n).length - 1⟩ : Decimal).last =
        power + 1 - count + z := by
      have := congrArg List.length hz
      rw [List.length_append, List.length_replicate] at this
      show power + 1 - (count : Int) + (natDigits n).length - 1 + 1 - kept.length = _
      omega
    rw [hlast, mul_pow_le_iff]
    calc 4 * ofDigits kept * Binary64.one * 10 ^ z * 10 ^ (power + 1 - (count : Int)).toNat
        = 4 * n * Binary64.one * 10 ^ (power + 1 - (count : Int)).toNat := by rw [← hvalue]; ring
      _ ≤ _ := hbound

theorem writes_shortest (units : Nat) : (shortest units).Writes units := by
  rw [shortest]
  cases h : (List.range 17).findSome? fun n =>
      candidate? units (leadingPower units Binary64.one) (n + 1) with
  | none => exact ⟨isDigits_zero, by simp, by simp [ofDigits, digitValue]⟩
  | some d =>
      obtain ⟨n, -, hcandidate⟩ := List.exists_of_findSome?_eq_some h
      exact writes_of_candidate hcandidate

end Number

/-! ### Scaling -/

namespace Json

open Number (IsDigits digitValue isDigits_natDigits mul_pow_le_ofDigitChars natDigits ofDigits
  takeSign)
open Binary64 (one limit precision roundUnits roundUnits_one_le roundUnits_lt_limit)

theorem scale?_isSome_of_neg (steps : Nat) (value : Binary64) {power : Int} (h : power < 0) :
    (scale? steps value power).isSome := by
  induction steps generalizing value power with
  | zero => rfl
  | succ steps ih =>
      rw [scale?]
      split
      · rw [if_neg (by omega)]
        rfl
      · split
        · rfl
        · rw [if_neg (by omega)]
          exact ih _ (by omega)

theorem ofNat_eq {n : Nat} (hn : n < 2 ^ 64) :
    Binary64.ofNat n = .finite false (roundUnits (n * one) 1) := by
  have hlarge : 2 ^ 64 * one + 1 * 2 ^ 2044 < 1 * limit := by decide +kernel
  have hlt : roundUnits (n * one) 1 < limit := by
    refine roundUnits_lt_limit Nat.one_pos (Nat.lt_of_le_of_lt ?_ hlarge)
    exact Nat.add_le_add_right (Nat.mul_le_mul_right one hn.le) _
  show Binary64.ofUnits _ _ _ = _
  rw [Binary64.ofUnits, Int.natAbs_natCast, if_pos hlt]
  rfl

theorem powerOfTen_eq {n : Nat} (hn : n ≤ 308) :
    powerOfTen n = .finite false (roundUnits (10 ^ n * one) 1) := by
  have hlarge : 10 ^ 308 * one + 1 * 2 ^ 2044 < 1 * limit := by decide +kernel
  have hlt : roundUnits (10 ^ n * one) 1 < limit := by
    refine roundUnits_lt_limit Nat.one_pos (Nat.lt_of_le_of_lt ?_ hlarge)
    refine Nat.add_le_add_right (Nat.mul_le_mul_right one ?_) _
    exact pow_le_pow_right' (by decide) hn
  have hposition : ¬ ((Nat.toDigits 10 1).length + (n : Int) > 310) := by
    show ¬ ((1 : Nat) + (n : Int) > 310)
    omega
  have hpositive : ¬ ((Nat.toDigits 10 1).length + (n : Int) < -330) := by
    show ¬ ((1 : Nat) + (n : Int) < -330)
    omega
  rw [powerOfTen, Binary64.ofDecimal, if_neg (by decide), if_neg hposition, if_neg hpositive,
    if_neg (by omega), Binary64.ofUnits, Nat.one_mul, Int.natAbs_natCast]
  exact if_pos hlt

/-- Two rounded factors whose exact product stays five halves of the last step below the limit have
a product that is not rounded to infinity. -/
theorem product_lt_limit {a b : Nat} (hbound : a * b * one + 5 * 2 ^ 2044 ≤ limit) :
    roundUnits (roundUnits (a * one) 1 * roundUnits (b * one) 1) one < limit := by
  have hone : 0 < one := Binary64.one_pos
  refine roundUnits_lt_limit hone ?_
  have hlimit : limit = 2 ^ 54 * 2 ^ 2044 := by decide +kernel
  have ha := roundUnits_one_le (a * one)
  have hb := roundUnits_one_le (b * one)
  have hhalf : 0 < 2 ^ 2044 := by decide +kernel
  rw [hlimit] at hbound ⊢
  generalize roundUnits (a * one) 1 = x at *
  generalize roundUnits (b * one) 1 = y at *
  generalize 2 ^ 2044 = half at *
  generalize one = unit at *
  simp only [precision] at ha hb
  have hexact : a * b * unit ≤ (2 ^ 54 - 5) * half := by omega
  have hproduct : x * y * 2 ^ 106 < unit * ((2 ^ 54 - 1) * half) * 2 ^ 106 := by
    calc x * y * 2 ^ 106 = x * 2 ^ 53 * (y * 2 ^ 53) := by ring
      _ ≤ a * unit * (2 ^ 53 + 1) * (b * unit * (2 ^ 53 + 1)) := Nat.mul_le_mul ha hb
      _ = a * b * unit * (unit * (2 ^ 53 + 1) ^ 2) := by ring
      _ ≤ (2 ^ 54 - 5) * half * (unit * (2 ^ 53 + 1) ^ 2) := Nat.mul_le_mul_right _ hexact
      _ = unit * half * ((2 ^ 54 - 5) * (2 ^ 53 + 1) ^ 2) := by ring
      _ < unit * half * ((2 ^ 54 - 1) * 2 ^ 106) :=
        Nat.mul_lt_mul_of_pos_left (by decide) (Nat.mul_pos hone hhalf)
      _ = unit * ((2 ^ 54 - 1) * half) * 2 ^ 106 := by ring
  have hless := Nat.lt_of_mul_lt_mul_right hproduct
  calc x * y + unit * half < unit * ((2 ^ 54 - 1) * half) + unit * half :=
        Nat.add_lt_add_right hless _
    _ = unit * (2 ^ 54 * half) := by ring

theorem scale?_isSome_of_le {s n : Nat} (hs : s < 2 ^ 64)
    (hbound : s * 10 ^ n * one + 5 * 2 ^ 2044 ≤ limit) :
    (scale? 3 (.ofNat s) n).isSome := by
  rw [scale?, Int.natAbs_natCast]
  split
  next hn =>
    rw [if_pos (Int.natCast_nonneg n), ofNat_eq hs, powerOfTen_eq hn, Binary64.mul,
      Binary64.ofUnits, if_pos (product_lt_limit hbound)]
    rfl
  next hn =>
    have hzero : s = 0 := by
      by_contra hpos
      have hlarge : limit < 10 ^ 309 * one := by decide +kernel
      have hpower : 10 ^ 309 ≤ s * 10 ^ n := by
        refine (pow_le_pow_right' (by decide) (show 309 ≤ n by omega)).trans ?_
        exact Nat.le_mul_of_pos_left _ (Nat.pos_of_ne_zero hpos)
      have := Nat.mul_le_mul_right one hpower
      exact absurd (hlarge.trans_le (this.trans ((Nat.le_add_right _ _).trans hbound)))
        (Nat.lt_irrefl _)
    rw [hzero, if_pos]
    · rfl
    · decide +kernel

/-! ### Reading the parts of a number -/

theorem gatherWhole_eq {s : Nat} {digits : List Char}
    (h : Nat.ofDigitChars 10 digits s < 2 ^ 64) :
    gatherWhole s digits = (Nat.ofDigitChars 10 digits s, 0) := by
  induction digits generalizing s with
  | nil => rfl
  | cons c digits ih =>
      rw [Nat.ofDigitChars_cons] at h ⊢
      have hnext : 10 * s + digitValue c < 2 ^ 64 := by
        refine Nat.lt_of_le_of_lt ?_ h
        exact (Nat.le_mul_of_pos_right _ (Nat.pow_pos (by decide))).trans
          (mul_pow_le_ofDigitChars digits _)
      rw [gatherWhole]
      exact (if_pos hnext).trans (ih h)

/-- The digits that are gathered are no more than all of them. -/
theorem gatherFraction_le {s : Nat} (hs : s < 2 ^ 64) (digits : List Char) :
    (gatherFraction s digits).1 < 2 ^ 64 ∧ (gatherFraction s digits).2 ≤ digits.length ∧
      (gatherFraction s digits).1 * 10 ^ (digits.length - (gatherFraction s digits).2) ≤
        Nat.ofDigitChars 10 digits s := by
  induction digits generalizing s with
  | nil => exact ⟨hs, Nat.le_refl 0, (Nat.mul_one s).le⟩
  | cons c digits ih =>
      rw [gatherFraction]
      split
      next hnext =>
        obtain ⟨hless, hcount, hvalue⟩ := ih hnext
        refine ⟨hless, Nat.succ_le_succ hcount, ?_⟩
        rw [List.length_cons, Nat.add_sub_add_right, Nat.ofDigitChars_cons]
        exact hvalue
      next => exact ⟨hs, Nat.zero_le _, mul_pow_le_ofDigitChars (c :: digits) s⟩

/-- What follows a number does not continue it. -/
def EndsNumber (rest : List Char) : Prop :=
  ∀ c ∈ rest.head?, c.isDigit = false ∧ c ≠ '.' ∧ c ≠ 'e' ∧ c ≠ 'E'

theorem digits?_append {digits rest : List Char} (hdigits : IsDigits digits)
    (hrest : ∀ c ∈ rest.head?, c.isDigit = false) :
    digits? (digits ++ rest) = some (digits, rest) := by
  have htake : rest.takeWhile Char.isDigit = [] ∧ rest.dropWhile Char.isDigit = rest := by
    cases rest with
    | nil => exact ⟨rfl, rfl⟩
    | cons c rest =>
        have hc := hrest c rfl
        exact ⟨List.takeWhile_cons_of_neg (by simp [hc]), List.dropWhile_cons_of_neg (by simp [hc])⟩
  rw [digits?, List.takeWhile_append_of_pos hdigits.2, List.dropWhile_append_of_pos hdigits.2,
    htake.1, htake.2, List.append_nil]
  exact if_neg hdigits.1

namespace NumberParts

def fractionChars : Option (List Char) → List Char
  | none => []
  | some digits => '.' :: digits

def exponentChars : Option Int → List Char
  | none => []
  | some e => 'e' :: (if e < 0 then '-' else '+') :: natDigits e.natAbs

/-- The text of the parts. -/
def chars (parts : NumberParts) : List Char :=
  parts.whole ++ (fractionChars parts.fraction ++ exponentChars parts.exponent)

/-- The parts are those of a written number. -/
structure WellFormed (parts : NumberParts) : Prop where
  whole : IsDigits parts.whole
  leading : 1 < parts.whole.length → parts.whole.head? ≠ some '0'
  fraction : ∀ digits ∈ parts.fraction, IsDigits digits

/-- The digits after the point, if there is one. -/
def takeFraction? (text : List Char) : Option (Option (List Char) × List Char) :=
  match text with
  | '.' :: rest => (digits? rest).map fun (digits, rest) => (some digits, rest)
  | rest => some (none, rest)

/-- The exponent, if there is one. -/
def takeExponent? (text : List Char) : Option (Option Int × List Char) :=
  match text with
  | c :: after =>
    if c = 'e' ∨ c = 'E' then
      let (negative, digits) := takeSign after
      (digits? digits).map fun (digits, rest) =>
        let n : Int := ofDigits digits
        (some (if negative then -n else n), rest)
    else some (none, text)
  | [] => some (none, text)

theorem numberParts?_eq (text : List Char) : numberParts? text = (do
    let (whole, rest) ← digits? text
    if 1 < whole.length ∧ whole.head? = some '0' then none
    else
      let (fraction, rest) ← takeFraction? rest
      let (exponent, rest) ← takeExponent? rest
      some (⟨whole, fraction, exponent⟩, rest)) := by
  rw [numberParts?]
  refine bind_congr fun (whole, rest) => ?_
  dsimp only
  split
  next => rfl
  next =>
    have hexponent (fraction : Option (List Char)) (rest : List Char) :
        (match rest with
        | c :: after =>
          if c = 'e' ∨ c = 'E' then do
            let found ← (digits? (takeSign after).2).map fun found : List Char × List Char =>
              (some (if (takeSign after).1 then -(ofDigits found.1 : Int) else ofDigits found.1),
                found.2)
            some ((⟨whole, fraction, found.1⟩ : NumberParts), found.2)
          else some (⟨whole, fraction, none⟩, rest)
        | [] => some (⟨whole, fraction, none⟩, rest)) = (do
            let found ← takeExponent? rest
            some (⟨whole, fraction, found.1⟩, found.2)) := by
      cases rest with
      | nil => rfl
      | cons c after =>
          simp only [takeExponent?]
          split <;> rfl
    split
    next rest => exact bind_congr fun found => hexponent _ _
    next hpoint =>
      rw [takeFraction?]
      · exact hexponent none _
      · exact hpoint

theorem takeExponent?_append (exponent : Option Int) {rest : List Char} (hrest : EndsNumber rest) :
    takeExponent? (exponentChars exponent ++ rest) = some (exponent, rest) := by
  cases exponent with
  | none =>
      cases rest with
      | nil => rfl
      | cons c rest =>
          obtain ⟨-, -, hlower, hupper⟩ := hrest c rfl
          exact if_neg (not_or.2 ⟨hlower, hupper⟩)
  | some e =>
      have hdigits := digits?_append (isDigits_natDigits e.natAbs) (fun c hc => (hrest c hc).1)
      have hvalue : ofDigits (natDigits e.natAbs) = e.natAbs := Nat.ofDigitChars_ten_toDigits
      rw [exponentChars, List.cons_append, List.cons_append, takeExponent?, if_pos (.inl rfl)]
      by_cases hsign : e < 0
      · simp only [if_pos hsign, takeSign, hdigits, Option.map_some, hvalue, if_true]
        rw [show -(e.natAbs : Int) = e by omega]
      · simp only [if_neg hsign, takeSign, hdigits, Option.map_some, hvalue]
        rw [if_neg (by decide), show (e.natAbs : Int) = e by omega]

theorem head_exponentChars_append (exponent : Option Int) {rest : List Char}
    (hrest : EndsNumber rest) :
    ∀ c ∈ (exponentChars exponent ++ rest).head?, c.isDigit = false ∧ c ≠ '.' := by
  cases exponent with
  | none => exact fun c hc => ⟨(hrest c hc).1, (hrest c hc).2.1⟩
  | some e =>
      intro c hc
      cases hc
      decide

theorem takeFraction?_append {fraction : Option (List Char)}
    (hfraction : ∀ digits ∈ fraction, IsDigits digits) {rest : List Char}
    (hrest : ∀ c ∈ rest.head?, c.isDigit = false ∧ c ≠ '.') :
    takeFraction? (fractionChars fraction ++ rest) = some (fraction, rest) := by
  cases fraction with
  | none =>
      rw [fractionChars, List.nil_append, takeFraction?]
      rintro tail rfl
      exact (hrest '.' rfl).2 rfl
  | some digits =>
      have hdigits := digits?_append (hfraction digits rfl) (fun c hc => (hrest c hc).1)
      rw [fractionChars, List.cons_append, takeFraction?, hdigits]
      rfl

theorem numberParts?_chars {parts : NumberParts} (h : parts.WellFormed) {rest : List Char}
    (hrest : EndsNumber rest) : numberParts? (parts.chars ++ rest) = some (parts, rest) := by
  have hexponent := head_exponentChars_append parts.exponent hrest
  have hfraction : ∀ c ∈ (fractionChars parts.fraction ++
      (exponentChars parts.exponent ++ rest)).head?, c.isDigit = false := by
    cases parts.fraction with
    | none => exact fun c hc => (hexponent c hc).1
    | some digits =>
        intro c hc
        cases hc
        rfl
  rw [chars, List.append_assoc, List.append_assoc, numberParts?_eq,
    digits?_append h.whole hfraction]
  simp only [Option.bind_eq_bind, Option.bind_some, takeFraction?_append h.fraction hexponent,
    takeExponent?_append parts.exponent hrest]
  exact if_neg fun hzero => h.leading hzero.1 hzero.2

/-- The text of parts that have a value is read as a number, with its sign. -/
theorem readNumber?_chars {parts : NumberParts} (h : parts.WellFormed) {negative : Bool}
    {value : JsonNumber} (hvalue : parts.value? negative = some value) {rest : List Char}
    (hrest : EndsNumber rest) :
    readNumber? ((if negative then ['-'] else []) ++ parts.chars ++ rest) = some (value, rest) := by
  have hparts := numberParts?_chars h hrest
  cases negative with
  | true =>
      rw [if_pos rfl, List.cons_append, List.nil_append, List.cons_append, readNumber?]
      simp only [hparts, hvalue, Option.bind_eq_bind, Option.bind_some]
  | false =>
      obtain ⟨c, whole, hwhole⟩ := List.exists_cons_of_ne_nil h.whole.1
      have hc : c ≠ '-' := by
        rintro rfl
        exact absurd (h.whole.2 '-' (hwhole ▸ List.mem_cons_self)) (by decide)
      have htext : ∀ tail, parts.chars ++ rest ≠ '-' :: tail := by
        intro tail htail
        rw [chars, hwhole] at htail
        exact hc (List.cons.inj htail).1
      rw [if_neg (by decide), List.nil_append, readNumber?]
      · simp only [hparts, hvalue, Option.bind_eq_bind, Option.bind_some]
      · exact htext

/-- Digits that fit 64 bits and neither a point nor an exponent make a value. -/
theorem value?_isSome_of_whole {digits : List Char} (h : ofDigits digits < 2 ^ 64)
    (negative : Bool) : ((⟨digits, none, none⟩ : NumberParts).value? negative).isSome := by
  rw [value?, gatherWhole_eq h]
  show Option.isSome (if _ then _ else if _ then _ else _) = true
  split
  · rfl
  · split <;> rfl

theorem wellFormed_natDigits (n : Nat) : (⟨natDigits n, none, none⟩ : NumberParts).WellFormed := by
  refine ⟨isDigits_natDigits n, fun hlong => ?_, fun _ hnone => by cases hnone⟩
  refine Number.head_natDigits_ne_zero (Nat.pos_of_ne_zero fun hzero => ?_)
  rw [hzero] at hlong
  exact absurd hlong (by decide)

/-- A natural number that fits 64 bits is read back. -/
theorem readNumber?_natDigits {n : Nat} (hn : n < 2 ^ 64) {rest : List Char}
    (hrest : EndsNumber rest) : readNumber? (natDigits n ++ rest) = some (.int n, rest) := by
  have hdigits : ofDigits (natDigits n) = n := Nat.ofDigitChars_ten_toDigits
  have hvalue : (⟨natDigits n, none, none⟩ : NumberParts).value? false = some (.int n) := by
    have hless : ofDigits (natDigits n) < 2 ^ 64 := hdigits.symm ▸ hn
    rw [value?, gatherWhole_eq hless]
    show some (JsonNumber.int (ofDigits (natDigits n))) = _
    rw [hdigits]
  have hread := readNumber?_chars (wellFormed_natDigits n) hvalue hrest
  simpa [chars, fractionChars, exponentChars] using hread

/-- With a point or an exponent, the value is that of the gathered digits, scaled. -/
theorem value?_isSome_of_scale {parts : NumberParts} (hwhole : ofDigits parts.whole < 2 ^ 64)
    (hparts : parts.fraction.isSome ∨ parts.exponent.isSome) (negative : Bool)
    (hscale : ∀ s appended,
      gatherFraction (ofDigits parts.whole) (parts.fraction.getD []) = (s, appended) →
      (scale? 3 (.ofNat s) (parts.exponent.getD 0 - appended)).isSome) :
    (parts.value? negative).isSome := by
  have hscale := hscale _ _ rfl
  rw [value?, gatherWhole_eq hwhole]
  dsimp only
  split
  next hfraction hexponent _ => simp [hfraction, hexponent] at hparts
  next =>
    rw [Option.isSome_map, Int.add_comm, Int.natCast_zero, Int.zero_sub]
    exact hscale

end NumberParts

end Json

/-! ### Written decimals -/

namespace Number.Decimal

open Json
open Binary64 (one limit precision spacing bitLength spacing_le limit_eq two_pow_dvd_spacing
  Representable)

/-- The parts of a decimal with all places. -/
def positionalParts (d : Decimal) : NumberParts :=
  if d.exponent < 0 then
    ⟨['0'], some (List.replicate (d.exponent.natAbs - 1) '0' ++ d.digits), none⟩
  else
    let whole := d.exponent.natAbs + 1
    let fraction := d.digits.drop whole
    ⟨d.digits.take whole ++ List.replicate (whole - d.digits.length) '0',
      some (if fraction.isEmpty then ['0'] else fraction), none⟩

/-- The parts of a decimal with a power of ten. -/
def scientificParts (d : Decimal) : NumberParts :=
  let fraction := d.digits.drop 1
  ⟨d.digits.take 1, if fraction.isEmpty then none else some fraction, some d.exponent⟩

theorem positional_eq_chars (d : Decimal) : d.positional = d.positionalParts.chars := by
  rw [positional, positionalParts]
  split <;> simp [NumberParts.chars, NumberParts.fractionChars, NumberParts.exponentChars]

theorem scientific_eq_chars (d : Decimal) : d.scientific true = d.scientificParts.chars := by
  rw [scientific, scientificParts, NumberParts.chars, NumberParts.exponentChars]
  dsimp only
  rw [List.append_assoc]
  split <;> split <;> simp [NumberParts.fractionChars, *]

theorem isDigits_append_replicate {digits : List Char} (h : ∀ c ∈ digits, c.isDigit) (n : Nat) :
    ∀ c ∈ digits ++ List.replicate n '0', c.isDigit := by
  intro c hc
  rcases List.mem_append.1 hc with hdigit | hzero
  · exact h c hdigit
  · rw [List.eq_of_mem_replicate hzero]
    rfl

variable {d : Decimal} {units : Nat}

theorem wellFormed_positionalParts (h : d.Writes units) : d.positionalParts.WellFormed := by
  obtain ⟨c, digits, hdigits⟩ := List.exists_cons_of_ne_nil h.digits.1
  rw [positionalParts]
  split
  · refine ⟨isDigits_zero, by simp, ?_⟩
    rintro _ ⟨⟩
    refine ⟨by simp [h.digits.1], fun c hc => ?_⟩
    rcases List.mem_append.1 hc with hzero | hdigit
    · rw [List.eq_of_mem_replicate hzero]
      rfl
    · exact h.digits.2 c hdigit
  next hpositive =>
    refine ⟨⟨by simp [hdigits], isDigits_append_replicate ?_ _⟩, fun hlong => ?_, ?_⟩
    · exact fun c hc => h.digits.2 c (List.mem_of_mem_take hc)
    · have hexponent : d.exponent ≠ 0 := by
        intro hzero
        simp [hdigits, hzero] at hlong
      have hleading := h.leading hexponent
      rw [hdigits] at hleading ⊢
      exact hleading
    · rintro _ ⟨⟩
      split
      · exact isDigits_zero
      next hsome =>
        exact ⟨fun hnone => hsome (by rw [hnone]; rfl),
          fun c hc => h.digits.2 c (List.mem_of_mem_drop hc)⟩

theorem wellFormed_scientificParts (h : d.Writes units) : d.scientificParts.WellFormed := by
  obtain ⟨c, digits, hdigits⟩ := List.exists_cons_of_ne_nil h.digits.1
  refine ⟨⟨by simp [scientificParts, hdigits], ?_⟩, ?_, ?_⟩
  · exact fun c hc => h.digits.2 c (List.mem_of_mem_take hc)
  · intro hlong
    simp [scientificParts, hdigits] at hlong
  · intro fraction hfraction
    rw [scientificParts] at hfraction
    dsimp only at hfraction
    split at hfraction
    · cases hfraction
    next hsome =>
      cases hfraction
      exact ⟨fun hnone => hsome (by rw [hnone]; rfl),
        fun c hc => h.digits.2 c (List.mem_of_mem_drop hc)⟩

/-- With all places, a number of moderate size has at least one digit after the point that is
gathered, so its power of ten is negative. -/
theorem value?_positionalParts (h : d.Writes units) (hexponent : d.exponent ≤ 15)
    (negative : Bool) : (d.positionalParts.value? negative).isSome := by
  have hformed := wellFormed_positionalParts h
  have hshort : d.positionalParts.whole.length ≤ 16 := by
    rw [positionalParts]
    split
    · exact Nat.le_add_left 1 15
    · simp only [List.length_append, List.length_take, List.length_replicate]
      omega
  have hwhole : ofDigits d.positionalParts.whole < 10 ^ 16 := by
    have hlt := ofDigitChars_lt hformed.whole.2 0
    rw [Nat.zero_add, Nat.one_mul] at hlt
    exact hlt.trans_le (Nat.pow_le_pow_right (by decide) hshort)
  obtain ⟨fraction, hfraction⟩ : ∃ fraction, d.positionalParts.fraction = some fraction := by
    rw [positionalParts]
    split <;> exact ⟨_, rfl⟩
  have hnone : d.positionalParts.exponent = none := by
    rw [positionalParts]
    split <;> rfl
  refine NumberParts.value?_isSome_of_scale (hwhole.trans (by decide)) (.inl (by rw [hfraction]; rfl))
    negative fun s appended hgather => scale?_isSome_of_neg _ _ ?_
  obtain ⟨c, tail, htail⟩ := List.exists_cons_of_ne_nil (hformed.fraction fraction hfraction).1
  have hc := digitValue_lt
    ((hformed.fraction fraction hfraction).2 c (htail ▸ List.mem_cons_self))
  have hnext : 10 * ofDigits d.positionalParts.whole + digitValue c < 2 ^ 64 := by omega
  have hcount : 1 ≤ appended := by
    rw [hfraction, Option.getD_some, htail, gatherFraction] at hgather
    have hgather := (if_pos hnext).symm.trans hgather
    have := congrArg Prod.snd hgather
    dsimp only at this
    omega
  rw [hnone, Option.getD_none]
  omega

/-- A decimal that is written far enough below the limit is not found too large. -/
theorem value?_scientificParts_of_le (h : d.Writes units)
    (hbound : 4 * units + 2 * spacing units + 20 * 2 ^ 2044 ≤ 4 * limit) (negative : Bool) :
    (d.scientificParts.value? negative).isSome := by
  obtain ⟨c, tail, htail⟩ := List.exists_cons_of_ne_nil h.digits.1
  have hfraction : d.scientificParts.fraction.getD [] = tail := by
    rw [scientificParts, htail]
    cases tail <;> rfl
  have hwhole : ofDigits d.scientificParts.whole = ofDigits [c] := by rw [scientificParts, htail]; rfl
  have hc : ofDigits [c] < 10 := by
    have := digitValue_lt (h.digits.2 c (htail ▸ List.mem_cons_self))
    show 10 * 0 + digitValue c < 10
    omega
  refine NumberParts.value?_isSome_of_scale (by omega) (.inr rfl) negative fun s appended hgather => ?_
  rw [hfraction, hwhole] at hgather
  obtain ⟨hs, hcount, hvalue⟩ := gatherFraction_le (hc.trans (by decide)) tail
  rw [hgather] at hs hcount hvalue
  show (scale? 3 (.ofNat s) (d.exponent - appended)).isSome
  by_cases hpower : d.exponent - appended < 0
  · exact scale?_isSome_of_neg 3 _ hpower
  -- The digits that are left out, and the power of ten of the last digit that is not.
  obtain ⟨n, hn⟩ := Int.eq_ofNat_of_zero_le (Int.not_lt.1 hpower)
  have hlast : d.last + (tail.length - appended : Nat) = n := by
    rw [last, htail, List.length_cons]
    omega
  have hdigits : s * 10 ^ (tail.length - appended) ≤ ofDigits d.digits := by
    rw [htail]
    exact hvalue
  have hwritten : 4 * s * one * 10 ^ n ≤ 4 * units + 2 * spacing units := by
    have hmoved := (mul_pow_le_iff (4 * s * one) (4 * units + 2 * spacing units)
      (tail.length - appended) d.last).2 (le_trans ?_ h.bound)
    · rw [hlast] at hmoved
      simpa using hmoved
    · refine Nat.mul_le_mul_right _ ?_
      calc 4 * s * one * 10 ^ (tail.length - appended)
          = 4 * (s * 10 ^ (tail.length - appended)) * one := by ring
        _ ≤ 4 * ofDigits d.digits * one :=
          Nat.mul_le_mul_right _ (Nat.mul_le_mul_left _ hdigits)
  rw [hn]
  refine scale?_isSome_of_le hs ?_
  have hsame : 4 * s * one * 10 ^ n = 4 * (s * 10 ^ n * one) := by ring
  generalize 2 ^ 2044 = half at hbound ⊢
  omega

/-- All but the two largest numbers stay far enough below the limit. -/
theorem le_or_eq_of_representable (h : Representable units) :
    4 * units + 2 * spacing units + 20 * 2 ^ 2044 ≤ 4 * limit ∨
      units = limit - 2 * 2 ^ 2044 ∨ units = limit - 4 * 2 ^ 2044 := by
  obtain ⟨hlt, hstep⟩ := h
  have hlimit : limit = 2 ^ 54 * 2 ^ 2044 := by decide +kernel
  have hdouble : 2 ^ (2044 + 1) = 2 * 2 ^ 2044 := pow_succ' 2 2044
  have hspacing : spacing units ≤ 2 * 2 ^ 2044 := hdouble ▸ spacing_le (limit_eq ▸ hlt)
  have hdvd (hlarge : 2 ^ precision * 2 ^ 2044 ≤ units) : 2 * 2 ^ 2044 ∣ units := by
    rw [← hdouble]
    exact (two_pow_dvd_spacing (pow_add 2 precision 2044 ▸ hlarge)).trans hstep
  simp only [precision] at hdvd
  rw [hlimit] at hlt ⊢
  generalize 2 ^ 2044 = half at *
  by_cases hsmall : units + 6 * half ≤ 2 ^ 54 * half
  · left
    omega
  · right
    obtain ⟨k, rfl⟩ := hdvd (by omega)
    have hk : k < 2 ^ 53 := Nat.lt_of_mul_lt_mul_left (a := 2 * half) (by omega)
    have hk' : 2 ^ 53 < k + 3 := Nat.lt_of_mul_lt_mul_left (a := 2 * half) (by
      rw [Nat.mul_add]
      omega)
    obtain rfl | rfl : k = 2 ^ 53 - 1 ∨ k = 2 ^ 53 - 2 := by omega
    · left
      omega
    · right
      omega

theorem value?_scientificParts (hunits : Representable units) (negative : Bool) :
    ((shortest units).scientificParts.value? negative).isSome := by
  rcases le_or_eq_of_representable hunits with hbound | hlargest | hsecond
  · exact value?_scientificParts_of_le (writes_shortest units) hbound negative
  · rw [hlargest]
    revert negative
    decide +kernel
  · rw [hsecond]
    revert negative
    decide +kernel

/-- The shortest decimal of a number is written as parts that have a value. -/
theorem exists_parts (hunits : Representable units) (negative : Bool) :
    ∃ parts : NumberParts, parts.WellFormed ∧
      (if Layout.document.least ≤ (shortest units).exponent ∧
          (shortest units).exponent ≤ Layout.document.greatest then (shortest units).positional
        else (shortest units).scientific Layout.document.plus) = parts.chars ∧
      (parts.value? negative).isSome := by
  have hwrites := writes_shortest units
  split
  next hmoderate =>
    exact ⟨_, wellFormed_positionalParts hwrites, positional_eq_chars _,
      value?_positionalParts hwrites hmoderate.2 negative⟩
  next =>
    exact ⟨_, wellFormed_scientificParts hwrites, scientific_eq_chars _,
      value?_scientificParts hunits negative⟩

end Number.Decimal

namespace JsonNumber

open Number Json

/-- The number is one that a reader gives: an integer that fits 64 bits, or a floating point number
of the format. -/
def Legible : JsonNumber → Prop
  | int value => -(2 ^ 63 : Int) ≤ value ∧ value < 2 ^ 64
  | float value => value.Sound

/-- The number has a text of its own; otherwise it is written as null. -/
def isWritten : JsonNumber → Bool
  | int _ => true
  | float value => value.isFinite

/-- The text of a number is that of the parts of some number. -/
theorem exists_numberText_eq {n : JsonNumber} (hn : n.Legible) (hwritten : n.isWritten) :
    ∃ (negative : Bool) (parts : NumberParts), parts.WellFormed ∧
      numberText n = (if negative then ['-'] else []) ++ parts.chars ∧
      (parts.value? negative).isSome := by
  cases n with
  | int value =>
      obtain ⟨hlow, hhigh⟩ := hn
      have hdigits : ofDigits (natDigits value.natAbs) = value.natAbs :=
        Nat.ofDigitChars_ten_toDigits
      refine ⟨value < 0, ⟨natDigits value.natAbs, none, none⟩, NumberParts.wellFormed_natDigits _,
        ?_, NumberParts.value?_isSome_of_whole (by omega) _⟩
      simp only [numberText, intText, NumberParts.chars, NumberParts.fractionChars,
        NumberParts.exponentChars, List.append_nil, decide_eq_true_eq]
      split <;> rfl
  | float value =>
      cases value with
      | infinite negative => cases hwritten
      | nan => cases hwritten
      | finite negative units =>
          rw [numberText, Binary64.isFinite, if_pos rfl, floatText]
          dsimp only
          split
          · have hzero : ∀ negative,
                ((⟨['0'], some ['0'], none⟩ : NumberParts).value? negative).isSome := by
              decide +kernel
            refine ⟨negative, ⟨['0'], some ['0'], none⟩, ⟨isDigits_zero, by simp, ?_⟩, rfl,
              hzero negative⟩
            rintro _ ⟨⟩
            exact isDigits_zero
          · obtain ⟨parts, hformed, htext, hvalue⟩ := Decimal.exists_parts hn negative
            exact ⟨negative, parts, hformed, by rw [htext], hvalue⟩

/-- A written number is taken off the front of what does not continue it. -/
theorem exists_readNumber?_numberText {n : JsonNumber} (hn : n.Legible) (hwritten : n.isWritten) :
    ∃ read, ∀ rest, EndsNumber rest → readNumber? (numberText n ++ rest) = some (read, rest) := by
  obtain ⟨negative, parts, hformed, htext, hvalue⟩ := exists_numberText_eq hn hwritten
  obtain ⟨value, hvalue⟩ := Option.isSome_iff_exists.1 hvalue
  refine ⟨value, fun rest hrest => ?_⟩
  rw [htext]
  exact NumberParts.readNumber?_chars hformed hvalue hrest

theorem gatherWhole_lt {s : Nat} (hs : s < 2 ^ 64) (digits : List Char) :
    (gatherWhole s digits).1 < 2 ^ 64 := by
  induction digits generalizing s with
  | nil => exact hs
  | cons c digits ih =>
      rw [gatherWhole]
      split
      next hnext => exact ih hnext
      next => exact hs

theorem sound_scale? {steps : Nat} {value : Binary64} {power : Int} (hvalue : value.Sound)
    {scaled : Binary64} (h : scale? steps value power = some scaled) : scaled.Sound := by
  induction steps generalizing value power with
  | zero =>
      cases h
      exact hvalue
  | succ steps ih =>
      rw [scale?] at h
      split at h
      · split at h
        · obtain ⟨-, hproduct⟩ := Option.ite_none_right_eq_some.1 h
          cases hproduct
          exact Binary64.sound_mul _ _
        · cases h
          exact Binary64.sound_div _ _
      · split at h
        · cases h
          exact hvalue
        · split at h
          · cases h
          · exact ih (Binary64.sound_div _ _) h

theorem legible_of_value? {parts : NumberParts} {negative : Bool} {n : JsonNumber}
    (h : parts.value? negative = some n) : n.Legible := by
  have hless := gatherWhole_lt (Nat.two_pow_pos 64) parts.whole
  rw [NumberParts.value?] at h
  generalize gatherWhole 0 parts.whole = gathered at h hless
  obtain ⟨significand, dropped⟩ := gathered
  dsimp only at h hless
  split at h
  · split at h
    · cases h
      exact ⟨by omega, by omega⟩
    · split at h
      next hsmall =>
        cases h
        have hsmall : significand ≤ 2 ^ 63 := hsmall.2
        exact ⟨by omega, by omega⟩
      next =>
        cases h
        exact Binary64.sound_negate (Binary64.sound_ofNat significand)
  · obtain ⟨value, hscale, hn⟩ := Option.map_eq_some_iff.1 h
    have hsound := sound_scale? (Binary64.sound_ofNat _) hscale
    cases hn
    show Binary64.Sound (if negative then value.negate else value)
    split
    · exact Binary64.sound_negate hsound
    · exact hsound

/-- What is read is legible. -/
theorem legible_of_readNumber? {text rest : List Char} {n : JsonNumber}
    (h : readNumber? text = some (n, rest)) : n.Legible := by
  unfold readNumber? at h
  obtain ⟨⟨parts, after⟩, -, h⟩ := Option.bind_eq_some_iff.1 h
  obtain ⟨value, hvalue, h⟩ := Option.bind_eq_some_iff.1 h
  cases h
  exact legible_of_value? hvalue

/-- The powers of ten that scale a number are not rounded to zero. -/
theorem exists_powerOfTen_eq {n : Nat} (hn : n ≤ 308) :
    ∃ units ≠ 0, powerOfTen n = .finite false units := by
  refine ⟨_, ?_, powerOfTen_eq hn⟩
  have hone : 2 ^ 0 ≤ 10 ^ n * Binary64.one :=
    Nat.mul_pos (Nat.pow_pos (by decide)) Binary64.one_pos
  exact Nat.ne_of_gt (Binary64.two_pow_le_roundUnits hone)

theorem ne_nan_of_scale? {steps : Nat} {value : Binary64} {power : Int} (hvalue : value ≠ .nan)
    {scaled : Binary64} (h : scale? steps value power = some scaled) : scaled ≠ .nan := by
  induction steps generalizing value power with
  | zero =>
      cases h
      exact hvalue
  | succ steps ih =>
      rw [scale?] at h
      split at h
      next hsmall =>
        split at h
        · obtain ⟨hfinite, hproduct⟩ := Option.ite_none_right_eq_some.1 h
          cases hproduct
          intro hnan
          rw [hnan] at hfinite
          cases hfinite
        · cases h
          obtain ⟨units, hunits, hpower⟩ := exists_powerOfTen_eq hsmall
          rw [hpower]
          exact Binary64.div_ne_nan hvalue false hunits
      next =>
        split at h
        · cases h
          exact hvalue
        · split at h
          · cases h
          · obtain ⟨units, hunits, hpower⟩ := exists_powerOfTen_eq (le_refl 308)
            rw [hpower] at h
            exact ih (Binary64.div_ne_nan hvalue false hunits) h

theorem same_self_of_value? {parts : NumberParts} {negative : Bool} {n : JsonNumber}
    (h : parts.value? negative = some n) : n.same n = true := by
  have hint (value : Int) : (JsonNumber.int value).same (.int value) = true :=
    decide_eq_true rfl
  rw [NumberParts.value?] at h
  generalize gatherWhole 0 parts.whole = gathered at h
  obtain ⟨significand, dropped⟩ := gathered
  dsimp only at h
  split at h
  · split at h
    · cases h
      exact hint _
    · split at h
      · cases h
        exact hint _
      · cases h
        exact Binary64.equal_self (Binary64.negate_ne_nan (Binary64.ofUnits_ne_nan _ _ _))
  · obtain ⟨value, hscale, hn⟩ := Option.map_eq_some_iff.1 h
    have hvalue := ne_nan_of_scale? (Binary64.ofUnits_ne_nan _ _ _) hscale
    cases hn
    show (if negative then value.negate else value).equal _ = true
    split
    · exact Binary64.equal_self (Binary64.negate_ne_nan hvalue)
    · exact Binary64.equal_self hvalue

/-- What is read is a number, and equal to itself. -/
theorem same_self_of_readNumber? {text rest : List Char} {n : JsonNumber}
    (h : readNumber? text = some (n, rest)) : n.same n = true := by
  unfold readNumber? at h
  obtain ⟨⟨parts, after⟩, -, h⟩ := Option.bind_eq_some_iff.1 h
  obtain ⟨value, hvalue, h⟩ := Option.bind_eq_some_iff.1 h
  cases h
  exact same_self_of_value? hvalue

end JsonNumber

end CloudPolicy
