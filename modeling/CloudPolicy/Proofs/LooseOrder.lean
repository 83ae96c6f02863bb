import CloudPolicy.Resource.Predicate

/-! Ordering and equality of values. The operators of order and the operator of equality coerce each
in their own way: both read a number in a text that is compared with a number, but only the order
reads numbers in two texts. Where two values are ordered, equality and order agree unless they are
two spellings of one number. -/

namespace CloudPolicy

namespace Binary64

/-- A number that is comparable with itself is equal to itself. -/
theorem eq_of_compare?_self {x : Binary64} {o : Ordering} (h : x.compare? x = some o) :
    o = .eq := by
  cases x with
  | nan => cases h
  | infinite negative => exact (Option.some.inj h).symm.trans Std.ReflCmp.compare_self
  | finite negative units => exact (Option.some.inj h).symm.trans Std.ReflCmp.compare_self

theorem equal_iff_of_compare? {x y : Binary64} {o : Ordering} (h : x.compare? y = some o) :
    x.equal y = true ↔ o = .eq := by
  rw [equal, h, decide_eq_true_iff, Option.some.injEq]

end Binary64

namespace Json

variable {a e : Json} {o : Ordering}

/-! ### What is compared -/

/-- Two values are ordered as numbers, when both are or spell numbers that are comparable, or else
as texts. -/
inductive Compares (a e : Json) : Ordering → Prop where
  | numbers {x y : Binary64} {o : Ordering} (hx : a.asNumber? = some x) (hy : e.asNumber? = some y)
      (horder : x.compare? y = some o) : Compares a e o
  | texts {text other : String} (ha : a = .string text) (he : e = .string other)
      (hwords : ∀ x y, a.asNumber? = some x → e.asNumber? ≠ some y) :
      Compares a e (compare text other)

theorem compares_of_looselyCompare? (h : a.looselyCompare? e = some o) : Compares a e o := by
  unfold looselyCompare? at h
  split at h
  next x y hx hy => exact .numbers hx hy h
  next text other hnumbers =>
    cases h
    exact .texts rfl rfl hnumbers
  next => cases h

/-- The values are different texts that spell one number. -/
def RespellsNumber (a e : Json) : Prop :=
  ∃ text other, a = .string text ∧ e = .string other ∧ text ≠ other ∧
    ∃ x y, a.asNumber? = some x ∧ e.asNumber? = some y ∧ x.equal y = true

/-- Values that have a number in them and are the same are the same number. -/
theorem equal_of_same {x y : Binary64} (hx : a.asNumber? = some x) (hy : e.asNumber? = some y)
    (horder : x.compare? y = some o) (h : a.same e = true) : o = .eq := by
  cases a with
  | number n =>
      cases e with
      | number m =>
          cases hx
          cases hy
          cases n with
          | int i =>
              cases m with
              | int j =>
                  obtain rfl : i = j := of_decide_eq_true h
                  exact Binary64.eq_of_compare?_self horder
              | float _ => cases h
          | float _ =>
              cases m with
              | int _ => cases h
              | float _ => exact (Binary64.equal_iff_of_compare? horder).1 h
      | _ => cases h
  | string text =>
      cases e with
      | string other =>
          obtain rfl : text = other := beq_iff_eq.1 h
          cases hx.symm.trans hy
          exact Binary64.eq_of_compare?_self horder
      | _ => cases h
  | _ => cases hx

theorem looselyEqual_strings (text other : String) :
    (string text).looselyEqual (string other) = true ↔ text = other := by
  simp [looselyEqual, same]

theorem looselyEqual_of_number {x y : Binary64} (hx : a.asNumber? = some x)
    (hy : e.asNumber? = some y) (hnumber : ∀ text other, a = string text → e ≠ string other) :
    a.looselyEqual e = (a.same e || x.equal y) := by
  have hsame : looselyEqual.sameNumber a e = x.equal y := by rw [looselyEqual.sameNumber, hx, hy]
  unfold looselyEqual
  congr 1
  cases a with
  | number n => exact hsame
  | string text =>
      cases e with
      | number m => exact hsame
      | string other => exact absurd rfl (hnumber text other rfl)
      | _ => cases hy
  | _ => cases hx

/-- Values that are ordered are equal where neither comes first, unless they spell one number in two
ways. -/
theorem Compares.looselyEqual_iff (h : Compares a e o) :
    a.looselyEqual e = true ↔ o = .eq ∧ ¬ RespellsNumber a e := by
  cases h with
  | @numbers x y _ hx hy horder =>
      have hequal := Binary64.equal_iff_of_compare? horder
      by_cases htexts : ∃ text other, a = string text ∧ e = string other
      · obtain ⟨text, other, rfl, rfl⟩ := htexts
        rw [looselyEqual_strings]
        constructor
        · rintro rfl
          refine ⟨equal_of_same hx hy horder (beq_self_eq_true text), ?_⟩
          rintro ⟨_, _, htext, hother, hne, -⟩
          cases htext
          cases hother
          exact hne rfl
        · rintro ⟨rfl, hspelling⟩
          refine Decidable.byContradiction fun hne => hspelling ?_
          exact ⟨text, other, rfl, rfl, hne, x, y, hx, hy, hequal.2 rfl⟩
      · have hnumber : ∀ text other, a = string text → e ≠ string other :=
          fun text other ha he => htexts ⟨text, other, ha, he⟩
        rw [looselyEqual_of_number hx hy hnumber, Bool.or_eq_true, hequal]
        have hspelling : ¬ RespellsNumber a e :=
          fun ⟨text, other, ha, he, _⟩ => hnumber text other ha he
        constructor
        · exact fun h => ⟨h.elim (equal_of_same hx hy horder) id, hspelling⟩
        · exact fun h => .inr h.1
  | @texts text other ha he hwords =>
      subst ha he
      rw [looselyEqual_strings, Std.LawfulEqCmp.compare_eq_iff_eq]
      refine (and_iff_left ?_).symm
      rintro ⟨_, _, _, _, _, x, y, hx, hy, _⟩
      exact hwords x y hx hy

end Json

/-! ### Agreement -/

namespace Operator

/-- The operators that ask for an order. -/
def orderings : List Operator := [gt, gte, lt, lte]

/-- Between two values exactly one of greater, equal and less holds, and the operators that include
equality hold where their strict forms or equality hold. -/
structure Agree (a e : Json) : Prop where
  trichotomy : (gt.holds a e ∧ ¬ eq.holds a e ∧ ¬ lt.holds a e) ∨
    (¬ gt.holds a e ∧ eq.holds a e ∧ ¬ lt.holds a e) ∨
    (¬ gt.holds a e ∧ ¬ eq.holds a e ∧ lt.holds a e)
  greater : gte.holds a e ↔ gt.holds a e ∨ eq.holds a e
  less : lte.holds a e ↔ lt.holds a e ∨ eq.holds a e

variable {a e : Json} {o : Ordering}

theorem gt_holds_iff (h : a.looselyCompare? e = some o) : gt.holds a e = true ↔ o = .gt := by
  simp [holds, h]

theorem lt_holds_iff (h : a.looselyCompare? e = some o) : lt.holds a e = true ↔ o = .lt := by
  simp [holds, h]

theorem gte_holds_iff (h : a.looselyCompare? e = some o) : gte.holds a e = true ↔ o ≠ .lt := by
  simp [holds, h]

theorem lte_holds_iff (h : a.looselyCompare? e = some o) : lte.holds a e = true ↔ o ≠ .gt := by
  simp [holds, h]

theorem eq_holds_iff (h : a.looselyCompare? e = some o) :
    eq.holds a e = true ↔ o = .eq ∧ ¬ a.RespellsNumber e :=
  (Json.compares_of_looselyCompare? h).looselyEqual_iff

/-- Nothing is ordered but what can be compared. -/
theorem exists_order_of_holds {operator : Operator} (hoperator : operator ∈ orderings)
    (h : operator.holds a e = true) : ∃ o, a.looselyCompare? e = some o := by
  cases horder : a.looselyCompare? e with
  | some o => exact ⟨o, rfl⟩
  | none =>
      simp only [orderings, List.mem_cons, List.not_mem_nil, or_false] at hoperator
      rcases hoperator with rfl | rfl | rfl | rfl <;> simp [holds, horder] at h

/-- **Order and equality agree but on spellings of numbers.** Where one of the four operators of
order holds between two values, exactly one of greater, equal and less holds, and the two operators
that include equality are those unions, if and only if the values are not two texts that differ and
spell one number. Of such texts neither comes first, and they are not equal either. -/
theorem order_agrees_iff (h : ∃ operator ∈ orderings, operator.holds a e = true) :
    (Agree a e ↔ ¬ a.RespellsNumber e) ∧
      (a.RespellsNumber e → gte.holds a e ∧ lte.holds a e ∧
        ¬ gt.holds a e ∧ ¬ eq.holds a e ∧ ¬ lt.holds a e) := by
  obtain ⟨operator, hoperator, hholds⟩ := h
  obtain ⟨o, horder⟩ := exists_order_of_holds hoperator hholds
  have hcompares := Json.compares_of_looselyCompare? horder
  have heq := eq_holds_iff horder
  have hneither (hspelling : a.RespellsNumber e) : o = .eq := by
    obtain ⟨_, _, _, _, _, x, y, hx, hy, hequal⟩ := hspelling
    cases hcompares with
    | numbers hx' hy' hxy =>
        cases hx.symm.trans hx'
        cases hy.symm.trans hy'
        exact (Binary64.equal_iff_of_compare? hxy).1 hequal
    | texts _ _ hwords => exact absurd hy (hwords x y hx)
  constructor
  · constructor
    · intro hagree hspelling
      obtain rfl := hneither hspelling
      have hgreater := hagree.greater.1 ((gte_holds_iff horder).2 nofun)
      rw [gt_holds_iff horder, heq] at hgreater
      exact hgreater.elim nofun fun h => h.2 hspelling
    · intro hspelling
      rw [and_iff_left hspelling] at heq
      constructor
      · rw [gt_holds_iff horder, heq, lt_holds_iff horder]
        cases o <;> simp
      · rw [gte_holds_iff horder, gt_holds_iff horder, heq]
        cases o <;> simp
      · rw [lte_holds_iff horder, lt_holds_iff horder, heq]
        cases o <;> simp
  · intro hspelling
    obtain rfl := hneither hspelling
    rw [gte_holds_iff horder, lte_holds_iff horder, gt_holds_iff horder, heq, lt_holds_iff horder]
    exact ⟨nofun, nofun, nofun, fun h => h.2 hspelling, nofun⟩

/-- A number and a text that spells its neighbour are compared after rounding, and are equal. Of two
texts that spell one number both operators that include equality hold, and equality does not. -/
theorem neighbours_agree_and_spellings_not :
    Agree (.int 9007199254740993) (.string "9007199254740992.0") ∧
      eq.holds (.int 9007199254740993) (.string "9007199254740992.0") = true ∧
      gte.holds (.string "1.0") (.string "1") = true ∧
      lte.holds (.string "1.0") (.string "1") = true ∧
      eq.holds (.string "1.0") (.string "1") = false := by
  have hneighbours := order_agrees_iff (a := .int 9007199254740993)
    (e := .string "9007199254740992.0") ⟨.gte, by decide, by decide +kernel⟩
  have hspellings := order_agrees_iff (a := .string "1.0") (e := .string "1")
    ⟨.gte, by decide, by decide +kernel⟩
  have hspelling : Json.RespellsNumber (.string "1.0") (.string "1") :=
    ⟨_, _, rfl, rfl, by decide, .finite false Binary64.one, .finite false Binary64.one,
      by decide +kernel, by decide +kernel, by decide +kernel⟩
  obtain ⟨hgte, hlte, -, heq, -⟩ := hspellings.2 hspelling
  refine ⟨hneighbours.1.2 ?_, by decide +kernel, hgte, hlte, Bool.eq_false_iff.2 heq⟩
  rintro ⟨_, _, hnumber, -⟩
  cases hnumber

/-- The text `1.0` is not less than the text `1` and not greater either, and not equal to it. -/
theorem spellings_ordered_but_not_equal :
    gte.holds (.string "1.0") (.string "1") = true ∧
      ¬ Agree (.string "1.0") (.string "1") := by
  refine ⟨by decide +kernel, fun h => ?_⟩
  have hgreater := h.greater.1 (by decide +kernel)
  have hgt : gt.holds (.string "1.0") (.string "1") = false := by decide +kernel
  have heq : eq.holds (.string "1.0") (.string "1") = false := by decide +kernel
  rw [hgt, heq] at hgreater
  exact hgreater.elim nofun nofun

end Operator

end CloudPolicy
