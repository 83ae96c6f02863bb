import CloudPolicy.Resource.Predicate

/-! Equality with coercions as a relation between values. What a number, a text and a truth value
are coerced to is decided by both values at once, in the order of the cases, and yet no side is
preferred. Main statement: equality is symmetric, so that a value is in a list exactly where the
list contains it. -/

namespace CloudPolicy

theorem JsonNumber.same_comm (n m : JsonNumber) : n.same m = m.same n := by
  cases n with
  | int i =>
      cases m with
      | int j => exact decide_eq_decide.2 eq_comm
      | float y => rfl
  | float x =>
      cases m with
      | int j => rfl
      | float y => exact x.equal_comm y

namespace Json

/-! ### Structural equality -/

mutual

theorem same_comm (a b : Json) : a.same b = b.same a := by
  match a with
  | null => cases b <;> rfl
  | bool value =>
      cases b with
      | bool other => exact Bool.beq_comm
      | _ => rfl
  | number n =>
      cases b with
      | number m => exact n.same_comm m
      | _ => rfl
  | string text =>
      cases b with
      | string other => exact BEq.comm
      | _ => rfl
  | array items =>
      cases b with
      | array others => exact sameItems_comm items others
      | _ => rfl
  | object ⟨fields⟩ =>
      cases b with
      | object others => exact sameFields_comm fields others.entries
      | _ => rfl

theorem sameItems_comm (items others : List Json) :
    same.sameItems items others = same.sameItems others items := by
  match items with
  | [] => cases others <;> rfl
  | item :: items =>
      cases others with
      | nil => rfl
      | cons other others =>
          rw [same.sameItems, same.sameItems, same_comm item other, sameItems_comm items others]

theorem sameFields_comm (fields others : List (String × Json)) :
    same.sameFields fields others = same.sameFields others fields := by
  match fields with
  | [] => cases others <;> rfl
  | (key, value) :: fields =>
      cases others with
      | nil => rfl
      | cons other others =>
          rw [same.sameFields, same.sameFields, BEq.comm, same_comm value other.2,
            sameFields_comm fields others]

end

/-! ### Equality with coercions -/

theorem sameNumber_comm (a b : Json) :
    looselyEqual.sameNumber a b = looselyEqual.sameNumber b a := by
  rw [looselyEqual.sameNumber, looselyEqual.sameNumber]
  cases a.asNumber? with
  | none => cases b.asNumber? <;> rfl
  | some x =>
      cases b.asNumber? with
      | none => rfl
      | some y => exact x.equal_comm y

/-- A number on either side makes both sides numbers, and the two cases of a truth value and a text
are mirrored. -/
theorem looselyEqual_comm (a b : Json) : a.looselyEqual b = b.looselyEqual a := by
  unfold looselyEqual
  rw [same_comm a b]
  congr 1
  cases a with
  | number n => cases b <;> exact sameNumber_comm _ _
  | _ =>
      cases b with
      | number m => exact sameNumber_comm _ _
      | _ => rfl

end Json

/-! ### Membership -/

namespace Operator

variable {value : Json} {items : List Json}

theorem isIn_holds_iff :
    isIn.holds value (.array items) = true ↔ ∃ item ∈ items, eq.holds value item = true :=
  List.any_eq_true

theorem contains_holds_iff :
    contains.holds (.array items) value = true ↔ ∃ item ∈ items, eq.holds item value = true :=
  List.any_eq_true

/-- **Equality prefers no side, and membership is containment.** Whether two values are equal does
not depend on which of them is compared with the other. Therefore a value is in a list exactly where
the list contains it, and it is not in the list exactly where neither holds. -/
theorem equality_symmetric_and_membership_dual :
    (∀ a b : Json, eq.holds a b = eq.holds b a) ∧
      ∀ (value : Json) (items : List Json),
        isIn.holds value (.array items) = contains.holds (.array items) value ∧
        notIn.holds value (.array items) = (!isIn.holds value (.array items)) ∧
        notIn.holds value (.array items) = (!contains.holds (.array items) value) := by
  have hequal (a b : Json) : eq.holds a b = eq.holds b a := Json.looselyEqual_comm a b
  refine ⟨hequal, fun value items => ?_⟩
  have hdual : isIn.holds value (.array items) = contains.holds (.array items) value := by
    rw [Bool.eq_iff_iff, isIn_holds_iff, contains_holds_iff]
    exact exists_congr fun item => and_congr_right fun _ => by rw [hequal]
  have hnot : notIn.holds value (.array items) = !isIn.holds value (.array items) := rfl
  exact ⟨hdual, hnot, hdual ▸ hnot⟩

/-- A text is in a list for the sake of a number that it spells, and the list contains it. -/
example : isIn.holds (.string " 80.0") (.array [.null, .int 80]) = true ∧
    contains.holds (.array [.null, .int 80]) (.string " 80.0") = true := by decide +kernel

end Operator

end CloudPolicy
