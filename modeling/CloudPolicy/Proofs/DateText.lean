import CloudPolicy.Mark
import CloudPolicy.Proofs.TimeText

/-! Dates are read back from their text. A text is cut where it was put together, padded digits give
their number, and the date that a count of days falls on exists. -/

namespace CloudPolicy

/-! ### Cutting and replacing -/

namespace Text

theorem cutAt?_append {sep : Char} {front : List Char} (hsep : sep ∉ front) (rest : List Char) :
    cutAt? sep (front ++ sep :: rest) = some (front, rest) := by
  induction front with
  | nil => simp [cutAt?]
  | cons c front ih =>
      obtain ⟨hc, hfront⟩ := List.ne_and_not_mem_of_not_mem_cons hsep
      rw [List.cons_append, cutAt?, if_neg (Ne.symm hc), ih hfront]
      rfl

theorem cutAt?_of_not_mem {sep : Char} {text : List Char} (hsep : sep ∉ text) :
    cutAt? sep text = none := by
  induction text with
  | nil => rfl
  | cons c text ih =>
      obtain ⟨hc, htext⟩ := List.ne_and_not_mem_of_not_mem_cons hsep
      rw [cutAt?, if_neg (Ne.symm hc), ih htext]
      rfl

theorem splitFirst_append {sep : Char} {front : List Char} (hsep : sep ∉ front) (n : Nat)
    (rest : List Char) :
    splitFirst sep (n + 1) (front ++ sep :: rest) = front :: splitFirst sep n rest := by
  rw [splitFirst, cutAt?_append hsep]

theorem splitFirst_of_not_mem {sep : Char} {text : List Char} (hsep : sep ∉ text) (n : Nat) :
    splitFirst sep n text = [text] := by
  cases n with
  | zero => rfl
  | succ n => rw [splitFirst, cutAt?_of_not_mem hsep]

/-- Nothing is replaced in a text that does not have the first character of what is looked for. -/
theorem substitute_append {c : Char} {old new front : List Char} (hc : c ∉ front)
    (rest : List Char) :
    substitute (c :: old) new 0 (front ++ rest) = front ++ substitute (c :: old) new 0 rest := by
  induction front with
  | nil => rfl
  | cons d front ih =>
      obtain ⟨hd, hfront⟩ := List.ne_and_not_mem_of_not_mem_cons hc
      rw [List.cons_append, substitute, dropFront?, if_neg hd, ih hfront]
      rfl

end Text

/-! ### Numbers -/

namespace Number

theorem ofDigits_eq (digits : List Char) : ofDigits digits = Nat.ofDigitChars 10 digits 0 := rfl

theorem nat?_padLeft (width n : Nat) : nat? (Text.padLeft width '0' (natDigits n)) = some n := by
  have hsome : Text.padLeft width '0' (natDigits n) ≠ [] := by
    intro hnone
    exact Nat.toDigits_ne_nil (List.append_eq_nil_iff.1 hnone).2
  have hdigits : (Text.padLeft width '0' (natDigits n)).all Char.isDigit :=
    List.all_eq_true.2 fun c => Text.isDigit_of_mem_padLeft
  rw [nat?, if_pos ⟨hsome, hdigits⟩, ofDigits_eq, Text.ofDigitChars_padLeft]

/-- Padded digits have no character that is no digit, such as a sign or a dash. -/
theorem not_mem_padLeft {c : Char} (hc : c.isDigit = false) (width n : Nat) :
    c ∉ Text.padLeft width '0' (natDigits n) := by
  intro hmem
  rw [Text.isDigit_of_mem_padLeft hmem] at hc
  cases hc

theorem word?_padLeft {bits width n : Nat} (hn : n < 2 ^ bits) :
    word? bits (Text.padLeft width '0' (natDigits n)) = some n := by
  have hunsigned : ∀ digits, Text.padLeft width '0' (natDigits n) ≠ '+' :: digits :=
    fun digits hplus => not_mem_padLeft rfl width n (hplus ▸ List.mem_cons_self)
  rw [word?, nat?_padLeft, Option.filter_some]
  · exact if_pos (decide_eq_true hn)
  · exact hunsigned

theorem word?_plus {bits width n : Nat} (hn : n < 2 ^ bits) :
    word? bits ('+' :: Text.padLeft width '0' (natDigits n)) = some n := by
  rw [word?, nat?_padLeft, Option.filter_some]
  exact if_pos (decide_eq_true hn)

end Number

/-! ### Dates -/

theorem not_mem_twoDigits {c : Char} (hc : c.isDigit = false) (n : Nat) : c ∉ twoDigits n :=
  Number.not_mem_padLeft hc 2 n

/-- The dash of a year stands only before years that are negative. -/
theorem not_mem_yearText {year : Int} (hyear : 0 ≤ year) : '-' ∉ yearText year := by
  have hdigits : '-' ∉ Text.padLeft 4 '0' (Number.natDigits year.natAbs) :=
    Number.not_mem_padLeft rfl 4 year.natAbs
  rw [yearText]
  split
  next => exact hdigits
  next =>
    rw [if_neg (Int.not_lt.2 hyear)]
    exact List.not_mem_cons_of_ne_of_not_mem (by decide) hdigits

theorem int32?_yearText {year : Int} (hyear : 0 ≤ year) (hgreatest : year ≤ Date.greatestYear) :
    Number.int32? (yearText year) = some year := by
  have hsmall : year.natAbs < 2 ^ 31 := by
    rw [Date.greatestYear] at hgreatest
    omega
  have hback : Int.ofNat year.natAbs = year := Int.natAbs_of_nonneg hyear
  have hunsigned : ∀ digits, yearText year ≠ '-' :: digits :=
    fun digits hminus => not_mem_yearText hyear (hminus ▸ List.mem_cons_self)
  have hword : Number.word? 31 (yearText year) = some year.natAbs := by
    rw [yearText]
    split
    next => exact Number.word?_padLeft hsmall
    next =>
      rw [if_neg (Int.not_lt.2 hyear)]
      exact Number.word?_plus hsmall
  rw [Number.int32?, hword, Option.map_some, hback]
  exact hunsigned

theorem Date.daysInMonth_le (year : Int) (month : Nat) : daysInMonth year month ≤ 31 := by
  rw [daysInMonth]
  split
  next => split <;> decide
  next => split <;> decide

/-- The written parts of a date that exists are read back. -/
theorem Mark.date?_ofDays {days : Int} (hyear : 0 ≤ (Date.ofDays days).year)
    (hgreatest : (Date.ofDays days).year ≤ Date.greatestYear) :
    date? (yearText (Date.ofDays days).year) (twoDigits (Date.ofDays days).month)
      (twoDigits (Date.ofDays days).day) = some (Date.ofDays days) := by
  have hleast : Date.leastYear ≤ (Date.ofDays days).year := Int.le_trans (by decide) hyear
  have hexists := Date.of?_ofDays hleast hgreatest
  have hparts := (Option.ite_none_right_eq_some.1 hexists).1
  have hshort := Date.daysInMonth_le (Date.ofDays days).year (Date.ofDays days).month
  have hmonth : Number.word? 32 (twoDigits (Date.ofDays days).month) =
      some (Date.ofDays days).month := Number.word?_padLeft (by omega)
  have hday : Number.word? 32 (twoDigits (Date.ofDays days).day) = some (Date.ofDays days).day :=
    Number.word?_padLeft (by omega)
  rw [date?, int32?_yearText hyear hgreatest, hmonth, hday]
  exact hexists

end CloudPolicy
