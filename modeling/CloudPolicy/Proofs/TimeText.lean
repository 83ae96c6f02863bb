import Mathlib.Algebra.Group.Nat.Defs
import CloudPolicy.Proofs.Calendar
import CloudPolicy.Time.Printer

/-! The text of an instant tells the instant. Numbers are recovered from their padded digits, the
parts of an instant from what stands between the separators, and its days from its date. -/

namespace CloudPolicy

/-! ### Padded digits -/

namespace Text

open CloudPolicy.Number (natDigits)

theorem ofDigitChars_padLeft (width n : Nat) :
    Nat.ofDigitChars 10 (padLeft width '0' (natDigits n)) 0 = n := by
  rw [padLeft, Nat.ofDigitChars_append, Nat.ofDigitChars_replicate_zero, Nat.mul_zero, natDigits,
    Nat.ofDigitChars_ten_toDigits]

theorem padLeft_natDigits_injective {width width' m n : Nat}
    (h : padLeft width '0' (natDigits m) = padLeft width' '0' (natDigits n)) : m = n := by
  rw [← ofDigitChars_padLeft width m, h, ofDigitChars_padLeft]

theorem isDigit_of_mem_padLeft {width n : Nat} {c : Char}
    (hc : c ∈ padLeft width '0' (natDigits n)) : c.isDigit = true := by
  rcases List.mem_append.1 hc with hzero | hdigit
  · rw [List.eq_of_mem_replicate hzero]
    rfl
  · exact Nat.isDigit_of_mem_toDigits (by decide) (by decide) hdigit

theorem length_padLeft_natDigits {width n : Nat} (hpos : 0 < width) (hn : n < 10 ^ width) :
    (padLeft width '0' (natDigits n)).length = width := by
  have hdigits : (natDigits n).length ≤ width :=
    (Nat.length_toDigits_le_iff (by decide) hpos).2 hn
  rw [padLeft, List.length_append, List.length_replicate]
  omega

/-- Digits end where something else starts. -/
theorem digits_append_inj {a b s t : List Char} {c d : Char} (ha : ∀ x ∈ a, x.isDigit = true)
    (hb : ∀ x ∈ b, x.isDigit = true) (hc : c.isDigit = false) (hd : d.isDigit = false)
    (h : a ++ c :: s = b ++ d :: t) : a = b ∧ c = d ∧ s = t := by
  induction a generalizing b with
  | nil =>
      cases b with
      | nil =>
          rw [List.nil_append, List.nil_append, List.cons.injEq] at h
          exact ⟨rfl, h⟩
      | cons y b =>
          rw [List.nil_append, List.cons_append, List.cons.injEq] at h
          have hdigit := hb y List.mem_cons_self
          rw [← h.1, hc] at hdigit
          cases hdigit
  | cons x a ih =>
      cases b with
      | nil =>
          rw [List.nil_append, List.cons_append, List.cons.injEq] at h
          have hdigit := ha x List.mem_cons_self
          rw [h.1, hd] at hdigit
          cases hdigit
      | cons y b =>
          rw [List.cons_append, List.cons_append, List.cons.injEq] at h
          obtain ⟨hab, hrest⟩ := ih (fun z hz => ha z (List.mem_cons_of_mem x hz))
            (fun z hz => hb z (List.mem_cons_of_mem y hz)) h.2
          exact ⟨by rw [h.1, hab], hrest⟩

theorem padLeft_append_inj {width m n : Nat} {s t : List Char} {c d : Char}
    (hc : c.isDigit = false) (hd : d.isDigit = false)
    (h : padLeft width '0' (natDigits m) ++ c :: s = padLeft width '0' (natDigits n) ++ d :: t) :
    m = n ∧ c = d ∧ s = t := by
  obtain ⟨hdigits, hrest⟩ := digits_append_inj (fun _ => isDigit_of_mem_padLeft)
    (fun _ => isDigit_of_mem_padLeft) hc hd h
  exact ⟨padLeft_natDigits_injective hdigits, hrest⟩

/-- Padded digits start with a digit. -/
theorem padLeft_ne_cons {width n : Nat} {s t : List Char} {c : Char} (hc : c.isDigit = false) :
    padLeft width '0' (natDigits n) ++ s ≠ c :: t := by
  intro h
  cases hdigits : padLeft width '0' (natDigits n) with
  | nil =>
      rw [padLeft, List.append_eq_nil_iff] at hdigits
      exact Nat.toDigits_ne_nil hdigits.2
  | cons x digits =>
      have hx : x ∈ padLeft width '0' (natDigits n) := hdigits ▸ List.mem_cons_self
      rw [hdigits, List.cons_append, List.cons.injEq] at h
      have hdigit := isDigit_of_mem_padLeft hx
      rw [h.1, hc] at hdigit
      cases hdigit

end Text

/-! ### Dates and instants -/

theorem yearText_append_inj {y z : Int} {s t : List Char}
    (h : yearText y ++ '-' :: s = yearText z ++ '-' :: t) : y = z ∧ s = t := by
  have hsign : ∀ x : Int, (if x < 0 then '-' else '+').isDigit = false := by
    intro x
    split <;> rfl
  by_cases hy : 0 ≤ y ∧ y ≤ 9999 <;> by_cases hz : 0 ≤ z ∧ z ≤ 9999 <;>
    simp only [yearText, hy, hz, and_self, if_true, if_false, List.cons_append] at h
  · obtain ⟨habs, _, hrest⟩ := Text.padLeft_append_inj rfl rfl h
    exact ⟨by omega, hrest⟩
  · exact absurd h (Text.padLeft_ne_cons (hsign z))
  · exact absurd h.symm (Text.padLeft_ne_cons (hsign y))
  · rw [List.cons.injEq] at h
    obtain ⟨habs, _, hrest⟩ := Text.padLeft_append_inj rfl rfl h.2
    have hneg : y < 0 ↔ z < 0 := by
      have hchar := h.1
      by_cases hyneg : y < 0 <;> by_cases hzneg : z < 0 <;> simp [hyneg, hzneg] at hchar ⊢
    exact ⟨by omega, hrest⟩

theorem Date.text_append_inj {a b : Date} {s t : List Char} {c d : Char} (hc : c.isDigit = false)
    (hd : d.isDigit = false) (h : a.text ++ c :: s = b.text ++ d :: t) :
    a = b ∧ c = d ∧ s = t := by
  obtain ⟨year, month, day⟩ := a
  obtain ⟨year', month', day'⟩ := b
  simp only [Date.text, twoDigits, List.append_assoc, List.cons_append] at h
  obtain ⟨rfl, hmonth⟩ := yearText_append_inj h
  obtain ⟨rfl, _, hday⟩ := Text.padLeft_append_inj rfl rfl hmonth
  obtain ⟨rfl, hrest⟩ := Text.padLeft_append_inj hc hd hday
  exact ⟨rfl, hrest⟩

namespace Timestamp

/-- The digits of a fraction, when it has any: so many that the rest of the nanoseconds is zero. -/
theorem fractionText_eq {n : Nat} (hpos : 0 < n) (hn : n < second) :
    ∃ width, 0 < width ∧ width ≤ 9 ∧ n / 10 ^ (9 - width) < 10 ^ width ∧
      n = 10 ^ (9 - width) * (n / 10 ^ (9 - width)) ∧
      fractionText n = '.' :: Text.padLeft width '0' (Number.natDigits (n / 10 ^ (9 - width))) := by
  have hzero : ¬n = 0 := by omega
  simp only [second] at hn
  rw [fractionText, if_neg hzero]
  split
  · exact ⟨3, by decide, by decide, by omega, by omega, rfl⟩
  · split
    · exact ⟨6, by decide, by decide, by omega, by omega, rfl⟩
    · exact ⟨9, by decide, by decide, by omega, by omega, by simp⟩

theorem fractionText_injective {m n : Nat} (hm : m < second) (hn : n < second)
    (h : fractionText m = fractionText n) : m = n := by
  rcases Nat.eq_zero_or_pos m with rfl | hmpos <;> rcases Nat.eq_zero_or_pos n with rfl | hnpos
  · rfl
  · obtain ⟨_, _, _, _, _, htext⟩ := fractionText_eq hnpos hn
    rw [htext] at h
    cases h
  · obtain ⟨_, _, _, _, _, htext⟩ := fractionText_eq hmpos hm
    rw [htext] at h
    cases h
  · obtain ⟨v, hv, _, hvlt, hmv, hmtext⟩ := fractionText_eq hmpos hm
    obtain ⟨w, hw, _, hwlt, hnw, hntext⟩ := fractionText_eq hnpos hn
    rw [hmtext, hntext, List.cons.injEq] at h
    have hlength := congrArg List.length h.2
    rw [Text.length_padLeft_natDigits hv hvlt, Text.length_padLeft_natDigits hw hwlt] at hlength
    subst hlength
    rw [hmv, hnw, Text.padLeft_natDigits_injective h.2]

theorem fractionText_cons (n : Nat) : ∃ c rest, c.isDigit = false ∧
    fractionText n ++ ['Z'] = c :: rest := by
  unfold fractionText
  split
  · exact ⟨'Z', [], rfl, rfl⟩
  · split
    · exact ⟨'.', _, rfl, rfl⟩
    · split <;> exact ⟨'.', _, rfl, rfl⟩

/-- The second that is written, 60 inside a leap second, and the nanoseconds after it are those of
the minute. -/
theorem nanosOfMinute_eq (t : Timestamp) :
    (t.nanosOfMinute : Nat) =
      second * ((t.timeOfDay.toNat) % 60 + (if t.isLeap then 1 else 0)) + t.nanos % second := by
  have hminute := t.nanosOfMinute.isLt
  have hsecond : t.timeOfDay.toNat % 60 = t.secondOfMinute := by
    have hlow : t.secondOfMinute ≤ 59 := Nat.min_le_right _ _
    simp only [timeOfDay, seconds, day]
    omega
  rw [hsecond]
  by_cases hleap : 59 < (t.nanosOfMinute : Nat) / 1000000000
  · have hnanos : t.nanos = t.nanosOfMinute - 59000000000 := by
      rw [nanos, secondOfMinute, second, Nat.min_eq_right (by omega)]
    have hyes : t.isLeap = true := by
      rw [isLeap, hnanos, second, decide_eq_true_eq]
      omega
    rw [if_pos hyes, hnanos, secondOfMinute, second, Nat.min_eq_right (by omega)]
    omega
  · have hnanos : t.nanos = t.nanosOfMinute % 1000000000 := by
      rw [nanos, secondOfMinute, second, Nat.min_eq_left (by omega)]
      omega
    have hno : ¬t.isLeap = true := by
      rw [isLeap, hnanos, second, decide_eq_true_eq]
      omega
    rw [if_neg hno, hnanos, secondOfMinute, second, Nat.min_eq_left (by omega)]
    omega

theorem minute_eq (t : Timestamp) :
    t.minute = 1440 * (t.seconds / day) +
      (60 * (t.timeOfDay.toNat / 3600) + t.timeOfDay.toNat / 60 % 60 : Nat) := by
  have hlow : t.secondOfMinute ≤ 59 := Nat.min_le_right _ _
  simp only [timeOfDay, seconds, day]
  omega

/-- Two instants with one text are one instant. -/
theorem text_injective {t u : Timestamp} (h : t.text = u.text) : t = u := by
  have hchars : t.chars = u.chars := String.ofList_injective h
  simp only [chars, twoDigits] at hchars
  obtain ⟨hdate, _, htime⟩ := Date.text_append_inj rfl rfl hchars
  obtain ⟨hhour, _, hclock⟩ := Text.padLeft_append_inj rfl rfl htime
  obtain ⟨hminute, _, hend⟩ := Text.padLeft_append_inj rfl rfl hclock
  obtain ⟨c, rest, hc, hcons⟩ := fractionText_cons (t.nanos % second)
  obtain ⟨d, rest', hd, hcons'⟩ := fractionText_cons (u.nanos % second)
  rw [List.append_assoc, List.append_assoc, hcons, hcons'] at hend
  obtain ⟨hsecond, rfl, rfl⟩ := Text.padLeft_append_inj hc hd hend
  have hfraction : fractionText (t.nanos % second) = fractionText (u.nanos % second) :=
    List.append_cancel_right (hcons.trans hcons'.symm)
  have hnanos := fractionText_injective (Nat.mod_lt _ (by decide)) (Nat.mod_lt _ (by decide))
    hfraction
  have hdays : t.seconds / day = u.seconds / day := Date.ofDays_injective hdate
  have hfirst : t.minute = u.minute := by
    rw [minute_eq t, minute_eq u, hdays, hhour, hminute]
  have hlast : (t.nanosOfMinute : Nat) = u.nanosOfMinute := by
    rw [nanosOfMinute_eq t, nanosOfMinute_eq u, hsecond, hnanos]
  cases t
  cases u
  simp only at hfirst hlast
  rw [hfirst, Fin.ext hlast]

end Timestamp

end CloudPolicy
