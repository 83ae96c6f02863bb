import CloudPolicy.Proofs.DateText
import CloudPolicy.Time.Reader

/-! Stored instants are read back. The lenient reader takes the parts of a written instant off its
text, one after the other, and put together again they are the instant, a leap second included. -/

namespace CloudPolicy

open Text (padLeft trimStart)
open Number (natDigits)

/-! ### Digits -/

theorem Text.isBlank_of_isDigit {c : Char} (hc : c.isDigit = true) : isBlank c = false := by
  have hrange : 48 ≤ c.toNat ∧ c.toNat ≤ 57 := by
    simpa [Char.isDigit, UInt32.le_iff_toNat_le] using hc
  simp only [isBlank, decide_eq_false_iff_not]
  omega

theorem Text.trimStart_cons {c : Char} (hc : isBlank c = false) (rest : List Char) :
    trimStart (c :: rest) = c :: rest :=
  List.dropWhile_cons_of_neg (by simp [hc])

theorem Text.exists_padLeft_eq_cons (width n : Nat) :
    ∃ c tail, padLeft width '0' (natDigits n) = c :: tail ∧ c.isDigit = true := by
  cases hdigits : padLeft width '0' (natDigits n) with
  | nil => exact absurd (List.append_eq_nil_iff.1 hdigits).2 Nat.toDigits_ne_nil
  | cons c tail => exact ⟨c, tail, rfl, isDigit_of_mem_padLeft (hdigits ▸ List.mem_cons_self)⟩

theorem Text.trimStart_padLeft (width n : Nat) (rest : List Char) :
    trimStart (padLeft width '0' (natDigits n) ++ rest) =
      padLeft width '0' (natDigits n) ++ rest := by
  obtain ⟨c, tail, hdigits, hc⟩ := exists_padLeft_eq_cons width n
  rw [hdigits]
  exact trimStart_cons (isBlank_of_isDigit hc) _

namespace Timestamp

/-- Digits end where something else starts, or where no more are taken. -/
theorem takeWhile_take_append {most : Nat} {digits rest : List Char}
    (hdigits : ∀ c ∈ digits, c.isDigit = true) (hmost : digits.length ≤ most)
    (hrest : digits.length = most ∨ ∀ c ∈ rest.head?, c.isDigit = false) :
    ((digits ++ rest).take most).takeWhile Char.isDigit = digits := by
  have hafter : (rest.take (most - digits.length)).takeWhile Char.isDigit = [] := by
    rcases hrest with hfull | hrest
    · rw [hfull, Nat.sub_self, List.take_zero, List.takeWhile_nil]
    · rcases rest with _ | ⟨c, rest⟩
      · rw [List.take_nil, List.takeWhile_nil]
      · cases most - digits.length with
        | zero => rw [List.take_zero, List.takeWhile_nil]
        | succ count =>
            have hc : ¬c.isDigit = true := Bool.not_eq_true _ ▸ hrest c rfl
            rw [List.take_succ_cons, List.takeWhile_cons_of_neg hc]
  rw [List.take_append, List.take_of_length_le hmost, List.takeWhile_append_of_pos hdigits,
    hafter, List.append_nil]

theorem digits?_append {least most : Nat} {digits rest : List Char}
    (hdigits : ∀ c ∈ digits, c.isDigit = true) (hleast : least ≤ digits.length)
    (hmost : digits.length ≤ most)
    (hrest : digits.length = most ∨ ∀ c ∈ rest.head?, c.isDigit = false) :
    digits? least most (digits ++ rest) = some (Number.ofDigits digits, rest) := by
  rw [digits?, takeWhile_take_append hdigits hmost hrest, if_neg (Nat.not_lt.2 hleast),
    List.drop_left]

theorem digits?_padLeft {least width n : Nat} (hpos : 0 < width) (hn : n < 10 ^ width)
    (hleast : least ≤ width) (rest : List Char) :
    digits? least width (padLeft width '0' (natDigits n) ++ rest) = some (n, rest) := by
  have hlength := Text.length_padLeft_natDigits hpos hn
  rw [digits?_append (fun _ => Text.isDigit_of_mem_padLeft) (by rwa [hlength])
    (Nat.le_of_eq hlength) (.inl hlength), Number.ofDigits_eq, Text.ofDigitChars_padLeft]

theorem twoDigits?_append {n : Nat} (hn : n < 100) (rest : List Char) :
    twoDigits? (twoDigits n ++ rest) = some (n, rest) := by
  rw [twoDigits?, twoDigits, Text.trimStart_padLeft]
  exact digits?_padLeft (by decide) hn (by decide) rest

/-! ### Dates and times -/

theorem year?_append {year : Int} (hyear : 0 ≤ year) (rest : List Char) :
    year? (yearText year ++ '-' :: rest) = some (year, '-' :: rest) := by
  have hback : (year.natAbs : Int) = year := Int.natAbs_of_nonneg hyear
  rw [yearText]
  split
  next hshort =>
    have hread : digits? 1 4 (padLeft 4 '0' (natDigits year.natAbs) ++ '-' :: rest) =
        some (year.natAbs, '-' :: rest) := digits?_padLeft (by decide) (by omega) (by decide) _
    rw [year?, Text.trimStart_padLeft]
    -- neither sign stands before the digits
    split
    next htext => exact absurd htext (Text.padLeft_ne_cons rfl)
    next htext => exact absurd htext (Text.padLeft_ne_cons rfl)
    next => simp only [hread, Option.map_some, hback]
  next =>
    obtain ⟨c, tail, hdigits, -⟩ := Text.exists_padLeft_eq_cons 4 year.natAbs
    generalize htext : padLeft 4 '0' (natDigits year.natAbs) ++ '-' :: rest = text
    have hread : digits? 1 text.length text = some (year.natAbs, '-' :: rest) := by
      rw [← htext, digits?_append (fun _ => Text.isDigit_of_mem_padLeft) (by rw [hdigits]; simp)
        (by simp) (.inr (by simp)), Number.ofDigits_eq, Text.ofDigitChars_padLeft]
    rw [if_neg (Int.not_lt.2 hyear), List.cons_append, htext, year?,
      Text.trimStart_cons (by decide)]
    simp only [hread, Option.map_some, hback]

theorem oneOf?_cons {choices : List Char} {c : Char} (hc : choices.contains c) (rest : List Char) :
    oneOf? choices (c :: rest) = some rest :=
  if_pos hc

theorem date?_append {d : Date} (hyear : 0 ≤ d.year) (hmonth : d.month < 100) (hday : d.day < 100)
    (rest : List Char) :
    date? trimStart (d.text ++ rest) = some ((d.year, d.month, d.day), rest) := by
  rw [Date.text, List.append_assoc, List.cons_append, List.append_assoc, List.cons_append, date?,
    year?_append hyear]
  simp (disch := first | assumption | decide) only [Option.bind_eq_bind, Option.bind_some,
    Text.trimStart_cons, oneOf?_cons, twoDigits?_append]

theorem fraction?_append {n : Nat} (hn : n < second) :
    fraction? (fractionText n ++ ['Z']) = some (n, ['Z']) := by
  rcases Nat.eq_zero_or_pos n with rfl | hpos
  · rfl
  obtain ⟨width, hwidth, hnine, hless, hscaled, htext⟩ := fractionText_eq hpos hn
  rw [htext, List.cons_append, fraction?]
  generalize hdigits : padLeft width '0' (natDigits (n / 10 ^ (9 - width))) = digits
  have hlength : digits.length = width := hdigits ▸ Text.length_padLeft_natDigits hwidth hless
  have hall : ∀ c ∈ digits, c.isDigit = true := hdigits ▸ fun _ => Text.isDigit_of_mem_padLeft
  have htaken : ((digits ++ ['Z']).take 9).takeWhile Char.isDigit = digits :=
    takeWhile_take_append hall (by omega) (.inr (by simp))
  have hleft : (digits ++ ['Z']).dropWhile Char.isDigit = ['Z'] := by
    rw [List.dropWhile_append_of_pos hall]
    rfl
  have hsome : digits ≠ [] := List.ne_nil_of_length_pos (hlength ▸ hwidth)
  have hvalue : Number.ofDigits digits = n / 10 ^ (9 - width) := by
    rw [← hdigits, Number.ofDigits_eq, Text.ofDigitChars_padLeft]
  have hpower : Nat.pow 10 (9 - width) = 10 ^ (9 - width) := rfl
  rw [htaken, if_neg hsome, hleft, hvalue, hlength, hpower, Nat.mul_comm, ← hscaled]

theorem time?_append {hour minute second nanos : Nat} (hhour : hour < 100) (hminute : minute < 100)
    (hsecond : second < 100) (hnanos : nanos < Timestamp.second) :
    time? trimStart (twoDigits hour ++ ':' :: (twoDigits minute ++
      ':' :: (twoDigits second ++ fractionText nanos ++ ['Z']))) =
        some ((hour, minute, second, nanos), ['Z']) := by
  rw [time?, List.append_assoc]
  simp (disch := first | assumption | decide) only [Option.bind_eq_bind, Option.bind_some,
    Text.trimStart_cons, oneOf?_cons, twoDigits?_append, fraction?_append]

/-! ### Instants -/

theorem secondOfMinute_eq_of_isLeap {t : Timestamp} (h : t.isLeap) : t.secondOfMinute = 59 := by
  rw [isLeap, decide_eq_true_eq, nanos] at h
  rw [secondOfMinute] at h ⊢
  simp only [second] at h ⊢
  omega

theorem nanos_mod_second (t : Timestamp) :
    t.nanos % second = if t.isLeap then t.nanos - second else t.nanos := by
  have hnanos : (t.nanosOfMinute : Nat) < 61000000000 := t.nanosOfMinute.isLt
  split
  next hleap =>
    have hlast := secondOfMinute_eq_of_isLeap hleap
    rw [isLeap, decide_eq_true_eq, nanos, hlast] at hleap
    rw [nanos, hlast]
    simp only [second] at hleap ⊢
    omega
  next hleap =>
    rw [isLeap, decide_eq_true_eq, Nat.not_le] at hleap
    exact Nat.mod_eq_of_lt hleap

/-- An instant is told by its seconds and nanoseconds. -/
theorem ofSeconds_seconds_nanos (t : Timestamp) : ofSeconds t.seconds t.nanos = t := by
  have hlow : t.secondOfMinute ≤ 59 := Nat.min_le_right _ _
  have hminute : t.seconds / 60 = t.minute := by
    rw [seconds]
    omega
  have hsecond : (t.seconds % 60).toNat = t.secondOfMinute := by
    rw [seconds]
    omega
  have hnanos : second * t.secondOfMinute + t.nanos = t.nanosOfMinute := by
    rw [nanos, secondOfMinute]
    simp only [second]
    omega
  rw [ofSeconds, hminute, hsecond, hnanos]
  exact congrArg (Timestamp.mk t.minute) (Fin.ofNat_val_eq_self _)

/-- The year of the instant is 0 or later, and one that dates have. -/
structure Dated (t : Timestamp) : Prop where
  low : 0 ≤ t.date.year
  high : t.date.year ≤ Date.greatestYear

variable {t : Timestamp}

theorem Dated.isInRange (h : t.Dated) : t.isInRange = true :=
  decide_eq_true ⟨Int.le_trans (by decide) h.low, h.high⟩

theorem Dated.of?_date (h : t.Dated) : Date.of? t.date.year t.date.month t.date.day = some t.date :=
  Date.of?_ofDays (Int.le_trans (by decide) h.low) h.high

theorem Dated.month_lt (h : t.Dated) : t.date.month < 100 := by
  have hparts := (Option.ite_none_right_eq_some.1 h.of?_date).1
  omega

theorem Dated.day_lt (h : t.Dated) : t.date.day < 100 := by
  have hparts := (Option.ite_none_right_eq_some.1 h.of?_date).1
  have hshort := Date.daysInMonth_le t.date.year t.date.month
  omega

/-- The parts of an instant make the instant: the second that is written is 60 in a leap second
and only there. -/
theorem Dated.ofParts?_eq (h : t.Dated) :
    ofParts? t.date.year t.date.month t.date.day (t.timeOfDay.toNat / 3600)
      (t.timeOfDay.toNat / 60 % 60) (t.timeOfDay.toNat % 60 + if t.isLeap then 1 else 0)
      (t.nanos % second) 0 = some t := by
  have hlow : 0 ≤ t.timeOfDay := Int.emod_nonneg _ (by decide)
  have hhigh : t.timeOfDay < 86400 := Int.emod_lt_of_pos _ (by decide)
  have hseconds : t.date.toDays * day + t.timeOfDay = t.seconds := by
    have hdays : t.date.toDays = t.seconds / day := Date.toDays_ofDays _
    rw [hdays]
    exact Int.ediv_mul_add_emod _ _
  have hsecond : t.timeOfDay.toNat % 60 = t.secondOfMinute := by
    have hlow : t.secondOfMinute ≤ 59 := Nat.min_le_right _ _
    simp only [timeOfDay, seconds, day]
    omega
  rw [ofParts?, h.of?_date, Option.bind_eq_bind, Option.bind_some, nanos_mod_second]
  cases hleap : t.isLeap with
  | true =>
      rw [secondOfMinute_eq_of_isLeap hleap] at hsecond
      have hclock : ((t.timeOfDay.toNat / 3600 : Nat) : Int) * 3600 +
          (t.timeOfDay.toNat / 60 % 60 : Nat) * 60 + (59 : Nat) - 0 = t.timeOfDay := by
        omega
      have hnanos : t.nanos - second + second = t.nanos :=
        Nat.sub_add_cancel (of_decide_eq_true hleap)
      have hlast : t.timeOfDay.toNat % 60 + 1 = 60 := by omega
      rw [if_pos rfl, if_pos rfl, if_pos (by omega)]
      dsimp only
      rw [if_pos hlast, if_pos hlast, hclock, hnanos, ofDateTime, hseconds,
        ofSeconds_seconds_nanos, if_pos h.isInRange]
  | false =>
      have hclock : ((t.timeOfDay.toNat / 3600 : Nat) : Int) * 3600 +
          (t.timeOfDay.toNat / 60 % 60 : Nat) * 60 + (t.timeOfDay.toNat % 60 + 0 : Nat) - 0 =
            t.timeOfDay := by
        omega
      have hearly : ¬t.timeOfDay.toNat % 60 + 0 = 60 := by omega
      rw [if_neg Bool.false_ne_true, if_neg Bool.false_ne_true, if_pos (by omega)]
      dsimp only
      rw [if_neg hearly, if_neg hearly, hclock, ofDateTime, hseconds, ofSeconds_seconds_nanos,
        if_pos h.isInRange]

/-- **Stored instants are read back.** -/
theorem Dated.lenient?_chars (h : t.Dated) : lenient? t.chars = some t := by
  have hlow : 0 ≤ t.timeOfDay := Int.emod_nonneg _ (by decide)
  have hhigh : t.timeOfDay < 86400 := Int.emod_lt_of_pos _ (by decide)
  have hsecond : t.timeOfDay.toNat % 60 + (if t.isLeap then 1 else 0) < 100 := by
    split <;> omega
  have hhour : t.timeOfDay.toNat / 3600 < 100 := by omega
  have hminute : t.timeOfDay.toNat / 60 % 60 < 100 := by omega
  have htimes := time?_append hhour hminute hsecond (Nat.mod_lt t.nanos (by decide))
  have hmark : ∀ rest, oneOf? ['T', 't', ' '] ('T' :: rest) = some rest := fun _ => rfl
  simp only [lenient?, chars, date?_append h.low h.month_lt h.day_lt, Option.bind_eq_bind,
    Option.bind_some, hmark, htimes]
  exact h.ofParts?_eq

end Timestamp

end CloudPolicy
