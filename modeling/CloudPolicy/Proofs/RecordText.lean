import Mathlib.Algebra.Group.Nat.Defs
import CloudPolicy.Ledger.Record
import CloudPolicy.Proofs.JsonText
import CloudPolicy.Proofs.TimeText

/-! The text of a run record that is hashed tells the record: run identifiers, names of resource
types, instants, reports and tag sets can all be read off it. -/

namespace CloudPolicy

namespace RunId

/-! ### Run identifiers -/

@[simp] theorem length_hexDigits (count n : Nat) : (hexDigits count n).length = count := by
  induction count generalizing n with
  | zero => rfl
  | succ count ih => rw [hexDigits, List.length_append, ih, List.length_singleton]

theorem ofHex?_hexDigits (count n : Nat) : ofHex? (hexDigits count n) = some (n % 16 ^ count) := by
  induction count generalizing n with
  | zero => rw [Nat.pow_zero, Nat.mod_one, hexDigits, ofHex?, List.foldlM_nil]; rfl
  | succ count ih =>
      have hdigit := Json.hexValue?_hexDigit n
      rw [Json.hexDigit] at hdigit
      have hmod : n % 16 ^ (count + 1) = 16 * (n / 16 % 16 ^ count) + n % 16 := by
        rw [Nat.pow_succ, Nat.mul_comm, Nat.mod_mul, Nat.add_comm]
      have hhigh := ih (n / 16)
      rw [ofHex?] at hhigh ⊢
      rw [hexDigits, List.foldlM_append, hhigh, hmod, Option.bind_eq_bind, Option.bind_some,
        List.foldlM_cons, hdigit]
      rfl

theorem isSome_hexValue?_of_mem {count n : Nat} {c : Char} (h : c ∈ hexDigits count n) :
    (Json.hexValue? c).isSome := by
  induction count generalizing n with
  | zero => exact absurd h List.not_mem_nil
  | succ count ih =>
      rw [hexDigits, List.mem_append, List.mem_singleton] at h
      rcases h with h | rfl
      · exact ih h
      · have hdigit := Json.hexValue?_hexDigit n
        rw [Json.hexDigit] at hdigit
        rw [hdigit, Option.isSome_some]

theorem ne_of_mem_hexDigits {count n : Nat} {c d : Char} (h : c ∈ hexDigits count n)
    (hd : Json.hexValue? d = none) : c ≠ d := by
  rintro rfl
  have hsome := isSome_hexValue?_of_mem h
  rw [hd] at hsome
  exact absurd hsome (by decide)

/-- Without its dashes, the grouped form of 32 digits is the digits. -/
theorem filter_group {digits : List Char} (hlength : digits.length = 32)
    (hdash : ∀ c ∈ digits, c ≠ '-') : (group digits).filter (· ≠ '-') = digits := by
  have hpart (start length : Nat) : ((digits.drop start).take length).filter (· ≠ '-') =
      (digits.drop start).take length :=
    List.filter_eq_self.2 fun c hc =>
      decide_eq_true (hdash c (List.mem_of_mem_drop (List.mem_of_mem_take hc)))
  have hskip (rest : List Char) : ('-' :: rest).filter (· ≠ '-') = rest.filter (· ≠ '-') := rfl
  have hjoin (start length : Nat) :
      (digits.drop start).take length ++ digits.drop (start + length) = digits.drop start := by
    rw [← List.drop_drop, List.take_append_drop]
  have hlast : (digits.drop 20).take 12 = digits.drop 20 :=
    List.take_of_length_le (by rw [List.length_drop]; omega)
  simp only [group, List.filter_append, hskip, hpart]
  rw [hlast, hjoin 16 4, hjoin 12 4, hjoin 8 4, hjoin 0 8, List.drop_zero]

theorem length_group {digits : List Char} (hlength : digits.length = 32) :
    (group digits).length = 36 := by
  simp only [group, List.length_append, List.length_cons, List.length_take, List.length_drop,
    hlength]
  rfl

/-- The grouped form begins with the first digit. -/
theorem exists_group_eq_cons {digits : List Char} (hlength : digits.length = 32) :
    ∃ c ∈ digits, ∃ tail, group digits = c :: tail := by
  cases digits with
  | nil => exact absurd hlength (by decide)
  | cons c digits => exact ⟨c, List.mem_cons_self, _, rfl⟩

/-- A written identifier is read back. -/
theorem ofText?_text (id : RunId) : ofText? id.text = some id := by
  have hlength := length_hexDigits 32 id.bits.toNat
  have hfilter := filter_group hlength fun c hc => ne_of_mem_hexDigits hc rfl
  have hplain : ofPlain? (hexDigits 32 id.bits.toNat) = some id := by
    have hbound : id.bits.toNat % 16 ^ 32 = id.bits.toNat := Nat.mod_eq_of_lt id.bits.isLt
    rw [ofPlain?, if_pos hlength, ofHex?_hexDigits, hbound, Option.map_some, ofNat,
      BitVec.ofNat_toNat, BitVec.setWidth_eq]
  have hgrouped : ofGrouped? (group (hexDigits 32 id.bits.toNat)) = some id := by
    simp only [ofGrouped?, hfilter, hlength, true_and, if_true, hplain]
  have hgroup := length_group hlength
  obtain ⟨c, hc, tail, hfirst⟩ := exists_group_eq_cons hlength
  rw [ofText?, text, String.toList_ofList]
  -- The forms in braces and with a prefix begin with characters that are no digits.
  split
  next h => exact absurd (List.cons.inj (hfirst.symm.trans h)).1 (ne_of_mem_hexDigits hc rfl)
  next h => exact absurd (List.cons.inj (hfirst.symm.trans h)).1 (ne_of_mem_hexDigits hc rfl)
  next => rw [hgroup, if_neg (by decide), hgrouped]

theorem text_injective {a b : RunId} (h : a.text = b.text) : a = b := by
  apply Option.some.inj
  calc some a
      = ofText? a.text := (ofText?_text a).symm
    _ = ofText? b.text := by rw [h]
    _ = some b := ofText?_text b

end RunId

/-! ### Reports -/

theorem ResourceType.name_injective {a b : ResourceType} (h : a.name = b.name) : a = b := by
  apply Option.some.inj
  calc some a
      = ofName? a.name := (ofName?_name a).symm
    _ = ofName? b.name := by rw [h]
    _ = some b := ofName?_name b

namespace Json

theorem strings_injective {xs ys : List String} (h : strings xs = strings ys) : xs = ys := by
  rw [strings, strings, array.injEq] at h
  exact (List.map_inj_right fun _ _ => string.inj).1 h

theorem numberFree_strings (items : List String) : (strings items).numberFree := by
  simp [strings, numberFree]

end Json

theorem FailedResource.fields_injective {a b : FailedResource} (h : a.fields = b.fields) :
    a = b := by
  simp only [fields, List.cons.injEq, Prod.mk.injEq, Json.string.injEq, true_and, and_true] at h
  cases a
  cases b
  simp_all

namespace TagSet

theorem toJson_injective {a b : TagSet} (h : a.toJson = b.toJson) : a = b := by
  rw [toJson, toJson, Json.object.injEq, StringMap.map, StringMap.map, StringMap.mk.injEq] at h
  have hentries : a.entries.entries = b.entries.entries :=
    (List.map_inj_right fun x y hxy => by
      rw [Prod.mk.injEq, Json.string.injEq] at hxy
      exact Prod.ext hxy.1 hxy.2).1 h
  rcases a with ⟨⟨_⟩, _⟩
  rcases b with ⟨⟨_⟩, _⟩
  cases hentries
  rfl

theorem numberFree_toJson (tags : TagSet) : tags.toJson.numberFree := by
  simp [toJson, StringMap.map, Json.numberFree]

theorem eq_empty_of_isEmpty {tags : TagSet} (h : tags.isEmpty) : tags = ∅ := by
  rcases tags with ⟨⟨_ | ⟨e, rest⟩⟩, _⟩
  · rfl
  · exact absurd h (by simp [isEmpty, StringMap.isEmpty])

end TagSet

namespace Report

theorem numberFree_canonical (report : Report) : report.canonical.numberFree := by
  by_cases htags : report.tags.isEmpty
  · simp [canonical, htags, Json.numberFree, Json.numberFree_strings, FailedResource.fields]
  · simp [canonical, htags, Json.numberFree, Json.numberFree_strings, FailedResource.fields,
      TagSet.numberFree_toJson]

theorem canonical_injective {a b : Report} (h : a.canonical = b.canonical) : a = b := by
  rw [canonical, canonical, Json.object.injEq, StringMap.mk.injEq] at h
  simp only [List.cons_append, List.nil_append, List.cons.injEq, Prod.mk.injEq, Json.string.injEq,
    true_and] at h
  obtain ⟨haction, hsucceeded, hfailed, htags⟩ := h
  have hfailures : a.failed = b.failed := by
    rw [Json.array.injEq] at hfailed
    refine (List.map_inj_right fun x y hxy => ?_).1 hfailed
    rw [Json.object.injEq, StringMap.mk.injEq] at hxy
    exact FailedResource.fields_injective hxy
  have hset : a.tags = b.tags := by
    split at htags <;> split at htags
    next ha hb => rw [TagSet.eq_empty_of_isEmpty ha, TagSet.eq_empty_of_isEmpty hb]
    next => exact absurd htags (by simp)
    next => exact absurd htags (by simp)
    next =>
      rw [List.cons.injEq, Prod.mk.injEq] at htags
      exact TagSet.toJson_injective htags.1.2
  rcases a with ⟨_, _, _, _⟩
  rcases b with ⟨_, _, _, _⟩
  cases haction
  cases Json.strings_injective hsucceeded
  cases hfailures
  cases hset
  rfl

end Report

namespace RunRecord

theorem numberFree_canonical (record : RunRecord) : record.canonical.numberFree := by
  simp [canonical, Json.numberFree, Report.numberFree_canonical]

theorem canonical_injective {a b : RunRecord} (h : a.canonical = b.canonical) : a = b := by
  rw [canonical, canonical, Json.object.injEq, StringMap.mk.injEq] at h
  simp only [List.cons.injEq, Prod.mk.injEq, Json.string.injEq, true_and, and_true] at h
  obtain ⟨hrun, hpolicy, htype, hreport, htime⟩ := h
  rcases a with ⟨_, _, _, _, _⟩
  rcases b with ⟨_, _, _, _, _⟩
  cases RunId.text_injective hrun
  cases hpolicy
  cases ResourceType.name_injective htype
  cases Report.canonical_injective hreport
  cases Timestamp.text_injective htime
  rfl

/-- **The hashed text tells the record.** -/
theorem canonicalText_injective {a b : RunRecord} (h : a.canonical.text = b.canonical.text) :
    a = b :=
  canonical_injective (Json.text_injective a.numberFree_canonical b.numberFree_canonical h)

end RunRecord

end CloudPolicy
