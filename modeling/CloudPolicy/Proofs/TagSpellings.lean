import Mathlib.Data.List.Forall2
import CloudPolicy.Proofs.DateText
import CloudPolicy.Proofs.Records
import CloudPolicy.Proofs.TagWrites

/-! The spellings of tags. Each tag of a list may be spelled as a mapping, as a record or as a text,
whatever the others are spelled as and whatever its key is, and it is read as the same tag. Main
statement: a list of tags is read, in any spelling, as the mapping of the same tags is. -/

namespace CloudPolicy

namespace StringMap

variable {α : Type}

theorem lookup_eq_none_iff {key : String} {entries : List (String × α)} :
    lookup key entries = none ↔ key ∉ entries.map (·.1) := by
  induction entries with
  | nil => simp [lookup]
  | cons e entries ih =>
      rw [lookup, List.map_cons, List.mem_cons, not_or]
      by_cases hkey : e.1 = key
      · simp [hkey]
      · rw [if_neg hkey, ih]
        exact (and_iff_right (Ne.symm hkey)).symm

end StringMap

/-! ### Scalar values -/

/-- The value is neither a list nor a mapping. -/
def Json.isScalar : Json → Bool
  | .array _ | .object _ => false
  | _ => true

/-- The text of a tag with a scalar value. -/
def Json.tagText (value : Json) : String := (scalarText "" value).toOption.getD ""

theorem scalarTag_of_isScalar {value : Json} (hscalar : value.isScalar) (key : String) :
    scalarTag key value = .ok (key, value.tagText) := by
  cases value with
  | array | object => cases hscalar
  | _ => rfl

/-! ### Entries of lists -/

/-- An item of a list of tags that spells the tag with a key and a value. A key that is spelled in a
text ends at the first equality sign. -/
inductive SpellsTag (key : String) (value : Json) : Json → Prop where
  | mapping : SpellsTag key value (.obj [(key, value)])
  | record : SpellsTag key value (.obj [("key", .string key), ("value", value)])
  | text (hkey : key ≠ "") (hsep : '=' ∉ key.toList) :
      SpellsTag key value (.string (key ++ "=" ++ value.tagText))

/-- Which spelling an item has is told from its content, and a tag named like a field of a record is
not mistaken for one. -/
theorem SpellsTag.entry_eq {key : String} {value item : Json} (h : SpellsTag key value item)
    (hscalar : value.isScalar) (index : Nat) :
    TagForm.entry index item = .ok (key, value.tagText) := by
  cases h with
  | mapping =>
      have hget (name : String) : (StringMap.ofList [(key, value)]).get? name =
          if key = name then some value else none := StringMap.get?_ofList _ _
      rw [Json.obj, TagForm.entry, hget, hget]
      split
      next hkey hvalue =>
        -- a single entry cannot have both names
        obtain ⟨rfl, -⟩ := Option.ite_none_right_eq_some.1 hkey
        obtain ⟨hne, -⟩ := Option.ite_none_right_eq_some.1 hvalue
        exact absurd hne (by decide)
      next => exact scalarTag_of_isScalar hscalar key
  | record =>
      rw [Json.obj, TagForm.entry, StringMap.get?_ofList, StringMap.get?_ofList]
      exact scalarTag_of_isScalar hscalar key
  | text hkey hsep =>
      have hcut : Text.cutAt? '=' (key ++ "=" ++ value.tagText).toList =
          some (key.toList, value.tagText.toList) := by
        rw [String.toList_append, String.toList_append, List.append_assoc]
        exact Text.cutAt?_append hsep _
      rw [TagForm.entry, hcut]
      cases hchars : key.toList with
      | nil => exact absurd (String.toList_eq_nil_iff.1 hchars) hkey
      | cons c chars =>
          dsimp only
          rw [← hchars, String.ofList_toList, String.ofList_toList]

variable {pairs : List (String × Json)} {items : List Json}

/-- The tags of keys and scalar values. -/
def tagsOfPairs (pairs : List (String × Json)) : List (String × String) :=
  pairs.map fun e => (e.1, e.2.tagText)

theorem mapM_scalarTag (hscalar : ∀ e ∈ pairs, e.2.isScalar) :
    (pairs.mapM fun e => scalarTag e.1 e.2) = .ok (tagsOfPairs pairs) := by
  induction pairs with
  | nil => rfl
  | cons e pairs ih =>
      obtain ⟨he, hpairs⟩ := List.forall_mem_cons.1 hscalar
      rw [List.mapM_cons, scalarTag_of_isScalar he, ih hpairs]
      rfl

theorem mapM_entry (hspelled : List.Forall₂ (fun e item => SpellsTag e.1 e.2 item) pairs items)
    (hscalar : ∀ e ∈ pairs, e.2.isScalar) (start : Nat) :
    ((items.zipIdx start).mapM fun (item, index) => TagForm.entry index item) =
      .ok (tagsOfPairs pairs) := by
  induction hspelled generalizing start with
  | nil => rfl
  | cons hitem _ ih =>
      obtain ⟨he, hpairs⟩ := List.forall_mem_cons.1 hscalar
      rw [List.zipIdx_cons, List.mapM_cons]
      dsimp only
      rw [hitem.entry_eq he, ih hpairs]
      rfl

namespace TagSet

theorem get?_ofList (entries : List (String × String)) (key : String) :
    (ofList entries).get? key = StringMap.lookup key entries.reverse := by
  rw [get?, ofList, entries_insertAll]
  exact StringMap.get?_ofList entries key

theorem ofJson_list (hspelled : List.Forall₂ (fun e item => SpellsTag e.1 e.2 item) pairs items)
    (hscalar : ∀ e ∈ pairs, e.2.isScalar) :
    ofJson (.array items) = .ok (ofList (tagsOfPairs pairs)) := by
  show (TagForm.list items).tags.map ofList = _
  rw [TagForm.tags, mapM_entry hspelled hscalar 0]
  rfl

/-- The mapping of some tags is read as their list is: a key that occurs repeatedly has its last
value. -/
theorem ofJson_mapping (hscalar : ∀ e ∈ pairs, e.2.isScalar) :
    ofJson (.obj pairs) = .ok (ofList (tagsOfPairs pairs)) := by
  have hscalars : ∀ e ∈ (StringMap.ofList pairs).entries, e.2.isScalar := by
    intro e he
    rcases StringMap.mem_entries_insertAll he with hnone | he
    · exact absurd hnone List.not_mem_nil
    · exact hscalar e he
  have htexts : tagsOfPairs (StringMap.ofList pairs).entries =
      (ofList (tagsOfPairs pairs)).toList := by
    calc tagsOfPairs (StringMap.ofList pairs).entries
        = ((StringMap.ofList pairs).map Json.tagText).entries := rfl
      _ = (StringMap.ofList (tagsOfPairs pairs)).entries := by
        rw [StringMap.map_ofList]
        rfl
      _ = (ofList (tagsOfPairs pairs)).toList := by
        rw [toList, ofList, entries_insertAll]
        rfl
  show (TagForm.mapping (StringMap.ofList pairs)).tags.map ofList = _
  rw [TagForm.tags, mapM_scalarTag hscalars, htexts]
  exact congrArg Except.ok (ofList_toList _)

theorem mem_keys_ofList {entries : List (String × String)} {key : String} :
    key ∈ (ofList entries).keys ↔ key ∈ entries.map (·.1) := by
  have hlookup : (ofList entries).get? key = none ↔ key ∉ (ofList entries).keys :=
    StringMap.lookup_eq_none_iff
  rw [get?_ofList, StringMap.lookup_eq_none_iff, List.map_reverse, List.mem_reverse] at hlookup
  exact (not_iff_not.1 hlookup).symm

/-- The last of several tags with one key counts. -/
theorem get?_ofList_of_last {before after : List (String × String)} {key : String}
    (hlast : key ∉ after.map (·.1)) (text : String) :
    (ofList (before ++ (key, text) :: after)).get? key = some text := by
  have hafter : StringMap.lookup key after.reverse = none := by
    rw [StringMap.lookup_eq_none_iff, List.map_reverse, List.mem_reverse]
    exact hlast
  rw [get?_ofList, List.reverse_append, List.reverse_cons, List.append_assoc,
    StringMap.lookup_append, hafter, Option.none_or, List.singleton_append, StringMap.lookup,
    if_pos rfl]

/-- **Spellings of tags are interchangeable.** A list of tags with scalar values is read in
whichever spelling each of them has. The tags read have the keys of the list, each with the text of
its last value, and are those of the mapping with the same keys and values. Tags that are written as
a mapping are read back. -/
theorem spellings_interchangeable (pairs : List (String × Json))
    (hscalar : ∀ e ∈ pairs, e.2.isScalar) (items : List Json)
    (hspelled : List.Forall₂ (fun e item => SpellsTag e.1 e.2 item) pairs items) :
    (∃ tags, ofJson (.array items) = .ok tags ∧
      (∀ key, key ∈ tags.keys ↔ key ∈ pairs.map (·.1)) ∧
      (∀ before key value after, pairs = before ++ (key, value) :: after →
        key ∉ after.map (·.1) → tags.get? key = some value.tagText) ∧
      ofJson (.obj pairs) = .ok tags) ∧
    ∀ tags : TagSet, ofJson tags.toJson = .ok tags := by
  have hkeys (pairs : List (String × Json)) :
      (tagsOfPairs pairs).map (·.1) = pairs.map (·.1) := by
    rw [tagsOfPairs, List.map_map]
    rfl
  refine ⟨⟨ofList (tagsOfPairs pairs), ofJson_list hspelled hscalar, fun key => ?_, ?_,
    ofJson_mapping hscalar⟩, ofJson_toJson⟩
  · rw [mem_keys_ofList, hkeys]
  · rintro before key value after rfl hlast
    have htags : tagsOfPairs (before ++ (key, value) :: after) =
        tagsOfPairs before ++ (key, value.tagText) :: tagsOfPairs after := List.map_append
    rw [htags]
    refine get?_ofList_of_last ?_ value.tagText
    rw [hkeys]
    exact hlast

/-- Tags named like the fields of a record, a key that occurs twice, and a value with an equality
sign. -/
theorem fields_of_records_as_tags :
    let pairs : List (String × Json) :=
      [("key", .string "a"), ("value", .nat 5), ("", .null), ("Env", .string "x=y"),
        ("key", .bool true)]
    let items : List Json :=
      [.obj [("key", .string "a")], .obj [("key", .string "value"), ("value", .nat 5)],
        .obj [("", .null)], .string "Env=x=y", .string "key=true"]
    ∃ tags, ofJson (.array items) = .ok tags ∧ tags.get? "key" = some "true" ∧
      tags.get? "value" = some "5" ∧ tags.get? "" = some "" ∧ tags.get? "Env" = some "x=y" ∧
      "a" ∉ tags.keys ∧ ofJson (.obj pairs) = .ok tags := by
  intro pairs items
  have hspelled : List.Forall₂ (fun e item => SpellsTag e.1 e.2 item) pairs items :=
    .cons .mapping (.cons .record (.cons .mapping (.cons (.text (by decide) (by decide))
      (.cons (.text (by decide) (by decide)) .nil))))
  obtain ⟨⟨tags, hread, hkeys, hlast, hmapping⟩, -⟩ :=
    spellings_interchangeable pairs (by decide) items hspelled
  refine ⟨tags, hread, ?_, ?_, ?_, ?_, ?_, hmapping⟩
  · exact hlast (pairs.take 4) "key" (.bool true) [] rfl (by decide)
  · exact hlast (pairs.take 1) "value" (.nat 5) (pairs.drop 2) rfl (by decide)
  · exact hlast (pairs.take 2) "" .null (pairs.drop 3) rfl (by decide)
  · exact hlast (pairs.take 3) "Env" (.string "x=y") (pairs.drop 4) rfl (by decide)
  · rw [hkeys]
    decide

end TagSet

end CloudPolicy
