import CloudPolicy.Proofs.Placement

/-! Placements whose values lie in a list. Attachments that lack a value are let through when values
may be missing. The resource itself is not: a resource that is compared and lacks a value is left
out, whether values may be missing or not. -/

namespace CloudPolicy

/-- The last of the records with an identifier. -/
def Resource.lastNamed? (records : List Resource) (id : String) : Option Resource :=
  records.reverse.find? fun r => r.id = id

theorem Resource.of_lastNamed? {records : List Resource} {id : String} {r : Resource}
    (h : lastNamed? records id = some r) : r ∈ records ∧ r.id = id :=
  ⟨List.mem_reverse.1 (List.mem_of_find?_eq_some h), of_decide_eq_true (List.find?_some h :)⟩

/-- Of the records found under some identifiers, those that pass a test are told by theirs. -/
theorem Resource.ids_filterMap_lastNamed? (records : List Resource) (test : Resource → Bool)
    (ids : List String) :
    ((ids.filterMap (lastNamed? records)).filter test).map (·.id) =
      ids.filter fun id => (lastNamed? records id).any test := by
  induction ids with
  | nil => rfl
  | cons id ids ih =>
      cases hr : lastNamed? records id with
      | none =>
          rw [List.filterMap_cons_none hr, List.filter_cons_of_neg (by simp [hr]), ih]
      | some r =>
          rw [List.filterMap_cons_some hr, List.filter_cons, List.filter_cons, hr, Option.any_some]
          split
          next => rw [List.map_cons, ih, (of_lastNamed? hr).2]
          next => exact ih

/-- In a map by identifiers the last record of each is found. -/
theorem StringMap.get?_ofList_byId {α : Type} (f : Resource → α) (records : List Resource)
    (id : String) : (ofList (records.map fun r => (r.id, f r))).get? id =
      (Resource.lastNamed? records id).map f := by
  have hlookup : ∀ records : List Resource,
      lookup id (records.map fun r => (r.id, f r)) =
        (records.find? fun r => r.id = id).map f := by
    intro records
    induction records with
    | nil => rfl
    | cons r records ih =>
        rw [List.map_cons, lookup, List.find?_cons]
        by_cases hid : r.id = id
        · rw [if_pos hid, decide_eq_true hid]
          rfl
        · rw [if_neg hid, decide_eq_false hid, ih]
  rw [get?_ofList, ← List.map_reverse]
  exact hlookup records.reverse

namespace PlacementOptions

variable {options : PlacementOptions} {attachments : List Resource}

/-! ### Attachments without a value -/

theorem get?_valuesOf (options : PlacementOptions) (attachments : List Resource) (id : String) :
    (options.valuesOf attachments).get? id =
      (Resource.lastNamed? attachments id).map fun a => a.resolveText? options.key :=
  StringMap.get?_ofList_byId _ attachments id

variable (options) in
/-- Every attachment has a value; of several with one identifier the last one counts. -/
def Valued (attachments : List Resource) : Prop :=
  ∀ id a, Resource.lastNamed? attachments id = some a → (a.resolveText? options.key).isSome

theorem valued_iff_of_nodup (hids : (attachments.map (·.id)).Nodup) :
    options.Valued attachments ↔ ∀ a ∈ attachments, (a.resolveText? options.key).isSome := by
  constructor
  · intro hvalued a ha
    have hlisted : (Resource.lastNamed? attachments a.id).isSome := by
      rw [Resource.lastNamed?, List.find?_isSome]
      exact ⟨a, List.mem_reverse.2 ha, decide_eq_true rfl⟩
    obtain ⟨b, hb⟩ := Option.isSome_iff_exists.1 hlisted
    obtain ⟨hmem, hid⟩ := Resource.of_lastNamed? hb
    rw [List.inj_on_of_nodup_map hids hmem ha hid] at hb
    exact hvalued a.id a hb
  · intro hvalued id a ha
    exact hvalued a (Resource.of_lastNamed? ha).1

theorem hasAbsent_eq_false_iff_valued :
    options.hasAbsent (options.valuesOf attachments) = false ↔
      (options.missingOk ∨ options.Valued attachments) := by
  have hsorted := options.sorted_valuesOf attachments
  have hany : (options.valuesOf attachments).values.any Option.isNone = false ↔
      options.Valued attachments := by
    rw [StringMap.values, List.any_map, List.any_eq_false]
    constructor
    · intro hall id a ha
      have hget : (options.valuesOf attachments).get? id = some (a.resolveText? options.key) := by
        rw [get?_valuesOf, ha]
        rfl
      have hpresent := hall _ ((StringMap.mem_entries_iff hsorted).2 hget)
      rwa [Function.comp_apply, Bool.not_eq_true, Option.isNone_eq_false_iff] at hpresent
    · rintro hvalued ⟨id, value⟩ he
      have hget := (StringMap.mem_entries_iff hsorted).1 he
      rw [get?_valuesOf, Option.map_eq_some_iff] at hget
      obtain ⟨a, ha, rfl⟩ := hget
      rw [Function.comp_apply, Bool.not_eq_true, Option.isNone_eq_false_iff]
      exact hvalued id a ha
  rw [hasAbsent, Bool.and_eq_false_iff, hany, Bool.not_eq_false']

/-! ### Values in the list -/

variable (options) in
/-- Every value that is compared is in the list, and none is missing unless it may. -/
structure OnlyAllowed (own : Option String) (subnets groups : List Resource) : Prop where
  ofSubnets : options.compareSubnets → ∀ value ∈ options.valueSet subnets, value ∈ options.allowed
  ofGroups : options.compareGroups → ∀ value ∈ options.valueSet groups, value ∈ options.allowed
  ofResource : options.compareResource → ∀ value, own = some value → value ∈ options.allowed
  valued : options.missingOk ∨ ((options.compareSubnets → options.Valued subnets) ∧
    (options.compareGroups → options.Valued groups) ∧ (options.compareResource → own.isSome))

theorem attachmentsAllowed_iff : options.attachmentsAllowed attachments ↔
    (options.missingOk ∨ options.Valued attachments) ∧
      ∀ value ∈ options.valueSet attachments, value ∈ options.allowed := by
  rw [attachmentsAllowed, Bool.and_eq_true, Bool.not_eq_true', hasAbsent_eq_false_iff_valued]
  simp only [List.all_eq_true, mem_spaceOf, decide_eq_true_eq]

/-- **Which placements are in the list.** Whatever is compared with whichever attachments, a
placement passes if and only if every compared value is in the list, none is missing unless it may,
and a resource that is compared has a value. So of the placements that should pass it leaves out
those of compared resources without a value, and no others. Attachments with different identifiers
all count for what is missing. -/
theorem isWithinAllowed_iff (options : PlacementOptions) (r : Resource)
    (subnets groups : List Resource) :
    let own := r.resolveText? options.key
    (options.isWithinAllowed r subnets groups ↔
      options.OnlyAllowed own subnets groups ∧ (options.compareResource → own.isSome)) ∧
    (options.OnlyAllowed own subnets groups →
      (options.isWithinAllowed r subnets groups = false ↔
        options.missingOk ∧ options.compareResource ∧ own = none)) ∧
    ∀ attachments : List Resource, (attachments.map (·.id)).Nodup →
      (options.Valued attachments ↔
        ∀ a ∈ attachments, (a.resolveText? options.key).isSome) := by
  intro own
  have hown : own.any (· ∈ options.allowed) ↔
      (∀ value, own = some value → value ∈ options.allowed) ∧ own.isSome := by
    cases own with
    | none => simp
    | some value => simp
  have hallowed : options.isWithinAllowed r subnets groups ↔
      (options.compareSubnets → options.attachmentsAllowed subnets) ∧
        (options.compareGroups → options.attachmentsAllowed groups) ∧
        (options.compareResource → own.any (· ∈ options.allowed)) := by
    simp only [isWithinAllowed, Bool.and_eq_true, Bool.or_eq_true, Bool.not_eq_true',
      ← Bool.not_eq_true, ← imp_iff_not_or, and_assoc, own]
  have hpasses : options.isWithinAllowed r subnets groups ↔
      options.OnlyAllowed own subnets groups ∧ (options.compareResource → own.isSome) := by
    rw [hallowed, hown, attachmentsAllowed_iff, attachmentsAllowed_iff]
    constructor
    · rintro ⟨hsubnets, hgroups, hresource⟩
      refine ⟨⟨fun h => (hsubnets h).2, fun h => (hgroups h).2, fun h => (hresource h).1, ?_⟩,
        fun h => (hresource h).2⟩
      by_cases hmissing : options.missingOk = true
      · exact .inl hmissing
      · exact .inr ⟨fun h => (hsubnets h).1.resolve_left hmissing,
          fun h => (hgroups h).1.resolve_left hmissing, fun h => (hresource h).2⟩
    · rintro ⟨honly, hvalued⟩
      refine ⟨fun h => ⟨honly.valued.imp_right fun hall => hall.1 h, honly.ofSubnets h⟩,
        fun h => ⟨honly.valued.imp_right fun hall => hall.2.1 h, honly.ofGroups h⟩,
        fun h => ⟨honly.ofResource h, hvalued h⟩⟩
  refine ⟨hpasses, fun honly => ?_, fun attachments hids => valued_iff_of_nodup hids⟩
  rw [← Bool.not_eq_true, hpasses, and_iff_right honly, Classical.not_imp,
    Option.isSome_iff_ne_none, not_not]
  constructor
  · rintro ⟨hcompared, hnone⟩
    refine ⟨?_, hcompared, hnone⟩
    refine honly.valued.resolve_right fun hall => ?_
    have hsome := hall.2.2 hcompared
    rw [hnone] at hsome
    cases hsome
  · rintro ⟨-, hcompared, hnone⟩
    exact ⟨hcompared, hnone⟩

/-- Values may be missing, and there is none. The placement of a function without tags should pass
and is left out, though it passes when the function is not compared. -/
theorem untagged_function_left_out :
    let function : Resource := .ofRecord (.obj [("id", .string "fn-1")])
    let options : PlacementOptions :=
      { key := "tag:Env", missingOk := true, mode := .within, allowed := ["prod"] }
    options.OnlyAllowed (function.resolveText? options.key) [] [] ∧
      options.isWithinAllowed function [] [] = false ∧
      { options with compareResource := false }.isWithinAllowed function [] [] = true := by
  intro function options
  have hown : function.resolveText? options.key = none := by decide +kernel
  refine ⟨⟨nofun, nofun, fun _ value hvalue => ?_, .inl rfl⟩, by decide +kernel, by decide +kernel⟩
  rw [hown] at hvalue
  cases hvalue

end PlacementOptions

end CloudPolicy
