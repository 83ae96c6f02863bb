import Mathlib.Data.Finset.Card
import CloudPolicy.Placement.Evaluation
import CloudPolicy.Proofs.Maps

/-! When the network placement of a resource is consistent, said by the values of its attachments
and not by the findings. Main statement: evaluation finds nothing exactly when the placement is
consistent, and else names every reason at most once, in the order of reasons. -/

namespace CloudPolicy

namespace PlacementOptions

variable (options : PlacementOptions)

/-! ### Consistent placements -/

/-- The different truthy values of attachments, as texts. -/
def valueSet (attachments : List Resource) : Finset String :=
  (attachments.filterMap fun a =>
    ((a.resolve? options.key).filter Json.isTruthy).map Json.render).toFinset

/-- None of the attachments of one kind lacks a value, unless it may, and they do not have too many
different values. -/
structure KindConsistent (attachments : List Resource) : Prop where
  valued : options.missingOk ∨ ∀ a ∈ attachments, (a.resolveText? options.key).isSome
  few : (options.valueSet attachments).card ≤ options.maxCardinality

/-- A resource has a value, unless it may lack one; it shares the value with all of its security
groups and with one of its subnets. -/
structure OwnConsistent (own : Option String) (subnets groups : List Resource) : Prop where
  valued : options.missingOk ∨ own.isSome
  amongGroups : options.compareGroups → groups ≠ [] →
    ∃ value ∈ options.valueSet groups, own = some value
  likeGroups : options.compareGroups → groups ≠ [] →
    ∀ g ∈ groups, g.resolveText? options.key = own
  amongSubnets : options.compareSubnets → subnets ≠ [] →
    ∃ value ∈ options.valueSet subnets, own = some value

/-- What is compared of a resource and its attachments agrees. -/
structure Consistent (r : Resource) (subnets groups : List Resource) : Prop where
  ofSubnets : options.compareSubnets → options.KindConsistent subnets
  ofGroups : options.compareGroups → options.KindConsistent groups
  agree : options.compareSubnets → options.compareGroups →
    options.valueSet subnets = options.valueSet groups
  own : options.compareResource → options.OwnConsistent (r.resolveText? options.key) subnets groups

variable {options} {attachments subnets groups : List Resource}

/-! ### Values -/

theorem toFinset_spaceOf : (options.spaceOf attachments).toFinset = options.valueSet attachments := by
  ext value
  rw [spaceOf, valueSet, List.mem_toFinset, List.mem_toFinset, List.mem_eraseDups]

theorem length_spaceOf :
    (options.spaceOf attachments).length = (options.valueSet attachments).card := by
  have hnodup : (options.spaceOf attachments).Nodup := nodup_eraseDups _
  rw [← toFinset_spaceOf, List.toFinset_card_of_nodup hnodup]

theorem mem_spaceOf {value : String} :
    value ∈ options.spaceOf attachments ↔ value ∈ options.valueSet attachments := by
  rw [← toFinset_spaceOf, List.mem_toFinset]

theorem sameMembers_iff : sameMembers (options.spaceOf subnets) (options.spaceOf groups) ↔
    options.valueSet subnets = options.valueSet groups := by
  simp only [sameMembers, Bool.and_eq_true, List.all_eq_true, decide_eq_true_eq, mem_spaceOf]
  exact ⟨fun h => Finset.Subset.antisymm h.1 h.2, fun h => by rw [h]; exact ⟨fun _ => id, fun _ => id⟩⟩

theorem isOutside_eq_false_iff {own : Option String} : options.isOutside own attachments = false ↔
    ∃ value ∈ options.valueSet attachments, own = some value := by
  cases own with
  | none => simp [isOutside]
  | some value => simp [isOutside, mem_spaceOf]

theorem sorted_valuesOf (options : PlacementOptions) (attachments : List Resource) :
    (options.valuesOf attachments).Sorted :=
  StringMap.sorted_insertAll StringMap.sorted_empty _

/-- With distinct identifiers every attachment keeps its own entry. -/
theorem mem_valuesOf (hids : (attachments.map (·.id)).Nodup) {e : String × Option String} :
    e ∈ (options.valuesOf attachments).entries ↔
      ∃ a ∈ attachments, (a.id, a.resolveText? options.key) = e := by
  have hperm : (options.valuesOf attachments).entries.Perm
      (attachments.map fun a => (a.id, a.resolveText? options.key)) := by
    refine StringMap.perm_entries_insertAll (m := ∅) ?_
    show ((attachments.map fun a => (a.id, a.resolveText? options.key)).map (·.1)).Nodup
    rw [List.map_map]
    exact hids
  rw [hperm.mem_iff, List.mem_map]

theorem hasAbsent_eq_false_iff (hids : (attachments.map (·.id)).Nodup) :
    options.hasAbsent (options.valuesOf attachments) = false ↔
      (options.missingOk ∨ ∀ a ∈ attachments, (a.resolveText? options.key).isSome) := by
  have hall : (options.valuesOf attachments).values.any Option.isNone = false ↔
      ∀ a ∈ attachments, (a.resolveText? options.key).isSome := by
    simp only [StringMap.values, List.any_map, List.any_eq_false, mem_valuesOf hids,
      Function.comp_apply, forall_exists_index, and_imp, forall_apply_eq_imp_iff₂,
      Option.isNone_iff_eq_none, ← Option.isSome_iff_ne_none]
  rw [hasAbsent, Bool.and_eq_false_iff, hall, Bool.not_eq_false']

/-! ### Findings -/

theorem kindFindings_eq_nil_iff (hids : (attachments.map (·.id)).Nodup)
    {absent cardinality : ValueMap → LocationFinding} :
    options.kindFindings attachments absent cardinality = [] ↔
      options.KindConsistent attachments := by
  have habsent : options.hasAbsent (options.valuesOf attachments) = false ↔ _ :=
    hasAbsent_eq_false_iff hids
  rw [kindFindings, List.append_eq_nil_iff]
  simp only [ite_eq_right_iff, List.cons_ne_nil, imp_false, Bool.not_eq_true, habsent,
    length_spaceOf, Nat.not_lt]
  exact ⟨fun h => ⟨h.1, h.2⟩, fun h => ⟨h.valued, h.few⟩⟩

theorem mismatchFindings_eq_nil_iff : options.mismatchFindings subnets groups = [] ↔
    (options.compareSubnets → options.compareGroups →
      options.valueSet subnets = options.valueSet groups) := by
  rw [mismatchFindings, ← sameMembers_iff]
  cases options.compareSubnets <;> cases options.compareGroups <;> simp

theorem groupMismatchFindings_eq_nil_iff (hids : (groups.map (·.id)).Nodup) {own : Option String} :
    options.groupMismatchFindings own groups = [] ↔
      (options.compareGroups → groups ≠ [] → ∀ g ∈ groups, g.resolveText? options.key = own) := by
  have hnone : (options.valuesOf groups).entries.filter (fun e => e.2 ≠ own) = [] ↔
      ∀ g ∈ groups, g.resolveText? options.key = own := by
    simp only [List.filter_eq_nil_iff, mem_valuesOf hids, forall_exists_index, and_imp,
      forall_apply_eq_imp_iff₂, decide_eq_true_eq, ne_eq, not_not]
  rw [groupMismatchFindings, ← hnone]
  simp only [StringMap.isEmpty, ite_eq_right_iff, List.cons_ne_nil, imp_false, Bool.and_eq_true,
    Bool.not_eq_true', List.isEmpty_eq_false_iff, ne_eq, not_and, not_not, and_imp]

/-- The absence of the resource's value is found first, then a value outside of its security groups,
then one outside of its subnets; a placement is without them when none of the three holds. -/
theorem ownFindings_eq_nil_iff {own : Option String} :
    options.ownFindings own subnets groups = [] ↔ (options.missingOk ∨ own.isSome) ∧
      (options.compareGroups → groups ≠ [] → ∃ value ∈ options.valueSet groups, own = some value) ∧
      (options.compareSubnets → subnets ≠ [] →
        ∃ value ∈ options.valueSet subnets, own = some value) := by
  have houtside (attachments : List Resource) : options.isOutside own attachments = false ↔
      ∃ value ∈ options.valueSet attachments, own = some value := isOutside_eq_false_iff
  rw [← houtside groups, ← houtside subnets, ownFindings]
  split
  next habsent => simp_all
  next hpresent =>
    split
    next => simp_all
    next hinside =>
      split
      next => simp_all
      next => simp_all [Option.isSome_iff_ne_none, or_iff_not_imp_left]

theorem kindFindings_sublist {absent cardinality : ValueMap → LocationFinding}
    {absence excess : LocationReason} (habsent : ∀ values, (absent values).reason = absence)
    (hcardinality : ∀ values, (cardinality values).reason = excess) :
    ((options.kindFindings attachments absent cardinality).map (·.reason)).Sublist
      [absence, excess] := by
  rw [kindFindings, List.map_append]
  show List.Sublist _ ([absence] ++ [excess])
  refine List.Sublist.append ?_ ?_
  · split <;> simp [habsent]
  · split <;> simp [hcardinality]

/-- The reasons of the findings are some of all reasons, in their order. -/
theorem reasons_sublist (options : PlacementOptions) (r : Resource)
    (subnets groups : List Resource) :
    ((options.evaluate r subnets groups).map (·.reason)).Sublist LocationReason.all := by
  have hsubnets : ((options.subnetFindings subnets).map (·.reason)).Sublist
      [.subnetLocationAbsent, .subnetLocationCardinality] := by
    rw [subnetFindings]
    split
    next => exact kindFindings_sublist (fun _ => rfl) fun _ => rfl
    next => exact List.nil_sublist _
  have hgroups : ((options.groupFindings groups).map (·.reason)).Sublist
      [.securityGroupLocationAbsent, .securityGroupLocationCardinality] := by
    rw [groupFindings]
    split
    next => exact kindFindings_sublist (fun _ => rfl) fun _ => rfl
    next => exact List.nil_sublist _
  have hmismatch : ((options.mismatchFindings subnets groups).map (·.reason)).Sublist
      [.locationMismatch] := by
    rw [mismatchFindings]
    split <;> simp
  have hown (own : Option String) :
      ((options.ownFindings own subnets groups).map (·.reason)).Sublist
        [.resourceLocationAbsent, .resourceLocationMismatch] := by
    rw [ownFindings]
    repeat' split
    all_goals simp
  have hlike (own : Option String) :
      ((options.groupMismatchFindings own groups).map (·.reason)).Sublist
        [.securityGroupMismatch] := by
    rw [groupMismatchFindings]
    split <;> simp
  rw [evaluate, List.map_append, List.map_append, List.map_append]
  refine ((hsubnets.append hgroups).append hmismatch).append ?_
  split
  next =>
    rw [List.map_append]
    exact (hown _).append (hlike _)
  next => exact List.nil_sublist _

theorem evaluate_eq_nil_iff (r : Resource) (hsubnets : (subnets.map (·.id)).Nodup)
    (hgroups : (groups.map (·.id)).Nodup) :
    options.evaluate r subnets groups = [] ↔ options.Consistent r subnets groups := by
  have hsubnet : options.subnetFindings subnets = [] ↔
      (options.compareSubnets → options.KindConsistent subnets) := by
    rw [subnetFindings, ← kindFindings_eq_nil_iff hsubnets]
    exact ite_eq_right_iff
  have hgroup : options.groupFindings groups = [] ↔
      (options.compareGroups → options.KindConsistent groups) := by
    rw [groupFindings, ← kindFindings_eq_nil_iff hgroups]
    exact ite_eq_right_iff
  rw [evaluate]
  simp only [List.append_eq_nil_iff, ite_eq_right_iff, hsubnet, hgroup,
    mismatchFindings_eq_nil_iff, ownFindings_eq_nil_iff, groupMismatchFindings_eq_nil_iff hgroups]
  constructor
  · rintro ⟨⟨⟨hofSubnets, hofGroups⟩, hagree⟩, hown⟩
    refine ⟨hofSubnets, hofGroups, hagree, fun hcompared => ?_⟩
    obtain ⟨⟨hvalued, hamongGroups, hamongSubnets⟩, hlike⟩ := hown hcompared
    exact ⟨hvalued, hamongGroups, hlike, hamongSubnets⟩
  · rintro ⟨hofSubnets, hofGroups, hagree, hown⟩
    refine ⟨⟨⟨hofSubnets, hofGroups⟩, hagree⟩, fun hcompared => ?_⟩
    obtain ⟨hvalued, hamongGroups, hlike, hamongSubnets⟩ := hown hcompared
    exact ⟨⟨hvalued, hamongGroups, hamongSubnets⟩, hlike⟩

/-- **Findings are what is inconsistent.** For attachments with distinct identifiers, the evaluation
of a resource finds nothing if and only if its placement is consistent; and whatever the attachments
are, it names a reason at most once and keeps the order of reasons. -/
theorem evaluate_finds_inconsistencies (options : PlacementOptions) (r : Resource)
    (subnets groups : List Resource) (hsubnets : (subnets.map (·.id)).Nodup)
    (hgroups : (groups.map (·.id)).Nodup) :
    let reasons := (options.evaluate r subnets groups).map (·.reason)
    reasons.Nodup ∧ reasons.Pairwise (fun a b => a.rank < b.rank) ∧
      (options.evaluate r subnets groups = [] ↔ options.Consistent r subnets groups) := by
  intro reasons
  have hsome : reasons.Sublist LocationReason.all := reasons_sublist options r subnets groups
  have hnodup : LocationReason.all.Nodup := by decide
  have hordered : LocationReason.all.Pairwise fun a b => a.rank < b.rank := by decide
  exact ⟨hsome.nodup hnodup, hordered.sublist hsome, evaluate_eq_nil_iff r hsubnets hgroups⟩

/-- A function whose only security group has a foreign value is not placed consistently: three
reasons say so, the value of its subnet being its own. -/
theorem foreign_group_found :
    let tagged (id team : String) : Resource :=
      .ofRecord (.obj [("id", .string id), ("tags", .obj [("Env", .string team)])])
    let options : PlacementOptions := { key := "tag:Env" }
    let findings := options.evaluate (tagged "fn-1" "prod") [tagged "sub-1" "prod"]
      [tagged "sg-1" "dev"]
    findings.map (·.reason) =
        [.locationMismatch, .resourceLocationMismatch, .securityGroupMismatch] ∧
      ¬ options.Consistent (tagged "fn-1" "prod") [tagged "sub-1" "prod"]
        [tagged "sg-1" "dev"] := by
  intro tagged options findings
  have hreasons : findings.map (·.reason) =
      [.locationMismatch, .resourceLocationMismatch, .securityGroupMismatch] := by decide +kernel
  obtain ⟨-, -, hconsistent⟩ := evaluate_finds_inconsistencies options (tagged "fn-1" "prod")
    [tagged "sub-1" "prod"] [tagged "sg-1" "dev"] (by decide) (by decide)
  refine ⟨hreasons, fun h => ?_⟩
  have hnone : findings = [] := hconsistent.2 h
  rw [hnone] at hreasons
  cases hreasons

end PlacementOptions

end CloudPolicy
