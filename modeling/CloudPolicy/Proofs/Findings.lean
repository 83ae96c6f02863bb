import CloudPolicy.Proofs.Placement
import CloudPolicy.Proofs.Records

/-! Findings on placements, read back from the annotation that they are written to. The values of
attachments are read back, absent ones included. That a resource has no value itself is written as
null and read as if nothing was said about the resource, so of a resource without a value no finding
about its own value is read back whole. -/

namespace CloudPolicy

namespace LocationFinding

theorem text?_ofString? (value : Option String) : text? (Json.ofString? value) = some value := by
  cases value <;> rfl

theorem valuesOfJson?_valuesToJson {values : ValueMap} (hsorted : values.Sorted) :
    valuesOfJson? (valuesToJson values) = some values :=
  Json.mapOf?_map hsorted text?_ofString?

/-- The parts of a finding on a resource with the value `own`: its maps are in order, and when it is
about the resource it holds that value. -/
structure IsAbout (own : Option String) (finding : LocationFinding) : Prop where
  subnets : ∀ values ∈ finding.subnets, values.Sorted
  securityGroups : ∀ values ∈ finding.securityGroups, values.Sorted
  resource : ∀ value ∈ finding.resource, value = own

theorem toJson_eq (finding : LocationFinding) :
    ∃ fields, finding.toJson = .object fields ∧
      fields.get? "reason" = some (.string finding.reason.name) ∧
      fields.get? "subnets" = finding.subnets.map valuesToJson ∧
      fields.get? "security-groups" = finding.securityGroups.map valuesToJson ∧
      fields.get? "resource" = finding.resource.map Json.ofString? := by
  refine ⟨_, rfl, ?_, ?_, ?_, ?_⟩ <;>
    simp [StringMap.get?_ofList, StringMap.lookup_append, StringMap.lookup_reverse_toList,
      StringMap.lookup]

theorem valuesToJson_ne_null (values : ValueMap) : valuesToJson values ≠ .null := nofun

/-- Null is read as no value, and so the absence of a value is forgotten. -/
theorem optional?_resource {fields : StringMap Json} {resource : Option (Option String)}
    (hget : fields.get? "resource" = resource.map Json.ofString?) :
    Json.optional? fields "resource" Json.string? = some resource.join := by
  rcases resource with _ | _ | value
  all_goals
    rw [Json.optional?, hget]
    rfl

theorem IsAbout.ofJson?_toJson {own : Option String} {finding : LocationFinding}
    (h : finding.IsAbout own) :
    ofJson? finding.toJson = some { finding with resource := finding.resource.join.map some } := by
  obtain ⟨fields, hfields, hreason, hsubnets, hgroups, hresource⟩ := finding.toJson_eq
  have hname : (Json.variantName? (.string finding.reason.name)).bind LocationReason.ofName? =
      some finding.reason := LocationReason.ofName?_name finding.reason
  have hsubnets := Json.optional?_of_get? hsubnets fun values hvalues =>
    ⟨valuesToJson_ne_null values, valuesOfJson?_valuesToJson (h.subnets values hvalues)⟩
  have hgroups := Json.optional?_of_get? hgroups fun values hvalues =>
    ⟨valuesToJson_ne_null values, valuesOfJson?_valuesToJson (h.securityGroups values hvalues)⟩
  rw [ofJson?, hfields, Json.openRecord?]
  simp only [Option.bind_eq_bind, Option.bind_some, Json.required?, hreason, hname, hsubnets,
    hgroups, optional?_resource hresource]

end LocationFinding

namespace PlacementOptions

variable {options : PlacementOptions} {own : Option String} {subnets groups : List Resource}
  {finding : LocationFinding}

/-! ### Findings of an evaluation -/

theorem mem_kindFindings {attachments : List Resource}
    {absent cardinality : ValueMap → LocationFinding}
    (h : finding ∈ options.kindFindings attachments absent cardinality) :
    finding = absent (options.valuesOf attachments) ∨
      finding = cardinality (options.valuesOf attachments) := by
  rcases List.mem_append.1 h with h | h
  · exact .inl (List.mem_singleton.1 (List.mem_ite_nil_right.1 h).2)
  · exact .inr (List.mem_singleton.1 (List.mem_ite_nil_right.1 h).2)

theorem isAbout_of_mem_subnetFindings (h : finding ∈ options.subnetFindings subnets) :
    finding.IsAbout own := by
  have hsorted := options.sorted_valuesOf subnets
  rcases mem_kindFindings (List.mem_ite_nil_right.1 h).2 with rfl | rfl
  all_goals exact ⟨by rintro _ ⟨⟩; exact hsorted, nofun, nofun⟩

theorem isAbout_of_mem_groupFindings (h : finding ∈ options.groupFindings groups) :
    finding.IsAbout own := by
  have hsorted := options.sorted_valuesOf groups
  rcases mem_kindFindings (List.mem_ite_nil_right.1 h).2 with rfl | rfl
  all_goals exact ⟨nofun, by rintro _ ⟨⟩; exact hsorted, nofun⟩

theorem isAbout_of_mem_mismatchFindings (h : finding ∈ options.mismatchFindings subnets groups) :
    finding.IsAbout own := by
  obtain rfl := List.mem_singleton.1 (List.mem_ite_nil_right.1 h).2
  refine ⟨?_, ?_, nofun⟩
  · rintro _ ⟨⟩
    exact options.sorted_valuesOf subnets
  · rintro _ ⟨⟩
    exact options.sorted_valuesOf groups

theorem isAbout_of_mem_ownFindings (h : finding ∈ options.ownFindings own subnets groups) :
    finding.IsAbout own := by
  rw [ownFindings] at h
  split at h
  next habsent =>
    obtain rfl := List.mem_singleton.1 h
    refine ⟨by rintro _ ⟨⟩, by rintro _ ⟨⟩, ?_⟩
    rintro _ ⟨⟩
    simp_all
  next =>
    split at h
    next =>
      obtain rfl := List.mem_singleton.1 h
      exact ⟨by rintro _ ⟨⟩, by rintro _ ⟨⟩; exact options.sorted_valuesOf groups,
        by rintro _ ⟨⟩; rfl⟩
    next =>
      obtain rfl := List.mem_singleton.1 (List.mem_ite_nil_right.1 h).2
      exact ⟨by rintro _ ⟨⟩; exact options.sorted_valuesOf subnets, by rintro _ ⟨⟩,
        by rintro _ ⟨⟩; rfl⟩

theorem isAbout_of_mem_groupMismatchFindings
    (h : finding ∈ options.groupMismatchFindings own groups) : finding.IsAbout own := by
  obtain rfl := List.mem_singleton.1 (List.mem_ite_nil_right.1 h).2
  refine ⟨nofun, ?_, by rintro _ ⟨⟩; rfl⟩
  rintro _ ⟨⟩
  exact (options.sorted_valuesOf groups).filter _

theorem isAbout_of_mem_evaluate {r : Resource} (h : finding ∈ options.evaluate r subnets groups) :
    finding.IsAbout (r.resolveText? options.key) := by
  rcases List.mem_append.1 h with h | h
  · rcases List.mem_append.1 h with h | h
    · rcases List.mem_append.1 h with h | h
      · exact isAbout_of_mem_subnetFindings h
      · exact isAbout_of_mem_groupFindings h
    · exact isAbout_of_mem_mismatchFindings h
  · rcases List.mem_append.1 (List.mem_ite_nil_right.1 h).2 with h | h
    · exact isAbout_of_mem_ownFindings h
    · exact isAbout_of_mem_groupMismatchFindings h

/-- **What is read back of findings.** Every finding of an evaluation is read back from what it is
written as, up to one part: when the resource has no value, a finding about its value is read as one
that says nothing about the resource. So a finding is read back whole exactly when the resource has
a value or the finding is not about it. -/
theorem findings_read_back (options : PlacementOptions) (r : Resource)
    (subnets groups : List Resource) (finding : LocationFinding)
    (hfinding : finding ∈ options.evaluate r subnets groups) :
    let reread := LocationFinding.ofJson? finding.toJson
    reread = some { finding with resource := finding.resource.join.map some } ∧
      (reread = some finding ↔ (r.resolveText? options.key).isSome ∨ finding.resource = none) := by
  intro reread
  have habout := isAbout_of_mem_evaluate hfinding
  have hread : reread = some { finding with resource := finding.resource.join.map some } :=
    habout.ofJson?_toJson
  have hwhole : reread = some finding ↔ finding.resource.join.map some = finding.resource := by
    rw [hread]
    obtain ⟨reason, subnets, groups, resource⟩ := finding
    simp
  refine ⟨hread, hwhole.trans ?_⟩
  cases hresource : finding.resource with
  | none => simp
  | some value =>
      rw [← habout.resource value hresource]
      cases value <;> simp

/-- Of a function with a value, a foreign security group and one without a value are read back. -/
theorem group_mismatch_read_back :
    let tagged (id team : String) : Resource :=
      .ofRecord (.obj [("id", .string id), ("tags", .obj [("Env", .string team)])])
    let options : PlacementOptions := { key := "tag:Env", missingOk := true }
    let finding : LocationFinding :=
      { reason := .securityGroupMismatch
        securityGroups := some ⟨[("sg-1", some "dev"), ("sg-2", none)]⟩
        resource := some (some "prod") }
    finding ∈ options.evaluate (tagged "fn-1" "prod") []
        [tagged "sg-1" "dev", .ofRecord (.obj [("id", .string "sg-2")])] ∧
      LocationFinding.ofJson? finding.toJson = some finding := by
  intro tagged options finding
  have hfinding : finding ∈ options.evaluate (tagged "fn-1" "prod") []
      [tagged "sg-1" "dev", .ofRecord (.obj [("id", .string "sg-2")])] := by decide +kernel
  obtain ⟨-, hwhole⟩ := findings_read_back options _ _ _ finding hfinding
  exact ⟨hfinding, hwhole.2 (.inl (by decide +kernel))⟩

/-- The absence of a function's own value is found, but not read back. -/
theorem absence_not_read_back :
    let options : PlacementOptions := { key := "tag:Env" }
    let finding : LocationFinding := { reason := .resourceLocationAbsent, resource := some none }
    finding ∈ options.evaluate (.ofRecord (.obj [("id", .string "fn-1")])) [] [] ∧
      LocationFinding.ofJson? finding.toJson = some { finding with resource := none } ∧
      LocationFinding.ofJson? finding.toJson ≠ some finding := by
  decide +kernel

end PlacementOptions

end CloudPolicy
