import Mathlib.Data.List.Nodup
import CloudPolicy.Policy.Registry
import CloudPolicy.Proofs.Compiled
import CloudPolicy.Proofs.Effects
import CloudPolicy.Proofs.Maps

/-! What becomes of the configuration of a function whose security groups are replaced. The update
is put together from the record, the configuration, and new properties, and the service merges it
into the configuration. The new properties repeat three fields of the configuration, also where it
does not have them: such a field is null afterwards. -/

namespace CloudPolicy

open Cloud (mergeConfig)

/-- Entries under some keys are found under these keys. -/
theorem StringMap.lookup_filterMap_keys {α : Type} (value? : String → Option α)
    (keys : List String) (key : String) :
    lookup key (keys.filterMap fun k => (value? k).map fun value => (k, value)) =
      if key ∈ keys then value? key else none := by
  induction keys with
  | nil => rfl
  | cons k keys ih =>
      by_cases hk : k = key
      · subst hk
        cases hvalue : value? k with
        | none => simp [hvalue, ih]
        | some value => simp [hvalue, lookup]
      · cases hvalue : value? k with
        | none => simp [hvalue, ih, Ne.symm hk]
        | some value => simp [hvalue, lookup, hk, ih, Ne.symm hk]

namespace Action

/-! ### The update of one configuration -/

/-- The fields of the record that go into an update. -/
def recordFields : List String := ["func_name", "runtime"]

variable {groups : List String} {xrole : String} {r : Resource} {config properties : StringMap Json}

/-- Of the parts of an update the properties come first, then the configuration, then the record. -/
theorem get?_updateBody (hconfig : config.Sorted) (hproperties : properties.Sorted) :
    ∃ body, updateBody r (.object config) (.object properties) = .object body ∧ body.Sorted ∧
      ∀ key, body.get? key = (properties.get? key).or
        ((if key ∈ updatableFields then config.get? key else none).or
          (if key ∈ recordFields then r.get? key else none)) := by
  refine ⟨_, rfl, StringMap.sorted_insertAll StringMap.sorted_empty _, fun key => ?_⟩
  have hcarried : StringMap.lookup key
      ((config.entries.filter fun e => e.1 ∈ updatableFields).reverse) =
      if key ∈ updatableFields then config.get? key else none := by
    have hfilter := StringMap.lookup_reverse_entries
      (StringMap.sorted_filterKeys hconfig (· ∈ updatableFields)) key
    rw [StringMap.get?_filterKeys] at hfilter
    simp only [decide_eq_true_eq] at hfilter
    exact hfilter
  rw [StringMap.get?_ofList, List.reverse_append, List.reverse_append, StringMap.lookup_append,
    StringMap.lookup_append, fieldsOf, fieldsOf, hcarried, ← List.filterMap_reverse,
    StringMap.lookup_filterMap_keys, StringMap.lookup_reverse_entries hproperties]
  simp only [List.mem_reverse]
  rfl

/-- The configuration after the replacement; a function without a network keeps its own. -/
def reconfigured (groups : List String) (xrole : String) (r : Resource) (current : Json) : Json :=
  match withGroups? groups xrole current with
  | some properties => mergeConfig (some current) (updateBody r current properties)
  | none => current

/-- What is under a key of a configuration in whose network the security groups were replaced, when
nothing else was but the role, and the name and the runtime where the record has them. -/
def replacedField (groups : List String) (xrole : String) (r : Resource)
    (config vpc : StringMap Json) (key : String) : Option Json :=
  if key = "func_vpc" then some (.object (vpc.insert "security_groups" (.strings groups)))
  else if key = "xrole" then some (.string xrole)
  else if key ∈ recordFields then (r.get? key).or (config.get? key)
  else config.get? key

/-- The fields that the new properties repeat from the configuration. -/
def repeatedFields : List String := ["timeout", "handler", "memory_size"]

theorem replacedField_of_mem {vpc : StringMap Json} {key : String} (hkey : key ∈ repeatedFields) :
    replacedField groups xrole r config vpc key = config.get? key := by
  have hother : key ≠ "func_vpc" ∧ key ≠ "xrole" ∧ key ∉ recordFields := by
    simp only [repeatedFields, List.mem_cons, List.not_mem_nil, or_false] at hkey
    rcases hkey with rfl | rfl | rfl <;> decide
  rw [replacedField, if_neg hother.1, if_neg hother.2.1, if_neg hother.2.2]

/-- The new properties hold the repeated fields, whether the configuration has them or not. -/
theorem withGroups?_of_network (groups : List String) (xrole : String) {vpc : StringMap Json}
    (hvpc : config.get? "func_vpc" = some (.object vpc)) :
    ∃ properties, withGroups? groups xrole (.object config) = some (.object properties) ∧
      properties.Sorted ∧ ∀ key, properties.get? key =
        if key ∈ repeatedFields then (config.get? key).or (some .null)
        else if key = "func_vpc" then
          some (.object (vpc.insert "security_groups" (.strings groups)))
        else if key = "xrole" then some (.string xrole) else none := by
  have hnetwork : (Json.object config).field? "func_vpc" = some (.object vpc) := hvpc
  rw [withGroups?, hnetwork]
  refine ⟨_, rfl, StringMap.sorted_insertAll StringMap.sorted_empty _, fun key => ?_⟩
  have hfield (name : String) :
      (Json.object config).field? name = config.get? name := rfl
  have hnull (name : String) : some ((config.get? name).getD .null) =
      (config.get? name).or (some .null) := by
    cases config.get? name <;> rfl
  rw [StringMap.get?_ofList]
  simp only [hfield, List.reverse_cons, List.reverse_nil, List.nil_append, List.cons_append,
    StringMap.lookup, repeatedFields, List.mem_cons, List.not_mem_nil, or_false, hnull]
  grind

theorem get?_reconfigured (groups : List String) (xrole : String) (r : Resource)
    (hconfig : config.Sorted) {vpc : StringMap Json}
    (hvpc : config.get? "func_vpc" = some (.object vpc)) :
    ∃ config', reconfigured groups xrole r (.object config) = .object config' ∧
      ∀ key, config'.get? key = (replacedField groups xrole r config vpc key).or
        (if key ∈ repeatedFields then some .null else none) := by
  obtain ⟨properties, hproperties, hsorted, hget⟩ :=
    withGroups?_of_network groups xrole hvpc
  obtain ⟨body, hbody, hbodySorted, hgetBody⟩ := get?_updateBody (r := r) hconfig hsorted
  rw [reconfigured, hproperties]
  dsimp only
  rw [hbody, mergeConfig]
  refine ⟨_, rfl, fun key => ?_⟩
  rw [StringMap.get?_insertAll_entries hbodySorted, hgetBody, hget]
  by_cases hrepeated : key ∈ repeatedFields
  · -- The new properties win, and they have the field whatever the configuration has.
    rw [if_pos hrepeated, replacedField_of_mem hrepeated, if_pos hrepeated]
    cases config.get? key <;> rfl
  · rw [if_neg hrepeated, if_neg hrepeated, Option.or_none, replacedField]
    split
    next => rfl
    split
    next => rfl
    rw [Option.none_or]
    by_cases hrecordKey : key ∈ recordFields
    · -- Name and runtime are not updatable, so that the configuration does not hide the record's.
      have hcarried : key ∉ updatableFields := by
        simp only [recordFields, List.mem_cons, List.not_mem_nil, or_false] at hrecordKey
        rcases hrecordKey with rfl | rfl <;> decide
      rw [if_pos hrecordKey, if_pos hrecordKey, if_neg hcarried, Option.none_or]
    · rw [if_neg hrecordKey, if_neg hrecordKey, Option.or_none]
      split
      next => exact Option.or_self
      next => exact Option.none_or

/-! ### Runs -/

variable {before after : Cloud}

theorem of_run_showFunctionConfig {function : String} {current : Json}
    (h : (Cloud.showFunctionConfig function).run before = (.ok current, after)) :
    before.functionConfigs.get? function = some current ∧
      after.functionConfigs = before.functionConfigs := by
  have hread := Cloud.of_run_enter_bind h
  obtain ⟨_, _, hget, hfound⟩ := Steps.of_run_bind_eq_ok hread
  cases hget
  split at hfound
  next config hconfig =>
    cases hfound
    exact ⟨hconfig, rfl⟩
  next => cases hfound

/-- A step that comes to its end found a configuration, and replaces the groups in it. -/
theorem of_run_modifyGroupsStep {result : Step}
    (h : (modifyGroupsStep groups xrole r).run before = (.ok result, after)) :
    ∃ current, before.functionConfigs.get? r.functionUrn = some current ∧
      ∀ urn, after.functionConfigs.get? urn =
        if urn = r.functionUrn then some (reconfigured groups xrole r current)
        else before.functionConfigs.get? urn := by
  obtain ⟨current, shown, hshow, hupdate⟩ := Steps.of_run_bind_eq_ok h
  obtain ⟨hcurrent, hshown⟩ := of_run_showFunctionConfig hshow
  refine ⟨current, hcurrent, fun urn => ?_⟩
  rw [reconfigured]
  cases hproperties : withGroups? groups xrole current with
  | none =>
      rw [hproperties] at hupdate
      cases hupdate
      rw [hshown]
      split
      next hurn => rw [hurn, hcurrent]
      next => rfl
  | some properties =>
      rw [hproperties] at hupdate
      obtain ⟨_, _, hmerged, hpure⟩ := Steps.of_run_bind_eq_ok hupdate
      cases hpure
      have hafter := Cloud.of_run_enter_bind hmerged
      cases hafter
      show (shown.functionConfigs.insert r.functionUrn (mergeConfig
        (shown.functionConfigs.get? r.functionUrn) (updateBody r current properties))).get? urn = _
      rw [StringMap.get?_insert, hshown, hcurrent]

/-- Of functions of different resource names each is changed by its own step only. -/
theorem of_run_modifyGroups {batch : List Resource}
    (hdistinct : (batch.map (·.functionUrn)).Nodup) {start report : Report}
    (h : (eachWith (fun _ r => return (← modifyGroupsStep groups xrole r, ())) () start batch).run
      before = (.ok report, after)) :
    (∀ r ∈ batch, ∃ current, before.functionConfigs.get? r.functionUrn = some current ∧
      after.functionConfigs.get? r.functionUrn = some (reconfigured groups xrole r current)) ∧
    ∀ urn, urn ∉ batch.map (·.functionUrn) →
      after.functionConfigs.get? urn = before.functionConfigs.get? urn := by
  induction batch generalizing before start with
  | nil =>
      cases h
      exact ⟨nofun, fun _ _ => rfl⟩
  | cons r rest ih =>
      obtain ⟨hnew, hrest⟩ := List.nodup_cons.1 hdistinct
      obtain ⟨⟨result, _⟩, middle, hfirst, hothers⟩ := Steps.of_run_bind_eq_ok h
      obtain ⟨_, _, hstep, hpure⟩ := Steps.of_run_bind_eq_ok hfirst
      cases hpure
      obtain ⟨current, hcurrent, hmiddle⟩ := of_run_modifyGroupsStep hstep
      obtain ⟨hreplaced, hkept⟩ := ih hrest hothers
      refine ⟨fun s hs => ?_, fun urn hurn => ?_⟩
      · rcases List.mem_cons.1 hs with rfl | hs
        · exact ⟨current, hcurrent, by rw [hkept _ hnew, hmiddle, if_pos rfl]⟩
        · obtain ⟨config, hconfig, hafter⟩ := hreplaced s hs
          have hne : s.functionUrn ≠ r.functionUrn := fun hsame =>
            hnew (List.mem_map.2 ⟨s, hs, hsame⟩)
          rw [hmiddle, if_neg hne] at hconfig
          exact ⟨config, hconfig, hafter⟩
      · rw [List.map_cons, List.mem_cons, not_or] at hurn
        rw [hkept urn hurn.2, hmiddle, if_neg hurn.1]

/-- **What replacing security groups leaves of a configuration.** When the action comes to its end on
functions of different resource names, each of them that is in a network has the configuration that
it had, with the given groups in its network, the given role, and the name and the runtime of its
record where the record has them, apart from three fields that are null now if they were missing
before. So nothing else was changed if and only if the configuration had these three. All other
functions have the configurations that they had. -/
theorem groups_replaced {block : Json} {build : BuildContext} {action : Action}
    (hbuild : ActionKind.modifySecurityGroups.build block build = .ok action)
    {batch : List Resource} (hdistinct : (batch.map (·.functionUrn)).Nodup) {context : RunContext}
    {report : Report} (hrun : (action.process context batch).run before = (.ok report, after)) :
    ∃ groups xrole, block.stringsField? "security_groups" = some groups ∧
      block.textOption? "xrole" = some xrole ∧
      (∀ r ∈ batch, ∀ config vpc,
        before.functionConfigs.get? r.functionUrn = some (.object config) → config.Sorted →
        config.get? "func_vpc" = some (.object vpc) → ∃ config',
          after.functionConfigs.get? r.functionUrn = some (.object config') ∧
          (∀ key, config'.get? key = (replacedField groups xrole r config vpc key).or
            (if key ∈ repeatedFields then some .null else none)) ∧
          ((∀ key, config'.get? key = replacedField groups xrole r config vpc key) ↔
            ∀ key ∈ repeatedFields, (config.get? key).isSome)) ∧
      ∀ urn, urn ∉ batch.map (·.functionUrn) →
        after.functionConfigs.get? urn = before.functionConfigs.get? urn := by
  obtain ⟨groups, hgroups, hbuild⟩ := Steps.of_bind_eq_ok hbuild
  obtain ⟨xrole, hrole, haction⟩ := Steps.of_bind_eq_ok hbuild
  cases haction
  obtain ⟨hreplaced, hkept⟩ := of_run_modifyGroups hdistinct hrun
  refine ⟨groups, xrole, BuildContext.eq_some_of_require hgroups,
    BuildContext.eq_some_of_require hrole, fun r hr config vpc hconfig hsorted hvpc => ?_, hkept⟩
  obtain ⟨current, hcurrent, hafter⟩ := hreplaced r hr
  cases hconfig.symm.trans hcurrent
  obtain ⟨config', hconfig', hget⟩ :=
    get?_reconfigured groups xrole r hsorted hvpc
  rw [hconfig'] at hafter
  refine ⟨config', hafter, hget, fun hframe key hkey => ?_, fun hall key => ?_⟩
  · have hnull := (hframe key).symm.trans (hget key)
    rw [if_pos hkey, replacedField_of_mem hkey] at hnull
    rw [hnull]
    exact Option.isSome_or.trans (Bool.or_true _)
  · rw [hget]
    by_cases hkey : key ∈ repeatedFields
    · obtain ⟨value, hvalue⟩ := Option.isSome_iff_exists.1 (hall key hkey)
      rw [replacedField_of_mem hkey, hvalue]
      rfl
    · rw [if_neg hkey, Option.or_none]

/-- A function whose configuration is complete keeps its memory, its subnet and its description; its
runtime is that of the record. -/
theorem complete_configuration_kept :
    let network (group : String) : Json :=
      .obj [("subnet_id", .string "sub-1"), ("security_groups", .strings [group])]
    let config : StringMap Json := .ofList [("timeout", .int 30), ("handler", .string "index.run"),
      ("memory_size", .int 256), ("runtime", .string "Python3.6"), ("func_vpc", network "sg-old"),
      ("description", .string "nightly")]
    let r := Resource.ofRecord (.obj [("id", .string "fn-1"), ("runtime", .string "Python3.9")])
    let cloud : Cloud := { functionConfigs := .ofList [("fn-1", .object config)] }
    let block := Json.obj [("type", .string "modify-security-groups"),
      ("security_groups", .strings ["sg-new"]), ("xrole", .string "vpc-role")]
    ∃ action report after config',
      ActionKind.modifySecurityGroups.build block default = .ok action ∧
      (action.process default [r]).run cloud = (.ok report, after) ∧
      after.functionConfigs.get? "fn-1" = some (.object config') ∧
      config'.get? "func_vpc" = some (network "sg-new") ∧
      config'.get? "xrole" = some (.string "vpc-role") ∧
      config'.get? "runtime" = some (.string "Python3.9") ∧
      ∀ key ∈ ["timeout", "handler", "memory_size", "description", "func_name"],
        config'.get? key = config.get? key := by
  intro network config r cloud block
  have hbuild : ActionKind.modifySecurityGroups.build block default =
      .ok (modifyGroups ["sg-new"] "vpc-role") := rfl
  have hrun := Steps.eq_ok_of_fst (Steps.eq_ok_of_toOption (by decide +kernel :
    (((modifyGroups ["sg-new"] "vpc-role").process default [r]).run cloud).1.toOption =
      some { action := "modify-security-groups", succeeded := ["fn-1"] }))
  have hdistinct : ([r].map (·.functionUrn)).Nodup := List.nodup_singleton _
  obtain ⟨groups, xrole, hgroups, hrole, hreplaced, -⟩ := groups_replaced hbuild hdistinct hrun
  cases (rfl : block.stringsField? "security_groups" = some ["sg-new"]).symm.trans hgroups
  cases (rfl : block.textOption? "xrole" = some "vpc-role").symm.trans hrole
  have hstored : cloud.functionConfigs.get? r.functionUrn = some (.object config) := rfl
  have hvpc : config.get? "func_vpc" = some (network "sg-old") := StringMap.get?_ofList _ _
  have hruntime : r.get? "runtime" = some (.string "Python3.9") := StringMap.get?_ofList _ _
  have hname : r.get? "func_name" = none := StringMap.get?_ofList _ _
  obtain ⟨config', hafter, -, hframe⟩ :=
    hreplaced r List.mem_cons_self config _ hstored (by decide +kernel) hvpc
  have hframe := hframe.2 (by decide +kernel)
  refine ⟨_, _, _, config', hbuild, hrun, hafter, ?_, ?_, ?_, fun key hkey => ?_⟩
  · rw [hframe]
    exact congrArg (fun vpc => some (Json.object vpc)) (StringMap.insert_insert _ _ _ _)
  · rw [hframe]
    rfl
  · rw [hframe, replacedField, hruntime]
    rfl
  · rw [hframe]
    simp only [List.mem_cons, List.not_mem_nil, or_false] at hkey
    rcases hkey with rfl | rfl | rfl | rfl | rfl
    · exact replacedField_of_mem (by decide)
    · exact replacedField_of_mem (by decide)
    · exact replacedField_of_mem (by decide)
    · rfl
    · rw [replacedField, hname]
      rfl

/-- A function without timeout, handler and memory size in its configuration has all three after its
security groups were replaced. -/
theorem missing_fields_become_null :
    let config : StringMap Json := .ofList [("description", .string "d"), ("func_vpc",
      .obj [("subnet_id", .string "sub-1"), ("security_groups", .strings ["sg-old"])])]
    let cloud : Cloud := { functionConfigs := .ofList [("fn-1", .object config)] }
    let block := Json.obj [("type", .string "modify-security-groups"),
      ("security_groups", .strings ["sg-new"]), ("xrole", .string "r")]
    ∃ action, ActionKind.modifySecurityGroups.build block default = .ok action ∧
      let run := (action.process default [Resource.ofRecord (.obj [("id", .string "fn-1")])]).run
        cloud
      run.1.toOption.map Report.succeeded = some ["fn-1"] ∧
        ((config.get? "func_vpc").bind Json.object?).isSome = true ∧
        ∀ key ∈ repeatedFields, config.contains key = false ∧
          (((run.2.functionConfigs.get? "fn-1").bind (·.field? key)).any Json.isNull) = true := by
  intro config cloud block
  refine ⟨_, rfl, ?_⟩
  intro run
  exact ⟨by decide +kernel, by decide +kernel, by decide +kernel⟩

end Action

end CloudPolicy
