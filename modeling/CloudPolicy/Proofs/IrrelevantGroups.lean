import CloudPolicy.Proofs.AllowedPlacement
import CloudPolicy.Proofs.Complements

/-! Security groups that make no difference. A placement that compares tags looks at the groups of a
function that are known and not ignored, and at these as a set: in which order a function lists its
groups, which of them repeatedly, and which unknown or ignored ones besides, does not tell on what
is found about it. -/

namespace CloudPolicy

namespace Resource

/-! ### The groups of a function -/

/-- The path of the identifiers of a function's security groups. -/
def groupsPath : String := "func_vpc.security_groups"

/-- The function with other security groups. -/
def withGroups (r : Resource) (ids : List String) : Resource :=
  let vpc := ((r.get? "func_vpc").bind Json.object?).getD ∅
  r.set "func_vpc" (.object (vpc.insert "security_groups" (.strings ids)))

theorem resolve?_of_two {key first second : String}
    (hpath : Text.dropFront? "tag:".toList key.toList = none)
    (hsegments : segments key = [first, second]) (r : Resource) :
    r.resolve? key = ((r.get? first).bind (Json.step? second)).bind Json.present? := by
  have hwalk : r.walk? [first, second] = (r.get? first).bind (Json.step? second) := by
    rw [walk?]
    congr 1
    funext value
    rw [List.foldlM_cons]
    exact bind_pure _
  rw [resolve?, hpath, hsegments, ← hwalk]

theorem resolve?_groupsPath (r : Resource) : r.resolve? groupsPath =
    ((r.get? "func_vpc").bind (Json.step? "security_groups")).bind Json.present? :=
  resolve?_of_two (by decide +kernel) (by decide +kernel) r

variable (r : Resource) (ids : List String)

theorem textList_withGroups :
    (r.withGroups ids).textList groupsPath = ids.filter fun id => !id.isEmpty := by
  have hids : (ids.map Json.string).filterMap Json.string? = ids := by
    rw [List.filterMap_map]
    exact List.filterMap_some
  have hlist : (r.withGroups ids).resolve? groupsPath = some (.strings ids) := by
    rw [resolve?_groupsPath, withGroups, get?_set_self, Option.bind_some, Json.step?,
      StringMap.get?_insert_self]
    rfl
  rw [textList, hlist, Json.strings]
  dsimp only
  rw [hids]

/-- The subnet of the function stays. -/
theorem textList_subnet_withGroups :
    (r.withGroups ids).textList "func_vpc.subnet_id" = r.textList "func_vpc.subnet_id" := by
  have hresolve (s : Resource) : s.resolve? "func_vpc.subnet_id" =
      ((s.get? "func_vpc").bind (Json.step? "subnet_id")).bind Json.present? :=
    resolve?_of_two (by decide +kernel) (by decide +kernel) s
  have hstep : ((r.withGroups ids).get? "func_vpc").bind (Json.step? "subnet_id") =
      (r.get? "func_vpc").bind (Json.step? "subnet_id") := by
    rw [withGroups, get?_set_self, Option.bind_some, Json.step?,
      StringMap.get?_insert_of_ne _ (by decide)]
    cases r.get? "func_vpc" with
    | none => rfl
    | some value =>
        cases value with
        | object fields => rfl
        | array items =>
            -- An array is stepped into by an index, which the name of the field is not.
            have hindex : indexOf? "subnet_id" = none := by decide +kernel
            show none = (indexOf? "subnet_id").bind fun index => items[index]?
            rw [hindex]
            rfl
        | _ => rfl
  rw [textList, textList, hresolve, hresolve, hstep]

theorem tags_withGroups : (r.withGroups ids).tags = r.tags := by
  rw [tags, tags, withGroups, get?_set_of_ne _ (by decide)]

theorem isEmpty_of_mem_textList {key id : String} (h : id ∈ r.textList key) :
    id.isEmpty = false := by
  rw [textList] at h
  split at h
  next text _ =>
    split at h
    next => cases h
    next hempty =>
      rw [List.mem_singleton.1 h]
      exact Bool.eq_false_iff.2 hempty
  next => simpa using (List.mem_filter.1 h).2
  next => cases h

theorem resolve?_tag (tag : String) :
    r.resolve? ("tag:" ++ tag) = (r.tags.get? tag).map .string := by
  have hpath : Text.dropFront? "tag:".toList ("tag:" ++ tag).toList = some tag.toList := by
    rw [Text.dropFront?_eq_some_iff, String.toList_append]
  rw [resolve?, hpath]
  dsimp only
  rw [String.ofList_toList]

end Resource

/-! ### Groups as a set -/

namespace PlacementOptions

variable {options : PlacementOptions} {subnets groups groups' : List Resource}

theorem valueSet_of_perm (hperm : groups'.Perm groups) :
    options.valueSet groups' = options.valueSet groups :=
  List.toFinset_eq_of_perm _ _ (hperm.filterMap _)

theorem valuesOf_of_perm (hids : (groups.map (·.id)).Nodup) (hperm : groups'.Perm groups) :
    options.valuesOf groups' = options.valuesOf groups := by
  have hids' : (groups'.map (·.id)).Nodup := (hperm.map (·.id)).nodup_iff.2 hids
  have hsorted := options.sorted_valuesOf groups
  have hsorted' := options.sorted_valuesOf groups'
  refine StringMap.eq_of_get?_eq hsorted' hsorted fun id => Option.ext fun value => ?_
  rw [← StringMap.mem_entries_iff hsorted, ← StringMap.mem_entries_iff hsorted',
    mem_valuesOf hids, mem_valuesOf hids']
  simp only [hperm.mem_iff]

/-- Other groups in the place of the first ones make no difference to any value. -/
structure SameValues (options : PlacementOptions) (groups groups' : List Resource) : Prop where
  values : options.valuesOf groups' = options.valuesOf groups
  space : options.valueSet groups' = options.valueSet groups
  isEmpty : groups'.isEmpty = groups.isEmpty

theorem SameValues.of_perm (hids : (groups.map (·.id)).Nodup) (hperm : groups'.Perm groups) :
    options.SameValues groups groups' where
  values := valuesOf_of_perm hids hperm
  space := valueSet_of_perm hperm
  isEmpty := by
    rw [Bool.eq_iff_iff, List.isEmpty_iff, List.isEmpty_iff]
    exact ⟨fun h => (h ▸ hperm).nil_eq.symm, fun h => (h ▸ hperm).eq_nil⟩

theorem SameValues.isOutside (h : options.SameValues groups groups') (own : Option String) :
    options.isOutside own groups' = options.isOutside own groups := by
  simp only [PlacementOptions.isOutside, mem_spaceOf, h.space]

theorem SameValues.attachmentsAllowed (h : options.SameValues groups groups') :
    options.attachmentsAllowed groups' = options.attachmentsAllowed groups := by
  have hspace : (options.spaceOf groups').all (· ∈ options.allowed) =
      (options.spaceOf groups).all (· ∈ options.allowed) := by
    rw [Bool.eq_iff_iff]
    simp only [List.all_eq_true, mem_spaceOf, h.space]
  rw [PlacementOptions.attachmentsAllowed, PlacementOptions.attachmentsAllowed, h.values, hspace]

theorem SameValues.groupFindings (h : options.SameValues groups groups') :
    options.groupFindings groups' = options.groupFindings groups := by
  simp only [PlacementOptions.groupFindings, kindFindings, length_spaceOf, h.values, h.space]

theorem SameValues.mismatchFindings (h : options.SameValues groups groups') :
    options.mismatchFindings subnets groups' = options.mismatchFindings subnets groups := by
  have hspace : sameMembers (options.spaceOf subnets) (options.spaceOf groups') =
      sameMembers (options.spaceOf subnets) (options.spaceOf groups) := by
    rw [Bool.eq_iff_iff, sameMembers_iff, sameMembers_iff, h.space]
  rw [PlacementOptions.mismatchFindings, PlacementOptions.mismatchFindings, hspace, h.values]

theorem SameValues.evaluate (h : options.SameValues groups groups') {r r' : Resource}
    (hown : r'.resolveText? options.key = r.resolveText? options.key) :
    options.evaluate r' subnets groups' = options.evaluate r subnets groups := by
  simp only [PlacementOptions.evaluate, ownFindings, groupMismatchFindings, hown, h.groupFindings,
    h.mismatchFindings, h.isOutside, h.values, h.isEmpty]

theorem SameValues.isWithinAllowed (h : options.SameValues groups groups') {r r' : Resource}
    (hown : r'.resolveText? options.key = r.resolveText? options.key) :
    options.isWithinAllowed r' subnets groups' = options.isWithinAllowed r subnets groups := by
  simp only [PlacementOptions.isWithinAllowed, h.attachmentsAllowed, hown]

end PlacementOptions

/-! ### Known groups -/

namespace Attachment

theorem nodup_ids (attachment : Attachment) (type : ResourceType) (r : Resource) :
    (attachment.ids type r).Nodup := by
  rw [ids_eq]
  exact nodup_eraseDups _

theorem get?_registry (attachment : Attachment) (cloud : Cloud) (id : String) :
    (attachment.registry cloud).get? id = Resource.lastNamed? (attachment.stored cloud) id :=
  (StringMap.get?_ofList_byId _ _ id).trans Option.map_id'

variable {attachment : Attachment} {cloud : Cloud} {type : ResourceType} {r : Resource}

theorem known_registry : attachment.known type (attachment.registry cloud) r =
    (attachment.ids type r).filterMap (Resource.lastNamed? (attachment.stored cloud)) := by
  rw [known]
  exact List.filterMap_congr fun id _ => attachment.get?_registry cloud id

theorem known_empty : attachment.known type ∅ r = [] :=
  List.filterMap_eq_nil_iff.2 fun _ _ => rfl

theorem mem_known {g : Resource} : g ∈ attachment.known type (attachment.registry cloud) r ↔
    g.id ∈ attachment.ids type r ∧
      Resource.lastNamed? (attachment.stored cloud) g.id = some g := by
  rw [known_registry, List.mem_filterMap]
  constructor
  · rintro ⟨id, hid, hg⟩
    obtain rfl := (Resource.of_lastNamed? hg).2
    exact ⟨hid, hg⟩
  · rintro ⟨hid, hg⟩
    exact ⟨g.id, hid, hg⟩

theorem nodup_known : ((attachment.known type (attachment.registry cloud) r).map (·.id)).Nodup := by
  have hids := Resource.ids_filterMap_lastNamed? (attachment.stored cloud) (fun _ => true)
    (attachment.ids type r)
  rw [List.filter_true] at hids
  rw [known_registry, hids]
  exact (attachment.nodup_ids type r).filter _

end Attachment

namespace Filter

variable {cloud : Cloud} {options : PlacementOptions} {r : Resource} {ids : List String}

/-- The security groups of a function that a placement compares. -/
def comparedGroups (cloud : Cloud) (options : PlacementOptions) (r : Resource) : List Resource :=
  comparedAttachments options .securityGroup .function
    (comparedRegistry cloud options.compareGroups .securityGroup) r

theorem mem_comparedGroups {g : Resource} : g ∈ comparedGroups cloud options r ↔
    options.compareGroups = true ∧ g.id ∈ r.textList Resource.groupsPath ∧
      Resource.lastNamed? cloud.securityGroups g.id = some g ∧ options.isIgnored g = false := by
  have hids : g.id ∈ Attachment.ids .securityGroup .function r ↔
      g.id ∈ r.textList Resource.groupsPath := by
    rw [Attachment.ids_eq, List.mem_eraseDups, Attachment.references, Attachment.keys,
      List.flatMap_singleton]
    rfl
  rw [comparedGroups, comparedAttachments, comparedRegistry, List.mem_filter, Bool.not_eq_true']
  cases options.compareGroups with
  | false =>
      simp [Attachment.known_empty]
  | true =>
      rw [if_pos rfl, Attachment.mem_known, hids, and_assoc]
      exact (and_iff_right rfl).symm

theorem nodup_comparedGroups (cloud : Cloud) (options : PlacementOptions) (r : Resource) :
    ((comparedGroups cloud options r).map (·.id)).Nodup := by
  have hknown : ((Attachment.known .securityGroup .function
      (comparedRegistry cloud options.compareGroups .securityGroup) r).map (·.id)).Nodup := by
    cases options.compareGroups with
    | false =>
        rw [comparedRegistry, if_neg Bool.false_ne_true, Attachment.known_empty]
        exact List.nodup_nil
    | true => exact Attachment.nodup_known
  exact hknown.sublist (List.filter_sublist.map _)

/-- Functions that list the same of the groups that are known and not ignored. -/
theorem sameValues_withGroups
    (hsame : ∀ id g, Resource.lastNamed? cloud.securityGroups id = some g →
      options.isIgnored g = false → (id ∈ ids ↔ id ∈ r.textList Resource.groupsPath)) :
    options.SameValues (comparedGroups cloud options r)
      (comparedGroups cloud options (r.withGroups ids)) := by
  have hnodup (s : Resource) : (comparedGroups cloud options s).Nodup :=
    (nodup_comparedGroups cloud options s).of_map _
  refine .of_perm (nodup_comparedGroups cloud options r) ?_
  refine (List.perm_ext_iff_of_nodup (hnodup _) (hnodup _)).2 fun g => ?_
  rw [mem_comparedGroups, mem_comparedGroups, Resource.textList_withGroups, List.mem_filter]
  refine and_congr_right fun _ => and_congr_left fun ⟨hg, hcounts⟩ => ?_
  rw [hsame g.id g hg hcounts, and_iff_left_iff_imp]
  intro hlisted
  rw [Resource.isEmpty_of_mem_textList r hlisted]
  rfl

/-- The subnets of a function that a placement compares. -/
def comparedSubnets (cloud : Cloud) (options : PlacementOptions) (r : Resource) : List Resource :=
  comparedAttachments options .subnet .function
    (comparedRegistry cloud options.compareSubnets .subnet) r

theorem comparedSubnets_withGroups :
    comparedSubnets cloud options (r.withGroups ids) = comparedSubnets cloud options r := by
  have hids : Attachment.ids .subnet .function (r.withGroups ids) =
      Attachment.ids .subnet .function r :=
    congrArg (Attachment.addNew []) (r.textList_subnet_withGroups ids)
  rw [comparedSubnets, comparedSubnets, comparedAttachments, comparedAttachments, Attachment.known,
    Attachment.known, hids]

/-- What a placement of tags keeps of a function, and what it notes on it, depends on those of its
groups that are known and not ignored. -/
theorem judgePlacement_withGroups {tag : String} (hkey : options.key = "tag:" ++ tag)
    (hsame : ∀ id g, Resource.lastNamed? cloud.securityGroups id = some g →
      options.isIgnored g = false → (id ∈ ids ↔ id ∈ r.textList Resource.groupsPath)) :
    judgePlacement cloud options .function (r.withGroups ids) =
      (judgePlacement cloud options .function r).map (·.withGroups ids) := by
  have hvalues := sameValues_withGroups hsame
  -- A key that is a tag is read from the tags alone; any other path could lead to the groups.
  have hown : (r.withGroups ids).resolveText? options.key = r.resolveText? options.key := by
    rw [Resource.resolveText?, Resource.resolveText?, hkey, Resource.resolve?_tag,
      Resource.resolve?_tag, Resource.tags_withGroups]
  have hjudge (s : Resource) : judgePlacement cloud options .function s =
      keepPlacement options s (comparedSubnets cloud options s) (comparedGroups cloud options s) :=
    rfl
  rw [hjudge, hjudge, comparedSubnets_withGroups, keepPlacement, keepPlacement,
    hvalues.evaluate hown, hvalues.isWithinAllowed hown]
  have hkept (condition : Bool) : (if condition then some (r.withGroups ids) else none) =
      (if condition then some r else none).map (·.withGroups ids) := by
    cases condition <;> rfl
  cases options.mode with
  | within => exact hkept _
  | equal => exact hkept _
  | notEqual =>
      dsimp only
      generalize options.evaluate r _ _ = findings
      cases findings with
      | nil => rfl
      | cons finding findings => rfl

/-! ### Rearranged lists of groups -/

/-- The second list is made from the first one by permuting it, by repeating identifiers, and by
adding identifiers of which the network service has no group or of which the last group that it has
is ignored. -/
inductive Rearranged (cloud : Cloud) (options : PlacementOptions) :
    List String → List String → Prop where
  | permute {ids ids' : List String} (h : ids'.Perm ids) : Rearranged cloud options ids ids'
  | repeated {id : String} {ids : List String} (h : id ∈ ids) :
      Rearranged cloud options ids (id :: ids)
  | unknown {id : String} (ids : List String) (h : id ∉ cloud.securityGroups.map (·.id)) :
      Rearranged cloud options ids (id :: ids)
  | ignored {id : String} {g : Resource} (ids : List String)
      (hlast : Resource.lastNamed? cloud.securityGroups id = some g)
      (hignored : options.isIgnored g = true) : Rearranged cloud options ids (id :: ids)
  | trans {ids ids' ids'' : List String} (h : Rearranged cloud options ids ids')
      (h' : Rearranged cloud options ids' ids'') : Rearranged cloud options ids ids''

/-- Such lists have the same of the groups that are known and not ignored. -/
theorem Rearranged.mem_iff {ids ids' : List String} (h : Rearranged cloud options ids ids')
    {id : String} {g : Resource} (hlast : Resource.lastNamed? cloud.securityGroups id = some g)
    (hcounts : options.isIgnored g = false) : id ∈ ids' ↔ id ∈ ids := by
  induction h with
  | permute h => exact h.mem_iff
  | repeated h =>
      rw [List.mem_cons, or_iff_right_of_imp]
      rintro rfl
      exact h
  | unknown ids h =>
      rw [List.mem_cons, or_iff_right]
      rintro rfl
      obtain ⟨hmem, hid⟩ := Resource.of_lastNamed? hlast
      exact h (List.mem_map.2 ⟨g, hmem, hid⟩)
  | ignored ids hlast' hignored =>
      rw [List.mem_cons, or_iff_right]
      rintro rfl
      cases hlast.symm.trans hlast'
      rw [hcounts] at hignored
      cases hignored
  | trans _ _ ih ih' => exact ih'.trans ih

/-- What an application of a placement to a batch gives, or the look-up that was made to fail. -/
theorem run_placement_cases (cloud : Cloud) (options : PlacementOptions) (context : RunContext)
    (batch : List Resource) :
    (((placement options).process context batch).run cloud).1 =
        .ok (batch.filterMap (judgePlacement cloud options context.resourceType)) ∨
      ∃ e, LookUpFails cloud e ∧
        (((placement options).process context batch).run cloud).1 = .error e := by
  rcases placement_cases cloud options context batch with hkept | ⟨e, hfails, herror⟩
  · obtain ⟨calls, hrun⟩ := hkept cloud.calls
    exact .inl (congrArg Prod.fst hrun)
  · obtain ⟨calls, hrun⟩ := herror cloud.calls
    exact .inr ⟨e, hfails, congrArg Prod.fst hrun⟩

/-- **Irrelevant groups make no difference.** A placement that compares tags is built from a block
and applied to two batches of functions, which differ in the security groups that one function
lists: from the first list the second one is made by permuting, repeating, and adding unknown or
ignored groups. The applications keep the same functions, that one apart from its groups, with the
same annotations; one of them stops only where a look-up was made to fail. -/
theorem irrelevant_groups_unobservable (block : Json) (build : BuildContext) (filter : Filter)
    (options : PlacementOptions) (tag : String)
    (hbuild : FilterKind.networkLocation.build block build = .ok filter)
    (hoptions : placementOptions block build = .ok options)
    (hkey : block.textOption? "key" = some ("tag:" ++ tag)) (context : RunContext)
    (htype : context.resourceType = .function) (cloud : Cloud) (before after : List Resource)
    (r : Resource) (ids : List String)
    (hids : Rearranged cloud options (r.textList Resource.groupsPath) ids) :
    let judge := judgePlacement cloud options .function
    let run (batch : List Resource) := ((filter.process context batch).run cloud).1
    let Fails (batch : List Resource) := ∃ e, LookUpFails cloud e ∧ run batch = .error e
    (run (before ++ r :: after) =
        .ok (before.filterMap judge ++ ((judge r).toList ++ after.filterMap judge)) ∨
      Fails (before ++ r :: after)) ∧
    (run (before ++ r.withGroups ids :: after) =
        .ok (before.filterMap judge ++
          (((judge r).map (·.withGroups ids)).toList ++ after.filterMap judge)) ∨
      Fails (before ++ r.withGroups ids :: after)) := by
  intro judge run Fails
  obtain ⟨options', hoptions', hfilter⟩ := FilterKind.exists_placement_of_build hbuild
  cases hoptions.symm.trans hoptions'
  have hplaced : options.key = "tag:" ++ tag := by
    rw [placementOptions, hkey] at hoptions
    obtain ⟨key, hrequired, hoptions⟩ := Steps.of_bind_eq_ok hoptions
    obtain ⟨mode, -, hoptions⟩ := Steps.of_bind_eq_ok hoptions
    cases hrequired
    cases hoptions
    rfl
  have hcases (s : Resource) : run (before ++ s :: after) =
      .ok (before.filterMap judge ++ ((judge s).toList ++ after.filterMap judge)) ∨
      Fails (before ++ s :: after) := by
    have hrun := run_placement_cases cloud options context (before ++ s :: after)
    have hcons : (s :: after).filterMap judge = (judge s).toList ++ after.filterMap judge := by
      rw [List.filterMap_cons]
      cases judge s <;> rfl
    rw [htype, ← hfilter, List.filterMap_append, hcons] at hrun
    exact hrun
  refine ⟨hcases r, ?_⟩
  have hjudged : judge (r.withGroups ids) = (judge r).map (·.withGroups ids) :=
    judgePlacement_withGroups hplaced fun id g hlast hcounts => hids.mem_iff hlast hcounts
  rw [← hjudged]
  exact hcases (r.withGroups ids)

/-- A function of the tag `prod` in a group of the tag `dev`, which then lists that group twice, an
unknown group and an ignored one. -/
theorem ignored_and_unknown_groups_unobservable :
    let block : Json := .obj [("type", .string "network-location"), ("key", .string "tag:Env"),
      ("ignore", .array [.obj [("tag:Team", .string "Infra")]])]
    let build : BuildContext := { (default : BuildContext) with resourceType := .function }
    let context : RunContext := { (default : RunContext) with resourceType := .function }
    let cloud : Cloud := { securityGroups := [
      .ofRecord (.obj [("id", .string "sg-1"), ("tags", .obj [("Env", .string "dev")])]),
      .ofRecord (.obj [("id", .string "sg-2"),
        ("tags", .obj [("Env", .string "test"), ("Team", .string "Infra")])])] }
    let r : Resource := .ofRecord (.obj [("id", .string "fn-1"),
      ("tags", .obj [("Env", .string "prod")]),
      ("func_vpc", .obj [("security_groups", .strings ["sg-1"])])])
    let ids := ["sg-2", "sg-9", "sg-1", "sg-1"]
    let options : PlacementOptions := { key := "tag:Env", ignored := [[("tag:Team", "Infra")]] }
    ∃ filter, FilterKind.networkLocation.build block build = .ok filter ∧
      placementOptions block build = .ok options ∧
      Rearranged cloud options (r.textList Resource.groupsPath) ids ∧
      let judge := judgePlacement cloud options .function
      let run (batch : List Resource) := ((filter.process context batch).run cloud).1
      (judge r).isSome = true ∧ run [r] = .ok (judge r).toList ∧
        run [r.withGroups ids] = .ok ((judge r).map (·.withGroups ids)).toList := by
  intro block build context cloud r ids options
  have hlisted : r.textList Resource.groupsPath = ["sg-1"] := by decide +kernel
  have hids : Rearranged cloud options (r.textList Resource.groupsPath) ids :=
    hlisted ▸ (Rearranged.repeated List.mem_cons_self).trans
      ((Rearranged.unknown _ (by decide +kernel)).trans (.ignored _ rfl (by decide +kernel)))
  have hworks : ∀ e, ¬ LookUpFails cloud e := by
    rintro e ⟨attachment, target, hfails, -⟩
    cases hfails
  have hbuild : FilterKind.networkLocation.build block build = .ok (placement options) := rfl
  have hoptions : placementOptions block build = .ok options := rfl
  obtain ⟨hbefore, hafter⟩ := irrelevant_groups_unobservable block build _ options "Env" hbuild
    hoptions rfl context rfl cloud [] [] r ids hids
  simp only [List.nil_append, List.filterMap_nil, List.append_nil] at hbefore hafter
  have hkept : (judgePlacement cloud options .function r).isSome = true := by decide +kernel
  refine ⟨_, hbuild, hoptions, hids, hkept, hbefore.resolve_right ?_, hafter.resolve_right ?_⟩
  · exact fun ⟨e, hfails, _⟩ => hworks e hfails
  · exact fun ⟨e, hfails, _⟩ => hworks e hfails

/-- Of two groups with one identifier the first one is ignored and the last one is not: a function
is kept once it lists that identifier. And where the look-up of groups fails, a function without
groups is left out, and with an unknown group the filter stops. -/
theorem shadowed_group_and_failing_look_up_observed :
    let block : Json := .obj [("type", .string "network-location"), ("key", .string "tag:Env"),
      ("ignore", .array [.obj [("tag:Team", .string "Infra")]])]
    let build : BuildContext := { (default : BuildContext) with resourceType := .function }
    let context : RunContext := { (default : RunContext) with resourceType := .function }
    let options : PlacementOptions := { key := "tag:Env", ignored := [[("tag:Team", "Infra")]] }
    let shadowed : Resource :=
      .ofRecord (.obj [("id", .string "sg-1"), ("tags", .obj [("Team", .string "Infra")])])
    let last : Resource :=
      .ofRecord (.obj [("id", .string "sg-1"), ("tags", .obj [("Env", .string "dev")])])
    let r : Resource := .ofRecord (.obj [("id", .string "fn-1"),
      ("tags", .obj [("Env", .string "prod")])])
    let doubled : Cloud := { securityGroups := [shadowed, last] }
    let failing : Cloud := { failures := [("security_groups", Cloud.anyTarget)] }
    ∃ filter, FilterKind.networkLocation.build block build = .ok filter ∧
      let kept (cloud : Cloud) (ids : List String) : Option (List String) :=
        ((filter.process context [r.withGroups ids]).run cloud).1.toOption.map fun kept =>
          kept.map (·.id)
      options.isIgnored shadowed = true ∧ kept doubled [] = some [] ∧
        kept doubled ["sg-1"] = some ["fn-1"] ∧ kept failing [] = some [] ∧
        kept failing ["sg-9"] = none := by
  intro block build context options shadowed last r doubled failing
  refine ⟨placement options, rfl, ?_⟩
  intro kept
  exact ⟨by decide +kernel, by decide +kernel, by decide +kernel, by decide +kernel,
    by decide +kernel⟩

end Filter

end CloudPolicy
