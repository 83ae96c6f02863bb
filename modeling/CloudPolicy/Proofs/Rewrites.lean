import CloudPolicy.Proofs.Compiled
import CloudPolicy.Proofs.PlannedChanges

/-! Renaming tags and normalizing their values. Both rewrite the tags of one resource after the
other, and what they make of the tags of one resource is one change of a map. Where no call fails
this is all that they change. Where a call fails a value that was to be moved can be lost: the tag
is deleted before it is created anew. -/

namespace CloudPolicy

/-! ### The tags of one resource -/

/-- What renaming or normalizing makes of the tags of a resource. Renaming moves a value, the one
that the block gives or else the one of the old key, to the new key. Normalizing replaces the value
of a key, which has to be the one that the block gives, if it gives one. -/
inductive ActionKind.Rewrites (block : Json) (build : BuildContext) (tags : TagSet) :
    ActionKind → TagSet → Prop where
  | rename {oldKey newKey value : String} (hold : block.textOption? "old_key" = some oldKey)
      (hnew : block.textOption? "new_key" = some newKey)
      (hvalue : (block.textOption? "value").or (tags.get? oldKey) = some value) :
      Rewrites block build tags .renameTag ((tags.erase oldKey).insert newKey value)
  | normalize {key value normal : String} {rule : Normalization}
      (hkey : block.textOption? "key" = some key)
      (hrule : Normalization.ofBlock block build = .ok rule)
      (hvalue : tags.get? key = some value)
      (honly : ∀ only, block.textOption? "value" = some only → only = value)
      (hnormal : rule.apply value = some normal) :
      Rewrites block build tags .normalizeTag (tags.insert key normal)

/-- A change that writes one tag after the deletion of others. -/
theorem TagChange.get?_apply_single (keys : List String) (key value : String) (tags : TagSet)
    (other : String) :
    (({ delete := keys, create := .ofList [(key, value)] } : TagChange).apply tags).get? other =
      if other = key then some value else if other ∈ keys then none else tags.get? other := by
  rw [get?_apply]
  show ((TagSet.insert ∅ key value).get? other).or _ = _
  rw [TagSet.get?_insert]
  split
  next => rfl
  next => exact Option.none_or

namespace Action

variable {oldKey newKey key : String} {value only : Option String} {rule : Normalization}
  {r : Resource}

/-- A renaming is planned where there is a value to move. -/
theorem renamePlan_eq_ok_iff {planned : Option TagChange} :
    renamePlan oldKey newKey value r = .ok planned ↔
      ∃ moved, value.or (r.tags.get? oldKey) = some moved ∧ planned = some {
        delete := if (r.tags.get? oldKey).isSome then [oldKey] else []
        create := .ofList [(newKey, moved)] } := by
  rw [renamePlan]
  cases value.or (r.tags.get? oldKey) with
  | none => exact iff_of_false nofun fun ⟨_, h, _⟩ => nomatch h
  | some moved =>
      constructor
      · rintro ⟨⟩
        exact ⟨moved, rfl, rfl⟩
      · rintro ⟨_, ⟨⟩, rfl⟩
        rfl

theorem apply_rename (tags : TagSet) (oldKey newKey moved : String) :
    ({ delete := if (tags.get? oldKey).isSome then [oldKey] else []
       create := .ofList [(newKey, moved)] } : TagChange).apply tags =
      (tags.erase oldKey).insert newKey moved := by
  refine TagSet.eq_of_get?_eq fun other => ?_
  rw [TagChange.get?_apply_single, TagSet.get?_insert, TagSet.get?_erase]
  by_cases hother : other = oldKey
  · subst hother
    cases hcurrent : tags.get? other with
    | none => simp
    | some value => simp
  · simp [hother]

/-- A value is normalized where it is not left out and the rule changes it. -/
theorem normalizePlan_eq_ok_iff {change : TagChange} :
    normalizePlan key only rule r = .ok (some change) ↔
      ∃ current normal, r.tags.get? key = some current ∧
        (∀ text, only = some text → text = current) ∧ rule.apply current = some normal ∧
        change = { delete := [key], create := .ofList [(key, normal)] } := by
  rw [normalizePlan]
  constructor
  · intro h
    split at h
    next => cases h
    next current hcurrent =>
    split at h
    next => cases h
    next honly =>
    split at h
    next => cases h
    next normal hnormal =>
    cases h
    refine ⟨current, normal, hcurrent, fun text htext => ?_, hnormal, rfl⟩
    subst htext
    simpa using honly
  · rintro ⟨current, normal, hcurrent, honly, hnormal, rfl⟩
    have honly : ¬ (only.any fun text => text ≠ current) = true := by
      cases only with
      | none => exact Bool.false_ne_true
      | some text => simpa using honly text rfl
    simp only [hcurrent, hnormal, honly]
    rfl

theorem apply_normalize (tags : TagSet) (key normal : String) :
    ({ delete := [key], create := .ofList [(key, normal)] } : TagChange).apply tags =
      tags.insert key normal := by
  refine TagSet.eq_of_get?_eq fun other => ?_
  rw [TagChange.get?_apply_single, TagSet.get?_insert]
  split
  next => rfl
  next hother => rw [if_neg (by simpa using hother)]

end Action

/-! ### Plans -/

/-- The plan changes the tags of resources as the kind rewrites them. -/
structure ActionKind.Plans (kind : ActionKind) (block : Json) (build : BuildContext)
    (plan : Resource → Plan) : Prop where
  calls : ∀ r, (plan r).Calls
  rewrites : ∀ {r change}, plan r = .ok (some change) →
    kind.Rewrites block build r.tags (change.apply r.tags)
  planned : ∀ {r tags}, kind.Rewrites block build r.tags tags →
    ∃ change, plan r = .ok (some change)

namespace ActionKind

variable {kind : ActionKind} {block : Json} {build : BuildContext} {action : Action}

theorem exists_plan_of_build (hkind : kind = .renameTag ∨ kind = .normalizeTag)
    (hbuild : kind.build block build = .ok action) :
    ∃ name plan, action = .ofPlan name plan ∧ kind.Plans block build plan := by
  rcases hkind with rfl | rfl
  · obtain ⟨oldKey, newKey, hold, hnew, -, rfl⟩ := Action.exists_keys_of_buildRename hbuild
    refine ⟨_, _, rfl, fun r change hplan => ?_, fun {r change} hplan => ?_, fun {r tags} h => ?_⟩
    · obtain ⟨moved, -, hchange⟩ := Action.renamePlan_eq_ok_iff.1 hplan
      cases hchange
      exact Bool.and_false _
    · obtain ⟨moved, hmoved, hchange⟩ := Action.renamePlan_eq_ok_iff.1 hplan
      cases hchange
      rw [Action.apply_rename]
      exact .rename hold hnew hmoved
    · cases h with
      | rename hold' _ hvalue =>
        cases hold.symm.trans hold'
        exact ⟨_, Action.renamePlan_eq_ok_iff.2 ⟨_, hvalue, rfl⟩⟩
  · obtain ⟨key, rule, hkey, hrule, rfl⟩ := Action.exists_rule_of_buildNormalize hbuild
    refine ⟨_, _, rfl, fun r change hplan => ?_, fun {r change} hplan => ?_, fun {r tags} h => ?_⟩
    · obtain ⟨_, _, -, -, -, rfl⟩ := Action.normalizePlan_eq_ok_iff.1 hplan
      rfl
    · obtain ⟨current, normal, hcurrent, honly, hnormal, rfl⟩ :=
        Action.normalizePlan_eq_ok_iff.1 hplan
      rw [Action.apply_normalize]
      exact .normalize hkey hrule hcurrent honly hnormal
    · cases h with
      | normalize hkey' hrule' hvalue honly hnormal =>
        cases hkey.symm.trans hkey'
        cases hrule.symm.trans hrule'
        exact ⟨_, Action.normalizePlan_eq_ok_iff.2 ⟨_, _, hvalue, honly, hnormal, rfl⟩⟩

/-- **Renaming and normalizing change the tags that they are asked to, and nothing else.** Where no
call fails the action comes to its end. The resources that it reports as handled are those of the
batch that the tag service does not refuse and whose tags are there to be rewritten, if the type has
tags. Their records have the rewritten tags and are otherwise as before, and so is every other
record and all else in the cloud but the calls. -/
theorem tags_rewritten_exactly (kind : ActionKind)
    (hkind : kind = .renameTag ∨ kind = .normalizeTag) (block : Json) (build : BuildContext)
    (action : Action) (hbuild : kind.build block build = .ok action) (context : RunContext)
    (cloud : Cloud) (hdistinct : ((cloud.resources context.resourceType).map (·.id)).Nodup)
    (hfailures : cloud.failures = []) (batch : List Resource)
    (hbatch : batch ⊆ cloud.resources context.resourceType) :
    ∃ report left calls,
      (action.process context batch).run cloud =
        (.ok report, { cloud.setResources context.resourceType
          ((cloud.resources context.resourceType).map left) with calls }) ∧
      ∀ r ∈ cloud.resources context.resourceType,
        (r.id ∈ report.succeeded ↔ context.resourceType.isTaggable = true ∧ r ∈ batch ∧
          r.id ∉ cloud.rejectedTagTargets ∧ ∃ tags, kind.Rewrites block build r.tags tags) ∧
        (r.id ∈ report.succeeded → ∃ tags, kind.Rewrites block build r.tags tags ∧
          left r = r.set "tags" tags.toJson ∧ (left r).tags = tags) ∧
        (r.id ∉ report.succeeded ∨ r.id ∈ report.failed.map (·.id) → left r = r) := by
  obtain ⟨name, plan, rfl, hplan⟩ := exists_plan_of_build hkind hbuild
  obtain ⟨report, left, calls, hrun, hrecords⟩ := Action.run_ofPlan_records name plan hdistinct
    hbatch hplan.calls fun r _ => TagChange.not_fails_of_no_failures hfailures (plan r).change r.id
  refine ⟨report, left, calls, hrun, fun r hr => ?_⟩
  obtain ⟨hsucceeded, -, hwritten, hsame⟩ := hrecords r hr
  have hchange : (∃ change, plan r = .ok (some change)) ↔
      ∃ tags, kind.Rewrites block build r.tags tags :=
    ⟨fun ⟨_, hchange⟩ => ⟨_, hplan.rewrites hchange⟩, fun ⟨_, htags⟩ => hplan.planned htags⟩
  have hreported := hsucceeded
  rw [hchange, RunContext.mem_taggable, and_assoc] at hreported
  refine ⟨hreported, fun h => ?_, hsame⟩
  obtain ⟨-, -, change, hchange⟩ := hsucceeded.1 h
  have hleft := hwritten h change hchange
  refine ⟨change.apply r.tags, hplan.rewrites hchange, hleft, ?_⟩
  rw [hleft, Cloud.tags_retag]

/-- A tag is moved over another one, in tags that were written as a list. A function that the tag
service refuses and one outside the batch keep theirs. -/
theorem moved_over_other_tag :
    let block : Json := .obj [("type", .string "rename-tag"), ("old_key", .string "Env"),
      ("new_key", .string "Team")]
    let function (id : String) (tags : List String) : Resource :=
      .ofRecord (.obj [("id", .string id), ("tags", .strings tags)])
    let moved := function "fn-1" ["Team=infra", "Env=prod", "Owner=alice"]
    let refused := function "fn-2" ["Env=prod"]
    let other := function "fn-3" ["Env=prod"]
    let cloud := (({} : Cloud).setResources .function [moved, refused, other]).rejectTags "fn-2"
    let context : RunContext := { (default : RunContext) with resourceType := .function }
    ∃ action, ActionKind.renameTag.build block default = .ok action ∧
      ((cloud.resources .function).map (·.id)).Nodup ∧ cloud.failures = [] ∧
      [moved, refused] ⊆ cloud.resources .function ∧
      ∃ report left calls,
        (action.process context [moved, refused]).run cloud = (.ok report,
          { cloud.setResources .function ((cloud.resources .function).map left) with calls }) ∧
        "fn-1" ∈ report.succeeded ∧
        (left moved).tags = .ofList [("Owner", "alice"), ("Team", "prod")] ∧
        left refused = refused ∧ left other = other := by
  intro block function moved refused other cloud context
  have hdistinct : ((cloud.resources .function).map (·.id)).Nodup := by decide +kernel
  have hbatch : [moved, refused] ⊆ cloud.resources .function :=
    List.Sublist.subset (List.Sublist.cons_cons _ (List.Sublist.cons_cons _ (List.nil_sublist _)))
  refine ⟨_, rfl, hdistinct, rfl, hbatch, ?_⟩
  obtain ⟨report, left, calls, hrun, hrecords⟩ := tags_rewritten_exactly .renameTag (.inl rfl)
    block default _ rfl context cloud hdistinct rfl [moved, refused] hbatch
  refine ⟨report, left, calls, hrun, ?_⟩
  obtain ⟨hmoved, hwritten, -⟩ := hrecords moved List.mem_cons_self
  obtain ⟨hrefused, -, hkept⟩ := hrecords refused (List.mem_cons_of_mem _ List.mem_cons_self)
  obtain ⟨hother, -, hspared⟩ :=
    hrecords other (List.mem_cons_of_mem _ (List.mem_cons_of_mem _ List.mem_cons_self))
  have hsuccess : moved.id ∈ report.succeeded :=
    hmoved.2 ⟨rfl, List.mem_cons_self, by decide +kernel, _, .rename rfl rfl
      (show moved.tags.get? "Env" = some "prod" by decide +kernel)⟩
  have hid : moved.id = "fn-1" := by decide +kernel
  refine ⟨hid ▸ hsuccess, ?_, hkept (.inl fun h => ?_), hspared (.inl fun h => ?_)⟩
  · obtain ⟨tags, htags, -, hread⟩ := hwritten hsuccess
    cases htags with
    | rename hold hnew hvalue =>
      cases hold
      cases hnew
      rw [hread]
      have hvalue : moved.tags.get? "Env" = some _ := hvalue
      cases (show moved.tags.get? "Env" = some "prod" by decide +kernel).symm.trans hvalue
      decide +kernel
  · exact (hrefused.1 h).2.2.1 (by decide +kernel)
  · have hids := List.mem_map_of_mem (f := (·.id)) (hother.1 h).2.1
    revert hids
    decide +kernel

/-! ### Values that are moved -/

section

variable {oldKey newKey moved : String} {r : Resource}
  (hmoved : r.tags.get? oldKey = some moved)

include hmoved

theorem change_renamePlan : (Action.renamePlan oldKey newKey none r).change =
    { delete := [oldKey], create := .ofList [(newKey, moved)] } := by
  rw [Action.renamePlan, hmoved]
  rfl

/-- A renaming that is carried out, or not, keeps the value. -/
theorem settled_keeps_moved (rejected ids : List String) :
    let left := Action.settled (Action.renamePlan oldKey newKey none) rejected ids r
    left.tags.get? oldKey = some moved ∨ left.tags.get? newKey = some moved := by
  intro left
  dsimp only [left]
  rw [Action.settled]
  split
  next =>
    right
    rw [TagChange.tags_applyTo, change_renamePlan hmoved, TagChange.get?_apply_single, if_pos rfl]
  next => exact .inl hmoved

/-- After the deletion alone the value is there only if the new key had it. -/
theorem deletion_keeps_moved_iff (hkeys : oldKey ≠ newKey) :
    let left := (Action.renamePlan oldKey newKey none r).change.deletion.applyTo r
    left.tags.get? oldKey = some moved ∨ left.tags.get? newKey = some moved ↔
      r.tags.get? newKey = some moved := by
  intro left
  have hleft (key : String) :
      left.tags.get? key = if key ∈ [oldKey] then none else r.tags.get? key := by
    dsimp only [left]
    rw [TagWrite.tags_applyTo, change_renamePlan hmoved]
    exact TagWrite.get?_apply_delete ..
  rw [hleft, hleft, if_pos List.mem_cons_self, if_neg (by simpa using hkeys.symm)]
  exact or_iff_right nofun

end

/-- **A value that is moved is lost only where its tag cannot be created.** Whichever calls fail and
whichever resources the tag service refuses, a renaming leaves the value of a resource under the old
or the new key, unless it ends because the creation for that very resource fails: then its tag is
deleted, and the value is there only if the new key had it before. -/
theorem renamed_value_kept_iff (block : Json) (build : BuildContext) (action : Action)
    (hbuild : ActionKind.renameTag.build block build = .ok action)
    (hvalue : block.textOption? "value" = none) (context : RunContext) (cloud : Cloud)
    (hdistinct : ((cloud.resources context.resourceType).map (·.id)).Nodup)
    (batch : List Resource) (hbatch : batch ⊆ cloud.resources context.resourceType) :
    ∃ oldKey newKey, block.textOption? "old_key" = some oldKey ∧
      block.textOption? "new_key" = some newKey ∧
      let outcome := (action.process context batch).run cloud
      ∀ r ∈ cloud.resources context.resourceType, ∀ value, r.tags.get? oldKey = some value →
        ∃ left, outcome.2.resource? context.resourceType r.id = some left ∧
          ((left.tags.get? oldKey = some value ∨ left.tags.get? newKey = some value) ↔
            (outcome.1 = .error (Cloud.tagFailure "create_tags" r.id) →
              r.tags.get? newKey = some value)) := by
  obtain ⟨oldKey, newKey, hold, hnew, hkeys, rfl⟩ := Action.exists_keys_of_buildRename hbuild
  refine ⟨oldKey, newKey, hold, hnew, fun r hr value hmoved => ?_⟩
  rw [hvalue]
  let plan := Action.renamePlan oldKey newKey none
  have hkept (ids : List String) (calls : List ServiceCall) : ∃ left,
      ({ cloud.settle context.resourceType plan ids with calls } : Cloud).resource?
        context.resourceType r.id = some left ∧
      (left.tags.get? oldKey = some value ∨ left.tags.get? newKey = some value) :=
    ⟨_, Cloud.resource?_settle hdistinct hr, settled_keeps_moved hmoved ..⟩
  have hcases := Action.run_ofPlan_cases "rename-tag" plan hdistinct hbatch
  rcases hcases with ⟨report, calls, hrun⟩ | ⟨before, hbefore, s, hs, hnot, calls, hrun | hrun⟩
  · obtain ⟨left, hleft, hkept⟩ := hkept ((context.taggable batch).map (·.id)) calls
    rw [hrun]
    exact ⟨left, hleft, iff_of_true hkept nofun⟩
  · obtain ⟨left, hleft, hkept⟩ := hkept (before.map (·.id)) calls
    rw [hrun]
    refine ⟨left, hleft, iff_of_true hkept fun h => ?_⟩
    exact absurd (Cloud.tagFailure_inj.1 (Except.error.inj h)).1 (by decide)
  · rw [hrun]
    refine ⟨_, Cloud.resource?_changed_settle hdistinct hr s.id (TagWrite.id_applyTo _), ?_⟩
    by_cases hid : r.id = s.id
    · cases List.inj_on_of_nodup_map hdistinct hr hs hid
      have hnot : r.id ∉ before.map (·.id) := mt (Cloud.id_mem_iff hdistinct hbefore hr).1 hnot
      rw [if_pos rfl, Action.settled, if_neg fun h => hnot h.1]
      exact (deletion_keeps_moved_iff hmoved hkeys).trans ⟨fun h _ => h, fun h => h rfl⟩
    · rw [if_neg hid]
      refine iff_of_true (settled_keeps_moved hmoved ..) fun h => ?_
      exact absurd (Cloud.tagFailure_inj.1 (Except.error.inj h)).2.symm hid

/-- The creation fails for the second of three functions. The value of the first one was moved, the
third one still has its own, and the second one has its value under the new key, where it was
before. -/
theorem values_kept_around_failing_creation :
    let block : Json := .obj [("type", .string "rename-tag"), ("old_key", .string "env"),
      ("new_key", .string "Env")]
    let function (id : String) (tags : List String) : Resource :=
      .ofRecord (.obj [("id", .string id), ("tags", .strings tags)])
    let functions := [function "fn-1" ["env=prod", "Env=dev"],
      function "fn-2" ["env=prod", "Env=prod"], function "fn-3" ["env=prod"]]
    let cloud := (({} : Cloud).setResources .function functions).failOn "create_tags" "fn-2"
    let context : RunContext := { (default : RunContext) with resourceType := .function }
    ∃ action, ActionKind.renameTag.build block default = .ok action ∧
      block.textOption? "value" = none ∧ ((cloud.resources .function).map (·.id)).Nodup ∧
      functions ⊆ cloud.resources .function ∧
      let outcome := (action.process context functions).run cloud
      outcome.1 = .error (Cloud.tagFailure "create_tags" "fn-2") ∧
      ∀ r ∈ functions, ∃ left, outcome.2.resource? .function r.id = some left ∧
        (left.tags.get? "env" = some "prod" ∨ left.tags.get? "Env" = some "prod") := by
  intro block function functions cloud context
  have hdistinct : ((cloud.resources .function).map (·.id)).Nodup := by decide +kernel
  have hvalues : ∀ r ∈ functions, r.tags.get? "env" = some "prod" := by decide +kernel
  have hother : ∀ r ∈ functions, r.id = "fn-2" → r.tags.get? "Env" = some "prod" := by
    decide +kernel
  refine ⟨_, rfl, rfl, hdistinct, List.Subset.refl _, ?_⟩
  obtain ⟨oldKey, newKey, hold, hnew, hkept⟩ := renamed_value_kept_iff block default _ rfl rfl
    context cloud hdistinct functions (List.Subset.refl _)
  cases hold
  cases hnew
  intro outcome
  have herror : outcome.1 = .error (Cloud.tagFailure "create_tags" "fn-2") := by decide +kernel
  refine ⟨herror, fun r hr => ?_⟩
  obtain ⟨left, hleft, hiff⟩ := hkept r hr "prod" (hvalues r hr)
  refine ⟨left, hleft, hiff.2 fun h => hother r hr ?_⟩
  exact (Cloud.tagFailure_inj.1 (Except.error.inj (herror.symm.trans h))).2.symm

/-- A value is lost when its tag was deleted and the creation fails. -/
theorem value_lost_by_failing_creation :
    let block : Json := .obj [("type", .string "rename-tag"), ("old_key", .string "env"),
      ("new_key", .string "Env")]
    let function : Resource :=
      .ofRecord (.obj [("id", .string "fn-1"), ("tags", .obj [("env", .string "prod")])])
    let cloud := (({} : Cloud).setResources .function [function]).failOn "create_tags" "fn-1"
    let context : RunContext := { (default : RunContext) with resourceType := .function }
    ∃ action, ActionKind.renameTag.build block default = .ok action ∧
      block.textOption? "value" = none ∧ ((cloud.resources .function).map (·.id)).Nodup ∧
      [function] ⊆ cloud.resources .function ∧ function.tags.get? "env" = some "prod" ∧
      let outcome := (action.process context [function]).run cloud
      outcome.1 = .error (Cloud.tagFailure "create_tags" "fn-1") ∧
      ¬ ∃ left, outcome.2.resource? .function "fn-1" = some left ∧
        (left.tags.get? "env" = some "prod" ∨ left.tags.get? "Env" = some "prod") := by
  intro block function cloud context
  refine ⟨_, rfl, rfl, by decide +kernel, List.Subset.refl _, by decide +kernel, ?_⟩
  intro outcome
  have hlost : ∀ r ∈ outcome.2.resource? .function "fn-1",
      r.tags.get? "env" = none ∧ r.tags.get? "Env" = none := by decide +kernel
  refine ⟨by decide +kernel, ?_⟩
  rintro ⟨left, hleft, hkept⟩
  obtain ⟨hold, hnew⟩ := hlost left hleft
  rcases hkept with hkept | hkept
  · cases hold.symm.trans hkept
  · cases hnew.symm.trans hkept

end ActionKind

end CloudPolicy
