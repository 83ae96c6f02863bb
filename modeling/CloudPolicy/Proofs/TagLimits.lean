import Mathlib.Data.List.Perm.Subperm
import CloudPolicy.Proofs.TagWrites
import CloudPolicy.Schema.Check

/-! The limits of the tag service: how many resources one call names, and how many tags or keys it
carries. Actions reach the service in two ways. What writes the same tags to all resources cuts them
into batches and refuses too many tags; what plans a change for each resource makes one call for it
with all the tags of the plan. -/

namespace CloudPolicy

open Steps (Within)

/-- The change takes at most `n` keys or tags in each of its calls. -/
structure TagChange.AtMost (n : Nat) (change : TagChange) : Prop where
  delete : change.delete.length ≤ n
  create : change.create.size ≤ n

namespace TagRequest

/-- The request stays within the limits of the settings. -/
def Respects (settings : Settings) (request : TagRequest) : Prop :=
  request.ids.length ≤ settings.tagBatchSize ∧ request.write.size ≤ settings.maxTagsPerCall

theorem IsBatch.respects {context : RunContext} {targets : List String} {written : TagWrite}
    {request : TagRequest} (h : request.IsBatch context targets written)
    (hbatch : 1 ≤ context.settings.tagBatchSize) : request.Respects context.settings := by
  have hlength := h.length
  rw [Nat.max_eq_left hbatch] at hlength
  exact ⟨hlength, h.size⟩

/-- What is planned for a resource takes as many keys and tags as the plan says. -/
theorem IsPlanned.atMost {context : RunContext} {resources : List Resource}
    {plan : Resource → Plan} {n : Nat} {request : TagRequest}
    (h : request.IsPlanned context resources plan)
    (hplan : ∀ r change, plan r = .ok (some change) → change.AtMost n) :
    request.ids.length = 1 ∧ request.write.size ≤ n := by
  obtain ⟨r, -, hids, change, hchange, hwrite⟩ := h.planned
  obtain ⟨hdelete, hcreate⟩ := hplan r change hchange
  rcases hwrite with hwrite | hwrite
  · rw [hids, hwrite]
    exact ⟨rfl, hdelete⟩
  · rw [hids, hwrite]
    exact ⟨rfl, hcreate⟩

end TagRequest

/-! ### What requests change -/

/-- Tags differ under a few keys only: no more than `n` for each call that was added to the log. -/
def Cloud.ChangesPerCall (n : Nat) (before after : Cloud) : Prop :=
  ∃ keys : List String, keys.length + n * before.calls.length ≤ n * after.calls.length ∧
    ∀ type, ∀ key ∉ keys, after.column type key = before.column type key

theorem Cloud.ChangesPerCall.of_call {n : Nat} {before after : Cloud} (keys : List String)
    (hkeys : keys.length ≤ n) (hcalls : after.calls.length = before.calls.length + 1)
    (hsame : ∀ type, ∀ key ∉ keys, after.column type key = before.column type key) :
    ChangesPerCall n before after := by
  refine ⟨keys, ?_, hsame⟩
  rw [hcalls, Nat.mul_succ]
  omega

instance (n : Nat) : IsPreorder Cloud (Cloud.ChangesPerCall n) where
  refl := fun cloud => ⟨[], by simp, fun _ _ _ => rfl⟩
  trans := by
    rintro before middle after ⟨keys, hlength, hsame⟩ ⟨keys', hlength', hsame'⟩
    refine ⟨keys ++ keys', ?_, fun type key hkey => ?_⟩
    · rw [List.length_append]
      omega
    · obtain ⟨hkey, hkey'⟩ := not_or.1 fun h => hkey (List.mem_append.2 h)
      exact (hsame' type key hkey').trans (hsame type key hkey)

namespace TagWrite

def keys : TagWrite → List String
  | create tags => tags.keys
  | delete keys => keys

theorem length_keys (write : TagWrite) : write.keys.length = write.size := by
  cases write with
  | create tags => exact List.length_map _
  | delete keys => rfl

theorem get?_apply_of_not_mem {write : TagWrite} {key : String} (hkey : key ∉ write.keys)
    (tags : TagSet) : (write.apply tags).get? key = tags.get? key := by
  cases write with
  | create written => exact TagSet.get?_insertAll_of_not_mem hkey tags
  | delete keys => exact (get?_apply_delete keys tags key).trans (if_neg hkey)

end TagWrite

/-- One call changes tags under the keys that it carries only. -/
theorem TagRequest.call_changes {n : Nat} {request : TagRequest} (hsize : request.write.size ≤ n) :
    Within (Cloud.ChangesPerCall n) (fun _ => True) request.call where
  moves := by
    intro cloud
    rw [call, TagWrite.call_eq]
    cases htype : Cloud.tagType? request.tagTypeName with
    | none =>
        rw [Cloud.writeTags, htype]
        exact refl_of _ cloud
    | some type =>
        have hlogged (operation target : String) :
            (cloud.record "tms" operation target).calls.length = cloud.calls.length + 1 :=
          List.length_append
        rw [Cloud.run_writeTags _ (Cloud.tagServiceName?_of_tagType? htype)]
        dsimp only
        split
        next => exact .of_call [] (Nat.zero_le n) (hlogged _ _) fun _ _ _ => rfl
        next =>
          rw [← TagWrite.length_keys] at hsize
          refine .of_call _ hsize (hlogged _ _) fun other key hkey => ?_
          by_cases hother : other = type
          · subst hother
            rw [Cloud.column, Cloud.column, Cloud.resources_setResources_self]
            refine Cloud.map_retagAll (fun r => ?_) _ _ _
            rw [Resource.cell, Resource.cell, Cloud.id_retag, Cloud.tags_retag,
              TagWrite.get?_apply_of_not_mem hkey]
          · rw [Cloud.column, Cloud.column, Cloud.resources_setResources_of_ne _ hother]
            rfl
  gives := fun _ _ _ => trivial

/-! ### Plans -/

namespace Action

theorem renamePlan_atMost {oldKey newKey : String} {value : Option String} {r : Resource}
    {change : TagChange} (hplan : renamePlan oldKey newKey value r = .ok (some change)) :
    change.AtMost 1 := by
  rw [renamePlan] at hplan
  split at hplan
  next => cases hplan
  next =>
    cases hplan
    refine ⟨?_, Nat.le_refl 1⟩
    dsimp only
    split
    next => exact Nat.le_refl 1
    next => exact Nat.zero_le 1

theorem normalizePlan_atMost {key : String} {only : Option String} {rule : Normalization}
    {r : Resource} {change : TagChange}
    (hplan : normalizePlan key only rule r = .ok (some change)) : change.AtMost 1 := by
  rw [normalizePlan] at hplan
  split at hplan
  next => cases hplan
  split at hplan
  next => cases hplan
  split at hplan
  next => cases hplan
  cases hplan
  exact ⟨Nat.le_refl 1, Nat.le_refl 1⟩

/-- Trimming deletes no more tags than it has to leave free. -/
theorem trimPlan_atMost {space : Nat} (hspace : space ≤ maxResourceTags) {preserve : List String}
    {r : Resource} {change : TagChange} (hplan : trimPlan space preserve r = .ok (some change)) :
    change.AtMost space := by
  rw [trimPlan] at hplan
  dsimp only at hplan
  split at hplan
  next => cases hplan
  split at hplan
  next => cases hplan
  split at hplan
  next => cases hplan
  next hcount _ _ =>
    cases hplan
    refine ⟨Nat.le_trans (List.length_take_le _ _) ?_, Nat.zero_le _⟩
    omega

end Action

namespace ActionKind

variable {kind : ActionKind} {block : Json} {build : BuildContext} {action : Action}
  {context : RunContext}

theorem calls_of_build (hkind : kind ∈ tagging) (hother : kind ≠ trimTags)
    (hbuild : kind.build block build = .ok action) (hbatch : 1 ≤ context.settings.tagBatchSize)
    (htags : 1 ≤ context.settings.maxTagsPerCall) (resources : List Resource) :
    TagCalls (·.Respects context.settings) (action.process context resources) := by
  have hone {plan : Resource → Plan} {request : TagRequest}
      (h : request.IsPlanned context resources plan)
      (hplan : ∀ r change, plan r = .ok (some change) → change.AtMost 1) :
      request.Respects context.settings := by
    obtain ⟨hids, hsize⟩ := h.atMost hplan
    exact ⟨hids ▸ hbatch, Nat.le_trans hsize htags⟩
  cases kind with
  | tag | mark | removeTag | unmark | untag =>
      obtain ⟨write, -, rfl⟩ := exists_write_of_build (by decide) hbuild
      exact (Action.writeTags_calls ..).mono fun _ h => h.respects hbatch
  | renameTag =>
      obtain ⟨_, _, -, -, -, rfl⟩ := Action.exists_keys_of_buildRename hbuild
      exact (Action.ofPlan_calls ..).mono fun _ h => hone h fun _ _ => Action.renamePlan_atMost
  | normalizeTag =>
      obtain ⟨_, _, -, -, rfl⟩ := Action.exists_rule_of_buildNormalize hbuild
      exact (Action.ofPlan_calls ..).mono fun _ h => hone h fun _ _ => Action.normalizePlan_atMost
  | trimTags => exact absurd rfl hother
  | markForOp =>
      obtain ⟨mark, -, hbuild⟩ := Steps.of_bind_eq_ok hbuild
      cases hbuild
      refine (Action.markForOp_calls ..).mono ?_
      rintro request ⟨_, h⟩
      exact h.respects hbatch
  | autoTagUser =>
      obtain ⟨-, options, rfl⟩ := Action.of_buildAutoTag hbuild
      refine (Action.autoTag_calls ..).mono ?_
      rintro request ⟨_, _, _, h, -⟩
      exact h.respects hbatch
  | _ => exact absurd hkind (by decide)

/-- **Calls of the tag service stay within its limits, but for trimming.** Whatever an action on tags
is built from, each of its calls names no more resources than one call may name, and carries no more
tags or keys than one call may carry. Trimming alone deletes all the keys of a resource at once: a
call of it carries more only if `space` asks for more slots than that, and no more than `space`. -/
theorem tag_calls_within_limits (kind : ActionKind) (hkind : kind ∈ ActionKind.tagging)
    (block : Json) (build : BuildContext) (action : Action)
    (hbuild : kind.build block build = .ok action) (context : RunContext)
    (hbatch : 1 ≤ context.settings.tagBatchSize) (htags : 1 ≤ context.settings.maxTagsPerCall)
    (resources : List Resource) :
    TagCalls (fun request => request.ids.length ≤ context.settings.tagBatchSize ∧
        (request.write.size ≤ context.settings.maxTagsPerCall ∨
          kind = .trimTags ∧ ∃ space, (block.field? "space").bind Json.nat? = some space ∧
            context.settings.maxTagsPerCall < space ∧ request.write.size ≤ space))
      (action.process context resources) := by
  by_cases htrim : kind = trimTags
  · subst htrim
    obtain ⟨space, hfield, hmost, rfl⟩ := Action.exists_space_of_buildTrim hbuild
    refine (Action.ofPlan_calls ..).mono fun request h => ?_
    obtain ⟨hids, hsize⟩ := h.atMost fun _ _ => Action.trimPlan_atMost hmost
    refine ⟨hids ▸ hbatch, ?_⟩
    by_cases hspace : context.settings.maxTagsPerCall < space
    · exact .inr ⟨rfl, space, hfield, hspace, hsize⟩
    · exact .inl (Nat.le_trans hsize (Nat.not_lt.1 hspace))
  · refine (calls_of_build hkind htrim hbuild hbatch htags resources).mono ?_
    rintro request ⟨hids, hsize⟩
    exact ⟨hids, .inl hsize⟩

/-- Two tags are set on three functions, two of them in a call. -/
theorem two_tags_in_two_calls :
    let settings : Settings := { tagBatchSize := 2, maxTagsPerCall := 2 }
    let block : Json := .obj [("type", .string "tag"),
      ("tags", .obj [("Owner", .string "finance"), ("Env", .string "prod")])]
    let build : BuildContext := { (default : BuildContext) with settings }
    let context : RunContext := { (default : RunContext) with resourceType := .function, settings }
    let functions : List Resource := ["fn-1", "fn-2", "fn-3"].map fun id =>
      .ofRecord (.obj [("id", .string id)])
    let cloud : Cloud := ({} : Cloud).setResources .function functions
    ∃ action, ActionKind.tag.build block build = .ok action ∧
      ((action.process context functions).run cloud).2.calls.map (·.target) =
        ["fn-1,fn-2", "fn-3"] ∧
      TagCalls (fun request => request.ids.length ≤ 2 ∧ (request.write.size ≤ 2 ∨
          ActionKind.tag = .trimTags ∧ ∃ space, (block.field? "space").bind Json.nat? = some space ∧
            2 < space ∧ request.write.size ≤ space))
        (action.process context functions) := by
  intro settings block build context functions cloud
  refine ⟨_, rfl, by decide +kernel, ?_⟩
  exact tag_calls_within_limits .tag (by decide) block build _ rfl context (by decide) (by decide)
    functions

/-- Under the limits that hold by default, twenty slots are freed on a function with twenty tags by
one call, although no call may carry more than ten. -/
theorem trimming_exceeds_limit :
    let settings : Settings := {}
    let block : Json := .obj [("type", .string "tag-trim"), ("space", .nat 20)]
    let build : BuildContext :=
      { policy := "trim", resourceType := .function, mode := .pull, settings }
    let context : RunContext :=
      { policy := "trim", resourceType := .function, settings, event := none, now := default }
    let keys : List String := ["a", "b", "c", "d", "e", "f", "g", "h", "i", "j", "k", "l", "m", "n",
      "o", "p", "q", "r", "s", "t"]
    let function : Resource := .ofRecord (.obj [("id", .string "fn-1"),
      ("tags", .obj (keys.map fun key => (key, .string "x")))])
    1 ≤ settings.tagBatchSize ∧ 1 ≤ settings.maxTagsPerCall ∧
      ActionKind.trimTags ∈ ActionKind.tagging ∧
      Validation.validate ActionKind.trimTags.schema block = .ok () ∧
      ∃ action, ActionKind.trimTags.build block build = .ok action ∧
        ¬ TagCalls (·.Respects settings) (action.process context [function]) := by
  intro settings block build context keys function
  refine ⟨by decide, by decide, by decide, ?_, _, rfl, fun hcalls => ?_⟩
  · exact Steps.eq_ok_of_toOption (by decide +kernel)
  let cloud : Cloud := ({} : Cloud).setResources .function [function]
  let trim : Action := .ofPlan "tag-trim" (Action.trimPlan 20 [])
  let after : Cloud := ((trim.process context [function]).run cloud).2
  have hchanges : cloud.ChangesPerCall 10 after :=
    (hcalls.within fun _ h => TagRequest.call_changes h.2).moves cloud
  obtain ⟨changed, hlength, hsame⟩ := hchanges
  have hcall : after.calls.length = 1 := by decide +kernel
  have hlost : ∀ key ∈ keys, after.column .function key ≠ cloud.column .function key := by
    decide +kernel
  have hsubset : keys ⊆ changed := fun key hkey =>
    Decidable.byContradiction fun hnot => hlost key hkey (hsame .function key hnot)
  have hmany : keys.length ≤ changed.length :=
    (List.Nodup.subperm (by decide) hsubset).length_le
  have hfew : changed.length ≤ 10 := by
    rw [hcall] at hlength
    omega
  exact absurd (Nat.le_trans hmany hfew) (by decide)

end ActionKind

end CloudPolicy
