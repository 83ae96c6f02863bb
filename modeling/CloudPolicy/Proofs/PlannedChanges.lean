import CloudPolicy.Proofs.TagWrites

/-! Changes that are planned for each resource by itself. The tags of a resource are changed by two
calls, one that deletes and one that creates. So a change is carried out, it is refused by the tag
service, or it is left half done when the second call fails; and a batch is worked off up to the
first resource with a failing call. Everything that is planned is planned by the records as they
were listed, so that what a run leaves can be said record by record. -/

namespace CloudPolicy

/-! ### Changes of one record -/

namespace TagWrite

/-- What the write makes of a record. A write of nothing is left out. -/
def applyTo (write : TagWrite) (r : Resource) : Resource :=
  if write.size = 0 then r else Cloud.retag write.apply r

@[simp] theorem id_applyTo (write : TagWrite) (r : Resource) : (write.applyTo r).id = r.id := by
  rw [applyTo]
  split
  next => rfl
  next => exact Cloud.id_retag _ r

/-- A write of nothing would change no tag. -/
theorem apply_of_size_eq_zero {write : TagWrite} (hsize : write.size = 0) (tags : TagSet) :
    write.apply tags = tags := by
  refine TagSet.eq_of_get?_eq fun key => ?_
  cases write with
  | delete keys =>
      rw [get?_apply_delete, List.eq_nil_of_length_eq_zero hsize, if_neg List.not_mem_nil]
  | create written =>
      have hnone : written.get? key = none := by
        rw [TagSet.get?, StringMap.get?, List.eq_nil_of_length_eq_zero hsize]
        rfl
      rw [get?_apply_create_tags, hnone, Option.none_or]

theorem tags_applyTo (write : TagWrite) (r : Resource) :
    (write.applyTo r).tags = write.apply r.tags := by
  rw [applyTo]
  split
  next hsize => rw [apply_of_size_eq_zero hsize]
  next => exact Cloud.tags_retag _ r

end TagWrite

namespace TagChange

/-- The change asks for no call at all. -/
def isNothing (change : TagChange) : Bool := change.delete.isEmpty && change.create.isEmpty

/-- The call that deletes. -/
def deletion (change : TagChange) : TagWrite := .delete change.delete

/-- The call that creates, which comes second. -/
def creation (change : TagChange) : TagWrite := .create change.create

/-- What the change makes of the tags of a resource. -/
def apply (change : TagChange) (tags : TagSet) : TagSet :=
  change.creation.apply (change.deletion.apply tags)

/-- What the change makes of a record. -/
def applyTo (change : TagChange) (r : Resource) : Resource :=
  change.creation.applyTo (change.deletion.applyTo r)

variable (change : TagChange)

theorem isNothing_eq_true_iff :
    change.isNothing = true ↔ change.deletion.size = 0 ∧ change.creation.size = 0 := by
  rw [isNothing, Bool.and_eq_true, List.isEmpty_iff, ← List.length_eq_zero_iff]
  exact and_congr_right fun _ => List.isEmpty_iff.trans List.length_eq_zero_iff.symm

@[simp] theorem id_applyTo (r : Resource) : (change.applyTo r).id = r.id := by
  rw [applyTo, TagWrite.id_applyTo, TagWrite.id_applyTo]

theorem tags_applyTo (r : Resource) : (change.applyTo r).tags = change.apply r.tags := by
  rw [applyTo, TagWrite.tags_applyTo, TagWrite.tags_applyTo, apply]

theorem get?_apply (tags : TagSet) (key : String) : (change.apply tags).get? key =
    (change.create.get? key).or (if key ∈ change.delete then none else tags.get? key) := by
  rw [apply, creation, deletion, TagWrite.get?_apply_create_tags, TagWrite.get?_apply_delete]

theorem apply_apply (tags : TagSet) : change.apply (change.apply tags) = change.apply tags := by
  refine TagSet.eq_of_get?_eq fun key => ?_
  rw [get?_apply, get?_apply]
  cases change.create.get? key with
  | some value => rfl
  | none =>
      rw [Option.none_or, Option.none_or]
      split <;> rfl

/-- Both calls of a change write the record anew, so that the second one tells. -/
theorem applyTo_eq (r : Resource) :
    change.applyTo r = if change.isNothing then r else Cloud.retag change.apply r := by
  have hnothing := change.isNothing_eq_true_iff
  rw [applyTo, TagWrite.applyTo, TagWrite.applyTo]
  by_cases hdeletion : change.deletion.size = 0
  · by_cases hcreation : change.creation.size = 0
    · rw [if_pos hcreation, if_pos hdeletion, if_pos (hnothing.2 ⟨hdeletion, hcreation⟩)]
    · have happly : change.apply = change.creation.apply := by
        funext tags
        rw [apply, TagWrite.apply_of_size_eq_zero hdeletion]
      rw [if_neg hcreation, if_pos hdeletion, if_neg fun h => hcreation (hnothing.1 h).2, happly]
  · rw [if_neg hdeletion, if_neg fun h => hdeletion (hnothing.1 h).1]
    by_cases hcreation : change.creation.size = 0
    · have happly : change.apply = change.deletion.apply := by
        funext tags
        rw [apply, TagWrite.apply_of_size_eq_zero hcreation]
      rw [if_pos hcreation, happly]
    · rw [if_neg hcreation, Cloud.retag_retag]
      rfl

/-- A change that is carried out once more makes no difference. -/
theorem applyTo_applyTo (r : Resource) : change.applyTo (change.applyTo r) = change.applyTo r := by
  rw [applyTo_eq, applyTo_eq]
  split
  next => rfl
  next =>
    rw [Cloud.retag_retag]
    exact congrArg (Cloud.retag · r) (funext change.apply_apply)

end TagChange

/-! ### Carrying out one change -/

namespace Cloud

/-- The cloud in which the records of a type with an identifier were changed. -/
def changed (cloud : Cloud) (type : ResourceType) (id : String) (g : Resource → Resource) : Cloud :=
  cloud.setResources type ((cloud.resources type).map fun r => if r.id = id then g r else r)

/-- The error of a call of the tag service for a resource that was made to fail. -/
def tagFailure (operation id : String) : Error :=
  .serviceCall "tms" operation ("injected failure for '" ++ id ++ "'")

theorem tagFailure_inj {operation operation' id id' : String} :
    tagFailure operation id = tagFailure operation' id' ↔ operation = operation' ∧ id = id' := by
  rw [tagFailure, tagFailure, Error.serviceCall.injEq]
  simp

variable {type : ResourceType} {tagTypeName id : String} {cloud : Cloud} {write : TagWrite}

/-- A record is found by its identifier after all records were changed. -/
theorem resource?_map {g : Resource → Resource} (hg : ∀ r, (g r).id = r.id)
    (hdistinct : ((cloud.resources type).map (·.id)).Nodup) {r : Resource}
    (hr : r ∈ cloud.resources type) :
    (cloud.setResources type ((cloud.resources type).map g)).resource? type r.id = some (g r) := by
  have hids : ((cloud.resources type).map g).map (·.id) = (cloud.resources type).map (·.id) := by
    rw [List.map_map]
    exact List.map_congr_left fun r _ => hg r
  rw [resource?, resources_setResources_self, ← hg r]
  exact find?_id (hids ▸ hdistinct) (List.mem_map_of_mem hr)

theorem run_call (htype : type.tagServiceName? = some tagTypeName)
    (hstored : id ∈ (cloud.resources type).map (·.id))
    (hdistinct : ((cloud.resources type).map (·.id)).Nodup) :
    (write.call tagTypeName [id]).run cloud =
      if cloud.isFailing write.operation id then
        (.error (tagFailure write.operation id), cloud.record "tms" write.operation id)
      else if id ∈ cloud.rejectedTagTargets then
        (.ok [⟨id, "tag quota exceeded"⟩], cloud.record "tms" write.operation id)
      else (.ok [], (cloud.record "tms" write.operation id).changed type id
        (retag write.apply)) := by
  have hfound : ((cloud.resources type).any fun r => r.id = id) = true := by
    obtain ⟨r, hr, hid⟩ := List.mem_map.1 hstored
    exact List.any_eq_true.2 ⟨r, hr, decide_eq_true hid⟩
  have htarget : Text.join "," [id] = id := String.intercalate_singleton
  rw [write.call_eq, run_writeTags _ htype]
  simp only [htarget, retagAll, hfound, if_true]
  split
  next => rfl
  next =>
    split
    next => exact congrArg (Prod.mk _) (setResources_self (cloud.record _ _ _) type)
    next =>
      rw [updateFirst_eq_map id hdistinct]
      rfl

theorem map_id_changed {g : Resource → Resource} (hg : ∀ r, (g r).id = r.id) :
    ((cloud.changed type id g).resources type).map (·.id) = (cloud.resources type).map (·.id) := by
  rw [changed, resources_setResources_self, List.map_map]
  refine List.map_congr_left fun r _ => ?_
  show (if r.id = id then g r else r).id = r.id
  split
  next => exact hg r
  next => rfl

theorem changed_changed {g : Resource → Resource} (hg : ∀ r, (g r).id = r.id)
    (h : Resource → Resource) :
    (cloud.changed type id g).changed type id h = cloud.changed type id fun r => h (g r) := by
  rw [changed, changed, resources_setResources_self, setResources_setResources, List.map_map,
    changed]
  refine congrArg (cloud.setResources type) (List.map_congr_left fun r _ => ?_)
  show (if (if r.id = id then g r else r).id = id then _ else _) = _
  by_cases hid : r.id = id
  · simp only [hid, if_true, hg]
  · simp only [hid, if_false]

/-- A change that leaves the records. -/
theorem changed_of_forall {g : Resource → Resource} (hg : ∀ r, g r = r) :
    cloud.changed type id g = cloud := by
  have hrecords : ((cloud.resources type).map fun r => if r.id = id then g r else r) =
      cloud.resources type := by
    refine (List.map_congr_left fun r _ => ?_).trans (List.map_id _)
    rw [hg, ite_self]
    rfl
  rw [changed, hrecords, setResources_self]

end Cloud

/-- The call that the write takes for a resource is made and was made to fail. -/
def TagWrite.Fails (write : TagWrite) (cloud : Cloud) (id : String) : Prop :=
  write.size ≠ 0 ∧ cloud.isFailing write.operation id = true

theorem TagWrite.not_fails_of_no_failures {cloud : Cloud} (hfailures : cloud.failures = [])
    (write : TagWrite) (id : String) : ¬ write.Fails cloud id := by
  rintro ⟨-, hfails⟩
  rw [Cloud.isFailing, hfailures] at hfails
  simp at hfails

/-- Carrying out the change for a resource ends in a call that was made to fail: the deletion, or
the creation, which is not reached when the tag service refuses the deletion. -/
def TagChange.Fails (change : TagChange) (cloud : Cloud) (id : String) : Prop :=
  change.deletion.Fails cloud id ∨
    change.creation.Fails cloud id ∧ (change.deletion.size = 0 ∨ id ∉ cloud.rejectedTagTargets)

theorem TagChange.not_fails_of_no_failures {cloud : Cloud} (hfailures : cloud.failures = [])
    (change : TagChange) (id : String) : ¬ change.Fails cloud id := fun h =>
  h.elim (TagWrite.not_fails_of_no_failures hfailures _ id) fun h =>
    TagWrite.not_fails_of_no_failures hfailures _ id h.1

namespace Action

open Cloud (tagFailure)

/-- A call for one resource, unless there is nothing to write, and what it refuses. -/
def callFor (tagTypeName id : String) (write : TagWrite) : CloudM (Option Step) :=
  if write.size = 0 then pure none else refusal? <$> write.call tagTypeName [id]

theorem carryOut_eq (tagTypeName id : String) (change : TagChange) :
    carryOut tagTypeName id change = (do
      match ← callFor tagTypeName id change.deletion with
      | some step => return step
      | none => (·.getD .done) <$> callFor tagTypeName id change.creation) := by
  have hdeletion : (change.deletion.size = 0) = (change.delete.isEmpty = true) :=
    propext (List.length_eq_zero_iff.trans List.isEmpty_iff.symm)
  have hcreation : (change.creation.size = 0) = (change.create.isEmpty = true) :=
    propext (List.length_eq_zero_iff.trans List.isEmpty_iff.symm)
  have hsecond : (·.getD .done) <$> callFor tagTypeName id change.creation =
      if change.create.isEmpty then pure Step.done
      else do
        return (refusal? (← Cloud.createTags tagTypeName [id] change.create)).getD .done := by
    simp only [callFor, hcreation]
    split
    next => rfl
    next => simp only [map_eq_pure_bind, bind_assoc, pure_bind]; rfl
  rw [hsecond, carryOut, callFor]
  simp only [hdeletion]
  split
  next => exact (pure_bind ..).trans (pure_bind ..).symm
  next => simp only [map_eq_pure_bind, bind_assoc, pure_bind]; rfl

section

variable {type : ResourceType} {tagTypeName id : String} {cloud : Cloud} {write : TagWrite}
  {change : TagChange} (htype : type.tagServiceName? = some tagTypeName)
  (hstored : id ∈ (cloud.resources type).map (·.id))
  (hdistinct : ((cloud.resources type).map (·.id)).Nodup)

include htype hstored hdistinct

theorem run_callFor_of_fails (hfails : write.Fails cloud id) : ∃ calls,
    (callFor tagTypeName id write).run cloud =
      (.error (tagFailure write.operation id), { cloud with calls }) := by
  obtain ⟨hsize, hfails⟩ := hfails
  refine ⟨(cloud.record "tms" write.operation id).calls, ?_⟩
  rw [callFor, if_neg hsize, Steps.run_map, Cloud.run_call htype hstored hdistinct, if_pos hfails]
  rfl

theorem run_callFor_of_rejected (hworks : ¬ write.Fails cloud id)
    (hrejected : id ∈ cloud.rejectedTagTargets) : ∃ calls,
    (callFor tagTypeName id write).run cloud =
      (.ok (if write.size = 0 then none else some (.refused "tag quota exceeded")),
        { cloud with calls }) := by
  by_cases hsize : write.size = 0
  · rw [callFor, if_pos hsize, if_pos hsize]
    exact ⟨cloud.calls, rfl⟩
  · have hworks : ¬ cloud.isFailing write.operation id = true := fun h => hworks ⟨hsize, h⟩
    refine ⟨(cloud.record "tms" write.operation id).calls, ?_⟩
    rw [callFor, if_neg hsize, if_neg hsize, Steps.run_map,
      Cloud.run_call htype hstored hdistinct, if_neg hworks, if_pos hrejected]
    rfl

theorem run_callFor_of_written (hworks : ¬ write.Fails cloud id)
    (hwritten : write.size = 0 ∨ id ∉ cloud.rejectedTagTargets) : ∃ calls,
    (callFor tagTypeName id write).run cloud =
      (.ok none, { cloud.changed type id write.applyTo with calls }) := by
  by_cases hsize : write.size = 0
  · have hsame : cloud.changed type id write.applyTo = cloud :=
      Cloud.changed_of_forall fun r => if_pos hsize
    rw [callFor, if_pos hsize, hsame]
    exact ⟨cloud.calls, rfl⟩
  · have hworks : ¬ cloud.isFailing write.operation id = true := fun h => hworks ⟨hsize, h⟩
    have hwrite : write.applyTo = Cloud.retag write.apply := funext fun r => if_neg hsize
    refine ⟨(cloud.record "tms" write.operation id).calls, ?_⟩
    rw [callFor, if_neg hsize, Steps.run_map, Cloud.run_call htype hstored hdistinct,
      if_neg hworks, if_neg (hwritten.resolve_left hsize), hwrite]
    rfl

/-! ### Carrying out a change

It ends at a deletion that was made to fail, after the deletion at a creation that was made to fail,
or else with the change made or refused. -/

theorem run_carryOut_of_failing_deletion (hfails : change.deletion.Fails cloud id) : ∃ calls,
    (carryOut tagTypeName id change).run cloud =
      (.error (tagFailure "delete_tags" id), { cloud with calls }) := by
  obtain ⟨calls, hcall⟩ := run_callFor_of_fails htype hstored hdistinct hfails
  refine ⟨calls, ?_⟩
  rw [carryOut_eq, Steps.run_bind_of_error hcall]
  rfl

theorem run_carryOut_of_written (hworks : ¬ change.deletion.Fails cloud id)
    (hwritten : change.deletion.size = 0 ∨ id ∉ cloud.rejectedTagTargets) : ∃ calls,
    (carryOut tagTypeName id change).run cloud =
      ((·.getD .done) <$> callFor tagTypeName id change.creation).run
        { cloud.changed type id change.deletion.applyTo with calls } := by
  obtain ⟨calls, hcall⟩ := run_callFor_of_written htype hstored hdistinct hworks hwritten
  refine ⟨calls, ?_⟩
  rw [carryOut_eq, Steps.run_bind_of_ok hcall]

omit htype in
theorem stored_changed (calls : List ServiceCall) (write : TagWrite) :
    let deleted : Cloud := { cloud.changed type id write.applyTo with calls }
    id ∈ (deleted.resources type).map (·.id) ∧ ((deleted.resources type).map (·.id)).Nodup := by
  have hids : ((cloud.changed type id write.applyTo).resources type).map (·.id) =
      (cloud.resources type).map (·.id) := Cloud.map_id_changed write.id_applyTo
  exact ⟨hids.symm ▸ hstored, hids.symm ▸ hdistinct⟩

theorem run_carryOut_of_failing_creation (hworks : ¬ change.deletion.Fails cloud id)
    (hfails : change.creation.Fails cloud id)
    (hwritten : change.deletion.size = 0 ∨ id ∉ cloud.rejectedTagTargets) : ∃ calls,
    (carryOut tagTypeName id change).run cloud =
      (.error (tagFailure "create_tags" id),
        { cloud.changed type id change.deletion.applyTo with calls }) := by
  obtain ⟨calls, hfirst⟩ := run_carryOut_of_written htype hstored hdistinct hworks hwritten
  obtain ⟨hid, hids⟩ := stored_changed hstored hdistinct calls change.deletion
  obtain ⟨later, hsecond⟩ := run_callFor_of_fails htype hid hids hfails
  refine ⟨later, ?_⟩
  rw [hfirst, Steps.run_map, hsecond]
  rfl

theorem run_carryOut_of_accepted (hworks : ¬ change.Fails cloud id)
    (haccepted : id ∉ cloud.rejectedTagTargets) : ∃ calls,
    (carryOut tagTypeName id change).run cloud =
      (.ok .done, { cloud.changed type id change.applyTo with calls }) := by
  obtain ⟨hdeletes, hcreates⟩ := not_or.1 hworks
  have hcreates : ¬ change.creation.Fails cloud id := fun h => hcreates ⟨h, .inr haccepted⟩
  obtain ⟨calls, hfirst⟩ :=
    run_carryOut_of_written htype hstored hdistinct hdeletes (.inr haccepted)
  obtain ⟨hid, hids⟩ := stored_changed hstored hdistinct calls change.deletion
  obtain ⟨later, hsecond⟩ := run_callFor_of_written htype hid hids hcreates (.inr haccepted)
  have hboth : (cloud.changed type id change.deletion.applyTo).changed type id
      change.creation.applyTo = cloud.changed type id change.applyTo :=
    Cloud.changed_changed change.deletion.id_applyTo _
  refine ⟨later, ?_⟩
  rw [hfirst, Steps.run_map, hsecond, ← hboth]
  rfl

theorem run_carryOut_of_rejected (hworks : ¬ change.Fails cloud id)
    (hrejected : id ∈ cloud.rejectedTagTargets) : ∃ calls,
    (carryOut tagTypeName id change).run cloud =
      (.ok (if change.isNothing then .done else .refused "tag quota exceeded"),
        { cloud with calls }) := by
  obtain ⟨hdeletes, hcreates⟩ := not_or.1 hworks
  have hnothing := change.isNothing_eq_true_iff
  obtain ⟨calls, hfirst⟩ := run_callFor_of_rejected htype hstored hdistinct hdeletes hrejected
  rw [carryOut_eq, Steps.run_bind_of_ok hfirst]
  by_cases hdeletion : change.deletion.size = 0
  · have hcreates : ¬ change.creation.Fails cloud id := fun h => hcreates ⟨h, .inl hdeletion⟩
    let current : Cloud := { cloud with calls }
    have hstored : id ∈ (current.resources type).map (·.id) := hstored
    obtain ⟨later, hsecond⟩ := run_callFor_of_rejected htype hstored hdistinct hcreates hrejected
    refine ⟨later, ?_⟩
    rw [if_pos hdeletion]
    refine (Steps.run_map ..).trans ?_
    rw [hsecond]
    by_cases hcreation : change.creation.size = 0
    · rw [if_pos hcreation, if_pos (hnothing.2 ⟨hdeletion, hcreation⟩)]
      rfl
    · rw [if_neg hcreation, if_neg fun h => hcreation (hnothing.1 h).2]
      rfl
  · rw [if_neg hdeletion, if_neg fun h => hdeletion (hnothing.1 h).1]
    exact ⟨calls, rfl⟩

end

end Action

/-! ### Following plans -/

namespace Plan

/-- The change that is planned, if any. -/
def change : Plan → TagChange
  | .ok (some change) => change
  | _ => {}

/-- A plan that fails is a change. -/
theorem eq_of_fails {plan : Plan} {cloud : Cloud} {id : String}
    (hfails : plan.change.Fails cloud id) : plan = .ok (some plan.change) := by
  have hnothing : ¬ TagChange.Fails {} cloud id := by
    rintro (h | h)
    · exact absurd rfl h.1
    · exact absurd rfl h.1.1
  rcases plan with reason | _ | change
  · exact absurd hfails hnothing
  · exact absurd hfails hnothing
  · rfl

/-- What is reported of a resource whose plan is followed without a failing call. -/
def verdict (rejected : Bool) : Plan → Step
  | .ok (some change) =>
    if rejected && !change.isNothing then .refused "tag quota exceeded" else .done
  | .ok none => .skipped
  | .error reason => .refused reason

/-- A change that is planned asks for a call. -/
def Calls (plan : Plan) : Prop := ∀ change, plan = .ok (some change) → change.isNothing = false

theorem Calls.verdict_eq_done_iff {plan : Plan} (hcalls : plan.Calls) {rejected : Bool} :
    plan.verdict rejected = .done ↔ rejected = false ∧ ∃ change, plan = .ok (some change) := by
  rcases plan with reason | _ | change
  · exact iff_of_false nofun nofun
  · exact iff_of_false nofun nofun
  · rw [verdict, hcalls change rfl]
    cases rejected <;> simp

theorem Calls.verdict_eq_refused_iff {plan : Plan} (hcalls : plan.Calls) {rejected : Bool} :
    (∃ reason, plan.verdict rejected = .refused reason) ↔
      (∃ reason, plan = .error reason) ∨ rejected = true ∧ ∃ change, plan = .ok (some change) := by
  rcases plan with reason | _ | change
  · exact iff_of_true ⟨reason, rfl⟩ (.inl ⟨reason, rfl⟩)
  · exact iff_of_false nofun nofun
  · rw [verdict, hcalls change rfl]
    cases rejected <;> simp

end Plan

/-- What becomes of a stored record when the plans of the resources with the identifiers `ids` are
followed. -/
def Action.settled (plan : Resource → Plan) (rejected ids : List String) (r : Resource) :
    Resource :=
  if r.id ∈ ids ∧ r.id ∉ rejected then (plan r).change.applyTo r else r

namespace Cloud

open CloudPolicy.Action (settled)

/-- The cloud after following the plans of the resources with the identifiers `ids`. -/
def settle (cloud : Cloud) (type : ResourceType) (plan : Resource → Plan) (ids : List String) :
    Cloud :=
  cloud.setResources type
    ((cloud.resources type).map (settled plan cloud.rejectedTagTargets ids))

variable {type : ResourceType} {cloud : Cloud} {plan : Resource → Plan} {ids : List String}
  {r : Resource}

@[simp] theorem id_settled (plan : Resource → Plan) (rejected ids : List String) (r : Resource) :
    (settled plan rejected ids r).id = r.id := by
  rw [settled]
  split
  next => exact TagChange.id_applyTo _ r
  next => rfl

theorem map_id_settle (cloud : Cloud) (type : ResourceType) (plan : Resource → Plan)
    (ids : List String) :
    ((cloud.settle type plan ids).resources type).map (·.id) =
      (cloud.resources type).map (·.id) := by
  rw [settle, resources_setResources_self, List.map_map]
  exact List.map_congr_left fun r _ => id_settled ..

/-- The record is still stored, and only once, when plans were followed. -/
theorem stored_settle (plan : Resource → Plan)
    (hdistinct : ((cloud.resources type).map (·.id)).Nodup) (hr : r ∈ cloud.resources type)
    (ids : List String) (calls : List ServiceCall) :
    let current : Cloud := { cloud.settle type plan ids with calls }
    r.id ∈ (current.resources type).map (·.id) ∧ ((current.resources type).map (·.id)).Nodup := by
  have hids := map_id_settle cloud type plan ids
  exact ⟨hids.symm ▸ List.mem_map_of_mem hr, hids.symm ▸ hdistinct⟩

theorem resource?_settle (hdistinct : ((cloud.resources type).map (·.id)).Nodup)
    (hr : r ∈ cloud.resources type) : (cloud.settle type plan ids).resource? type r.id =
      some (settled plan cloud.rejectedTagTargets ids r) :=
  resource?_map (id_settled plan _ ids) hdistinct hr

/-- The stored record after one record was changed on top of the plans that were followed. -/
theorem resource?_changed_settle (hdistinct : ((cloud.resources type).map (·.id)).Nodup)
    (hr : r ∈ cloud.resources type) (id : String) {g : Resource → Resource}
    (hg : ∀ r, (g r).id = r.id) :
    ((cloud.settle type plan ids).changed type id g).resource? type r.id =
      some (if r.id = id then g (settled plan cloud.rejectedTagTargets ids r)
        else settled plan cloud.rejectedTagTargets ids r) := by
  have hmem : settled plan cloud.rejectedTagTargets ids r ∈
      (cloud.settle type plan ids).resources type := by
    rw [settle, resources_setResources_self]
    exact List.mem_map_of_mem hr
  have hgiven (s : Resource) : (if s.id = id then g s else s).id = s.id := by
    split
    next => exact hg s
    next => rfl
  have hfound := resource?_map hgiven ((map_id_settle cloud type plan ids).symm ▸ hdistinct) hmem
  rwa [id_settled] at hfound

theorem settle_nil : cloud.settle type plan [] = cloud := by
  have hsame : (cloud.resources type).map (settled plan cloud.rejectedTagTargets []) =
      cloud.resources type :=
    (List.map_congr_left fun r _ => if_neg fun h => List.not_mem_nil h.1).trans (List.map_id _)
  rw [settle, hsame, setResources_self]

/-- The plan of a resource that is rejected, or that needs no change, leaves the records. -/
theorem settle_concat_of_unchanged (hdistinct : ((cloud.resources type).map (·.id)).Nodup)
    (hr : r ∈ cloud.resources type)
    (hsame : r.id ∈ cloud.rejectedTagTargets ∨ (plan r).change.applyTo r = r) :
    cloud.settle type plan (ids ++ [r.id]) = cloud.settle type plan ids := by
  refine congrArg (cloud.setResources type) (List.map_congr_left fun s hs => ?_)
  rw [settled, settled]
  by_cases hid : s.id = r.id
  · cases List.inj_on_of_nodup_map hdistinct hs hr hid
    rcases hsame with hrejected | hsame
    · rw [if_neg fun h => h.2 hrejected, if_neg fun h => h.2 hrejected]
    · rw [hsame, ite_self, ite_self]
  · refine if_congr ?_ rfl rfl
    rw [List.mem_append, List.mem_singleton, or_iff_left hid]

/-- The plan of one more resource, which may have had its turn before. -/
theorem changed_settle (hdistinct : ((cloud.resources type).map (·.id)).Nodup)
    (hr : r ∈ cloud.resources type) (haccepted : r.id ∉ cloud.rejectedTagTargets) :
    (cloud.settle type plan ids).changed type r.id (plan r).change.applyTo =
      cloud.settle type plan (ids ++ [r.id]) := by
  rw [changed, settle, resources_setResources_self, setResources_setResources, List.map_map]
  refine congrArg (cloud.setResources type) (List.map_congr_left fun s hs => ?_)
  show (if (settled _ _ ids s).id = r.id then _ else settled _ _ ids s) = settled _ _ _ s
  rw [id_settled, settled, settled]
  by_cases hid : s.id = r.id
  · cases List.inj_on_of_nodup_map hdistinct hs hr hid
    have hnow : r.id ∈ ids ++ [r.id] := List.mem_append_right ids List.mem_cons_self
    rw [if_pos rfl, if_pos (c := r.id ∈ ids ++ [r.id] ∧ _) ⟨hnow, haccepted⟩]
    split
    next => exact TagChange.applyTo_applyTo _ r
    next => rfl
  · rw [if_neg hid]
    refine if_congr ?_ rfl rfl
    rw [List.mem_append, List.mem_singleton, or_iff_left hid]

end Cloud

/-- Why a resource was refused, if it was. -/
def Step.reason? : Step → Option String
  | refused reason => some reason
  | _ => none

/-- The report with the results for more resources. -/
def Report.addAll (verdict : Resource → Step) (report : Report) (resources : List Resource) :
    Report :=
  resources.foldl (fun report r => report.add r.id (verdict r)) report

section

variable {verdict : Resource → Step} {report : Report} {resources : List Resource} {id : String}

theorem Report.succeeded_addAll : (report.addAll verdict resources).succeeded =
    report.succeeded ++ (resources.filter (verdict · = .done)).map (·.id) := by
  induction resources generalizing report with
  | nil => exact (List.append_nil _).symm
  | cons r rest ih =>
      rw [addAll, List.foldl_cons, ← addAll, ih]
      cases hverdict : verdict r <;> simp [add, success, failure, hverdict]

theorem Report.failed_addAll : (report.addAll verdict resources).failed =
    report.failed ++ resources.filterMap fun r => (verdict r).reason?.map (⟨r.id, ·⟩) := by
  induction resources generalizing report with
  | nil => exact (List.append_nil _).symm
  | cons r rest ih =>
      rw [addAll, List.foldl_cons, ← addAll, ih]
      cases hverdict : verdict r <;> simp [add, success, failure, Step.reason?, hverdict]

theorem Report.mem_succeeded_addAll : id ∈ (report.addAll verdict resources).succeeded ↔
    id ∈ report.succeeded ∨ ∃ r ∈ resources, r.id = id ∧ verdict r = .done := by
  rw [succeeded_addAll]
  simp [and_assoc, and_comm (a := verdict _ = _)]

theorem Report.mem_failed_addAll : id ∈ (report.addAll verdict resources).failed.map (·.id) ↔
    id ∈ report.failed.map (·.id) ∨ ∃ r ∈ resources, r.id = id ∧ ∃ reason,
      verdict r = .refused reason := by
  have hreason (r : Resource) (failure : FailedResource) :
      (verdict r).reason?.map (⟨r.id, ·⟩) = some failure ↔
        r.id = failure.id ∧ verdict r = .refused failure.reason := by
    obtain ⟨id, reason⟩ := failure
    cases verdict r <;> simp [Step.reason?]
  rw [failed_addAll]
  simp only [List.map_append, List.mem_append, List.mem_map, List.mem_filterMap, hreason]
  refine or_congr_right ⟨?_, ?_⟩
  · rintro ⟨failure, ⟨r, hr, hid, hverdict⟩, rfl⟩
    exact ⟨r, hr, hid, _, hverdict⟩
  · rintro ⟨r, hr, rfl, reason, hverdict⟩
    exact ⟨⟨r.id, reason⟩, ⟨r, hr, rfl, hverdict⟩, rfl⟩

end

namespace Action

open Cloud (tagFailure)

theorem run_eachWith_append {step : Unit → Resource → CloudM (Step × Unit)}
    {before later : List Resource} {report middle : Report} {start reached : Cloud}
    (hbefore : (eachWith step () report before).run start = (.ok middle, reached)) :
    (eachWith step () report (before ++ later)).run start =
      (eachWith step () middle later).run reached := by
  induction before generalizing report start with
  | nil =>
      cases hbefore
      rfl
  | cons r before ih =>
      obtain ⟨⟨result, _⟩, next, hfirst, hrest⟩ := Steps.of_run_bind_eq_ok hbefore
      rw [List.cons_append, eachWith, Steps.run_bind_of_ok hfirst]
      exact ih hrest

variable {type : ResourceType} {tagTypeName : String} {cloud : Cloud} {plan : Resource → Plan}

/-- A change that ends in an error ends the action. -/
theorem run_followAll_of_error {before later : List Resource} {r : Resource}
    {report middle : Report} {start reached ended : Cloud} {change : TagChange} {e : Error}
    (hbefore : (eachWith (fun _ r => return (← follow tagTypeName plan r, ())) () report
      before).run start = (.ok middle, reached))
    (hplan : plan r = .ok (some change))
    (hrun : (carryOut tagTypeName r.id change).run reached = (.error e, ended)) :
    (eachWith (fun _ r => return (← follow tagTypeName plan r, ())) () report
      (before ++ r :: later)).run start = (.error e, ended) := by
  have hfollow : (follow tagTypeName plan r).run reached = (.error e, ended) := by
    rw [follow, hplan]
    exact hrun
  have hstep : (do return (← follow tagTypeName plan r, ()) : CloudM (Step × Unit)).run reached =
      (.error e, ended) := Steps.run_bind_of_error hfollow
  rw [run_eachWith_append hbefore, eachWith]
  exact Steps.run_bind_of_error hstep

variable (htype : type.tagServiceName? = some tagTypeName)
  (hdistinct : ((cloud.resources type).map (·.id)).Nodup)

include htype hdistinct

/-- Where no call fails the plan of a resource is followed, whichever came before it. -/
theorem run_follow_of_works {r : Resource} (hr : r ∈ cloud.resources type)
    (hworks : ¬ (plan r).change.Fails cloud r.id) (ids : List String) (calls : List ServiceCall) :
    ∃ later, (follow tagTypeName plan r).run { cloud.settle type plan ids with calls } =
      (.ok ((plan r).verdict (r.id ∈ cloud.rejectedTagTargets)),
        { cloud.settle type plan (ids ++ [r.id]) with calls := later }) := by
  obtain ⟨hstored, hnodup⟩ := Cloud.stored_settle plan hdistinct hr ids calls
  have hnothing : (plan r).change = {} →
      cloud.settle type plan (ids ++ [r.id]) = cloud.settle type plan ids := fun hchange =>
    Cloud.settle_concat_of_unchanged hdistinct hr (.inr (by rw [hchange]; rfl))
  rw [follow]
  rcases hplan : plan r with reason | change | change
  · refine ⟨calls, ?_⟩
    rw [hnothing (by rw [hplan]; rfl)]
    rfl
  · refine ⟨calls, ?_⟩
    rw [hnothing (by rw [hplan]; rfl)]
    rfl
  · have hchange : (plan r).change = change := by rw [hplan]; rfl
    rw [hchange] at hworks
    by_cases hrejected : r.id ∈ cloud.rejectedTagTargets
    · obtain ⟨later, hrun⟩ := run_carryOut_of_rejected htype hstored hnodup
        hworks hrejected
      refine ⟨later, ?_⟩
      rw [Cloud.settle_concat_of_unchanged hdistinct hr (.inl hrejected)]
      refine hrun.trans ?_
      rw [Plan.verdict, decide_eq_true hrejected]
      cases change.isNothing <;> rfl
    · obtain ⟨later, hrun⟩ := run_carryOut_of_accepted htype hstored hnodup
        hworks hrejected
      refine ⟨later, hrun.trans ?_⟩
      rw [← Cloud.changed_settle hdistinct hr hrejected, hchange, Plan.verdict,
        decide_eq_false hrejected]
      rfl

/-- Resources without a failing call are all seen to. -/
theorem run_followAll_of_works {resources : List Resource}
    (hresources : resources ⊆ cloud.resources type)
    (hworks : ∀ r ∈ resources, ¬ (plan r).change.Fails cloud r.id) (ids : List String)
    (report : Report) (calls : List ServiceCall) :
    ∃ later, (eachWith (fun _ r => return (← follow tagTypeName plan r, ())) () report
        resources).run { cloud.settle type plan ids with calls } =
      (.ok (report.addAll (fun r => (plan r).verdict (r.id ∈ cloud.rejectedTagTargets)) resources),
        { cloud.settle type plan (ids ++ resources.map (·.id)) with calls := later }) := by
  induction resources generalizing ids report calls with
  | nil => exact ⟨calls, by rw [List.map_nil, List.append_nil]; rfl⟩
  | cons r rest ih =>
      obtain ⟨hr, hrest⟩ := List.cons_subset.1 hresources
      obtain ⟨hfirst, hothers⟩ := List.forall_mem_cons.1 hworks
      obtain ⟨middle, hrun⟩ := run_follow_of_works htype hdistinct hr hfirst ids calls
      obtain ⟨later, hloop⟩ := ih hrest hothers (ids ++ [r.id])
        (report.add r.id ((plan r).verdict (r.id ∈ cloud.rejectedTagTargets))) middle
      refine ⟨later, ?_⟩
      rw [List.append_assoc] at hloop
      have hstep : (do return (← follow tagTypeName plan r, ()) : CloudM (Step × Unit)).run
          { cloud.settle type plan ids with calls } = _ := Steps.run_bind_of_ok hrun
      rw [eachWith, Steps.run_bind_of_ok hstep]
      exact hloop

/-- A resource with a failing call ends the action: at its deletion, which leaves what the resources
before it have come to, or at its creation, which leaves its own tags deleted as well. -/
theorem run_followAll_of_fails {before later : List Resource} {r : Resource}
    (hresources : before ++ r :: later ⊆ cloud.resources type)
    (hworks : ∀ s ∈ before, ¬ (plan s).change.Fails cloud s.id)
    (hfails : (plan r).change.Fails cloud r.id) (report : Report) :
    ∃ calls,
      let run := (eachWith (fun _ r => return (← follow tagTypeName plan r, ())) () report
        (before ++ r :: later)).run cloud
      let reached := cloud.settle type plan (before.map (·.id))
      (plan r).change.deletion.Fails cloud r.id ∧
          run = (.error (tagFailure "delete_tags" r.id), { reached with calls }) ∨
        (plan r).change.creation.Fails cloud r.id ∧
          run = (.error (tagFailure "create_tags" r.id),
            { reached.changed type r.id (plan r).change.deletion.applyTo with calls }) := by
  obtain ⟨hbefore, hrest⟩ := List.append_subset.1 hresources
  have hr : r ∈ cloud.resources type := hrest List.mem_cons_self
  obtain ⟨reachedCalls, hreached⟩ :=
    run_followAll_of_works htype hdistinct hbefore hworks [] report cloud.calls
  rw [Cloud.settle_nil, List.nil_append] at hreached
  obtain ⟨hstored, hnodup⟩ :=
    Cloud.stored_settle plan hdistinct hr (before.map (·.id)) reachedCalls
  have hplan := Plan.eq_of_fails hfails
  by_cases hdeletes : (plan r).change.deletion.Fails cloud r.id
  · obtain ⟨calls, hrun⟩ := run_carryOut_of_failing_deletion htype hstored hnodup hdeletes
    exact ⟨calls, .inl ⟨hdeletes, run_followAll_of_error hreached hplan hrun⟩⟩
  · obtain ⟨hcreates, hwritten⟩ := hfails.resolve_left hdeletes
    obtain ⟨calls, hrun⟩ :=
      run_carryOut_of_failing_creation htype hstored hnodup hdeletes hcreates hwritten
    exact ⟨calls, .inr ⟨hcreates, run_followAll_of_error hreached hplan hrun⟩⟩

end Action

/-! ### Batches -/

/-- The resources of a batch whose tags can be written: none if the type of the policy has no
tags. -/
def RunContext.taggable (context : RunContext) (batch : List Resource) : List Resource :=
  if context.resourceType.isTaggable then batch else []

namespace RunContext

variable {context : RunContext} {batch : List Resource} {r : Resource}

theorem mem_taggable :
    r ∈ context.taggable batch ↔ context.resourceType.isTaggable = true ∧ r ∈ batch := by
  rw [taggable]
  split
  next htype => exact (and_iff_right htype).symm
  next htype => exact iff_of_false List.not_mem_nil fun h => htype h.1

theorem taggable_subset (context : RunContext) (batch : List Resource) :
    context.taggable batch ⊆ batch := fun _ hr => (mem_taggable.1 hr).2

end RunContext

/-- A record is found in a part of the listing by its identifier. -/
theorem Cloud.exists_named_iff {cloud : Cloud} {type : ResourceType} {batch : List Resource}
    {r : Resource} (hdistinct : ((cloud.resources type).map (·.id)).Nodup)
    (hbatch : batch ⊆ cloud.resources type) (hr : r ∈ cloud.resources type)
    (p : Resource → Prop) : (∃ s ∈ batch, s.id = r.id ∧ p s) ↔ r ∈ batch ∧ p r := by
  constructor
  · rintro ⟨s, hs, hid, hp⟩
    cases List.inj_on_of_nodup_map hdistinct (hbatch hs) hr hid
    exact ⟨hs, hp⟩
  · rintro ⟨hmem, hp⟩
    exact ⟨r, hmem, rfl, hp⟩

theorem Cloud.id_mem_iff {cloud : Cloud} {type : ResourceType} {batch : List Resource}
    {r : Resource} (hdistinct : ((cloud.resources type).map (·.id)).Nodup)
    (hbatch : batch ⊆ cloud.resources type) (hr : r ∈ cloud.resources type) :
    r.id ∈ batch.map (·.id) ↔ r ∈ batch := by
  have hnamed := Cloud.exists_named_iff hdistinct hbatch hr fun _ => True
  simpa only [and_true, ← List.mem_map] using hnamed

namespace Action

open Cloud (tagFailure)

variable {name : String} {plan : Resource → Plan} {context : RunContext} {cloud : Cloud}
  {batch : List Resource}

theorem process_ofPlan {tagTypeName : String}
    (htype : context.resourceType.tagServiceName? = some tagTypeName) :
    (ofPlan name plan).process context batch =
      eachWith (fun _ r => return (← follow tagTypeName plan r, ())) () { action := name }
        batch := by
  rw [ofPlan]
  dsimp only
  rw [htype]
  rfl

theorem process_ofPlan_of_untaggable (htype : ¬ context.resourceType.isTaggable = true) :
    (ofPlan name plan).process context batch = pure { action := name } := by
  have hnone : context.resourceType.tagServiceName? = none :=
    Option.not_isSome_iff_eq_none.1 htype
  rw [ofPlan]
  dsimp only
  rw [hnone]

variable (name : String) (plan : Resource → Plan)
  (hdistinct : ((cloud.resources context.resourceType).map (·.id)).Nodup)
  (hbatch : batch ⊆ cloud.resources context.resourceType)

include hdistinct hbatch

/-- Where no call fails every plan is followed, if the type has tags. -/
theorem run_ofPlan_of_works
    (hworks : ∀ r ∈ context.taggable batch, ¬ (plan r).change.Fails cloud r.id) : ∃ calls,
    ((ofPlan name plan).process context batch).run cloud =
      (.ok (({ action := name } : Report).addAll
          (fun r => (plan r).verdict (r.id ∈ cloud.rejectedTagTargets)) (context.taggable batch)),
        { cloud.settle context.resourceType plan ((context.taggable batch).map (·.id)) with
          calls }) := by
  by_cases htype : context.resourceType.isTaggable = true
  · obtain ⟨tagTypeName, hname⟩ := Option.isSome_iff_exists.1 htype
    rw [RunContext.taggable, if_pos htype] at hworks ⊢
    obtain ⟨calls, hrun⟩ := run_followAll_of_works hname hdistinct hbatch hworks []
      { action := name } cloud.calls
    rw [Cloud.settle_nil, List.nil_append] at hrun
    rw [process_ofPlan hname]
    exact ⟨calls, hrun⟩
  · rw [RunContext.taggable, if_neg htype, List.map_nil, Cloud.settle_nil,
      process_ofPlan_of_untaggable htype]
    exact ⟨cloud.calls, rfl⟩

/-- Every plan is followed, or the first resource with a failing call ends the action. -/
theorem run_ofPlan_cases :
    let run := ((ofPlan name plan).process context batch).run cloud
    (∃ report calls, run = (.ok report,
        { cloud.settle context.resourceType plan ((context.taggable batch).map (·.id)) with
          calls })) ∨
      ∃ before ⊆ cloud.resources context.resourceType, ∃ r ∈ cloud.resources context.resourceType,
        r ∉ before ∧ ∃ calls,
          let reached := cloud.settle context.resourceType plan (before.map (·.id))
          run = (.error (tagFailure "delete_tags" r.id), { reached with calls }) ∨
            run = (.error (tagFailure "create_tags" r.id),
              { reached.changed context.resourceType r.id (plan r).change.deletion.applyTo with
                calls }) := by
  classical
  by_cases hworks : ∀ r ∈ context.taggable batch, ¬ (plan r).change.Fails cloud r.id
  · obtain ⟨calls, hrun⟩ := run_ofPlan_of_works name plan hdistinct hbatch hworks
    exact .inl ⟨_, calls, hrun⟩
  right
  have hsome :
      ((context.taggable batch).find? fun r => (plan r).change.Fails cloud r.id).isSome := by
    rw [List.find?_isSome]
    simpa using hworks
  obtain ⟨r, hr⟩ := Option.isSome_iff_exists.1 hsome
  obtain ⟨hfails, before, later, hsplit, hbefore⟩ := List.find?_eq_some_iff_append.1 hr
  have hfails : (plan r).change.Fails cloud r.id := of_decide_eq_true hfails
  have hbefore : ∀ s ∈ before, ¬ (plan s).change.Fails cloud s.id := by simpa using hbefore
  have htype : context.resourceType.isTaggable = true :=
    (RunContext.mem_taggable.1 (List.mem_of_find?_eq_some hr)).1
  obtain ⟨tagTypeName, hname⟩ := Option.isSome_iff_exists.1 htype
  rw [RunContext.taggable, if_pos htype] at hsplit
  subst hsplit
  obtain ⟨calls, hrun⟩ :=
    run_followAll_of_fails hname hdistinct hbatch hbefore hfails { action := name }
  rw [← process_ofPlan hname] at hrun
  obtain ⟨hfirst, hrest⟩ := List.append_subset.1 hbatch
  refine ⟨before, hfirst, r, hrest List.mem_cons_self, fun h => hbefore r h hfails, calls, ?_⟩
  exact hrun.imp And.right And.right

/-- What is reported of the stored records where no call fails, and what becomes of them. -/
theorem run_ofPlan_records (hcalls : ∀ r, (plan r).Calls)
    (hworks : ∀ r ∈ batch, ¬ (plan r).change.Fails cloud r.id) :
    ∃ report left calls,
      ((ofPlan name plan).process context batch).run cloud =
        (.ok report, { cloud.setResources context.resourceType
          ((cloud.resources context.resourceType).map left) with calls }) ∧
      ∀ r ∈ cloud.resources context.resourceType,
        (r.id ∈ report.succeeded ↔ r ∈ context.taggable batch ∧
          r.id ∉ cloud.rejectedTagTargets ∧ ∃ change, plan r = .ok (some change)) ∧
        (r.id ∈ report.failed.map (·.id) ↔ r ∈ context.taggable batch ∧
          ((∃ reason, plan r = .error reason) ∨
            r.id ∈ cloud.rejectedTagTargets ∧ ∃ change, plan r = .ok (some change))) ∧
        (r.id ∈ report.succeeded → ∀ change, plan r = .ok (some change) →
          left r = Cloud.retag change.apply r) ∧
        (r.id ∉ report.succeeded ∨ r.id ∈ report.failed.map (·.id) → left r = r) := by
  obtain ⟨calls, hrun⟩ := run_ofPlan_of_works name plan hdistinct hbatch
    fun r hr => hworks r (context.taggable_subset batch hr)
  have hhandled : context.taggable batch ⊆ cloud.resources context.resourceType :=
    List.Subset.trans (context.taggable_subset batch) hbatch
  let report := ({ action := name } : Report).addAll
    (fun r => (plan r).verdict (r.id ∈ cloud.rejectedTagTargets)) (context.taggable batch)
  refine ⟨report, _, calls, hrun, fun r hr => ?_⟩
  have hmem := Cloud.id_mem_iff hdistinct hhandled hr
  have hsucceeded : r.id ∈ report.succeeded ↔ r ∈ context.taggable batch ∧
      r.id ∉ cloud.rejectedTagTargets ∧ ∃ change, plan r = .ok (some change) := by
    rw [Report.mem_succeeded_addAll, Cloud.exists_named_iff hdistinct hhandled hr,
      (hcalls r).verdict_eq_done_iff, decide_eq_false_iff_not]
    exact or_iff_right List.not_mem_nil
  have hfailed : r.id ∈ report.failed.map (·.id) ↔ r ∈ context.taggable batch ∧
      ((∃ reason, plan r = .error reason) ∨
        r.id ∈ cloud.rejectedTagTargets ∧ ∃ change, plan r = .ok (some change)) := by
    rw [Report.mem_failed_addAll, Cloud.exists_named_iff hdistinct hhandled hr,
      (hcalls r).verdict_eq_refused_iff, decide_eq_true_iff]
    exact or_iff_right List.not_mem_nil
  refine ⟨hsucceeded, hfailed, fun h change hchange => ?_, fun h => ?_⟩
  · obtain ⟨hlisted, haccepted, -⟩ := hsucceeded.1 h
    rw [settled, if_pos ⟨hmem.2 hlisted, haccepted⟩, hchange, Plan.change, TagChange.applyTo_eq,
      hcalls r change hchange]
    rfl
  · rw [settled]
    split
    next hhandled =>
      have hnone : ¬ ∃ change, plan r = .ok (some change) := by
        intro hchange
        rcases h with hnot | hfail
        · exact hnot (hsucceeded.2 ⟨hmem.1 hhandled.1, hhandled.2, hchange⟩)
        · rcases (hfailed.1 hfail).2 with ⟨reason, hreason⟩ | ⟨hrejected, -⟩
          · obtain ⟨change, hchange⟩ := hchange
            cases hreason.symm.trans hchange
          · exact hhandled.2 hrejected
      rcases hplan : plan r with reason | _ | change
      · rfl
      · rfl
      · exact absurd ⟨change, hplan⟩ hnone
    next => rfl

end Action

end CloudPolicy
