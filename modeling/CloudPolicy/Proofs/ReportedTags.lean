import CloudPolicy.Proofs.AttributionReports
import CloudPolicy.Proofs.TagCalls
import CloudPolicy.Proofs.TagWrites

/-! The tags that the report of an attribution names, and those that it wrote. A plain write names
its tags only when some resource took them. An attribution names every tag that it has a value for,
also when no resource was to get it or when all of them were refused; which of them it wrote is told
from its requests to the tag service and their answers. -/

namespace CloudPolicy

open Cloud (tagRefusal?)

/-! ### Requests and their answers -/

namespace TagRequest

/-- The resources of the request that the tag service refuses. -/
def refusals (cloud : Cloud) (type : ResourceType) (request : TagRequest) : List FailedResource :=
  request.ids.filterMap (tagRefusal? cloud.rejectedTagTargets (cloud.resources type))

/-- The request sets the tag on a resource that its answer does not refuse. -/
def Sets (request : TagRequest) (refused : List FailedResource) (key value : String) : Prop :=
  request.write.written.get? key = some value ∧ ∃ id ∈ request.ids, id ∉ refused.map (·.id)

theorem sets_refusals_iff {cloud : Cloud} {type : ResourceType} {request : TagRequest}
    {key value : String} : request.Sets (request.refusals cloud type) key value ↔
      request.write.written.get? key = some value ∧
        ∃ id ∈ request.ids, ¬ cloud.Refuses type id := by
  have hkept (id : String) (hid : id ∈ request.ids) :
      id ∉ (request.refusals cloud type).map (·.id) ↔ ¬ cloud.Refuses type id := by
    rw [refusals, Cloud.map_id_filterMap_tagRefusal?, List.mem_filter, decide_eq_true_eq,
      and_iff_right hid]
  rw [Sets]
  apply and_congr_right
  intro _
  exact exists_congr fun id => and_congr_right (hkept id)

/-- A run of requests is answered, request by request, with what the cloud refuses of each; what it
refuses stays the same. -/
structure Answered (type : ResourceType) (requests : List TagRequest) (cloud after : Cloud) :
    Prop where
  run : (requests.mapM call).run cloud = (.ok (requests.map (refusals cloud type)), after)
  refusals : tagRefusal? after.rejectedTagTargets (after.resources type) =
    tagRefusal? cloud.rejectedTagTargets (cloud.resources type)

namespace Answered

variable {type : ResourceType} {requests later : List TagRequest} {cloud middle after : Cloud}

theorem nothing (type : ResourceType) (cloud : Cloud) : Answered type [] cloud cloud :=
  ⟨Steps.run_mapM_nil, rfl⟩

theorem append (h : Answered type requests cloud middle) (h' : Answered type later middle after) :
    Answered type (requests ++ later) cloud after where
  run := by
    have hlater : later.map (TagRequest.refusals middle type) =
        later.map (TagRequest.refusals cloud type) := by
      apply List.map_congr_left
      intro request _
      rw [TagRequest.refusals, h.refusals]
      rfl
    rw [List.map_append, ← hlater]
    exact Steps.run_mapM_append h.run h'.run
  refusals := h'.refusals.trans h.refusals

end Answered

end TagRequest

open TagRequest (Answered)

namespace Action

variable {report ended : Report} {cloud after : Cloud}

/-- Batches are written by one request each. -/
theorem answered_of_writeBatches {type : ResourceType} {tagTypeName : String}
    (htype : type.tagServiceName? = some tagTypeName) {write : TagWrite}
    {batches : List (List String)}
    (h : (writeBatches tagTypeName write report batches).run cloud = (.ok ended, after)) :
    Answered type (batches.map fun batch => ⟨tagTypeName, batch, write⟩) cloud after := by
  induction batches generalizing report cloud with
  | nil =>
      cases h
      exact .nothing type _
  | cons batch batches ih =>
      rw [writeBatches] at h
      obtain ⟨failed, middle, hcall, hrest⟩ := Steps.of_run_bind_eq_ok h
      have hwrite := hcall
      rw [write.call_eq] at hwrite
      obtain ⟨rfl, calls, rfl⟩ := Cloud.eq_of_writeTags_eq_ok htype hwrite
      have hfirst : Answered type [⟨tagTypeName, batch, write⟩] cloud
          { cloud.retagged type write.apply batch with calls } := by
        refine ⟨Steps.run_mapM_cons hcall Steps.run_mapM_nil, ?_⟩
        exact Cloud.tagRefusal?_congr (Cloud.map_id_retagged cloud type write.apply batch)
      exact hfirst.append (ih hrest)

end Action

/-! ### What an attribution is to write -/

/-- A tag that is to be written, and the resources that it is meant for. -/
structure TagAssignment where
  key : String
  value : String
  targets : List String
  deriving DecidableEq, Repr

namespace TagAssignment

def write (a : TagAssignment) : TagWrite := .create (.ofList [(a.key, a.value)])

/-- The calls that the assignment is written by. -/
def requests (context : RunContext) (a : TagAssignment) : List TagRequest :=
  match context.resourceType.tagServiceName? with
  | none => []
  | some tagTypeName =>
    (Action.chunks (max context.settings.tagBatchSize 1) a.targets.length a.targets).map
      fun batch => ⟨tagTypeName, batch, a.write⟩

theorem get?_written_write {a : TagAssignment} {key value : String} :
    a.write.written.get? key = some value ↔ a.key = key ∧ a.value = value := by
  have hget : a.write.written.get? key = if key = a.key then some a.value else none :=
    TagWrite.get?_apply_create a.key a.value ∅ key
  rw [hget]
  grind

/-- Some call of an assignment is accepted for a resource exactly if one of the resources that the
assignment is meant for is not refused. -/
theorem exists_sets_iff {context : RunContext} {a : TagAssignment} {cloud : Cloud}
    {key value : String} :
    (∃ request ∈ a.requests context,
      request.Sets (request.refusals cloud context.resourceType) key value) ↔
      context.resourceType.tagServiceName?.isSome ∧ a.key = key ∧ a.value = value ∧
        ∃ id ∈ a.targets, ¬ cloud.Refuses context.resourceType id := by
  simp only [TagRequest.sets_refusals_iff]
  cases htype : context.resourceType.tagServiceName? with
  | none => simp [requests, htype]
  | some tagTypeName =>
      have hids (id : String) : (∃ batch ∈ Action.chunks (max context.settings.tagBatchSize 1)
          a.targets.length a.targets, id ∈ batch) ↔ id ∈ a.targets := by
        rw [← List.mem_flatten, Action.flatten_chunks (by omega) (Nat.le_refl _)]
      rw [requests, htype]
      dsimp only
      constructor
      · rintro ⟨request, hrequest, hwritten, id, hid, haccepted⟩
        obtain ⟨batch, hbatch, rfl⟩ := List.mem_map.1 hrequest
        obtain ⟨hkey, hvalue⟩ := get?_written_write.1 hwritten
        exact ⟨rfl, hkey, hvalue, id, (hids id).1 ⟨batch, hbatch, hid⟩, haccepted⟩
      · rintro ⟨-, hkey, hvalue, id, hid, haccepted⟩
        obtain ⟨batch, hbatch, hid⟩ := (hids id).2 hid
        exact ⟨_, List.mem_map_of_mem hbatch, get?_written_write.2 ⟨hkey, hvalue⟩, id, hid,
          haccepted⟩

end TagAssignment

namespace Action

/-- The assignment of a tag, if there is one. -/
def assign (tag : Option (String × String)) (targets : List String) : List TagAssignment :=
  (tag.map fun tag => ⟨tag.1, tag.2, targets⟩).toList

/-- What an attribution is to write: the value first, and then the identifier of the actor. -/
def assignments (options : AttributionOptions) (event : Option Event) (resources : List Resource) :
    List TagAssignment :=
  match event.bind fun event =>
      Attribution.ofEvent? event options.userTypes options.selector with
  | none => []
  | some a => assign (a.tagValue.map fun value => (options.tag, value))
        (primaryTargets options resources)
      ++ assign (principalTag? options a) (principalTargets options resources)

variable {context : RunContext} {report ended : Report} {cloud after : Cloud}

theorem answered_of_writeAttribution {targets : List String} {tag : Option (String × String)}
    (h : (writeAttribution context targets tag report).run cloud = (.ok ended, after)) :
    Answered context.resourceType ((assign tag targets).flatMap (·.requests context)) cloud
      after := by
  obtain ⟨-, hnothing, -, -, rfl⟩ |
    ⟨key, value, tagTypeName, written, -, rfl, htype, hwrite, -⟩ := writeAttribution_cases h
  · have hnone : (assign tag targets).flatMap (·.requests context) = [] := by
      refine List.flatMap_eq_nil_iff.2 fun a ha => ?_
      rcases hnothing with rfl | htype
      · cases ha
      · rw [TagAssignment.requests, htype]
    rw [hnone]
    exact .nothing _ _
  · show Answered _ (TagAssignment.requests context ⟨key, value, targets⟩ ++ []) cloud after
    rw [List.append_nil, TagAssignment.requests]
    rw [writeTags] at hwrite
    split at hwrite
    next => cases hwrite
    rw [htype] at hwrite ⊢
    dsimp only at hwrite ⊢
    split at hwrite
    next hnothing =>
      have hsize : (TagWrite.create (.ofList [(key, value)])).size ≠ 0 := Nat.one_ne_zero
      rw [decide_eq_false hsize, Bool.or_false, List.isEmpty_iff] at hnothing
      cases hwrite
      rw [hnothing]
      exact .nothing _ _
    next =>
      obtain ⟨batched, last, hbatches, hended⟩ := Steps.of_run_bind_eq_ok hwrite
      cases hended
      exact answered_of_writeBatches htype hbatches

/-- A plain write names its tags only when it wrote them: to one of its resources at least. -/
theorem exists_accepted_of_writeTags {action : String} {ids : List String} {write : TagWrite}
    (h : (writeTags context action ids write).run cloud = (.ok report, after))
    (hnamed : report.tags ≠ ∅) :
    report.tags = write.written ∧ ∃ id ∈ ids, ¬ cloud.Refuses context.resourceType id := by
  cases htype : context.resourceType.tagServiceName? with
  | none =>
      rw [writeTags, htype] at h
      split at h <;> cases h
      exact absurd rfl hnamed
  | some tagTypeName =>
      by_cases hsize : write.size = 0
      · rw [writeTags, htype] at h
        simp only [hsize, decide_true, Bool.or_true, if_true] at h
        split at h <;> cases h
        exact absurd rfl hnamed
      · obtain ⟨rfl, -⟩ := eq_of_writeTags_eq_ok htype (Nat.pos_of_ne_zero hsize) h
        have hsucceeded := succeeded_writeReport action write cloud context.resourceType ids
        unfold writeReport at hnamed hsucceeded ⊢
        dsimp only at hnamed hsucceeded ⊢
        split at hnamed
        next => exact absurd rfl hnamed
        next hsome =>
          rw [if_neg hsome] at hsucceeded ⊢
          dsimp only at hsucceeded
          rw [hsucceeded, List.isEmpty_iff] at hsome
          obtain ⟨id, hid⟩ := List.exists_mem_of_ne_nil _ hsome
          obtain ⟨hid, haccepted⟩ := List.mem_filter.1 hid
          exact ⟨rfl, id, hid, of_decide_eq_true haccepted⟩

variable {options : AttributionOptions} {resources : List Resource}

theorem exists_autoTag_eq_ok (options : AttributionOptions) (resources : List Resource)
    (hlimit : 0 < context.settings.maxTagsPerCall) (hfailures : cloud.failures = []) :
    ∃ report after,
      ((autoTag options).process context resources).run cloud = (.ok report, after) := by
  rw [autoTag]
  dsimp only
  split
  next => exact ⟨_, _, rfl⟩
  next a _ => exact exists_applyAttribution_eq_ok options a resources hlimit hfailures

theorem answered_of_autoTag
    (h : ((autoTag options).process context resources).run cloud = (.ok report, after)) :
    let assigned := assignments options context.event resources
    report.tags = .ofList (assigned.map fun a => (a.key, a.value)) ∧
      Answered context.resourceType (assigned.flatMap (·.requests context)) cloud after := by
  intro assigned
  have hassigned : assigned = assignments options context.event resources := rfl
  rw [autoTag] at h
  rw [assignments] at hassigned
  dsimp only at h
  split at h
  next hnone =>
    rw [hnone] at hassigned
    cases h
    rw [hassigned]
    exact ⟨rfl, .nothing _ _⟩
  next a hsome =>
    rw [hsome] at hassigned
    dsimp only at hassigned
    rw [applyAttribution] at h
    obtain ⟨once, middle, hfirst, hrest⟩ := Steps.of_run_bind_eq_ok h
    obtain ⟨twice, ended, hsecond, hreport⟩ := Steps.of_run_bind_eq_ok hrest
    cases hreport
    rw [hassigned, List.flatMap_append, List.map_append]
    refine ⟨?_, (answered_of_writeAttribution hfirst).append (answered_of_writeAttribution hsecond)⟩
    show TagSet.ofList _ = _
    congr 2
    · cases a.tagValue <;> rfl
    · cases principalTag? options a <;> rfl

/-- **Which of the named tags were written.** The report of an attribution names every tag that the
event offers a value for. Its calls are the requests of these assignments, one after the other, with
their answers; and a tag was set by one of them, on a resource that the answer does not refuse,
exactly when the tag service writes tags of the type and does not refuse all of the resources that
the tag is meant for. So a named tag that no resource was to get, or that was refused for all of
them, was not written. Without failures there is a report whenever calls may carry a tag at all. -/
theorem named_tags_written_iff (context : RunContext) (options : AttributionOptions)
    (resources : List Resource) (cloud : Cloud) :
    let type := context.resourceType
    let assigned := assignments options context.event resources
    let requests := assigned.flatMap (·.requests context)
    let run := ((autoTag options).process context resources).run cloud
    (cloud.failures = [] → 0 < context.settings.maxTagsPerCall →
      ∃ report after, run = (.ok report, after)) ∧
    ∀ report after, run = (.ok report, after) →
      report.tags = .ofList (assigned.map fun a => (a.key, a.value)) ∧
      ∃ answers, (requests.mapM TagRequest.call).run cloud = (.ok answers, after) ∧
        ∀ key value,
          (∃ exchange ∈ requests.zip answers, exchange.1.Sets exchange.2 key value) ↔
            type.tagServiceName?.isSome ∧ ∃ a ∈ assigned, a.key = key ∧ a.value = value ∧
              ∃ id ∈ a.targets, ¬ cloud.Refuses type id := by
  intro type assigned requests run
  refine ⟨fun hfailures hlimit => ?_, fun report after hrun => ?_⟩
  · exact exists_autoTag_eq_ok options resources hlimit hfailures
  obtain ⟨hnamed, hanswered⟩ := answered_of_autoTag hrun
  refine ⟨hnamed, _, hanswered.run, fun key value => ?_⟩
  have hexchanged : (∃ exchange ∈ requests.zip (requests.map (TagRequest.refusals cloud type)),
      exchange.1.Sets exchange.2 key value) ↔ ∃ a ∈ assigned, ∃ request ∈ a.requests context,
        request.Sets (request.refusals cloud type) key value := by
    rw [← List.map_prod_left_eq_zip]
    constructor
    · rintro ⟨exchange, hexchange, hsets⟩
      obtain ⟨request, hrequest, rfl⟩ := List.mem_map.1 hexchange
      obtain ⟨a, ha, hrequest⟩ := List.mem_flatMap.1 hrequest
      exact ⟨a, ha, request, hrequest, hsets⟩
    · rintro ⟨a, ha, request, hrequest, hsets⟩
      exact ⟨_, List.mem_map_of_mem (List.mem_flatMap_of_mem ha hrequest), hsets⟩
  rw [hexchanged]
  constructor
  · rintro ⟨a, ha, hsets⟩
    obtain ⟨htype, hsets⟩ := TagAssignment.exists_sets_iff.1 hsets
    exact ⟨htype, a, ha, hsets⟩
  · rintro ⟨htype, a, ha, hsets⟩
    exact ⟨a, ha, TagAssignment.exists_sets_iff.2 ⟨htype, hsets⟩⟩

/-- Of two functions, one of which the tag service rejects, the other one gets its owner, in a call
of its own. -/
theorem owner_written_to_one_of_two :
    let context : RunContext := { (default : RunContext) with
      resourceType := .function, settings := { tagBatchSize := 1 },
      event := some { user := ⟨"IAMUser", some "alice", some "p-1"⟩ } }
    let functions : List Resource := ["fn-1", "fn-2"].map fun id =>
      .ofRecord (.obj [("id", .string id)])
    let cloud : Cloud := (({} : Cloud).setResources .function functions).rejectTags "fn-1"
    let requests := (assignments { tag := "Owner" } context.event functions).flatMap
      (·.requests context)
    cloud.failures = [] ∧ requests.map (·.ids) = [["fn-1"], ["fn-2"]] ∧
      ∃ report after, ((autoTag { tag := "Owner" }).process context functions).run cloud =
          (.ok report, after) ∧
        report.tags = .ofList [("Owner", "alice")] ∧
        ∃ answers, (requests.mapM TagRequest.call).run cloud = (.ok answers, after) ∧
          ∃ exchange ∈ requests.zip answers, exchange.1.Sets exchange.2 "Owner" "alice" := by
  intro context functions cloud requests
  obtain ⟨hreports, hwritten⟩ :=
    named_tags_written_iff context { tag := "Owner" } functions cloud
  obtain ⟨report, after, hrun⟩ := hreports rfl (by decide)
  obtain ⟨hnamed, answers, hcalls, hsets⟩ := hwritten report after hrun
  refine ⟨rfl, by decide +kernel, report, after, hrun, hnamed, answers, hcalls, ?_⟩
  refine (hsets "Owner" "alice").2 ⟨rfl, ⟨"Owner", "alice", ["fn-1", "fn-2"]⟩, ?_⟩
  decide +kernel

/-- The only function has an owner already, and the tag service rejects it besides: with or without
overwriting, the report names the owner that the event offers, but the function keeps its own. In
the first case there is no call at all. -/
theorem named_owner_not_written :
    let context : RunContext := { (default : RunContext) with
      resourceType := .function, settings := {},
      event := some { user := ⟨"IAMUser", some "alice", some "p-1"⟩ } }
    let functions : List Resource :=
      [.ofRecord (.obj [("id", .string "fn-1"), ("tags", .obj [("Owner", .string "bob")])])]
    let cloud : Cloud := (({} : Cloud).setResources .function functions).rejectTags "fn-1"
    ∃ report overwriting after,
      ((autoTag { tag := "Owner" }).process context functions).run cloud = (.ok report, cloud) ∧
      report.tags.get? "Owner" = some "alice" ∧
      ((autoTag { tag := "Owner", update := true }).process context functions).run cloud =
        (.ok overwriting, after) ∧
      overwriting.tags.get? "Owner" = some "alice" ∧ overwriting.succeeded = [] ∧
      after.column .function "Owner" = [("fn-1", some "bob")] := by
  intro context functions cloud
  have hnone : primaryTargets { tag := "Owner" } functions = [] := by decide +kernel
  have hrun : ((autoTag { tag := "Owner" }).process context functions).run cloud =
      (.ok { action := "auto-tag-user", tags := .ofList [("Owner", "alice")] }, cloud) := by
    rw [autoTag]
    dsimp only
    rw [show (context.event.bind fun event => Attribution.ofEvent? event _ _) =
      some ⟨some "alice", some "p-1", none⟩ by decide]
    dsimp only
    rw [applyAttribution, hnone]
    rfl
  refine ⟨_,
    { action := "auto-tag-user",
      failed := [⟨"fn-1", "tag quota exceeded"⟩],
      tags := .ofList [("Owner", "alice")] }, _, hrun, by decide,
    Steps.eq_ok_of_fst (Steps.eq_ok_of_toOption (by decide +kernel)), by decide, rfl, ?_⟩
  decide +kernel

end Action

end CloudPolicy
