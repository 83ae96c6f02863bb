import Mathlib.Data.List.Nodup
import CloudPolicy.Proofs.Batching
import CloudPolicy.Proofs.Maps

/-! What the report of an attribution says. An attribution writes two tags, each to resources of its
own, and puts the results of both writes into one report: a resource that is refused in either write
has failed, and any other one is listed once as handled. A resource that is refused in both writes
is listed as failed by each of them. -/

namespace CloudPolicy

namespace Action

/-! ### The resources that tags are written to -/

/-- The resources that a tag goes to: those that it is meant for, if there is a tag to write and the
type has tags. -/
def writtenTo (type : ResourceType) (tag : Option (String × String)) (ids : List String) :
    List String :=
  if tag.isSome ∧ type.tagServiceName?.isSome then ids else []

theorem writtenTo_sublist (type : ResourceType) (tag : Option (String × String))
    (ids : List String) : (writtenTo type tag ids).Sublist ids := by
  rw [writtenTo]
  split
  next => exact .refl ids
  next => exact List.nil_sublist ids

/-! ### One tag -/

/-- The report was extended by the results for some resources, and the cloud refuses what it refused
before and fails where it failed before. -/
structure Adds (type : ResourceType) (ids : List String) (report ended : Report)
    (cloud after : Cloud) : Prop where
  succeeded : ended.succeeded = report.succeeded ++ ids.filter fun id => ¬ cloud.Refuses type id
  failed : ended.failed.map (·.id) =
    report.failed.map (·.id) ++ ids.filter fun id => cloud.Refuses type id
  refuses : after.Refuses type = cloud.Refuses type
  failures : after.failures = cloud.failures

variable {context : RunContext} {report ended : Report} {cloud after : Cloud}

/-- The write of a tag that came to its end: there was nothing to write, or the tag service wrote
the tag. -/
theorem writeAttribution_cases {ids : List String} {tag : Option (String × String)}
    (h : (writeAttribution context ids tag report).run cloud = (.ok ended, after)) :
    (writtenTo context.resourceType tag ids = [] ∧
      (tag = none ∨ context.resourceType.tagServiceName? = none) ∧
      ended.succeeded = report.succeeded ∧ ended.failed = report.failed ∧ after = cloud) ∨
    ∃ key value tagTypeName written, writtenTo context.resourceType tag ids = ids ∧
      tag = some (key, value) ∧ context.resourceType.tagServiceName? = some tagTypeName ∧
      (writeTags context autoTagName ids (.create (.ofList [(key, value)]))).run cloud =
        (.ok written, after) ∧ ended = report.merge written := by
  cases tag with
  | none =>
      cases h
      exact .inl ⟨rfl, .inl rfl, rfl, rfl, rfl⟩
  | some tag =>
      rw [writeAttribution] at h
      obtain ⟨written, middle, hwrite, hmerge⟩ := Steps.of_run_bind_eq_ok h
      cases hmerge
      cases htype : context.resourceType.tagServiceName? with
      | none =>
          rw [writeTags] at hwrite
          split at hwrite
          next => cases hwrite
          rw [htype] at hwrite
          cases hwrite
          exact .inl ⟨by simp [writtenTo, htype], .inr rfl, List.append_nil _, List.append_nil _,
            rfl⟩
      | some tagTypeName =>
          exact .inr ⟨tag.1, tag.2, tagTypeName, written, by simp [writtenTo, htype], rfl, rfl,
            hwrite, rfl⟩

theorem adds_of_writeAttribution {ids : List String} {tag : Option (String × String)}
    (h : (writeAttribution context ids tag report).run cloud = (.ok ended, after)) :
    Adds context.resourceType (writtenTo context.resourceType tag ids) report ended cloud
      after := by
  obtain ⟨hnothing, -, hsucceeded, hfailed, rfl⟩ |
    ⟨key, value, tagTypeName, written, hall, -, htype, hwrite, rfl⟩ := writeAttribution_cases h
  · rw [hnothing]
    refine ⟨?_, ?_, rfl, rfl⟩
    · rw [hsucceeded, List.filter_nil, List.append_nil]
    · rw [hfailed, List.filter_nil, List.append_nil]
  · have hsize : 0 < (TagWrite.create (.ofList [(key, value)])).size := Nat.one_pos
    obtain ⟨rfl, calls, rfl⟩ := eq_of_writeTags_eq_ok htype hsize hwrite
    rw [hall]
    refine ⟨?_, ?_, ?_, rfl⟩
    · rw [Report.merge, succeeded_writeReport]
    · rw [Report.merge, List.map_append, failed_writeReport]
    · funext id
      rw [Cloud.Refuses, Cloud.map_id_retagged]
      rfl

theorem exists_writeAttribution_eq_ok (hlimit : 0 < context.settings.maxTagsPerCall)
    (ids : List String) (tag : Option (String × String)) (report : Report)
    (hfailures : cloud.failures = []) :
    ∃ ended after, (writeAttribution context ids tag report).run cloud = (.ok ended, after) := by
  cases tag with
  | none => exact ⟨report, cloud, rfl⟩
  | some tag =>
      have hsize : (TagWrite.create (.ofList [tag])).size ≤ context.settings.maxTagsPerCall :=
        hlimit
      obtain ⟨written, after, hwrite⟩ : ∃ written after, (writeTags context autoTagName ids
          (.create (.ofList [tag]))).run cloud = (.ok written, after) :=
        exists_writeTags_eq_ok hsize ids hfailures
      exact ⟨report.merge written, after, Steps.run_bind_of_ok hwrite⟩

/-! ### Both tags -/

theorem mem_settle {id : String} :
    id ∈ (settle report).succeeded ↔ id ∈ report.succeeded ∧ id ∉ report.failed.map (·.id) := by
  have hany : (!report.failed.any (·.id = id)) = true ↔ id ∉ report.failed.map (·.id) := by
    simp
  rw [settle, List.mem_eraseDups, List.mem_filter, hany]

theorem nodup_settle (report : Report) : (settle report).succeeded.Nodup := nodup_eraseDups _

/-- The resources that the first tag of an attribution goes to. -/
def valueTargets (type : ResourceType) (options : AttributionOptions) (a : Attribution)
    (resources : List Resource) : List String :=
  writtenTo type (a.tagValue.map fun value => (options.tag, value))
    (primaryTargets options resources)

/-- The resources that the tag with the actor's identifier goes to. -/
def identifierTargets (type : ResourceType) (options : AttributionOptions) (a : Attribution)
    (resources : List Resource) : List String :=
  writtenTo type (principalTag? options a) (principalTargets options resources)

variable {options : AttributionOptions} {a : Attribution} {resources : List Resource}

theorem exists_applyAttribution_eq_ok (options : AttributionOptions) (a : Attribution)
    (resources : List Resource) (hlimit : 0 < context.settings.maxTagsPerCall)
    (hfailures : cloud.failures = []) :
    ∃ report after,
      (applyAttribution context options a resources).run cloud = (.ok report, after) := by
  obtain ⟨once, middle, hfirst⟩ := exists_writeAttribution_eq_ok hlimit
    (primaryTargets options resources) (a.tagValue.map fun value => (options.tag, value))
    { action := autoTagName } hfailures
  have hmiddle : middle.failures = [] :=
    (adds_of_writeAttribution hfirst).failures.trans hfailures
  obtain ⟨twice, after, hsecond⟩ := exists_writeAttribution_eq_ok hlimit
    (principalTargets options resources) (principalTag? options a) once hmiddle
  rw [applyAttribution]
  dsimp only
  rw [Steps.run_bind_of_ok hfirst, Steps.run_bind_of_ok hsecond]
  exact ⟨_, after, rfl⟩

/-- The failures of both writes stand one after the other, and what is handled in one write counts
unless it failed in the other. -/
theorem eq_of_applyAttribution_eq_ok
    (h : (applyAttribution context options a resources).run cloud = (.ok report, after)) :
    let type := context.resourceType
    let first := valueTargets type options a resources
    let second := identifierTargets type options a resources
    report.failed.map (·.id) = first.filter (fun id => cloud.Refuses type id) ++
        second.filter (fun id => cloud.Refuses type id) ∧
      report.succeeded.Nodup ∧
      ∀ id, id ∈ report.succeeded ↔ (id ∈ first ∨ id ∈ second) ∧ ¬ cloud.Refuses type id := by
  intro type first second
  rw [applyAttribution] at h
  obtain ⟨once, middle, hfirst, hrest⟩ := Steps.of_run_bind_eq_ok h
  obtain ⟨twice, ended, hsecond, hreport⟩ := Steps.of_run_bind_eq_ok hrest
  cases hreport
  have hadds : Adds type first { action := autoTagName } once cloud middle :=
    adds_of_writeAttribution hfirst
  have hadds' : Adds type second once twice middle after := adds_of_writeAttribution hsecond
  have hfailed : twice.failed.map (·.id) = first.filter (fun id => cloud.Refuses type id) ++
      second.filter (fun id => cloud.Refuses type id) := by
    rw [hadds'.failed, hadds.failed]
    simp only [hadds.refuses]
    rfl
  refine ⟨hfailed, nodup_settle twice, fun id => ?_⟩
  show id ∈ (settle twice).succeeded ↔ _
  rw [mem_settle, hfailed, hadds'.succeeded, hadds.succeeded]
  simp only [hadds.refuses, List.nil_append, List.mem_append, List.mem_filter, decide_eq_true_eq]
  tauto

/-- **What attributions report.** On resources with different identifiers, whatever the event, the
options and the cloud: the report of an attribution lists as handled, and once, the resources that
some tag went to and that the service does not refuse, and as failed those refused of the first
write and then those refused of the second one. So it lists a resource twice exactly when both tags
went to it and the service refuses it, and then as failed. Without failures there is a report
whenever calls may carry a tag at all. -/
theorem attribution_lists_failures_per_write (context : RunContext)
    (options : AttributionOptions) (a : Attribution) (resources : List Resource)
    (hdistinct : (resources.map (·.id)).Nodup) (cloud : Cloud) :
    let type := context.resourceType
    let first := valueTargets type options a resources
    let second := identifierTargets type options a resources
    let run := (applyAttribution context options a resources).run cloud
    (cloud.failures = [] → 0 < context.settings.maxTagsPerCall →
      ∃ report after, run = (.ok report, after)) ∧
    ∀ report after, run = (.ok report, after) →
      report.failed.map (·.id) = first.filter (fun id => cloud.Refuses type id) ++
        second.filter (fun id => cloud.Refuses type id) ∧
      report.succeeded.Nodup ∧
      (∀ id, id ∈ report.succeeded ↔ (id ∈ first ∨ id ∈ second) ∧ ¬ cloud.Refuses type id) ∧
      (∀ id, id ∈ first ∨ id ∈ second → cloud.Refuses type id →
        id ∈ report.failed.map (·.id) ∧ id ∉ report.succeeded) ∧
      ((report.succeeded ++ report.failed.map (·.id)).Nodup ↔
        ∀ id ∈ first, id ∈ second → ¬ cloud.Refuses type id) := by
  intro type first second run
  refine ⟨fun hfailures hlimit => ?_, fun report after hrun => ?_⟩
  · exact exists_applyAttribution_eq_ok options a resources hlimit hfailures
  obtain ⟨hfailed, hsucceeded, hmem⟩ := eq_of_applyAttribution_eq_ok hrun
  have hfirst : first.Nodup := hdistinct.sublist <|
    (writtenTo_sublist type _ _).trans (primaryTargets_sublist options resources)
  have hsecond : second.Nodup := hdistinct.sublist <|
    (writtenTo_sublist type _ _).trans (principalTargets_sublist options resources)
  have hfails (id : String) : id ∈ report.failed.map (·.id) ↔
      (id ∈ first ∨ id ∈ second) ∧ cloud.Refuses type id := by
    rw [hfailed, List.mem_append, List.mem_filter, List.mem_filter, decide_eq_true_eq, or_and_right]
  refine ⟨hfailed, hsucceeded, hmem, fun id hid hrefused => ?_, ?_⟩
  · exact ⟨(hfails id).2 ⟨hid, hrefused⟩, fun hhandled => ((hmem id).1 hhandled).2 hrefused⟩
  · have happart : report.succeeded.Disjoint (report.failed.map (·.id)) := by
      intro id hhandled hfailed
      exact ((hmem id).1 hhandled).2 ((hfails id).1 hfailed).2
    rw [List.nodup_append', and_iff_right hsucceeded, and_iff_left happart, hfailed,
      List.nodup_append', and_iff_right (hfirst.filter _), and_iff_right (hsecond.filter _)]
    constructor
    · intro hdisjoint id hid hid' hrefused
      exact hdisjoint (List.mem_filter.2 ⟨hid, decide_eq_true hrefused⟩)
        (List.mem_filter.2 ⟨hid', decide_eq_true hrefused⟩)
    · intro hkept id hid hid'
      obtain ⟨hid, hrefused⟩ := List.mem_filter.1 hid
      exact hkept id hid (List.mem_filter.1 hid').1 (of_decide_eq_true hrefused)

/-- A rejected function that has an owner already gets the second tag alone, and is listed once. -/
theorem rejected_once_listed_once :
    let context : RunContext := { (default : RunContext) with
      resourceType := .function, settings := {} }
    let options : AttributionOptions :=
      { tag := "Owner", principalTag := some "OwnerId", principalTarget := .all }
    let a : Attribution := ⟨some "alice", some "p-1", none⟩
    let functions : List Resource := [.ofRecord (.obj [("id", .string "fn-1")]),
      .ofRecord (.obj [("id", .string "fn-2"), ("tags", .obj [("Owner", .string "carol")])])]
    let cloud : Cloud := (({} : Cloud).setResources .function functions).rejectTags "fn-2"
    (functions.map (·.id)).Nodup ∧
      ∃ report after, (applyAttribution context options a functions).run cloud =
          (.ok report, after) ∧
        report.failed.map (·.id) = ["fn-2"] ∧
        (report.succeeded ++ report.failed.map (·.id)).Nodup := by
  intro context options a functions cloud
  have hdistinct : (functions.map (·.id)).Nodup := by decide +kernel
  obtain ⟨hreports, hlists⟩ :=
    attribution_lists_failures_per_write context options a functions hdistinct cloud
  obtain ⟨report, after, hrun⟩ := hreports rfl (by decide)
  obtain ⟨hfailed, -, -, -, hnodup⟩ := hlists report after hrun
  refine ⟨hdistinct, report, after, hrun, ?_, hnodup.2 ?_⟩
  · rw [hfailed]
    decide +kernel
  · decide +kernel

/-- A function without an owner that the service rejects fails in both writes, and is listed for
each of them. -/
theorem rejected_twice_listed_twice :
    let context : RunContext := { (default : RunContext) with
      resourceType := .function, settings := {},
      event := some { user := ⟨"IAMUser", some "alice", some "p-1"⟩, resourceIds := ["fn-1"] } }
    let options : AttributionOptions := { tag := "Owner", principalTag := some "OwnerId" }
    let functions : List Resource := [.ofRecord (.obj [("id", .string "fn-1")])]
    let cloud : Cloud := (({} : Cloud).setResources .function functions).rejectTags "fn-1"
    (functions.map (·.id)).Nodup ∧
      ∃ a report after,
        (context.event.bind fun event =>
          Attribution.ofEvent? event options.userTypes options.selector) = some a ∧
        (applyAttribution context options a functions).run cloud = (.ok report, after) ∧
        report.failed.map (·.id) = ["fn-1", "fn-1"] ∧
        ¬ (report.succeeded ++ report.failed.map (·.id)).Nodup := by
  intro context options functions cloud
  refine ⟨by decide +kernel, ⟨some "alice", some "p-1", none⟩,
    { action := "auto-tag-user",
      failed := [⟨"fn-1", "tag quota exceeded"⟩, ⟨"fn-1", "tag quota exceeded"⟩],
      tags := .ofList [("Owner", "alice"), ("OwnerId", "p-1")] }, _, by decide,
    Steps.eq_ok_of_fst (Steps.eq_ok_of_toOption (by decide +kernel)), rfl, by decide⟩

end Action

end CloudPolicy
