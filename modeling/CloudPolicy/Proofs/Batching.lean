import CloudPolicy.Proofs.ActionEffects

/-! Writing tags in batches. The places at which a list of resources is cut decide which calls the
tag service gets and nothing else. A write that comes to its end judges each of its resources by the
cloud that it found, whatever it has written since, so that its report and the records that it
leaves are those of a single batch. -/

namespace CloudPolicy

namespace TagWrite

/-- The name of the operation of the tag service. -/
def operation : TagWrite → String
  | create _ => "create_tags"
  | delete _ => "delete_tags"

/-- What the write makes of the tags of a resource. -/
def apply : TagWrite → TagSet → TagSet
  | create tags => fun current => current.insertAll tags.toList
  | delete keys => fun current => current.filterKeys fun key => key ∉ keys

theorem call_eq (write : TagWrite) (tagTypeName : String) (ids : List String) :
    write.call tagTypeName ids =
      Cloud.writeTags write.operation tagTypeName ids write.apply := by
  cases write <;> rfl

end TagWrite

/-! ### What the tag service refuses -/

namespace Cloud

/-- How a resource is reported whose tags the service does not write, by the rejected identifiers
and the stored records. -/
def tagRefusal? (rejected : List String) (stored : List Resource) (id : String) :
    Option FailedResource :=
  if id ∈ rejected then some ⟨id, "tag quota exceeded"⟩
  else if id ∈ stored.map (·.id) then none
  else some ⟨id, "resource not found"⟩

variable {rejected ids : List String} {stored : List Resource} {f : TagSet → TagSet}
  {type : ResourceType} {cloud : Cloud}

theorem tagRefusal?_eq_none_iff {id : String} :
    tagRefusal? rejected stored id = none ↔ id ∉ rejected ∧ id ∈ stored.map (·.id) := by
  unfold tagRefusal?
  split_ifs with hrejected hstored <;> simp [*]

/-- The tag service does not write the tags of a resource: it rejects or does not know it. -/
def Refuses (cloud : Cloud) (type : ResourceType) (id : String) : Prop :=
  id ∈ cloud.rejectedTagTargets ∨ id ∉ (cloud.resources type).map (·.id)

instance (cloud : Cloud) (type : ResourceType) : DecidablePred (cloud.Refuses type) :=
  fun _ => inferInstanceAs (Decidable (_ ∨ _))

theorem tagRefusal?_eq_none_iff_not_refuses {id : String} :
    tagRefusal? cloud.rejectedTagTargets (cloud.resources type) id = none ↔
      ¬ cloud.Refuses type id := by
  rw [tagRefusal?_eq_none_iff, Refuses, not_or, not_not]

theorem id_of_tagRefusal? {id : String} {failure : FailedResource}
    (h : tagRefusal? rejected stored id = some failure) : failure.id = id := by
  unfold tagRefusal? at h
  split_ifs at h <;> cases h <;> rfl

/-- Those that are refused of a batch are reported in the order of the batch. -/
theorem map_id_filterMap_tagRefusal? (cloud : Cloud) (type : ResourceType) (ids : List String) :
    (ids.filterMap (tagRefusal? cloud.rejectedTagTargets (cloud.resources type))).map (·.id) =
      ids.filter fun id => cloud.Refuses type id := by
  rw [List.map_filterMap, ← List.filterMap_eq_filter]
  refine List.filterMap_congr fun id _ => ?_
  cases hrefused : tagRefusal? cloud.rejectedTagTargets (cloud.resources type) id with
  | none =>
      have hwritten := tagRefusal?_eq_none_iff_not_refuses.1 hrefused
      simp [Option.guard, hwritten]
  | some failure =>
      have hrefuses : cloud.Refuses type id := by
        by_contra hwritten
        rw [tagRefusal?_eq_none_iff_not_refuses.2 hwritten] at hrefused
        cases hrefused
      simp [Option.guard, hrefuses, id_of_tagRefusal? hrefused]

/-- Which resources are refused depends on the identifiers of the records alone. -/
theorem tagRefusal?_congr {other : List Resource} (h : other.map (·.id) = stored.map (·.id)) :
    tagRefusal? rejected other = tagRefusal? rejected stored := by
  funext id
  rw [tagRefusal?, tagRefusal?, h]

theorem map_id_retagAll (f : TagSet → TagSet) (rejected ids : List String)
    (stored : List Resource) :
    (retagAll f rejected ids stored).2.map (·.id) = stored.map (·.id) :=
  map_retagAll (fun r => id_retag f r) rejected ids stored

/-- Writing to one resource has no bearing on whether a later one is refused. -/
theorem fst_retagAll (f : TagSet → TagSet) (rejected ids : List String) (stored : List Resource) :
    (retagAll f rejected ids stored).1 = ids.filterMap (tagRefusal? rejected stored) := by
  have hany (id : String) (stored : List Resource) :
      (stored.any fun r => r.id = id) = true ↔ id ∈ stored.map (·.id) := by
    simp only [List.any_eq_true, decide_eq_true_eq, List.mem_map]
  induction ids generalizing stored with
  | nil => rfl
  | cons id ids ih =>
      rw [retagAll]
      split
      next hrejected =>
        have hrefused : tagRefusal? rejected stored id = some ⟨id, "tag quota exceeded"⟩ :=
          if_pos hrejected
        rw [List.filterMap_cons_some hrefused, ← ih stored]
      next hrejected =>
        split
        next hstored =>
          have hwritten : tagRefusal? rejected stored id = none :=
            tagRefusal?_eq_none_iff.2 ⟨hrejected, (hany id stored).1 hstored⟩
          have hids : (updateFirst (·.id = id) (retag f) stored).map (·.id) =
            stored.map (·.id) := map_updateFirst (fun r _ => id_retag f r) stored
          rw [List.filterMap_cons_none hwritten, ih, tagRefusal?_congr hids]
        next hmissing =>
          have hrefused : tagRefusal? rejected stored id = some ⟨id, "resource not found"⟩ := by
            rw [tagRefusal?, if_neg hrejected, if_neg fun hid => hmissing ((hany id stored).2 hid)]
          rw [List.filterMap_cons_some hrefused, ← ih stored]

theorem snd_retagAll_append (ids later : List String) (stored : List Resource) :
    (retagAll f rejected (ids ++ later) stored).2 =
      (retagAll f rejected later (retagAll f rejected ids stored).2).2 := by
  induction ids generalizing stored with
  | nil => rfl
  | cons id ids ih =>
      rw [List.cons_append, retagAll, retagAll]
      split
      next => exact ih stored
      next =>
        split
        next => exact ih _
        next => exact ih stored

/-- The cloud with the tags of some resources of a type rewritten. -/
def retagged (cloud : Cloud) (type : ResourceType) (f : TagSet → TagSet) (ids : List String) :
    Cloud :=
  cloud.setResources type (retagAll f cloud.rejectedTagTargets ids (cloud.resources type)).2

theorem retagged_nil (cloud : Cloud) (type : ResourceType) (f : TagSet → TagSet) :
    cloud.retagged type f [] = cloud := setResources_self cloud type

theorem map_id_retagged (cloud : Cloud) (type : ResourceType) (f : TagSet → TagSet)
    (ids : List String) :
    ((cloud.retagged type f ids).resources type).map (·.id) =
      (cloud.resources type).map (·.id) := by
  rw [retagged, resources_setResources_self, map_id_retagAll]

theorem retagged_append (cloud : Cloud) (type : ResourceType) (f : TagSet → TagSet)
    (ids later : List String) :
    cloud.retagged type f (ids ++ later) = (cloud.retagged type f ids).retagged type f later := by
  rw [retagged, snd_retagAll_append, retagged, retagged, resources_setResources_self,
    setResources_setResources]
  rfl

theorem run_writeTags (operation : String) {tagTypeName : String}
    (htype : type.tagServiceName? = some tagTypeName) (ids : List String) (f : TagSet → TagSet)
    (cloud : Cloud) :
    (writeTags operation tagTypeName ids f).run cloud =
      let target := Text.join "," ids
      let logged := cloud.record "tms" operation target
      let (failed, stored) := retagAll f cloud.rejectedTagTargets ids (cloud.resources type)
      if cloud.isFailing operation target then
        (.error (.serviceCall "tms" operation ("injected failure for '" ++ target ++ "'")), logged)
      else (.ok failed, logged.setResources type stored) := by
  rw [writeTags, tagType?_of_tagServiceName? htype, run_enter_bind]
  split
  next hfails => simp only [hfails, if_true]
  next hworks =>
    simp only [hworks]
    rfl

/-- A call to the tag service that comes to its end reports what is refused of its batch. -/
theorem eq_of_writeTags_eq_ok {operation tagTypeName : String}
    (htype : type.tagServiceName? = some tagTypeName) {failed : List FailedResource} {after : Cloud}
    (h : (writeTags operation tagTypeName ids f).run cloud = (.ok failed, after)) :
    failed = ids.filterMap (tagRefusal? cloud.rejectedTagTargets (cloud.resources type)) ∧
      ∃ calls, after = { cloud.retagged type f ids with calls } := by
  rw [run_writeTags operation htype] at h
  dsimp only at h
  split at h
  next => cases h
  next =>
    cases h
    exact ⟨fst_retagAll f _ ids _, _, rfl⟩

theorem exists_writeTags_eq_ok {operation tagTypeName : String}
    (htype : type.tagServiceName? = some tagTypeName) (ids : List String) (f : TagSet → TagSet)
    {cloud : Cloud} (hfailures : cloud.failures = []) :
    ∃ failed after, (writeTags operation tagTypeName ids f).run cloud = (.ok failed, after) ∧
      after.failures = [] := by
  have hworks : cloud.isFailing operation (Text.join "," ids) = false := by
    simp [isFailing, hfailures]
  have hrun := run_writeTags operation htype ids f cloud
  simp only [hworks, Bool.false_eq_true, if_false] at hrun
  exact ⟨_, _, hrun, hfailures⟩

end Cloud

/-! ### Reports -/

open Cloud (tagRefusal?)

/-- The report with more resources, each refused with its reason or handled. -/
def Report.judge (report : Report) (refusal? : String → Option FailedResource)
    (ids : List String) : Report :=
  { report with
    succeeded := report.succeeded ++ ids.filter fun id => (refusal? id).isNone
    failed := report.failed ++ ids.filterMap refusal? }

namespace Report

variable {refusal? : String → Option FailedResource}

theorem judge_nil (report : Report) (refusal? : String → Option FailedResource) :
    report.judge refusal? [] = report := by
  rw [judge, List.filter_nil, List.filterMap_nil, List.append_nil, List.append_nil]

theorem judge_append (report : Report) (refusal? : String → Option FailedResource)
    (ids later : List String) :
    report.judge refusal? (ids ++ later) = (report.judge refusal? ids).judge refusal? later := by
  simp only [judge, List.filter_append, List.filterMap_append, List.append_assoc]

/-- The failures of the others in its batch do not tell on a resource. -/
theorem find?_filterMap (hid : ∀ {id failure}, refusal? id = some failure → failure.id = id)
    {ids : List String} {id : String} (hmem : id ∈ ids) :
    (ids.filterMap refusal?).find? (·.id = id) = refusal? id := by
  induction ids with
  | nil => cases hmem
  | cons first ids ih =>
      cases hfirst : refusal? first with
      | none =>
          rw [List.filterMap_cons_none hfirst]
          rcases List.mem_cons.1 hmem with rfl | hmem
          · rw [hfirst]
            refine List.find?_eq_none.2 fun failure hfailure heq => ?_
            obtain ⟨other, -, hother⟩ := List.mem_filterMap.1 hfailure
            have heq : other = id := (hid hother).symm.trans (of_decide_eq_true heq)
            rw [heq, hfirst] at hother
            cases hother
          · exact ih hmem
      | some failure =>
          rw [List.filterMap_cons_some hfirst]
          by_cases heq : first = id
          · rw [← heq, hfirst, List.find?_cons_of_pos]
            exact decide_eq_true (hid hfirst)
          · rw [List.find?_cons_of_neg, ih (List.mem_of_ne_of_mem (Ne.symm heq) hmem)]
            rw [hid hfirst, decide_eq_true_eq]
            exact heq

end Report

namespace Action

variable {type : ResourceType} {tagTypeName : String} {cloud after : Cloud}

theorem flatten_chunks {α : Type} {n : Nat} (hn : 0 < n) {fuel : Nat} {xs : List α}
    (hfuel : xs.length ≤ fuel) : (chunks n fuel xs).flatten = xs := by
  induction fuel generalizing xs with
  | zero =>
      rw [List.eq_nil_of_length_eq_zero (Nat.le_zero.1 hfuel)]
      rfl
  | succ fuel ih =>
      cases xs with
      | nil => rfl
      | cons x xs =>
          have hshorter : ((x :: xs).drop n).length ≤ fuel := by
            rw [List.length_drop]
            rw [List.length_cons] at hfuel ⊢
            omega
          rw [chunks, List.flatten_cons, ih hshorter, List.take_append_drop]

/-- One result after the other is added. -/
theorem reportBatch_eq {refusal? : String → Option FailedResource} {failed : List FailedResource}
    {batch : List String} (hfound : ∀ id ∈ batch, failed.find? (·.id = id) = refusal? id)
    (hid : ∀ {id failure}, refusal? id = some failure → failure.id = id) (report : Report) :
    reportBatch report failed batch = report.judge refusal? batch := by
  induction batch generalizing report with
  | nil => exact (report.judge_nil refusal?).symm
  | cons id batch ih =>
      obtain ⟨hfirst, hrest⟩ := List.forall_mem_cons.1 hfound
      rw [← List.singleton_append, Report.judge_append, ← ih hrest]
      rw [reportBatch, List.singleton_append, List.foldl_cons, hfirst, reportBatch]
      congr 1
      cases hrefused : refusal? id with
      | none => simp [Report.judge, Report.success, hrefused]
      | some failure =>
          have hfailure : (⟨id, failure.reason⟩ : FailedResource) = failure := by
            rw [← hid hrefused]
          simp [Report.judge, Report.failure, hrefused, hfailure]

/-- Batches that are written one after the other come to the same as a single one. -/
theorem eq_of_writeBatches_eq_ok (htype : type.tagServiceName? = some tagTypeName)
    {write : TagWrite} {batches : List (List String)} {report ended : Report}
    (h : (writeBatches tagTypeName write report batches).run cloud = (.ok ended, after)) :
    ended = report.judge (tagRefusal? cloud.rejectedTagTargets (cloud.resources type))
        batches.flatten ∧
      ∃ calls, after = { cloud.retagged type write.apply batches.flatten with calls } := by
  induction batches generalizing report cloud with
  | nil =>
      cases h
      rw [List.flatten_nil, Report.judge_nil, Cloud.retagged_nil]
      exact ⟨rfl, _, rfl⟩
  | cons batch batches ih =>
      rw [writeBatches] at h
      obtain ⟨failed, middle, hcall, hrest⟩ := Steps.of_run_bind_eq_ok h
      rw [write.call_eq] at hcall
      obtain ⟨rfl, calls, rfl⟩ := Cloud.eq_of_writeTags_eq_ok htype hcall
      obtain ⟨hended, later, hafter⟩ := ih hrest
      have hrefusals : tagRefusal? cloud.rejectedTagTargets
          ((cloud.retagged type write.apply batch).resources type) =
          tagRefusal? cloud.rejectedTagTargets (cloud.resources type) :=
        Cloud.tagRefusal?_congr (Cloud.map_id_retagged cloud type write.apply batch)
      rw [List.flatten_cons, Report.judge_append, Cloud.retagged_append]
      refine ⟨?_, later, hafter⟩
      rw [hended, reportBatch_eq (fun id hid => Report.find?_filterMap Cloud.id_of_tagRefusal? hid)
        Cloud.id_of_tagRefusal?]
      exact congrArg (Report.judge _ · _) hrefusals

theorem exists_writeBatches_eq_ok {tagTypeName : String}
    (htype : type.tagServiceName? = some tagTypeName) (write : TagWrite)
    (batches : List (List String)) (report : Report) {cloud : Cloud}
    (hfailures : cloud.failures = []) :
    ∃ ended after,
      (writeBatches tagTypeName write report batches).run cloud = (.ok ended, after) := by
  induction batches generalizing report cloud with
  | nil => exact ⟨_, _, rfl⟩
  | cons batch batches ih =>
      obtain ⟨failed, middle, hcall, hmiddle⟩ :=
        Cloud.exists_writeTags_eq_ok htype batch write.apply hfailures
      rw [← write.call_eq] at hcall
      rw [writeBatches, Steps.run_bind_of_ok hcall]
      exact ih _ hmiddle

/-! ### Whole writes -/

/-- The report of a write to resources of a type. -/
def writeReport (action : String) (write : TagWrite) (cloud : Cloud) (type : ResourceType)
    (ids : List String) : Report :=
  let report := ({ action } : Report).judge
    (tagRefusal? cloud.rejectedTagTargets (cloud.resources type)) ids
  if report.succeeded.isEmpty then report else { report with tags := write.written }

theorem succeeded_writeReport (action : String) (write : TagWrite) (cloud : Cloud)
    (type : ResourceType) (ids : List String) :
    (writeReport action write cloud type ids).succeeded =
      ids.filter fun id => ¬ cloud.Refuses type id := by
  have hjudged : (writeReport action write cloud type ids).succeeded = ids.filter fun id =>
      (tagRefusal? cloud.rejectedTagTargets (cloud.resources type) id).isNone := by
    unfold writeReport
    dsimp only
    split <;> rfl
  rw [hjudged]
  refine List.filter_congr fun id _ => ?_
  rw [Bool.eq_iff_iff, Option.isNone_iff_eq_none, Cloud.tagRefusal?_eq_none_iff_not_refuses,
    decide_eq_true_eq]

theorem failed_writeReport (action : String) (write : TagWrite) (cloud : Cloud)
    (type : ResourceType) (ids : List String) :
    (writeReport action write cloud type ids).failed.map (·.id) =
      ids.filter fun id => cloud.Refuses type id := by
  have hjudged : (writeReport action write cloud type ids).failed =
      ids.filterMap (tagRefusal? cloud.rejectedTagTargets (cloud.resources type)) := by
    unfold writeReport
    dsimp only
    split <;> rfl
  rw [hjudged, Cloud.map_id_filterMap_tagRefusal?]

/-- A write that comes to its end, on a type with tags, did to all of its resources what a single
call would have done. -/
theorem eq_of_writeTags_eq_ok {context : RunContext} {action : String}
    (htype : context.resourceType.tagServiceName? = some tagTypeName) {write : TagWrite}
    (hsize : 0 < write.size) {ids : List String} {report : Report}
    (h : (writeTags context action ids write).run cloud = (.ok report, after)) :
    report = writeReport action write cloud context.resourceType ids ∧
      ∃ calls, after = { cloud.retagged context.resourceType write.apply ids with calls } := by
  rw [writeTags] at h
  split at h
  next => cases h
  rw [htype] at h
  dsimp only at h
  split at h
  next hnothing =>
    have hids : ids = [] := by
      rcases Bool.or_eq_true_iff.1 hnothing with hempty | hzero
      · exact List.isEmpty_iff.1 hempty
      · exact absurd (of_decide_eq_true hzero) (Nat.pos_iff_ne_zero.1 hsize)
    cases h
    rw [hids, Cloud.retagged_nil]
    exact ⟨rfl, cloud.calls, rfl⟩
  next =>
    obtain ⟨ended, middle, hbatches, hended⟩ := Steps.of_run_bind_eq_ok h
    obtain ⟨rfl, hafter⟩ := eq_of_writeBatches_eq_ok htype hbatches
    rw [flatten_chunks (by omega) (Nat.le_refl _)] at hended hafter
    cases hended
    exact ⟨rfl, hafter⟩

theorem exists_writeTags_eq_ok {context : RunContext} {action : String} {write : TagWrite}
    (hsize : write.size ≤ context.settings.maxTagsPerCall) (ids : List String) {cloud : Cloud}
    (hfailures : cloud.failures = []) :
    ∃ report after, (writeTags context action ids write).run cloud = (.ok report, after) := by
  rw [writeTags, if_neg (Nat.not_lt.2 hsize)]
  cases htype : context.resourceType.tagServiceName? with
  | none => exact ⟨_, _, rfl⟩
  | some tagTypeName =>
      dsimp only
      split
      next => exact ⟨_, _, rfl⟩
      next =>
        obtain ⟨ended, after, hbatches⟩ := exists_writeBatches_eq_ok htype write
          (chunks (max context.settings.tagBatchSize 1) ids.length ids) { action } hfailures
        rw [Steps.run_bind_of_ok hbatches]
        split
        next => exact ⟨_, _, rfl⟩
        next => exact ⟨_, _, rfl⟩

/-- Without failures a write of some tags, of no more than a call may carry, comes to its end. -/
theorem run_writeTags {context : RunContext}
    (htype : context.resourceType.tagServiceName? = some tagTypeName) (action : String)
    (ids : List String) {write : TagWrite} (hsize : 0 < write.size)
    (hlimit : write.size ≤ context.settings.maxTagsPerCall) (hfailures : cloud.failures = []) :
    ∃ calls, (writeTags context action ids write).run cloud =
      (.ok (writeReport action write cloud context.resourceType ids),
        { cloud.retagged context.resourceType write.apply ids with calls }) := by
  obtain ⟨report, after, hrun⟩ : ∃ report after,
      (writeTags context action ids write).run cloud = (.ok report, after) :=
    exists_writeTags_eq_ok hlimit ids hfailures
  obtain ⟨rfl, calls, rfl⟩ := eq_of_writeTags_eq_ok htype hsize hrun
  exact ⟨calls, hrun⟩

/-! ### The size of batches -/

/-- What a write comes to depends on the type and on the limit that it is given. -/
theorem exists_run_writeTags (type : ResourceType) (limit : Nat) (action : String)
    (ids : List String) (write : TagWrite) (hfailures : cloud.failures = []) :
    ∃ result, ∃ ended : Cloud, ∀ context : RunContext, context.resourceType = type →
      context.settings.maxTagsPerCall = limit →
      ∃ calls, (writeTags context action ids write).run cloud =
        (result, { ended with calls }) := by
  by_cases hlimit : limit < write.size
  · refine ⟨.error (tooManyTags action write.size limit), cloud, ?_⟩
    rintro context rfl rfl
    refine ⟨cloud.calls, ?_⟩
    rw [writeTags, if_pos hlimit]
    rfl
  cases htype : type.tagServiceName? with
  | none =>
      refine ⟨.ok { action }, cloud, ?_⟩
      rintro context rfl rfl
      refine ⟨cloud.calls, ?_⟩
      rw [writeTags, if_neg hlimit, htype]
      rfl
  | some tagTypeName =>
      by_cases hzero : write.size = 0
      · refine ⟨.ok { action }, cloud, ?_⟩
        rintro context rfl rfl
        refine ⟨cloud.calls, ?_⟩
        rw [writeTags, if_neg hlimit, htype]
        dsimp only
        rw [if_pos (by rw [decide_eq_true hzero, Bool.or_true])]
        rfl
      · refine ⟨.ok (writeReport action write cloud type ids),
          cloud.retagged type write.apply ids, ?_⟩
        rintro context rfl rfl
        exact run_writeTags htype action ids (Nat.pos_of_ne_zero hzero) (Nat.not_lt.1 hlimit)
          hfailures

/-- **Batches cannot be told apart.** Two writes that differ in the size of the batches alone give
the same report, or the same error, and leave the same cloud but for the calls in its log, whatever
they write to whichever resources, listed once or repeatedly. On a type with tags, a write of some
tags and of no more than a call may carry reports each occurrence of a resource exactly once and in
order: as failed when the service rejects or does not know it, and else as handled. -/
theorem batch_size_unobservable (context : RunContext) (tagBatchSize : Nat) (action : String)
    (ids : List String) (write : TagWrite) (cloud : Cloud) (hfailures : cloud.failures = []) :
    let other : RunContext :=
      { context with settings := { context.settings with tagBatchSize } }
    let type := context.resourceType
    let first := (writeTags context action ids write).run cloud
    let second := (writeTags other action ids write).run cloud
    second.1 = first.1 ∧ second.2 = { first.2 with calls := second.2.calls } ∧
      (type.tagServiceName?.isSome → 0 < write.size →
        write.size ≤ context.settings.maxTagsPerCall →
        ∃ report, first.1 = .ok report ∧
          report.succeeded = ids.filter (fun id => ¬ cloud.Refuses type id) ∧
          report.failed.map (·.id) = ids.filter (fun id => cloud.Refuses type id) ∧
          (report.succeeded ++ report.failed.map (·.id)).Perm ids) := by
  intro other type first second
  obtain ⟨result, ended, hruns⟩ := exists_run_writeTags context.resourceType
    context.settings.maxTagsPerCall action ids write hfailures
  obtain ⟨calls, hfirst⟩ : ∃ calls, first = (result, { ended with calls }) :=
    hruns context rfl rfl
  obtain ⟨otherCalls, hsecond⟩ : ∃ calls, second = (result, { ended with calls }) :=
    hruns other rfl rfl
  refine ⟨?_, ?_, fun htype hsize hlimit => ?_⟩
  · rw [hfirst, hsecond]
  · rw [hfirst, hsecond]
  · obtain ⟨tagTypeName, htype⟩ := Option.isSome_iff_exists.1 htype
    obtain ⟨calls, hrun⟩ := run_writeTags htype action ids hsize hlimit hfailures
    refine ⟨writeReport action write cloud type ids, congrArg Prod.fst hrun,
      succeeded_writeReport .., failed_writeReport .., ?_⟩
    rw [succeeded_writeReport, failed_writeReport]
    simp only [decide_not]
    exact List.perm_append_comm.trans (List.filter_append_perm _ ids)

/-- A function that is listed twice, one that the service rejects and one that it does not know are
written in batches of two, and one by one. -/
theorem listed_twice_in_batches_of_two :
    let functions : List Resource := ["fn-1", "fn-2"].map fun id =>
      .ofRecord (.obj [("id", .string id)])
    let cloud : Cloud := (({} : Cloud).setResources .function functions).rejectTags "fn-2"
    let context (tagBatchSize : Nat) : RunContext :=
      { (default : RunContext) with resourceType := .function, settings := { tagBatchSize } }
    let write : TagWrite := .create (.ofList [("Owner", "finance")])
    let run (tagBatchSize : Nat) := (writeTags (context tagBatchSize) "tag"
      ["fn-1", "fn-2", "fn-1", "fn-3", "fn-2"] write).run cloud
    cloud.failures = [] ∧ (run 2).2.calls.length = 3 ∧ (run 0).2.calls.length = 5 ∧
      (run 0).1 = (run 2).1 ∧
      ∃ report, (run 2).1 = .ok report ∧ report.succeeded = ["fn-1", "fn-1"] ∧
        report.failed.map (·.id) = ["fn-2", "fn-3", "fn-2"] := by
  intro functions cloud context write run
  have hunobservable := batch_size_unobservable (context 2) 0 "tag"
    ["fn-1", "fn-2", "fn-1", "fn-3", "fn-2"] write cloud rfl
  obtain ⟨hsame, -, hreport⟩ := hunobservable
  obtain ⟨report, hrun, hsucceeded, hfailed, -⟩ :=
    hreport (by decide) (by decide +kernel) (by decide +kernel)
  refine ⟨rfl, by decide +kernel, by decide +kernel, hsame, report, hrun, ?_, ?_⟩
  · rw [hsucceeded]
    decide +kernel
  · rw [hfailed]
    decide +kernel

end Action

end CloudPolicy
