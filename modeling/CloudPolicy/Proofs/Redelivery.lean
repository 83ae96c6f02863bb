import CloudPolicy.Proofs.Attribution
import CloudPolicy.Proofs.AttributionReports

/-! Events that are delivered again. An attribution computes its targets from what is stored, so a
second run of it goes by the tags that the first one wrote. Its targets are then some of those of
the first run, and it writes the same values, in the same order, to what has them already. -/

namespace CloudPolicy

open Cloud (LogsOnly)
open Steps (Within)

namespace Cloud

variable {g h : Resource → Resource} {seen : List String} {stored : List Resource}

/-! ### The first record of every identifier

The tag service changes the first record with an identifier and leaves others that have the same
one. -/

/-- Change the first record of every identifier that was not seen before. -/
def changeFirsts (g : Resource → Resource) : List String → List Resource → List Resource
  | _, [] => []
  | seen, r :: stored =>
    (if r.id ∈ seen then r else g r) :: changeFirsts g (r.id :: seen) stored

theorem changeFirsts_congr (hgh : ∀ r ∈ stored, r.id ∉ seen → g r = h r) :
    changeFirsts g seen stored = changeFirsts h seen stored := by
  induction stored generalizing seen with
  | nil => rfl
  | cons r stored ih =>
      obtain ⟨hr, hstored⟩ := List.forall_mem_cons.1 hgh
      have hrest : changeFirsts g (r.id :: seen) stored = changeFirsts h (r.id :: seen) stored :=
        ih fun s hs hnew => hstored s hs fun hseen => hnew (List.mem_cons_of_mem _ hseen)
      rw [changeFirsts, changeFirsts, hrest]
      by_cases hseen : r.id ∈ seen
      · rw [if_pos hseen, if_pos hseen]
      · rw [if_neg hseen, if_neg hseen, hr hseen]

theorem changeFirsts_id (seen : List String) (stored : List Resource) :
    changeFirsts (fun r => r) seen stored = stored := by
  induction stored generalizing seen with
  | nil => rfl
  | cons r stored ih => rw [changeFirsts, ite_self, ih]

theorem changeFirsts_of_forall (hg : ∀ r ∈ stored, r.id ∉ seen → g r = r) :
    changeFirsts g seen stored = stored :=
  (changeFirsts_congr hg).trans (changeFirsts_id seen stored)

theorem changeFirsts_changeFirsts (hid : ∀ r, (h r).id = r.id) :
    changeFirsts g seen (changeFirsts h seen stored) =
      changeFirsts (fun r => g (h r)) seen stored := by
  induction stored generalizing seen with
  | nil => rfl
  | cons r stored ih =>
      have hfirst : (if r.id ∈ seen then r else h r).id = r.id := by
        split
        next => rfl
        next => exact hid r
      rw [changeFirsts, changeFirsts, changeFirsts, hfirst, ih]
      by_cases hseen : r.id ∈ seen
      · rw [if_pos hseen, if_pos hseen, if_pos hseen]
      · rw [if_neg hseen, if_neg hseen, if_neg hseen]

theorem exists_of_mem_changeFirsts {m : Resource} (hm : m ∈ changeFirsts g seen stored) :
    ∃ r ∈ stored, m = r ∨ m = g r := by
  induction stored generalizing seen with
  | nil => cases hm
  | cons r stored ih =>
      rw [changeFirsts] at hm
      rcases List.mem_cons.1 hm with rfl | hm
      · refine ⟨r, List.mem_cons_self, ?_⟩
        split
        next => exact .inl rfl
        next => exact .inr rfl
      · obtain ⟨s, hs, hms⟩ := ih hm
        exact ⟨s, List.mem_cons_of_mem _ hs, hms⟩

theorem updateFirst_eq_changeFirsts {id : String} (hnew : id ∉ seen) :
    updateFirst (·.id = id) g stored =
      changeFirsts (fun r => if r.id = id then g r else r) seen stored := by
  induction stored generalizing seen with
  | nil => rfl
  | cons r stored ih =>
      rw [updateFirst, changeFirsts]
      by_cases hid : r.id = id
      · have hrest : changeFirsts (fun r => if r.id = id then g r else r) (r.id :: seen) stored =
            stored := by
          refine changeFirsts_of_forall fun s _ hs => if_neg fun hsid => hs ?_
          rw [hsid, hid]
          exact List.mem_cons_self
        rw [if_pos (decide_eq_true hid), if_pos hid, hrest, if_neg (hid ▸ hnew)]
      · have hnew' : id ∉ r.id :: seen := List.not_mem_cons_of_ne_of_not_mem (Ne.symm hid) hnew
        rw [if_neg (fun h => hid (of_decide_eq_true h)), if_neg hid, ite_self, ih hnew']

/-! ### Writing a tag -/

/-- Tags that are written to a list of resources, also to some of them repeatedly, are written to
the first record of each of them that is not rejected. -/
theorem snd_retagAll_eq {f : TagSet → TagSet} (hf : ∀ tags, f (f tags) = f tags)
    (rejected ids : List String) (stored : List Resource) :
    (retagAll f rejected ids stored).2 =
      changeFirsts (fun r => if r.id ∈ ids ∧ r.id ∉ rejected then retag f r else r) [] stored := by
  induction ids generalizing stored with
  | nil => exact (changeFirsts_of_forall fun r _ _ => if_neg fun h => List.not_mem_nil h.1).symm
  | cons id ids ih =>
      rw [retagAll]
      split
      next hrejected =>
        refine (ih stored).trans (changeFirsts_congr fun r _ _ => if_congr ?_ rfl rfl)
        refine and_congr_left fun hr => ?_
        have hne : r.id ≠ id := fun hid => hr (hid ▸ hrejected)
        rw [List.mem_cons, or_iff_right hne]
      next hrejected =>
        split
        next =>
          rw [ih, updateFirst_eq_changeFirsts List.not_mem_nil, changeFirsts_changeFirsts]
          · refine changeFirsts_congr fun r _ _ => ?_
            by_cases hid : r.id = id
            · have hwritten : r.id ∈ id :: ids ∧ r.id ∉ rejected := by
                rw [hid]
                exact ⟨List.mem_cons_self, hrejected⟩
              rw [if_pos hid, if_pos (c := r.id ∈ id :: ids ∧ _) hwritten]
              split
              next => simp only [retag_retag, hf]
              next => rfl
            · rw [if_neg hid]
              refine if_congr ?_ rfl rfl
              rw [List.mem_cons, or_iff_right hid]
          · intro r
            split
            next => exact id_retag f r
            next => rfl
        next hmissing =>
          refine (ih stored).trans (changeFirsts_congr fun r hr _ => if_congr ?_ rfl rfl)
          have hne : r.id ≠ id := by
            rintro rfl
            exact hmissing (List.any_eq_true.2 ⟨r, hr, decide_eq_true rfl⟩)
          rw [List.mem_cons, or_iff_right hne]

/-- Write a tag, if there is one, onto a record. -/
def put (tag : Option (String × String)) (r : Resource) : Resource :=
  match tag with
  | none => r
  | some (key, value) => retag (·.insert key value) r

theorem id_put (tag : Option (String × String)) (r : Resource) : (put tag r).id = r.id := by
  cases tag with
  | none => rfl
  | some tag => exact id_retag _ r

theorem put_put (tag : Option (String × String)) (r : Resource) :
    put tag (put tag r) = put tag r := by
  cases tag with
  | none => rfl
  | some tag => simp only [put, retag_retag, TagSet.insert_insert]

/-- Two tags, also of one key, that are written once again. -/
theorem put_both_again (tag tag' : Option (String × String)) (r : Resource) :
    put tag' (put tag (put tag' (put tag r))) = put tag' (put tag r) := by
  cases tag with
  | none => exact put_put tag' r
  | some tag =>
      cases tag' with
      | none => exact put_put (some tag) r
      | some tag' => simp only [put, retag_retag, TagSet.insert_both_again]

/-- A record keeps every tag that it has, though not its value. -/
theorem contains_put {key : String} {r : Resource} (hkey : r.tags.contains key = true)
    (tag : Option (String × String)) : (put tag r).tags.contains key = true := by
  cases tag with
  | none => exact hkey
  | some tag =>
      rw [put, tags_retag]
      show ((r.tags.insert tag.1 tag.2).get? key).isSome = true
      rw [TagSet.get?_insert]
      split
      next => rfl
      next => exact hkey

/-- What becomes of a record when a tag is written to some resources, apart from those rejected. -/
def stamp (rejected ids : List String) (tag : Option (String × String)) (r : Resource) :
    Resource :=
  if r.id ∈ ids ∧ r.id ∉ rejected then put tag r else r

theorem id_stamp (rejected ids : List String) (tag : Option (String × String)) (r : Resource) :
    (stamp rejected ids tag r).id = r.id := by
  rw [stamp]
  split
  next => exact id_put tag r
  next => rfl

theorem contains_stamp {key : String} {r : Resource} (hkey : r.tags.contains key = true)
    (rejected ids : List String) (tag : Option (String × String)) :
    (stamp rejected ids tag r).tags.contains key = true := by
  rw [stamp]
  split
  next => exact contains_put hkey tag
  next => exact hkey

/-- Both tags are written again, each to some of those that it was written to, and the second one
wherever the first one is. -/
theorem stamp_again {rejected ids ids' again again' : List String}
    {tag tag' : Option (String × String)} {r : Resource} (hfirst : r.id ∈ again → r.id ∈ ids)
    (hsecond : r.id ∈ again' → r.id ∈ ids') (hboth : r.id ∈ again → r.id ∈ ids' → r.id ∈ again') :
    stamp rejected again' tag' (stamp rejected again tag
      (stamp rejected ids' tag' (stamp rejected ids tag r))) =
      stamp rejected ids' tag' (stamp rejected ids tag r) := by
  have hstamp (ids : List String) (tag : Option (String × String)) {s : Resource}
      (hs : s.id = r.id) : stamp rejected ids tag s =
        if r.id ∈ ids ∧ r.id ∉ rejected then put tag s else s := by rw [stamp, hs]
  have hput := (id_stamp rejected ids' tag' (stamp rejected ids tag r)).trans
    (id_stamp rejected ids tag r)
  rw [hstamp again' tag' ((id_stamp ..).trans hput), hstamp again tag hput,
    hstamp ids' tag' (id_stamp ..), hstamp ids tag rfl]
  by_cases hrejected : r.id ∈ rejected
  · simp only [hrejected, not_true_eq_false, and_false, if_false]
  simp only [hrejected, not_false_eq_true, and_true]
  by_cases hagain : r.id ∈ again
  · rw [if_pos (hfirst hagain)]
    by_cases hids' : r.id ∈ ids'
    · rw [if_pos (hboth hagain hids'), if_pos hagain, if_pos hids', put_both_again]
    · rw [if_neg fun h => hids' (hsecond h), if_pos hagain, if_neg hids', put_put]
  · rw [if_neg hagain]
    by_cases hagain' : r.id ∈ again'
    · rw [if_pos hagain', if_pos (hsecond hagain'), put_put]
    · rw [if_neg hagain']

/-! ### Attributed clouds -/

/-- The cloud with a tag written to some resources of a type. -/
def stamped (cloud : Cloud) (type : ResourceType) (ids : List String)
    (tag : Option (String × String)) : Cloud :=
  cloud.setResources type
    (changeFirsts (stamp cloud.rejectedTagTargets ids tag) [] (cloud.resources type))

theorem stamped_nil (cloud : Cloud) (type : ResourceType) (tag : Option (String × String)) :
    cloud.stamped type [] tag = cloud := by
  have hkept : ∀ r ∈ cloud.resources type, r.id ∉ [] →
      stamp cloud.rejectedTagTargets [] tag r = r :=
    fun _ _ _ => if_neg fun h => List.not_mem_nil h.1
  rw [stamped, changeFirsts_of_forall hkept, setResources_self]

theorem stamped_some (cloud : Cloud) (type : ResourceType) (ids : List String)
    (key value : String) :
    cloud.stamped type ids (some (key, value)) =
      cloud.retagged type (TagWrite.create (.ofList [(key, value)])).apply ids := by
  have hagain (tags : TagSet) : (tags.insert key value).insert key value = tags.insert key value :=
    tags.insert_insert key value
  rw [stamped, retagged, snd_retagAll_eq hagain]
  rfl

theorem stamped_stamped (cloud : Cloud) (type : ResourceType) (ids ids' : List String)
    (tag tag' : Option (String × String)) :
    (cloud.stamped type ids tag).stamped type ids' tag' =
      cloud.setResources type (changeFirsts (fun r => stamp cloud.rejectedTagTargets ids' tag'
        (stamp cloud.rejectedTagTargets ids tag r)) [] (cloud.resources type)) := by
  rw [stamped, stamped, resources_setResources_self, setResources_setResources]
  congr 1
  exact changeFirsts_changeFirsts (id_stamp cloud.rejectedTagTargets ids tag)

/-- What an attribution that comes to its end makes of a cloud, apart from its calls. -/
def attributed (type : ResourceType) (options : AttributionOptions) (seen : Option Event)
    (a : Attribution) (cloud : Cloud) : Cloud :=
  let resources := Policy.restrict seen (cloud.resources type)
  (cloud.stamped type (Action.valueTargets type options a resources)
      (a.tagValue.map fun value => (options.tag, value))).stamped type
    (Action.identifierTargets type options a resources) (Action.principalTag? options a)

end Cloud

namespace Action

open Cloud (stamped attributed)

/-! ### Targets -/

theorem mem_writtenTo {type : ResourceType} {tag : Option (String × String)} {ids : List String}
    {id : String} : id ∈ writtenTo type tag ids ↔
      (tag.isSome ∧ type.tagServiceName?.isSome) ∧ id ∈ ids := by
  rw [writtenTo]
  split
  next h => rw [and_iff_right h]
  next h => simp [h]

/-- The resources are some of those that there were, with all of their tags. -/
def Outgrow (resources before : List Resource) : Prop :=
  ∀ m ∈ resources, ∃ r ∈ before, m.id = r.id ∧
    ∀ key, r.tags.contains key = true → m.tags.contains key = true

variable {options : AttributionOptions} {resources before : List Resource} {id : String}

theorem Outgrow.restrict (h : Outgrow resources before) (seen : Option Event) :
    Outgrow (Policy.restrict seen resources) (Policy.restrict seen before) := by
  cases seen with
  | none => exact h
  | some event =>
      intro m hm
      obtain ⟨hm, hnamed⟩ := List.mem_filter.1 hm
      obtain ⟨r, hr, hid, htags⟩ := h m hm
      refine ⟨r, List.mem_filter.2 ⟨hr, ?_⟩, hid, htags⟩
      rw [← hid]
      exact hnamed

theorem Outgrow.mem_ids (h : Outgrow resources before) (hid : id ∈ resources.map (·.id)) :
    id ∈ before.map (·.id) := by
  obtain ⟨m, hm, rfl⟩ := List.mem_map.1 hid
  obtain ⟨r, hr, hmr, -⟩ := h m hm
  exact List.mem_map.2 ⟨r, hr, hmr.symm⟩

/-- What lacks the tag now has lacked it before. -/
theorem Outgrow.mem_primaryTargets (h : Outgrow resources before)
    (hid : id ∈ primaryTargets options resources) : id ∈ primaryTargets options before := by
  rw [primaryTargets] at hid ⊢
  by_cases hupdate : options.update = true
  · rw [if_pos hupdate] at hid ⊢
    exact h.mem_ids hid
  · rw [if_neg hupdate] at hid ⊢
    obtain ⟨m, hm, rfl⟩ := List.mem_map.1 hid
    obtain ⟨hm, hlacks⟩ := List.mem_filter.1 hm
    obtain ⟨r, hr, hmr, htags⟩ := h m hm
    refine List.mem_map.2 ⟨r, List.mem_filter.2 ⟨hr, ?_⟩, hmr.symm⟩
    cases htag : r.tags.contains options.tag with
    | false => rfl
    | true => rw [htags _ htag] at hlacks; exact hlacks

theorem mem_ids_of_mem_primaryTargets (hid : id ∈ primaryTargets options resources) :
    id ∈ resources.map (·.id) :=
  (primaryTargets_sublist options resources).subset hid

theorem mem_principalTargets_of_mem_primaryTargets
    (hid : id ∈ primaryTargets options resources) : id ∈ principalTargets options resources := by
  rw [principalTargets]
  cases options.principalTarget with
  | untagged => exact hid
  | all => exact mem_ids_of_mem_primaryTargets hid

theorem Outgrow.mem_principalTargets (h : Outgrow resources before)
    (hid : id ∈ principalTargets options resources) : id ∈ principalTargets options before := by
  rw [principalTargets] at hid ⊢
  cases htarget : options.principalTarget with
  | untagged =>
      rw [htarget] at hid
      exact h.mem_primaryTargets hid
  | all =>
      rw [htarget] at hid
      exact h.mem_ids hid

end Action

namespace Cloud

open CloudPolicy.Action (Outgrow mem_writtenTo)

variable {type : ResourceType} {options : AttributionOptions}

/-- Attributing an event once more changes nothing. -/
theorem attributed_attributed (type : ResourceType) (options : AttributionOptions)
    (seen : Option Event) (a : Attribution) (cloud : Cloud) :
    (cloud.attributed type options seen a).attributed type options seen a =
      cloud.attributed type options seen a := by
  let rejected := cloud.rejectedTagTargets
  let value := a.tagValue.map fun value => (options.tag, value)
  let principal := Action.principalTag? options a
  let first (stored : List Resource) : List String :=
    Action.valueTargets type options a (Policy.restrict seen stored)
  let second (stored : List Resource) : List String :=
    Action.identifierTargets type options a (Policy.restrict seen stored)
  let change (stored : List Resource) (r : Resource) : Resource :=
    stamp rejected (second stored) principal (stamp rejected (first stored) value r)
  let stored := cloud.resources type
  let left := changeFirsts (change stored) [] stored
  have hid (r : Resource) : (change stored r).id = r.id := (id_stamp ..).trans (id_stamp ..)
  have hleft : cloud.attributed type options seen a = cloud.setResources type left :=
    stamped_stamped ..
  have hagain : (cloud.setResources type left).attributed type options seen a =
      cloud.setResources type (changeFirsts (change left) [] left) := by
    rw [attributed, stamped_stamped, resources_setResources_self, setResources_setResources]
    rfl
  have houtgrow : Outgrow left stored := by
    intro m hm
    obtain ⟨r, hr, rfl | rfl⟩ := exists_of_mem_changeFirsts hm
    · exact ⟨m, hr, rfl, fun _ hkey => hkey⟩
    · exact ⟨r, hr, hid r, fun key hkey => contains_stamp (contains_stamp hkey ..) ..⟩
  have hrestricted := houtgrow.restrict seen
  rw [hleft, hagain]
  congr 1
  refine (changeFirsts_changeFirsts hid).trans (changeFirsts_congr fun r _ _ => ?_)
  refine stamp_again (fun hr => ?_) (fun hr => ?_) (fun hr hr' => ?_)
  · obtain ⟨hwritten, hr⟩ := mem_writtenTo.1 hr
    exact mem_writtenTo.2 ⟨hwritten, hrestricted.mem_primaryTargets hr⟩
  · obtain ⟨hwritten, hr⟩ := mem_writtenTo.1 hr
    exact mem_writtenTo.2 ⟨hwritten, hrestricted.mem_principalTargets hr⟩
  · obtain ⟨hwritten, -⟩ := mem_writtenTo.1 hr'
    obtain ⟨-, hr⟩ := mem_writtenTo.1 hr
    exact mem_writtenTo.2 ⟨hwritten, Action.mem_principalTargets_of_mem_primaryTargets hr⟩

theorem attributed_of_nothing {seen : Option Event} {cloud : Cloud}
    (hnothing : Policy.restrict seen (cloud.resources type) = []) (a : Attribution) :
    cloud.attributed type options seen a = cloud := by
  have htargets (tag : Option (String × String)) : Action.writtenTo type tag [] = [] := ite_self _
  have hfirst : Action.valueTargets type options a [] = [] := by
    rw [Action.valueTargets, Action.primaryTargets, List.filter_nil, ite_self, List.map_nil,
      htargets]
  have hsecond : Action.identifierTargets type options a [] = [] := by
    rw [Action.identifierTargets, Action.principalTargets]
    cases options.principalTarget with
    | untagged =>
        rw [Action.primaryTargets, List.filter_nil, ite_self, List.map_nil, htargets]
    | all => exact htargets _
  rw [attributed, hnothing, hfirst, hsecond, stamped_nil, stamped_nil]

end Cloud

namespace Action

open Cloud (stamped attributed)

variable {context : RunContext} {report ended : Report} {cloud after : Cloud}

/-! ### Runs -/

theorem eq_stamped_of_writeAttribution {ids : List String} {tag : Option (String × String)}
    (h : (writeAttribution context ids tag report).run cloud = (.ok ended, after)) :
    ∃ calls, after = { cloud.stamped context.resourceType
      (writtenTo context.resourceType tag ids) tag with calls } := by
  obtain ⟨hnothing, -, -, -, rfl⟩ |
    ⟨key, value, tagTypeName, written, hall, rfl, htype, hwrite, -⟩ := writeAttribution_cases h
  · rw [hnothing, Cloud.stamped_nil]
    exact ⟨_, rfl⟩
  · have hsize : 0 < (TagWrite.create (.ofList [(key, value)])).size := Nat.one_pos
    rw [hall, Cloud.stamped_some]
    exact (eq_of_writeTags_eq_ok htype hsize hwrite).2

theorem eq_attributed_of_applyAttribution {options : AttributionOptions} {a : Attribution}
    {seen : Option Event}
    (h : (applyAttribution context options a
      (Policy.restrict seen (cloud.resources context.resourceType))).run cloud =
        (.ok report, after)) :
    ∃ calls, after = { cloud.attributed context.resourceType options seen a with calls } := by
  rw [applyAttribution] at h
  obtain ⟨once, middle, hfirst, hrest⟩ := Steps.of_run_bind_eq_ok h
  obtain ⟨twice, ended, hsecond, hreport⟩ := Steps.of_run_bind_eq_ok hrest
  cases hreport
  obtain ⟨calls, rfl⟩ := eq_stamped_of_writeAttribution hfirst
  obtain ⟨later, rfl⟩ := eq_stamped_of_writeAttribution hsecond
  exact ⟨later, rfl⟩

/-- Where calls may carry no tags, nothing is attributed. -/
theorem snd_applyAttribution_of_no_tags (hlimit : context.settings.maxTagsPerCall = 0)
    (options : AttributionOptions) (a : Attribution) (resources : List Resource) (cloud : Cloud) :
    ((applyAttribution context options a resources).run cloud).2 = cloud := by
  have hwrite (ids : List String) (tag : Option (String × String)) (report : Report) :
      Within Eq (fun _ => True) (writeAttribution context ids tag report) := by
    cases tag with
    | none => exact .done _
    | some tag =>
        have hexceeds : context.settings.maxTagsPerCall <
            (TagWrite.create (.ofList [tag])).size := hlimit ▸ Nat.one_pos
        rw [writeAttribution]
        refine Within.andThen ?_ fun _ => .done _
        rw [writeTags, if_pos hexceeds]
        exact .of_throw _
  exact (((hwrite ..).andThen fun _ => (hwrite ..).andThen fun _ => .done _).moves cloud).symm

variable {options : AttributionOptions} {resources : List Resource}

theorem autoTag_of_none (hnone : (context.event.bind fun event =>
      Attribution.ofEvent? event options.userTypes options.selector) = none) :
    (((autoTag options).process context resources).run cloud).2 = cloud := by
  rw [autoTag]
  dsimp only
  rw [hnone]
  rfl

theorem autoTag_of_some {a : Attribution} (hsome : (context.event.bind fun event =>
      Attribution.ofEvent? event options.userTypes options.selector) = some a) :
    (autoTag options).process context resources =
      applyAttribution context options a resources := by
  rw [autoTag]
  dsimp only
  rw [hsome]

end Action

namespace Policy

variable {policy : Policy} {options : AttributionOptions}

theorem cloud_run_of_autoTag (hfilters : policy.filters = [])
    (hactions : policy.actions = [.autoTag options]) {event seen : Option Event}
    (htrigger : policy.trigger event = .run seen) (sink : AuditSink) (settings : Settings)
    (now : Timestamp) (runId : RunId) (schedule : List Nat) {world : World}
    (hfailures : world.cloud.failures = []) :
    let named := restrict seen (world.cloud.resources policy.resourceType)
    ∃ listed, LogsOnly world.cloud listed ∧
      ((policy.run sink settings now runId event schedule).run world).2.cloud =
        if settings.dryRun || named.isEmpty then listed
        else (((Action.autoTag options).process
          (policy.runContext settings now seen schedule) named).run listed).2 := by
  intro named
  obtain ⟨listed, hlogs, hselect⟩ :=
    select_unfiltered hfilters (policy.runContext settings now seen schedule) hfailures
  refine ⟨listed, hlogs, ?_⟩
  change _ = (Except.ok named, listed) at hselect
  rw [cloud_run_of_select htrigger hselect, due, hactions]
  split
  next => rfl
  next => exact cloud_act_singleton ..

/-- Whether the runs of a policy on an event attribute it depends on neither the cloud nor whatever
else is given to a run. -/
theorem cloud_run_cases (hfilters : policy.filters = [])
    (hactions : policy.actions = [.autoTag options]) (settings : Settings) (event : Option Event) :
    (∀ sink now runId schedule world, world.cloud.failures = [] → ∃ calls,
      ((policy.run sink settings now runId event schedule).run world).2.cloud =
        { world.cloud with calls }) ∨
    ∃ seen a, ∀ sink now runId schedule world, world.cloud.failures = [] → ∃ calls,
      ((policy.run sink settings now runId event schedule).run world).2.cloud =
        { world.cloud.attributed policy.resourceType options seen a with calls } := by
  by_cases htrigger : ∃ seen, policy.trigger event = .run seen
  case neg =>
    refine .inl fun sink now runId schedule world _ => ⟨world.cloud.calls, ?_⟩
    rw [run_of_not_run fun seen hseen => htrigger ⟨seen, hseen⟩]
  obtain ⟨seen, htrigger⟩ := htrigger
  have hruns := cloud_run_of_autoTag hfilters hactions htrigger
  by_cases hacts : settings.dryRun = false ∧ 0 < settings.maxTagsPerCall ∧
      ∃ a, (seen.bind fun event =>
        Attribution.ofEvent? event options.userTypes options.selector) = some a
  · obtain ⟨hactive, hlimit, a, hattribution⟩ := hacts
    refine .inr ⟨seen, a, fun sink now runId schedule world hfailures => ?_⟩
    obtain ⟨listed, ⟨calls, rfl⟩, hrun⟩ := hruns sink settings now runId schedule hfailures
    rw [hrun]
    split
    next hnothing =>
      rw [hactive, Bool.false_or, List.isEmpty_iff] at hnothing
      rw [Cloud.attributed_of_nothing hnothing]
      exact ⟨_, rfl⟩
    next =>
      let context := policy.runContext settings now seen schedule
      let listed : Cloud := { world.cloud with calls := world.cloud.calls ++ calls }
      let named := restrict seen (listed.resources policy.resourceType)
      obtain ⟨report, after, hended⟩ : ∃ report after,
          (Action.applyAttribution context options a named).run listed = (.ok report, after) :=
        Action.exists_applyAttribution_eq_ok options a named hlimit hfailures
      obtain ⟨later, rfl⟩ := Action.eq_attributed_of_applyAttribution hended
      have hprocess : (Action.autoTag options).process context named =
          Action.applyAttribution context options a named := Action.autoTag_of_some hattribution
      change ∃ calls, (((Action.autoTag options).process context named).run listed).2 = _
      rw [hprocess, hended]
      exact ⟨later, rfl⟩
  · refine .inl fun sink now runId schedule world hfailures => ?_
    obtain ⟨listed, ⟨calls, rfl⟩, hrun⟩ := hruns sink settings now runId schedule hfailures
    rw [hrun]
    split
    next => exact ⟨_, rfl⟩
    next hacting =>
      have hactive : settings.dryRun = false :=
        Bool.eq_false_iff.2 fun hdry => hacting (by rw [hdry, Bool.true_or])
      refine ⟨world.cloud.calls ++ calls, ?_⟩
      cases hattribution : seen.bind fun event =>
          Attribution.ofEvent? event options.userTypes options.selector with
      | none => exact Action.autoTag_of_none hattribution
      | some a =>
          have hlimit : settings.maxTagsPerCall = 0 := by
            refine Nat.eq_zero_of_not_pos fun hlimit => ?_
            exact hacts ⟨hactive, hlimit, a, hattribution⟩
          rw [Action.autoTag_of_some hattribution]
          exact Action.snd_applyAttribution_of_no_tags hlimit ..

/-- **Redelivery changes nothing.** A policy that has no filters and does nothing but attribute runs
twice on the same event, under any identifiers, times and sinks. Unless calls are made to fail, the
second run leaves all of the cloud as the first one left it, apart from the log of calls: whatever
is overwritten, whichever records have malformed tags or share an identifier, whatever the tag
service rejects, and also when both tags have one key. -/
theorem redelivery_changes_nothing (policy : Policy) (options : AttributionOptions)
    (hfilters : policy.filters = []) (hactions : policy.actions = [.autoTag options])
    (settings : Settings) (event : Option Event) (world : World)
    (hfailures : world.cloud.failures = []) (sink sink' : AuditSink) (now now' : Timestamp)
    (runId runId' : RunId) (schedule schedule' : List Nat) :
    let first := ((policy.run sink settings now runId event schedule).run world).2
    let second := ((policy.run sink' settings now' runId' event schedule').run first).2
    second.cloud = { first.cloud with calls := second.cloud.calls } := by
  intro first second
  rcases cloud_run_cases hfilters hactions settings event with hidle | ⟨seen, a, hattributed⟩
  · obtain ⟨calls, hfirst⟩ := hidle sink now runId schedule world hfailures
    obtain ⟨later, hsecond⟩ :=
      hidle sink' now' runId' schedule' first (by rw [hfirst]; exact hfailures)
    rw [hsecond]
  · obtain ⟨calls, hfirst⟩ := hattributed sink now runId schedule world hfailures
    obtain ⟨later, hsecond⟩ :=
      hattributed sink' now' runId' schedule' first (by rw [hfirst]; exact hfailures)
    have hagain : first.cloud.attributed policy.resourceType options seen a =
        { world.cloud.attributed policy.resourceType options seen a with calls } := by
      calc first.cloud.attributed policy.resourceType options seen a
          = { (world.cloud.attributed policy.resourceType options seen a).attributed
              policy.resourceType options seen a with calls } := by rw [hfirst]; rfl
        _ = { world.cloud.attributed policy.resourceType options seen a with calls } := by
          rw [Cloud.attributed_attributed]
    rw [hsecond, hagain, hfirst]

/-- Both tags have one key, and values are overwritten. Of four functions, one has an owner in a
list of texts, one has tags that are no tags, one is rejected, and the last one has the identifier
of the first. The second run calls the tag service as often as the first one, to the same effect. -/
theorem overwritten_owners_stay :
    let options : AttributionOptions :=
      { tag := "Owner", update := true, principalTag := some "Owner" }
    let policy : Policy :=
      { name := "function-owner", resourceType := .function, mode := .trail ["CreateFunction"],
        filters := [], actions := [.autoTag options] }
    let cloud := (({} : Cloud).setResources .function
      [.ofRecord (.obj [("id", .string "fn-1"), ("tags", .strings ["Owner=carol"])]),
        .ofRecord (.obj [("id", .string "fn-2"), ("tags", .nat 7)]),
        .ofRecord (.obj [("id", .string "fn-3")]),
        .ofRecord (.obj [("id", .string "fn-1")])]).rejectTags "fn-3"
    let event : Event :=
      { user := ⟨"IAMUser", some "alice", some "p-1"⟩, eventName := some "CreateFunction",
        resourceIds := ["fn-1", "fn-2", "fn-3"] }
    let sink : AuditSink := .ledger Sha256.hex
    let first := ((policy.run sink {} ⟨0, 0⟩ (.ofNat 1) (some event) []).run ⟨cloud, {}⟩).2
    let second := ((policy.run sink {} ⟨0, 0⟩ (.ofNat 2) (some event) []).run first).2
    let owners := [("fn-1", some "p-1"), ("fn-2", some "p-1"), ("fn-3", none), ("fn-1", none)]
    policy.filters = [] ∧ policy.actions = [.autoTag options] ∧ cloud.failures = [] ∧
      first.cloud.column .function "Owner" = owners ∧
      (first.cloud.callsTo "create_tags").length = 2 ∧
      second.cloud = { first.cloud with calls := second.cloud.calls } ∧
      (second.cloud.callsTo "create_tags").length = 4 := by
  intro options policy cloud event sink first second owners
  have hsame := redelivery_changes_nothing policy options rfl rfl {} (some event) ⟨cloud, {}⟩ rfl
    sink sink ⟨0, 0⟩ ⟨0, 0⟩ (.ofNat 1) (.ofNat 2) [] []
  -- Both sides are brought to one form first: comparing them as they stand carries out the runs.
  dsimp only at hsame
  have hsecond : second.cloud = { first.cloud with calls := second.cloud.calls } := by
    dsimp only [second, first]
    exact hsame
  exact ⟨rfl, rfl, rfl, by decide +kernel, by decide +kernel, hsecond, by decide +kernel⟩

end Policy

end CloudPolicy
