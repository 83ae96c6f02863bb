import Mathlib.Data.List.Nodup
import CloudPolicy.Proofs.Compiled
import CloudPolicy.Proofs.Lookups
import CloudPolicy.Proofs.RunEffects
import CloudPolicy.Proofs.TagWrites

/-! Who owns a resource. An attribution that does not overwrite leaves the tags that it found, so
that over any sequence of events the first one that offers a value for the tag settles it. -/

namespace CloudPolicy

open Cloud (LogsOnly Writes)
open Steps (Within)

/-! ### What events offer -/

/-- The value that an event offers for the tag of a resource. There is none when the mode takes no
notice of the event, the actor is of another kind, the event does not name the resource, or both the
selected value and the name of the actor are missing or empty. -/
def AttributionOptions.offer? (options : AttributionOptions) (mode : Mode) (event : Event)
    (id : String) : Option String :=
  if mode.accepts event.eventName ∧ event.user.knownType?.any (· ∈ options.userTypes) ∧
      id ∈ event.resourceIds then
    (Attribution.nonEmpty (options.selector.bind (·.select event))).or
      (Attribution.nonEmpty event.user.name)
  else none

/-- Fill the empty cells of a column with what is offered. -/
def fill (offer : String → Option String) (column : List (String × Option String)) :
    List (String × Option String) :=
  column.map fun c => (c.1, c.2.or (offer c.1))

theorem fill_none (column : List (String × Option String)) :
    fill (fun _ => none) column = column := by
  simp [fill]

theorem fill_congr {f g : String → Option String} {column : List (String × Option String)}
    (h : ∀ c ∈ column, f c.1 = g c.1) : fill f column = fill g column :=
  List.map_congr_left fun c hc => by rw [h c hc]

/-- Of two offers the first one counts. -/
theorem fill_fill (f g : String → Option String) (column : List (String × Option String)) :
    fill g (fill f column) = fill (fun id => (f id).or (g id)) column := by
  rw [fill, fill, fill, List.map_map]
  exact List.map_congr_left fun c _ => by simp [Option.or_assoc]

theorem map_fst_fill (offer : String → Option String) (column : List (String × Option String)) :
    (fill offer column).map Prod.fst = column.map Prod.fst := by
  rw [fill, List.map_map]
  rfl

/-! ### Attributing one event -/

namespace Action

variable {context : RunContext} {tagTypeName : String} {cloud : Cloud}

/-- One written tag sets its own column at the listed resources and leaves the others. -/
theorem run_writeAttribution (htype : context.resourceType.tagServiceName? = some tagTypeName)
    (hlimit : 0 < context.settings.maxTagsPerCall) (ids : List String) (key value : String)
    (report : Report) (hfailures : cloud.failures = [])
    (hdistinct : ((cloud.resources context.resourceType).map (·.id)).Nodup) :
    ∃ ended after, (writeAttribution context ids (some (key, value)) report).run cloud =
        (.ok ended, after) ∧
      ∀ other, Writes context.resourceType other
        (fun id => id ∈ ids ∧ id ∉ cloud.rejectedTagTargets)
        (fun old => if other = key then some value else old) cloud after := by
  let write : TagWrite := .create (.ofList [(key, value)])
  have hsize : write.size = 1 := rfl
  obtain ⟨written, after, hwritten⟩ : ∃ written after,
      (writeTags context autoTagName ids write).run cloud = (.ok written, after) :=
    exists_writeTags_eq_ok (hsize ▸ hlimit) ids hfailures
  refine ⟨report.merge written, after, ?_, fun other => ?_⟩
  · rw [writeAttribution]
    exact Steps.run_bind_of_ok hwritten
  · refine (of_writeTags_eq_ok htype (hsize ▸ Nat.one_pos)
      (fun tags => TagWrite.get?_apply_create key value tags other) ?_ hdistinct hwritten).1
    intro old
    by_cases hother : other = key <;> simp [hother]

/-- The resources without the tag, of those that an event names, are those whose cell is filled. -/
theorem amend_primaryTargets {options : AttributionOptions} (hupdate : options.update = false)
    {stored : List Resource} (hdistinct : (stored.map (·.id)).Nodup) (named : List String)
    (value : String) :
    amend (fun id => id ∈ primaryTargets options (stored.filter fun r => r.id ∈ named))
        (fun _ => some value) (stored.map (Resource.cell options.tag)) =
      fill (fun id => if id ∈ named then some value else none)
        (stored.map (Resource.cell options.tag)) := by
  refine List.map_congr_left fun c hc => ?_
  obtain ⟨r, hr, rfl⟩ := List.mem_map.1 hc
  have htarget : r.id ∈ primaryTargets options (stored.filter fun r => r.id ∈ named) ↔
      r.id ∈ named ∧ r.tags.get? options.tag = none := by
    rw [primaryTargets, hupdate]
    simp only [Bool.false_eq_true, if_false, List.mem_map, List.mem_filter, decide_eq_true_eq]
    constructor
    · rintro ⟨s, ⟨⟨hs, hnamed⟩, hlacks⟩, hid⟩
      obtain rfl := List.inj_on_of_nodup_map hdistinct hs hr hid
      exact ⟨hnamed, by simpa [TagSet.contains, StringMap.contains, TagSet.get?] using hlacks⟩
    · rintro ⟨hnamed, hlacks⟩
      refine ⟨r, ⟨⟨hr, hnamed⟩, ?_⟩, rfl⟩
      simpa [TagSet.contains, StringMap.contains, TagSet.get?] using hlacks
  have hcell : Resource.cell options.tag r = (r.id, r.tags.get? options.tag) := rfl
  rw [hcell]
  dsimp only
  cases htag : r.tags.get? options.tag <;> by_cases hnamed : r.id ∈ named <;>
    simp [htarget, htag, hnamed]

end Action

namespace Cloud

/-- Empty cells under the key were filled with what is offered, and nothing else under the key was
changed; which calls and which resources the cloud refuses is as before. -/
structure Fills (type : ResourceType) (key : String) (offer : String → Option String)
    (before after : Cloud) : Prop where
  column : after.column type key = fill offer (before.column type key)
  failures : after.failures = before.failures
  rejected : after.rejectedTagTargets = before.rejectedTagTargets

namespace Fills

variable {type : ResourceType} {key : String} {before middle after : Cloud}

theorem of_logsOnly (h : LogsOnly before after) : Fills type key (fun _ => none) before after := by
  obtain ⟨calls, rfl⟩ := h
  exact ⟨(fill_none _).symm, rfl, rfl⟩

theorem trans {f g : String → Option String} (h : Fills type key f before middle)
    (h' : Fills type key g middle after) :
    Fills type key (fun id => (f id).or (g id)) before after where
  column := by rw [h'.column, h.column, fill_fill]
  failures := h'.failures.trans h.failures
  rejected := h'.rejected.trans h.rejected

theorem congr {f g : String → Option String} (h : Fills type key f before after)
    (hfg : ∀ c ∈ before.column type key, f c.1 = g c.1) : Fills type key g before after where
  column := h.column.trans (fill_congr hfg)
  failures := h.failures
  rejected := h.rejected

theorem distinct {f : String → Option String} (h : Fills type key f before after) :
    (after.resources type).map (·.id) = (before.resources type).map (·.id) := by
  rw [← map_fst_column after type key, h.column, map_fst_fill, map_fst_column]

end Fills

end Cloud

namespace Action

open Cloud (Fills)

variable {options : AttributionOptions} {context : RunContext} {tagTypeName : String}
  {cloud : Cloud}

/-- The first tag of an attribution fills the cells of the resources that the event names. -/
theorem run_primaryTag (hupdate : options.update = false)
    (htype : context.resourceType.tagServiceName? = some tagTypeName)
    (hlimit : 0 < context.settings.maxTagsPerCall) (named : List String) (a : Attribution)
    (report : Report) (hfailures : cloud.failures = []) (hrejected : cloud.rejectedTagTargets = [])
    (hdistinct : ((cloud.resources context.resourceType).map (·.id)).Nodup) :
    let targets := primaryTargets options
      ((cloud.resources context.resourceType).filter fun r => r.id ∈ named)
    let tag := a.tagValue.map fun value => (options.tag, value)
    ∃ ended after, (writeAttribution context targets tag report).run cloud = (.ok ended, after) ∧
      Fills context.resourceType options.tag (fun id => if id ∈ named then a.tagValue else none)
        cloud after := by
  intro targets tag
  cases hvalue : a.tagValue with
  | none =>
      refine ⟨report, cloud, by simp [tag, hvalue, writeAttribution]; rfl, ?_⟩
      exact (Fills.of_logsOnly (refl_of LogsOnly cloud)).congr fun c _ => by simp
  | some value =>
      obtain ⟨ended, after, hrun, hwrites⟩ :=
        run_writeAttribution htype hlimit targets options.tag value report hfailures hdistinct
      obtain ⟨hcolumn, hafter, hkept⟩ := hwrites options.tag
      refine ⟨ended, after, by simpa [tag, hvalue] using hrun, ?_, hafter, hkept⟩
      rw [hcolumn]
      simp only [hrejected, List.not_mem_nil, not_false_eq_true, and_true, if_true]
      exact amend_primaryTargets hupdate hdistinct named value

/-- The second tag of an attribution, when it is another one, leaves the column of the first. -/
theorem run_principalTag (hprincipal : options.principalTag ≠ some options.tag)
    (htype : context.resourceType.tagServiceName? = some tagTypeName)
    (hlimit : 0 < context.settings.maxTagsPerCall) (ids : List String) (a : Attribution)
    (report : Report) (hfailures : cloud.failures = [])
    (hdistinct : ((cloud.resources context.resourceType).map (·.id)).Nodup) :
    ∃ ended after, (writeAttribution context ids (principalTag? options a) report).run cloud =
        (.ok ended, after) ∧
      Fills context.resourceType options.tag (fun _ => none) cloud after := by
  cases htag : principalTag? options a with
  | none => exact ⟨report, cloud, rfl, .of_logsOnly (refl_of LogsOnly cloud)⟩
  | some tag =>
      obtain ⟨key, principal⟩ := tag
      have hkey : options.tag ≠ key := by
        obtain ⟨key', hkey', htag⟩ := Option.bind_eq_some_iff.1 htag
        obtain ⟨_, -, htag⟩ := Option.bind_eq_some_iff.1 htag
        cases htag
        rintro rfl
        exact hprincipal hkey'
      obtain ⟨ended, after, hrun, hwrites⟩ :=
        run_writeAttribution htype hlimit ids key principal report hfailures hdistinct
      obtain ⟨hcolumn, hafter, hrejected⟩ := hwrites options.tag
      refine ⟨ended, after, hrun, ?_, hafter, hrejected⟩
      rw [hcolumn, fill_none, amend]
      simp [hkey]

/-- Attributing an event fills the cells that the event offers a value for. -/
theorem run_autoTag (context : RunContext) (hupdate : options.update = false)
    (hprincipal : options.principalTag ≠ some options.tag) {event : Event}
    (hevent : context.event = some event) {mode : Mode}
    (haccepts : mode.accepts event.eventName = true)
    (htype : context.resourceType.tagServiceName? = some tagTypeName)
    (hlimit : 0 < context.settings.maxTagsPerCall) (hfailures : cloud.failures = [])
    (hrejected : cloud.rejectedTagTargets = [])
    (hdistinct : ((cloud.resources context.resourceType).map (·.id)).Nodup) :
    Fills context.resourceType options.tag (options.offer? mode event) cloud
      (((autoTag options).process context
        (Policy.restrict (some event) (cloud.resources context.resourceType))).run cloud).2 := by
  by_cases hknown : event.user.knownType?.any (· ∈ options.userTypes) = true
  · let a : Attribution :=
      ⟨event.user.name, event.user.principalId, options.selector.bind (·.select event)⟩
    have hattribution : (context.event.bind fun event =>
        Attribution.ofEvent? event options.userTypes options.selector) = some a := by
      rw [hevent]
      exact if_pos hknown
    obtain ⟨written, middle, hprimary, hfirst⟩ := run_primaryTag hupdate htype hlimit
      event.resourceIds a { action := autoTagName } hfailures hrejected hdistinct
    obtain ⟨ended, after, hsecond, hnothing⟩ := run_principalTag hprincipal htype hlimit
      (principalTargets options
        (Policy.restrict (some event) (cloud.resources context.resourceType)))
      a written (hfirst.failures.trans hfailures) (hfirst.distinct ▸ hdistinct)
    simp only [autoTag, hattribution, applyAttribution, Policy.restrict] at hsecond ⊢
    rw [Steps.run_bind_of_ok hprimary, Steps.run_bind_of_ok hsecond]
    refine (hfirst.trans hnothing).congr fun c _ => ?_
    simp [AttributionOptions.offer?, haccepts, hknown, Attribution.tagValue, a]
  · have hattribution : (context.event.bind fun event =>
        Attribution.ofEvent? event options.userTypes options.selector) = none := by
      rw [hevent]
      exact if_neg hknown
    simp only [autoTag, hattribution]
    refine (Fills.of_logsOnly (refl_of LogsOnly cloud)).congr fun c _ => ?_
    simp [AttributionOptions.offer?, hknown]

end Action

/-! ### Policies that attribute events -/

namespace Policy

open Cloud (Fills)

variable {policy : Policy} {options : AttributionOptions}

theorem eq_autoTagUser_of_name {kind : ActionKind}
    (hname : kind.name = ActionKind.autoTagUser.name) : kind = .autoTagUser := by
  cases kind with
  | autoTagUser => rfl
  | _ => exact absurd hname (by decide)

theorem exists_tagServiceName_of_autoTagUser {type : ResourceType}
    (hkind : .autoTagUser ∈ type.actions) : ∃ name, type.tagServiceName? = some name := by
  cases type with
  | loadBalancer | listener | function | topic => exact ⟨_, rfl⟩
  | patch | script => exact absurd hkind (by decide)

/-- Attribution is compiled for event-driven policies on taggable resources only. -/
theorem attributes_of_compiled {building : Settings} (hcompiled : policy.Compiled building)
    (haction : .autoTag options ∈ policy.actions) :
    policy.mode.isEventDriven ∧ ∃ name, policy.resourceType.tagServiceName? = some name := by
  obtain ⟨kind, hkind, block, hbuild⟩ := hcompiled.actions _ haction
  obtain rfl := eq_autoTagUser_of_name (ActionKind.builds_of_build hbuild).name_eq.symm
  exact ⟨(Action.of_buildAutoTag hbuild).1, exists_tagServiceName_of_autoTagUser hkind⟩

theorem trigger_event (hmode : policy.mode.isEventDriven) (event : Event) :
    policy.trigger (some event) =
      if policy.mode.accepts event.eventName then .run (some event) else .ignored := by
  cases hcase : policy.mode with
  | pull =>
      rw [hcase] at hmode
      cases hmode
  | trail events => simp only [trigger, hcase]

/-- Without filters, and when no call fails, a selection gives what the event names. -/
theorem select_unfiltered (hfilters : policy.filters = []) (context : RunContext) {cloud : Cloud}
    (hfailures : cloud.failures = []) :
    ∃ after, LogsOnly cloud after ∧ (policy.select context).run cloud =
      (.ok (restrict context.event (cloud.resources policy.resourceType)), after) := by
  obtain ⟨calls, hlist⟩ := Cloud.answers_list hfailures policy.resourceType cloud.calls
  refine ⟨{ cloud with calls := cloud.calls ++ calls }, ⟨_, rfl⟩, ?_⟩
  rw [select, hfilters]
  exact Steps.run_bind_of_ok hlist

variable {settings : Settings}

/-- One run of a policy that does nothing but attribute fills the cells that its event offers a
value for. -/
theorem run_fills (hfilters : policy.filters = []) (hactions : policy.actions = [.autoTag options])
    (hmode : policy.mode.isEventDriven) {tagTypeName : String}
    (htype : policy.resourceType.tagServiceName? = some tagTypeName)
    (hupdate : options.update = false) (hprincipal : options.principalTag ≠ some options.tag)
    (hlimit : 0 < settings.maxTagsPerCall) (hactive : settings.dryRun = false) {world : World}
    (hfailures : world.cloud.failures = []) (hrejected : world.cloud.rejectedTagTargets = [])
    (hdistinct : ((world.cloud.resources policy.resourceType).map (·.id)).Nodup)
    (sink : AuditSink) (now : Timestamp) (runId : RunId) (event : Event) (schedule : List Nat) :
    Fills policy.resourceType options.tag (options.offer? policy.mode event) world.cloud
      ((policy.run sink settings now runId (some event) schedule).run world).2.cloud := by
  have htrigger := trigger_event hmode event
  by_cases haccepts : policy.mode.accepts event.eventName = true
  · rw [if_pos haccepts] at htrigger
    obtain ⟨listed, hlogs, hselect⟩ := select_unfiltered hfilters
      (policy.runContext settings now (some event) schedule) hfailures
    have hlogged : Fills policy.resourceType options.tag _ world.cloud listed := .of_logsOnly hlogs
    have hrecords : listed.resources = world.cloud.resources := hlogs.sameRecords
    rw [← hrecords] at hselect hdistinct
    change _ = (Except.ok (restrict (some event) _), listed) at hselect
    rw [cloud_run_of_select htrigger hselect]
    by_cases hnamed : restrict (some event) (listed.resources policy.resourceType) = []
    · have hnothing : policy.due settings (restrict (some event)
          (listed.resources policy.resourceType)) = [] := by simp [due, hnamed]
      rw [hnothing]
      refine hlogged.congr fun c hc => ?_
      obtain ⟨r, hr, rfl⟩ := List.mem_map.1 hc
      have hunnamed : r.id ∉ event.resourceIds := by
        rw [← hrecords] at hr
        simpa using List.filter_eq_nil_iff.1 hnamed r hr
      exact (if_neg fun hoffer => hunnamed hoffer.2.2).symm
    · have hdue : policy.due settings (restrict (some event)
          (listed.resources policy.resourceType)) = [.autoTag options] := by
        simp [due, hactive, hnamed, hactions]
      have hattributed : Fills policy.resourceType options.tag (options.offer? policy.mode event)
          listed (((Action.autoTag options).process
            (policy.runContext settings now (some event) schedule)
            (restrict (some event) (listed.resources policy.resourceType))).run listed).2 :=
        Action.run_autoTag (policy.runContext settings now (some event) schedule) hupdate
          hprincipal rfl haccepts htype hlimit (hlogged.failures.trans hfailures)
          (hlogged.rejected.trans hrejected) hdistinct
      rw [hdue, cloud_act_singleton]
      exact (hlogged.trans hattributed).congr fun c _ => Option.none_or
  · rw [if_neg haccepts] at htrigger
    rw [run, htrigger]
    refine (Fills.of_logsOnly (refl_of LogsOnly world.cloud)).congr fun c _ => ?_
    simp [AttributionOptions.offer?, haccepts]

/-! ### Sequences of events -/

/-- An event as it is delivered to a policy. -/
structure Delivery where
  event : Event
  now : Timestamp
  runId : RunId
  schedule : List Nat := []

/-- Run the policy on one delivered event after the other, whether the runs before came to their end
or not. -/
def replay (policy : Policy) (sink : AuditSink) (settings : Settings) (world : World)
    (deliveries : List Delivery) : World :=
  deliveries.foldl (fun world d =>
    ((policy.run sink settings d.now d.runId (some d.event) d.schedule).run world).2) world

theorem replay_fills (hfilters : policy.filters = [])
    (hactions : policy.actions = [.autoTag options]) (hmode : policy.mode.isEventDriven)
    {tagTypeName : String} (htype : policy.resourceType.tagServiceName? = some tagTypeName)
    (hupdate : options.update = false) (hprincipal : options.principalTag ≠ some options.tag)
    (hlimit : 0 < settings.maxTagsPerCall) (hactive : settings.dryRun = false) (sink : AuditSink)
    (deliveries : List Delivery) {world : World} (hfailures : world.cloud.failures = [])
    (hrejected : world.cloud.rejectedTagTargets = [])
    (hdistinct : ((world.cloud.resources policy.resourceType).map (·.id)).Nodup) :
    Fills policy.resourceType options.tag
      (fun id => deliveries.findSome? fun d => options.offer? policy.mode d.event id) world.cloud
      (policy.replay sink settings world deliveries).cloud := by
  induction deliveries generalizing world with
  | nil => exact .of_logsOnly (refl_of LogsOnly world.cloud)
  | cons d deliveries ih =>
      have hfirst := run_fills hfilters hactions hmode htype hupdate hprincipal hlimit hactive
        hfailures hrejected hdistinct sink d.now d.runId d.event d.schedule
      have hrest := ih (hfirst.failures.trans hfailures) (hfirst.rejected.trans hrejected)
        (hfirst.distinct ▸ hdistinct)
      refine (hfirst.trans hrest).congr fun c _ => ?_
      rw [List.findSome?_cons]
      cases options.offer? policy.mode d.event c.1 <;> rfl

/-- **The first offer settles the owner.** Events are delivered one after the other to a policy that
attributes them without overwriting, has no filters and writes the identifier of the actor, if at
all, under another tag. In the end a resource has the tag that it had at first, or else the value
that the first event offers which offers one for it, or else still no tag. -/
theorem first_offer_settles_owner (building settings : Settings) (document : PolicyDocument)
    (policies : List Policy) (hcompiled : ofDocument building document = .ok policies)
    (policy : Policy) (hpolicy : policy ∈ policies) (options : AttributionOptions)
    (hfilters : policy.filters = []) (hactions : policy.actions = [.autoTag options])
    (hupdate : options.update = false) (hprincipal : options.principalTag ≠ some options.tag)
    (hlimit : 0 < settings.maxTagsPerCall) (hactive : settings.dryRun = false)
    (sink : AuditSink) (deliveries : List Delivery) (world : World)
    (hfailures : world.cloud.failures = []) (hrejected : world.cloud.rejectedTagTargets = [])
    (hdistinct : ((world.cloud.resources policy.resourceType).map (·.id)).Nodup) :
    (policy.replay sink settings world deliveries).cloud.column policy.resourceType options.tag =
      (world.cloud.column policy.resourceType options.tag).map fun c =>
        (c.1, c.2.or (deliveries.findSome? fun d => options.offer? policy.mode d.event c.1)) := by
  have haction : .autoTag options ∈ policy.actions := by simp [hactions]
  obtain ⟨hmode, tagTypeName, htype⟩ :=
    attributes_of_compiled (compiled_of_ofDocument hcompiled hpolicy) haction
  exact (replay_fills hfilters hactions hmode htype hupdate hprincipal hlimit hactive sink
    deliveries hfailures hrejected hdistinct).column

/-- Of three functions, one has an owner in a list of texts, one has no tags and one has tags that
are no tags. An actor of an unknown kind takes none of them; then those without an owner go to the
first user whose event names them. -/
theorem first_users_own_functions :
    let document : PolicyDocument :=
      ⟨[{ name := "function-owner", resource := "functiongraph", mode := .trail ["CreateFunction"],
          actions := [.obj [("type", .string "auto-tag-user"), ("tag", .string "Owner"),
            ("principal_id_tag", .string "OwnerId")]] }]⟩
    let cloud := ({} : Cloud).setResources .function
      [.ofRecord (.obj [("id", .string "fn-1"), ("tags", .strings ["Owner=carol"])]),
        .ofRecord (.obj [("id", .string "fn-2")]),
        .ofRecord (.obj [("id", .string "fn-3"), ("tags", .nat 7)])]
    let delivery (kind name : String) (ids : List String) : Delivery :=
      ⟨{ user := ⟨kind, some name, some "id"⟩, eventName := some "CreateFunction",
          resourceIds := ids }, ⟨0, 0⟩, .ofNat 1, []⟩
    ∃ policy, ofDocument {} document = .ok [policy] ∧
      (policy.replay (.ledger Sha256.hex) {} ⟨cloud, {}⟩
        [delivery "Root" "root" ["fn-1", "fn-2", "fn-3"],
          delivery "IAMUser" "alice" ["fn-1", "fn-2"],
          delivery "AssumedRole" "bob" ["fn-1", "fn-2", "fn-3"]]).cloud.column .function "Owner" =
        [("fn-1", some "carol"), ("fn-2", some "alice"), ("fn-3", some "bob")] := by
  intro document cloud delivery
  refine ⟨_, rfl, ?_⟩
  refine (first_offer_settles_owner {} {} document _ rfl _ List.mem_cons_self
    { tag := "Owner", principalTag := some "OwnerId" } rfl rfl rfl (by decide) (by decide) rfl
    (.ledger Sha256.hex) _ ⟨cloud, {}⟩ rfl rfl (by decide)).trans ?_
  decide +kernel

end Policy

end CloudPolicy
