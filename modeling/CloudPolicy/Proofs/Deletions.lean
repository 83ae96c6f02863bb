import CloudPolicy.Policy.Registry
import CloudPolicy.Proofs.Bystanders
import CloudPolicy.Proofs.FilterOrder
import CloudPolicy.Proofs.Lookups
import CloudPolicy.Proofs.PlannedChanges
import CloudPolicy.Proofs.Remediation
import CloudPolicy.Proofs.RetainedVersions

/-! Which records the deleting actions take. Each of them addresses a record in its own way, and so
does each service; where no two records of a type share an identifier, the record that a service
removes is the one that the action was run on, and no other. -/

namespace CloudPolicy

/-- The kind of the actions that delete resources of a type. -/
def ResourceType.deletion? : ResourceType → Option ActionKind
  | .loadBalancer => some .deleteLoadBalancer
  | .listener => some .deleteListener
  | .function => some .deleteFunction
  | .topic => some .deleteTopic
  | .patch => none
  | .script => none

/-- A block may restrict the deletion of listeners to those of some load balancers. -/
def Json.asksFor (block : Json) : ResourceType → Resource → Bool
  | .listener, r =>
    let balancers := block.textsOption "loadbalancers"
    balancers.isEmpty || (Action.owner? r).any (· ∈ balancers)
  | _, _ => true

namespace Cloud

/-! ### Records that are gone -/

/-- No call fails, no two records of the type share an identifier, and functions have resource
names. -/
structure Addressable (cloud : Cloud) (type : ResourceType) : Prop where
  works : cloud.failures = []
  unlike : (cloud.resources type).Pairwise (Resource.Unlike type)
  named : type = .function → ∀ r ∈ cloud.resources type,
    ∃ urn, r.text? "func_urn" = some urn ∧ urn ≠ ""

/-- Of the stored records those of the type with the given identifiers are gone, and only those. -/
structure Loses (type : ResourceType) (ids : List String) (before after : Cloud) : Prop where
  failures : after.failures = before.failures
  others : ∀ other, other ≠ type → after.resources other = before.resources other
  left : after.resources type = (before.resources type).filter fun r => r.id ∉ ids

variable {type : ResourceType} {ids : List String} {before middle after : Cloud}

theorem Loses.of_sameRecords (hfailures : after.failures = before.failures)
    (h : SameRecords before after) : Loses type [] before after where
  failures := hfailures
  others := fun _ _ => by rw [h]
  left := by
    rw [h]
    exact (List.filter_eq_self.2 fun _ _ => decide_eq_true List.not_mem_nil).symm

theorem Loses.trans {more : List String} (h : Loses type ids before middle)
    (hmore : Loses type more middle after) : Loses type (ids ++ more) before after where
  failures := hmore.failures.trans h.failures
  others := fun other hother => (hmore.others other hother).trans (h.others other hother)
  left := by
    rw [hmore.left, h.left, List.filter_filter]
    refine List.filter_congr fun r _ => ?_
    simp [Bool.and_comm]

theorem Loses.addressable (h : Loses type ids before after) (hbefore : before.Addressable type) :
    after.Addressable type where
  works := h.failures.trans hbefore.works
  unlike := by
    rw [h.left]
    exact hbefore.unlike.sublist List.filter_sublist
  named := by
    intro htype r hr
    rw [h.left] at hr
    exact hbefore.named htype r (List.mem_filter.1 hr).1

theorem Loses.lists {batch : List Resource} (h : Loses type ids before after)
    (hbatch : before.Lists type batch) (hids : ∀ m ∈ batch, m.id ∉ ids) :
    after.Lists type batch := by
  intro m hm
  obtain ⟨r, hr, hreflects⟩ := hbatch m hm
  refine ⟨r, ?_, hreflects⟩
  rw [h.left, List.mem_filter, ← hreflects.id_eq]
  exact ⟨hr, decide_eq_true (hids m hm)⟩

/-- A record that shares an identifier with another one is that record. -/
theorem Addressable.eq_of_shared (hcloud : before.Addressable type) {r s : Resource}
    (hr : r ∈ before.resources type) (hs : s ∈ before.resources type) {name : String}
    (hname : name ∈ r.identifiers type) (hsame : name ∈ s.identifiers type) : s = r := by
  by_contra hne
  exact hcloud.unlike.forall hs hr hne hsame hname

/-- Where everything that a test singles out has one identifier of a record, the records that pass
the test are that record. -/
theorem Addressable.loses (hcloud : before.Addressable type) {r : Resource}
    (hr : r ∈ before.resources type) {named : Resource → Bool} (hself : named r = true)
    {name : String} (hname : name ∈ r.identifiers type)
    (hnamed : ∀ s, named s = true → name ∈ s.identifiers type)
    (hfailures : after.failures = before.failures)
    (hafter : after.resources =
      (before.setResources type ((before.resources type).filter fun s => !named s)).resources) :
    Loses type [r.id] before after where
  failures := hfailures
  others := fun other hother => by
    rw [hafter, resources_setResources_of_ne before hother]
  left := by
    rw [hafter, resources_setResources_self]
    refine List.filter_congr fun s hs => ?_
    have hiff : named s = true ↔ s.id = r.id := by
      constructor
      · intro h
        rw [hcloud.eq_of_shared hr hs hname (hnamed s h)]
      · intro hid
        have hsame : bareName r.id ∈ s.identifiers type := hid ▸ Resource.bareName_id_mem
        rw [hcloud.eq_of_shared hr hs Resource.bareName_id_mem hsame]
        exact hself
    rw [Bool.eq_iff_iff]
    simp [← hiff]

/-! ### The services -/

theorem run_remove {cloud : Cloud} (hfailures : cloud.failures = [])
    {service operation urnField target : String} {r : Resource} (hr : r ∈ cloud.resources type)
    (haddressed : addressedBy urnField target r = true) :
    (remove service operation type urnField target).run cloud =
      (.ok (), (cloud.record service operation target).setResources type
        ((cloud.resources type).filter fun s => !addressedBy urnField target s)) := by
  let stored := (cloud.record service operation target).resources type
  have hfewer : (stored.filter fun s => !addressedBy urnField target s).length ≠ stored.length := by
    intro hall
    have hkept := List.length_filter_eq_length_iff.1 hall r hr
    rw [haddressed] at hkept
    cases hkept
  rw [remove, run_enter_bind_of_works hfailures]
  show (if _ then throw _ else pure () : CloudM Unit).run _ = _
  rw [if_neg hfewer]
  rfl

variable {cloud : Cloud} {r m : Resource}

/-- The call on a listed resource succeeds, and takes its record. -/
def Takes (type : ResourceType) (call : Resource → CloudM Unit) : Prop :=
  ∀ cloud : Cloud, cloud.Addressable type → ∀ r ∈ cloud.resources type, ∀ m : Resource,
    m.Reflects r → ∃ after, (call m).run cloud = (.ok (), after) ∧ Loses type [m.id] cloud after

/-- Records of a type without resource names are removed by their identifier. -/
theorem remove_takes (service operation : String) (type : ResourceType) :
    Takes type fun m => remove service operation type "id" m.id := by
  intro cloud hcloud r hr m hm
  dsimp only
  rw [hm.id_eq]
  have hid (s : Resource) (h : addressedBy "id" r.id s = true) : s.id = r.id := by
    rcases of_decide_eq_true h with hid | htext
    · exact hid
    · rw [Resource.id, htext]
      rfl
  have hself : addressedBy "id" r.id r = true := decide_eq_true (.inl rfl)
  refine ⟨_, run_remove hcloud.works hr hself, hcloud.loses hr hself Resource.bareName_id_mem
    (fun s h => ?_) rfl rfl⟩
  rw [← hid s h]
  exact Resource.bareName_id_mem

theorem deleteTopic_takes : Takes .topic fun m => deleteTopic m.topicUrn := by
  intro cloud hcloud r hr m hm
  dsimp only
  rw [hm.topicUrn_eq, hm.id_eq]
  have hself : addressedBy "topic_urn" r.topicUrn r = true := by
    rw [Resource.topicUrn]
    cases hurn : r.text? "topic_urn" with
    | none => exact decide_eq_true (.inl rfl)
    | some urn => exact decide_eq_true (.inr hurn)
  exact ⟨_, run_remove hcloud.works hr hself, hcloud.loses hr hself Resource.bareName_topicUrn_mem
    (fun _ h => Resource.bareName_mem_of_addressedBy rfl h) rfl rfl⟩

theorem deleteFunction_takes :
    Takes .function fun m => deleteFunction (withoutLatest m.functionUrn) := by
  intro cloud hcloud r hr m hm
  obtain ⟨urn, hurn, hsome⟩ := hcloud.named rfl r hr
  have hfunction : m.functionUrn = urn := by
    rw [Resource.functionUrn, hm.text?_eq (by decide), hurn, Option.filter_some]
    simp [hsome]
  have hself : isFunction (withoutLatest urn) r = true :=
    decide_eq_true (.inr (congrArg (Option.map withoutLatest) hurn))
  have hname : bareName (withoutLatest urn) ∈ r.identifiers .function := by
    rw [bareName_withoutLatest]
    exact Resource.bareName_urn_mem rfl hurn
  obtain ⟨after, hrun, hworks, -, hresources⟩ :=
    run_deleteFunction hcloud.works (withoutLatest urn)
  dsimp only
  rw [hfunction, hm.id_eq]
  exact ⟨after, hrun, hcloud.loses hr hself hname
    (fun _ h => Resource.bareName_mem_of_isFunction h) (hworks.trans hcloud.works.symm) hresources⟩

end Cloud

namespace Action

open Cloud (Loses Takes)

variable {type : ResourceType}

/-! ### The steps of the actions -/

/-- The step deletes the record of a listed resource that is asked for, and skips all others. -/
def Deletes (type : ResourceType) (asked : Resource → Bool) (step : Resource → CloudM Step) :
    Prop :=
  ∀ cloud : Cloud, cloud.Addressable type → ∀ r ∈ cloud.resources type, ∀ m : Resource,
    m.Reflects r → ∃ after, (step m).run cloud =
        (.ok (if asked m then .done else .skipped), after) ∧
      Loses type (if asked m then [m.id] else []) cloud after

theorem deletes_call {call : Resource → CloudM Unit} (h : Takes type call) :
    Deletes type (fun _ => true) fun m => do
      call m
      return .done := by
  intro cloud hcloud r hr m hm
  obtain ⟨after, hrun, hloses⟩ := h cloud hcloud r hr m hm
  exact ⟨after, Steps.run_bind_of_ok hrun, hloses⟩

/-- The pool of a listener goes first, which changes no record. -/
theorem deletes_listener (balancers : List String) :
    Deletes .listener (fun m => balancers.isEmpty || (owner? m).any (· ∈ balancers))
      (deleteListenerStep balancers) := by
  intro cloud hcloud r hr m hm
  have hdelete (looked : Cloud) (hworks : looked.failures = cloud.failures)
      (hsame : Cloud.SameRecords cloud looked) : ∃ after,
      (do Cloud.deleteListener m.id; return Step.done : CloudM Step).run looked =
          (.ok .done, after) ∧ Loses .listener [m.id] cloud after := by
    have hlooked : Loses .listener [] cloud looked := .of_sameRecords hworks hsame
    have hstored : r ∈ looked.resources .listener := by
      rw [hsame]
      exact hr
    obtain ⟨after, hrun, hloses⟩ := deletes_call (Cloud.remove_takes "elb" "delete_listener_force" _)
      looked (hlooked.addressable hcloud) r hstored m hm
    exact ⟨after, hrun, hlooked.trans hloses⟩
  dsimp only
  rw [deleteListenerStep]
  by_cases hasked : (balancers.isEmpty || (owner? m).any (· ∈ balancers)) = true
  · have hkept : ¬ (!balancers.isEmpty && !(owner? m).any (· ∈ balancers)) = true := by
      rw [← Bool.not_or, hasked]
      decide
    rw [if_pos hasked, if_pos hasked, if_neg hkept]
    cases (m.text? "default_pool_id").filter fun pool => !pool.isEmpty with
    | none => exact hdelete cloud rfl rfl
    | some pool =>
        obtain ⟨calls, hpool⟩ :=
          ((Answers.enter hcloud.works "elb" "delete_pool_cascade" pool).catch_pure ()) cloud.calls
        obtain ⟨after, hrun, hloses⟩ :=
          hdelete { cloud with calls := cloud.calls ++ calls } rfl rfl
        exact ⟨after, (Steps.run_bind_of_ok hpool).trans hrun, hloses⟩
  · rw [if_neg hasked, if_neg hasked, if_pos (by simpa using hasked)]
    exact ⟨cloud, rfl, .of_sameRecords rfl rfl⟩

/-! ### Batches -/

/-- Steps that delete single records leave, one after the other, those that were not asked for. -/
theorem run_deletions {asked : Resource → Bool} {step : Resource → CloudM Step}
    (hstep : Deletes type asked step) {cloud : Cloud} (hcloud : cloud.Addressable type)
    {batch : List Resource} (hbatch : cloud.Lists type batch) (hdistinct : (batch.map (·.id)).Nodup)
    (report : Report) :
    ∃ after, (eachWith (fun _ r => return (← step r, ())) () report batch).run cloud =
        (.ok (report.addAll (fun r => if asked r then .done else .skipped) batch), after) ∧
      Loses type ((batch.filter asked).map (·.id)) cloud after := by
  induction batch generalizing cloud report with
  | nil => exact ⟨cloud, rfl, .of_sameRecords rfl rfl⟩
  | cons m rest ih =>
      obtain ⟨⟨r, hr, hm⟩, hrest⟩ := List.forall_mem_cons.1 hbatch
      rw [List.map_cons, List.nodup_cons] at hdistinct
      obtain ⟨middle, hfirst, hmiddle⟩ := hstep cloud hcloud r hr m hm
      -- The first step leaves the records that the rest of the batch was listed from.
      have hkept : ∀ other ∈ rest, other.id ∉ if asked m then [m.id] else [] := by
        intro other hother hid
        split at hid
        next =>
          refine hdistinct.1 ?_
          rw [← List.mem_singleton.1 hid]
          exact List.mem_map_of_mem hother
        next => exact List.not_mem_nil hid
      obtain ⟨after, hothers, hafter⟩ := ih (hmiddle.addressable hcloud)
        (hmiddle.lists hrest hkept) hdistinct.2
        (report.add m.id (if asked m then .done else .skipped))
      have hone : (do return (← step m, ()) : CloudM (Step × Unit)).run cloud =
          (.ok (if asked m then .done else .skipped, ()), middle) := Steps.run_bind_of_ok hfirst
      refine ⟨after, ?_, ?_⟩
      · rw [eachWith, Steps.run_bind_of_ok hone, Report.addAll, List.foldl_cons, ← Report.addAll]
        exact hothers
      · have hall := hmiddle.trans hafter
        rw [List.filter_cons]
        split at hall
        next hasked => rwa [if_pos hasked]
        next hasked => rwa [if_neg hasked]

theorem deletes_of_deletion {kind : ActionKind} (hkind : type.deletion? = some kind) (block : Json)
    (build : BuildContext) : ∃ name step,
    kind.build block build = .ok (ofStep name fun _ r => step r) ∧
      Deletes type (block.asksFor type) step := by
  cases type with
  | loadBalancer =>
      cases hkind
      exact ⟨_, _, rfl, deletes_call (Cloud.remove_takes "elb" "delete_loadbalancer_cascade" _)⟩
  | listener =>
      cases hkind
      exact ⟨_, _, rfl, deletes_listener _⟩
  | function =>
      cases hkind
      exact ⟨_, _, rfl, deletes_call Cloud.deleteFunction_takes⟩
  | topic =>
      cases hkind
      exact ⟨_, _, rfl, deletes_call Cloud.deleteTopic_takes⟩
  | patch => cases hkind
  | script => cases hkind

/-- **Deletions are exact.** Where no call fails, no two records of the type share an identifier,
and functions have resource names, the action that deletes resources of the type comes to its end on
any batch of listed resources. It reports no failure, and as done, in their order, the resources
that its block asks for: all of them, or the listeners whose first load balancer is among those that
the block names. Of the stored records exactly those are gone that it reports. -/
theorem deletions_exact {kind : ActionKind} (hkind : type.deletion? = some kind) {cloud : Cloud}
    (hcloud : cloud.Addressable type) {batch : List Resource} (hbatch : cloud.Lists type batch)
    (hdistinct : (batch.map (·.id)).Nodup) (block : Json) (build : BuildContext)
    (context : RunContext) :
    ∃ action report after, kind.build block build = .ok action ∧
      (action.process context batch).run cloud = (.ok report, after) ∧
      report.failed = [] ∧
      report.succeeded = (batch.filter (block.asksFor type)).map (·.id) ∧
      after.resources type = (cloud.resources type).filter (fun r => r.id ∉ report.succeeded) ∧
      ∀ other, other ≠ type → after.resources other = cloud.resources other := by
  obtain ⟨name, step, hbuild, hstep⟩ := deletes_of_deletion hkind block build
  obtain ⟨after, hrun, hloses⟩ :=
    run_deletions hstep hcloud hbatch hdistinct { action := name }
  have hsucceeded : (({ action := name } : Report).addAll
      (fun r => if block.asksFor type r then .done else .skipped) batch).succeeded =
      (batch.filter (block.asksFor type)).map (·.id) := by
    rw [Report.succeeded_addAll]
    refine congrArg (List.map _) (List.filter_congr fun r _ => ?_)
    cases block.asksFor type r <;> rfl
  refine ⟨_, _, after, hbuild, hrun, ?_, hsucceeded, ?_, hloses.others⟩
  · rw [Report.failed_addAll]
    refine List.filterMap_eq_nil_iff.2 fun r _ => ?_
    cases block.asksFor type r <;> rfl
  · rw [hsucceeded]
    exact hloses.left

/-- Of two functions the one is deleted, whose resource name ends in `:latest`. -/
theorem named_function_deleted :
    let function (name urn : String) : Resource :=
      .ofRecord (.obj [("id", .string name), ("func_urn", .string urn)])
    let old := function "fn-old" "urn:fss:fn-old:latest"
    let cloud := ({} : Cloud).setResources .function [old, function "fn-new" "urn:fss:fn-new"]
    ∃ action report after, ActionKind.deleteFunction.build .null default = .ok action ∧
      (action.process default [old]).run cloud = (.ok report, after) ∧
      report.failed = [] ∧ report.succeeded = ["fn-old"] ∧
      (after.resources .function).map (·.id) = ["fn-new"] := by
  intro function old cloud
  have hunlike : old.Unlike .function (function "fn-new" "urn:fss:fn-new") := by
    rw [Resource.Unlike,
      show old.identifiers .function = ["fn-old", "urn:fss:fn-old"] by decide +kernel,
      show (function "fn-new" "urn:fss:fn-new").identifiers .function =
        ["fn-new", "urn:fss:fn-new"] by decide +kernel]
    simp [List.Disjoint]
  have hnamed : ∀ r ∈ cloud.resources .function,
      ∃ urn, r.text? "func_urn" = some urn ∧ urn ≠ "" := by
    have hstored : cloud.resources .function = [old, function "fn-new" "urn:fss:fn-new"] := rfl
    rw [hstored, List.forall_mem_cons, List.forall_mem_singleton]
    exact ⟨⟨"urn:fss:fn-old:latest", by decide +kernel, by decide⟩,
      ⟨"urn:fss:fn-new", by decide +kernel, by decide⟩⟩
  have hcloud : cloud.Addressable .function :=
    ⟨rfl, .cons (by simpa using hunlike) (List.pairwise_singleton _ _), fun _ => hnamed⟩
  have hbatch : cloud.Lists .function [old] :=
    List.forall_mem_singleton.2 ⟨old, List.mem_cons_self, rfl⟩
  obtain ⟨action, report, after, hbuild, hrun, hfailed, hsucceeded, hleft, -⟩ :=
    deletions_exact rfl hcloud hbatch (List.nodup_singleton _) .null default default
  have hsucceeded : report.succeeded = ["fn-old"] := by
    rw [hsucceeded]
    decide +kernel
  refine ⟨action, report, after, hbuild, hrun, hfailed, hsucceeded, ?_⟩
  rw [hleft, hsucceeded]
  decide +kernel

end Action

end CloudPolicy
