import Mathlib.Data.List.Pairwise
import CloudPolicy.Proofs.ActionEffects
import CloudPolicy.Proofs.RunEffects

/-! Which stored records a run can change. Actions address records by identifiers, by resource names
with or without `:latest`, and by batches of identifiers. Main statement: when no two records of a
type share an identifier, a run leaves every record as it is that its filters did not leave in the
matched set, however the run ends. -/

namespace CloudPolicy

open Steps (Within)

/-! ### Identifiers -/

/-- A resource name without any `:latest` at its end. -/
def bareName (urn : String) : String :=
  match _h : Text.dropEnding? ":latest" urn with
  | some shorter => bareName shorter
  | none => urn
termination_by urn.length
decreasing_by
  obtain ⟨rest, hrest, rfl⟩ := Option.map_eq_some_iff.1 _h
  have hlength := congrArg List.length (Text.dropFront?_eq_some_iff.1 hrest)
  have hending : ":latest".toList.reverse.length = 7 := rfl
  rw [List.length_reverse, String.length_toList, List.length_append, hending] at hlength
  rw [String.length_ofList, List.length_reverse]
  omega

theorem bareName_withoutLatest (urn : String) :
    bareName (Cloud.withoutLatest urn) = bareName urn := by
  rw [Cloud.withoutLatest]
  cases h : Text.dropEnding? ":latest" urn with
  | none => rfl
  | some shorter =>
      rw [Option.getD_some]
      conv_rhs => unfold bareName
      split
      next other hother =>
        rw [h] at hother
        cases hother
        rfl
      next hnone =>
        rw [h] at hnone
        cases hnone

/-- The field for the resource name in the records of a type. -/
def ResourceType.urnField? : ResourceType → Option String
  | .function => some "func_urn"
  | .topic => some "topic_urn"
  | _ => none

namespace Resource

/-- The identifiers of a record of a type, without any `:latest` at their ends. -/
def identifiers (type : ResourceType) (r : Resource) : List String :=
  (r.id :: (type.urnField?.bind r.text?).toList).map bareName

/-- The two records of a type have no identifier in common. -/
def Unlike (type : ResourceType) (r s : Resource) : Prop :=
  (r.identifiers type).Disjoint (s.identifiers type)

instance (type : ResourceType) : Std.Symm (Unlike type) where
  symm := fun _ _ h _ hs hr => h hr hs

variable {type : ResourceType} {r s : Resource}

theorem bareName_id_mem : bareName r.id ∈ r.identifiers type := List.mem_cons_self

theorem bareName_urn_mem {field urn : String} (hfield : type.urnField? = some field)
    (hurn : r.text? field = some urn) : bareName urn ∈ r.identifiers type := by
  rw [identifiers, hfield, Option.bind_some, hurn]
  exact List.mem_cons_of_mem _ List.mem_cons_self

theorem bareName_functionUrn_mem : bareName r.functionUrn ∈ r.identifiers .function := by
  rw [functionUrn]
  cases hurn : (r.text? "func_urn").filter fun urn => !urn.isEmpty with
  | none => exact bareName_id_mem
  | some urn => exact bareName_urn_mem rfl (Option.filter_eq_some_iff.1 hurn).1

theorem bareName_topicUrn_mem : bareName r.topicUrn ∈ r.identifiers .topic := by
  rw [topicUrn]
  cases hurn : r.text? "topic_urn" with
  | none => exact bareName_id_mem
  | some urn => exact bareName_urn_mem rfl hurn

/-- What addresses a record is one of its identifiers, up to `:latest` at their ends. -/
theorem bareName_mem_of_addressedBy {field target : String} (hfield : type.urnField? = some field)
    (h : Cloud.addressedBy field target r = true) : bareName target ∈ r.identifiers type := by
  rcases of_decide_eq_true h with hid | hurn
  · rw [← hid]
    exact bareName_id_mem
  · exact bareName_urn_mem hfield hurn

theorem bareName_mem_of_isFunction {target : String} (h : Cloud.isFunction target r = true) :
    bareName target ∈ r.identifiers .function := by
  rcases of_decide_eq_true h with hid | hurn
  · rw [← hid]
    exact bareName_id_mem
  · obtain ⟨urn, htext, rfl⟩ := Option.map_eq_some_iff.1 hurn
    rw [bareName_withoutLatest]
    exact bareName_urn_mem rfl htext

theorem Reflects.identifiers_eq (h : s.Reflects r) : s.identifiers type = r.identifiers type := by
  rw [identifiers, identifiers, h.id_eq]
  cases type <;> simp [ResourceType.urnField?, h.text?_eq, caches]

end Resource

namespace Cloud

/-- No two records of one type share an identifier. -/
def Distinguished (cloud : Cloud) : Prop :=
  ∀ type, (cloud.resources type).Pairwise (Resource.Unlike type)

/-- The stored records of a type whose identifiers a batch does not list. -/
def bystanders (cloud : Cloud) (type : ResourceType) (batch : List Resource) : List Resource :=
  (cloud.resources type).filter fun r => r.id ∉ batch.map (·.id)

/-- No bystander shares an identifier with a resource of the batch. -/
def Apart (cloud : Cloud) (type : ResourceType) (batch : List Resource) : Prop :=
  ∀ r ∈ cloud.bystanders type batch, ∀ m ∈ batch, r.Unlike type m

/-- Records of other types are the same, and so are the bystanders when they are apart from the
batch. -/
def Spares (type : ResourceType) (batch : List Resource) (before after : Cloud) : Prop :=
  (∀ other, other ≠ type → after.resources other = before.resources other) ∧
    (before.Apart type batch → after.bystanders type batch = before.bystanders type batch)

variable {type : ResourceType} {batch : List Resource}

instance : IsPreorder Cloud (Spares type batch) where
  refl := fun _ => ⟨fun _ _ => rfl, fun _ => rfl⟩
  trans := by
    rintro before middle after ⟨hothers, hspared⟩ ⟨hothers', hspared'⟩
    refine ⟨fun other hother => (hothers' other hother).trans (hothers other hother), ?_⟩
    intro hapart
    have hmiddle := hspared hapart
    have hapart' : middle.Apart type batch := by
      rw [Apart, hmiddle]
      exact hapart
    exact (hspared' hapart').trans hmiddle

theorem SameRecords.spares {before after : Cloud} (h : SameRecords before after) :
    Spares type batch before after := by
  rw [SameRecords] at h
  exact ⟨fun other _ => by rw [h], fun _ => by rw [bystanders, bystanders, h]⟩

theorem spares_setResources {before : Cloud} {stored : List Resource}
    (hstored : before.Apart type batch →
      (stored.filter fun r => r.id ∉ batch.map (·.id)) = before.bystanders type batch) :
    Spares type batch before (before.setResources type stored) := by
  refine ⟨fun other hother => resources_setResources_of_ne before hother stored, fun hapart => ?_⟩
  rw [bystanders, resources_setResources_self]
  exact hstored hapart

theorem Apart.not_mem {cloud : Cloud} (hapart : cloud.Apart type batch) {r m : Resource}
    (hr : r ∈ cloud.bystanders type batch) (hm : m ∈ batch) {name : String}
    (hname : name ∈ m.identifiers type) : name ∉ r.identifiers type :=
  fun hname' => hapart r hr m hm hname' hname

/-- Records that the test singles out may be removed when it singles out no bystander. -/
theorem filter_spares {before : Cloud} {doomed : Resource → Bool}
    (hdoomed : before.Apart type batch → ∀ r ∈ before.bystanders type batch, doomed r = false) :
    Spares type batch before
      (before.setResources type ((before.resources type).filter fun r => !doomed r)) := by
  refine spares_setResources fun hapart => ?_
  rw [bystanders, List.filter_filter]
  refine List.filter_congr fun r hr => ?_
  by_cases hby : r.id ∈ batch.map (·.id)
  · simp [hby]
  · have hspared : doomed r = false :=
      hdoomed hapart r (List.mem_filter.2 ⟨hr, decide_eq_true hby⟩)
    simp [hspared]

/-- A record that the test singles out may be changed when it singles out no bystander. -/
theorem updateFirst_spares {before : Cloud} {chosen : Resource → Bool} {f : Resource → Resource}
    (hf : ∀ r, (f r).id = r.id)
    (hchosen : before.Apart type batch → ∀ r ∈ before.bystanders type batch, chosen r = false) :
    Spares type batch before
      (before.setResources type (updateFirst chosen f (before.resources type))) := by
  refine spares_setResources fun hapart => filter_updateFirst fun r hr hp => ?_
  rw [hf r]
  by_cases hby : r.id ∈ batch.map (·.id)
  · simp [hby]
  · have hspared := hchosen hapart r (List.mem_filter.2 ⟨hr, decide_eq_true hby⟩)
    rw [hp] at hspared
    cases hspared

/-! ### Operations -/

theorem writeTags_spares {operation tagTypeName : String}
    (htype : type.tagServiceName? = some tagTypeName) {ids : List String}
    (hids : ids ⊆ batch.map (·.id)) (f : TagSet → TagSet) :
    Within (Spares type batch) (fun _ => True) (writeTags operation tagTypeName ids f) := by
  have hlisted : ∀ id ∈ ids, decide (id ∉ batch.map (·.id)) = false := fun id hid =>
    decide_eq_false fun hother => hother (hids hid)
  exact writeTags_within (fun _ _ h => h.records.spares) htype fun _ =>
    spares_setResources fun _ => filter_retagAll hlisted

theorem updateRecord_spares {service operation : String} {m : Resource} (hm : m ∈ batch)
    {f : Resource → Resource} (hf : ∀ r, (f r).id = r.id) :
    Within (Spares type batch) (fun _ => True) (updateRecord service operation type m.id f) := by
  refine updateRecord_within (fun _ _ h => h.records.spares) fun _ =>
    updateFirst_spares hf fun _ r hr => ?_
  have hby : r.id ∉ batch.map (·.id) := of_decide_eq_true (List.mem_filter.1 hr).2
  refine decide_eq_false fun hid => hby ?_
  rw [hid]
  exact List.mem_map_of_mem hm

/-- A record that is addressed by an identifier of a resource of the batch is no bystander. -/
theorem Apart.addressedBy_eq_false {cloud : Cloud} (hapart : cloud.Apart type batch)
    {r m : Resource} (hr : r ∈ cloud.bystanders type batch) (hm : m ∈ batch) {field target : String}
    (hfield : type.urnField? = some field) (htarget : bareName target ∈ m.identifiers type) :
    addressedBy field target r = false :=
  Bool.eq_false_iff.2 fun h =>
    hapart.not_mem hr hm htarget (Resource.bareName_mem_of_addressedBy hfield h)

theorem deleteTopic_spares {m : Resource} (hm : m ∈ batch) :
    Within (Spares .topic batch) (fun _ => True) (deleteTopic m.topicUrn) :=
  remove_within (fun _ _ h => h.records.spares) fun _ => filter_spares fun hapart _ hr =>
    hapart.addressedBy_eq_false hr hm rfl Resource.bareName_topicUrn_mem

/-- Records of a type without resource names are removed by their identifier. -/
theorem remove_spares {service operation : String} {m : Resource} (hm : m ∈ batch) :
    Within (Spares type batch) (fun _ => True) (remove service operation type "id" m.id) := by
  refine remove_within (fun _ _ h => h.records.spares) fun _ => filter_spares fun _ r hr => ?_
  have hby : r.id ∉ batch.map (·.id) := of_decide_eq_true (List.mem_filter.1 hr).2
  have hid : r.id ≠ m.id := fun heq => hby (heq ▸ List.mem_map_of_mem hm)
  refine decide_eq_false ?_
  rintro (heq | heq)
  · exact hid heq
  · refine hid ?_
    rw [Resource.id, heq]
    rfl

theorem deleteFunction_spares {m : Resource} (hm : m ∈ batch) :
    Within (Spares .function batch) (fun _ => True)
      (deleteFunction (withoutLatest m.functionUrn)) := by
  refine (enter_within (fun _ _ h => h.records.spares) _ _ _).andThen fun _ =>
    .of_modify fun cloud => ?_
  have hdeleted : Spares .function batch cloud (cloud.setResources .function
      ((cloud.resources .function).filter fun r =>
        !isFunction (withoutLatest m.functionUrn) r)) := by
    refine filter_spares fun hapart r hr => Bool.eq_false_iff.2 fun h => ?_
    have hother := hapart.not_mem hr hm Resource.bareName_functionUrn_mem
    rw [← bareName_withoutLatest] at hother
    exact hother (Resource.bareName_mem_of_isFunction h)
  exact trans_of (Spares .function batch) hdeleted (SameRecords.spares rfl)

theorem updateMaxInstances_spares {m : Resource} (hm : m ∈ batch) (count : Int) :
    Within (Spares .function batch) (fun _ => True) (updateMaxInstances m.functionUrn count) :=
  (enter_within (fun _ _ h => h.records.spares) _ _ _).andThen fun _ => .of_modify fun _ =>
    updateFirst_spares (fun r => r.id_set_of_ne (by decide) _) fun hapart _ hr =>
      hapart.addressedBy_eq_false hr hm rfl Resource.bareName_functionUrn_mem

theorem admits_spares (type : ResourceType) (batch : List Resource) :
    Admits (Spares type batch) type batch where
  keeps := fun _ _ h => h.records.spares
  writeTags := fun htype hids => writeTags_spares htype hids _
  updateRecord := fun hm hf => updateRecord_spares hm hf
  remove := remove_spares
  deleteTopic := by
    rintro rfl m hm
    exact deleteTopic_spares hm
  deleteFunction := by
    rintro rfl m hm
    exact deleteFunction_spares hm
  updateMaxInstances := by
    rintro rfl m hm count
    exact updateMaxInstances_spares hm count

end Cloud

open Cloud (Spares)

variable {type : ResourceType} {batch : List Resource}

/-- Whatever a kind of the type builds, apart from the trimming of versions, spares the bystanders
of the resources that it is run on. -/
theorem ActionKind.Builds.spares {kind : ActionKind} {action : Action}
    (hbuilds : kind.Builds action) {context : RunContext} (htype : context.resourceType = type)
    (hkind : kind ∈ type.actions) (htrim : kind ≠ ActionKind.trimVersions) :
    Within (Spares type batch) (fun _ => True) (action.process context batch) :=
  hbuilds.within (Cloud.admits_spares type batch) htype hkind fun h => absurd h htrim

/-! ### Runs -/

namespace Policy

/-- The resources that a run matched were kept of distinguished records, and so the records that it
did not match share no identifier with them. -/
theorem apart_matched {policy : Policy} {settings : Settings} {now : Timestamp}
    {event : Option Event} {schedule : List Nat} {cloud : Cloud}
    (hfilters : ∀ filter ∈ policy.filters, filter.Narrows) (hcloud : cloud.Distinguished) :
    cloud.Apart policy.resourceType (policy.matched settings now event schedule cloud) := by
  intro r hr m hm
  obtain ⟨hstored, hby⟩ := List.mem_filter.1 hr
  obtain ⟨seen, -, origin, horigin, hreflects⟩ := exists_of_mem_matched hfilters hm
  have horigin : origin ∈ cloud.resources policy.resourceType := by
    cases seen with
    | none => exact horigin
    | some event => exact (List.mem_filter.1 horigin).1
  have hne : r ≠ origin := by
    rintro rfl
    refine of_decide_eq_true hby ?_
    rw [← hreflects.id_eq]
    exact List.mem_map_of_mem hm
  rw [Resource.Unlike, hreflects.identifiers_eq]
  exact (hcloud policy.resourceType).forall hstored horigin hne

/-- **A run changes nothing but what its filters matched.** In a cloud in which no two records of a
type share an identifier, a run of a compiled policy without the trimming of versions leaves the
records of other types, and of its own type all records whose identifier is not matched, as they
were, whether it comes to its end or fails at some call. What it reports as matched is what its
filters left, and on an event these are resources that the event names. -/
theorem run_changes_only_matched (building settings : Settings) (document : PolicyDocument)
    (policies : List Policy) (hcompiled : ofDocument building document = .ok policies)
    (policy : Policy) (hpolicy : policy ∈ policies)
    (htrim : ∀ action ∈ policy.actions, action.name ≠ ActionKind.trimVersions.name)
    (sink : AuditSink) (now : Timestamp) (runId : RunId) (event : Option Event)
    (schedule : List Nat) (world : World) (hcloud : world.cloud.Distinguished) :
    let run := (policy.run sink settings now runId event schedule).run world
    let matched := policy.matched settings now event schedule world.cloud
    (∀ type, type ≠ policy.resourceType →
      run.2.cloud.resources type = world.cloud.resources type) ∧
    ((run.2.cloud.resources policy.resourceType).filter fun r => r.id ∉ matched.map (·.id)) =
      ((world.cloud.resources policy.resourceType).filter fun r => r.id ∉ matched.map (·.id)) ∧
    (∀ outcome, run.1 = .ok outcome → outcome.matched = matched) ∧
    (policy.mode.isEventDriven → ∀ given, event = some given →
      (∀ m ∈ matched, m.id ∈ given.resourceIds) ∧
      (given.resourceIds = [] → run.2.cloud.resources = world.cloud.resources)) := by
  intro run matched
  obtain ⟨hfilters, hactions⟩ := compiled_of_ofDocument hcompiled hpolicy
  have hnarrows : ∀ filter ∈ policy.filters, filter.Narrows := by
    intro filter hfilter
    obtain ⟨kind, -, block, hbuild⟩ := hfilters filter hfilter
    exact (FilterKind.builds_of_build hbuild).narrows
  have hspares : ∀ context : RunContext, context.resourceType = policy.resourceType →
      ∀ action ∈ policy.actions, Within (Spares policy.resourceType matched) (fun _ => True)
        (action.process context matched) := by
    intro context htype action haction
    obtain ⟨kind, hkind, block, hbuild⟩ := hactions action haction
    have hbuilds := ActionKind.builds_of_build hbuild
    refine hbuilds.spares htype hkind fun hkind => htrim action haction ?_
    rw [hbuilds.name_eq, hkind]
  obtain ⟨⟨hothers, hspared⟩, hended⟩ := run_of_actions
    (fun _ _ hlogs => hlogs.sameRecords.spares) hnarrows hspares sink runId
  have hbystanders := hspared (apart_matched hnarrows hcloud)
  have hnamed : policy.mode.isEventDriven → ∀ given, event = some given →
      ∀ m ∈ matched, m.id ∈ given.resourceIds := by
    rintro hmode given rfl m hm
    obtain ⟨seen, htrigger, origin, horigin, hreflects⟩ := exists_of_mem_matched hnarrows hm
    obtain rfl := seen_of_trigger hmode htrigger
    rw [hreflects.id_eq]
    exact of_decide_eq_true (List.mem_filter.1 horigin).2
  refine ⟨hothers, hbystanders, hended, fun hmode given hgiven => ⟨hnamed hmode given hgiven, ?_⟩⟩
  intro hnone
  have hnothing : matched = [] := by
    refine List.eq_nil_iff_forall_not_mem.2 fun m hm => ?_
    have hm := hnamed hmode given hgiven m hm
    rw [hnone] at hm
    exact absurd hm List.not_mem_nil
  funext type
  by_cases htype : type = policy.resourceType
  · rw [htype]
    have hall := hbystanders
    change _ = Cloud.bystanders _ _ matched at hall
    rw [hnothing] at hall
    simpa [Cloud.bystanders] using hall
  · exact hothers type htype

/-- Of two functions, one is deleted on an event that names it, by its resource name without
`:latest`; the other one stays. -/
theorem deletion_spares_other_function :
    let document : PolicyDocument :=
      ⟨[{ name := "retire", resource := "functiongraph", mode := .trail [],
          actions := [.string "delete-function"] }]⟩
    let function (name : String) : Resource :=
      .ofRecord (.obj [("id", .string name),
        ("func_urn", .string ("urn:fss:" ++ name ++ ":latest"))])
    let cloud := ({} : Cloud).setResources .function [function "fn-old", function "fn-new"]
    ∃ policy, ofDocument {} document = .ok [policy] ∧ policy.actions.length = 1 ∧
      let run := (policy.run (.ledger Sha256.hex) {} ⟨0, 0⟩ (.ofNat 1)
        (some { resourceIds := ["fn-old"] })).run ⟨cloud, {}⟩
      ((run.2.cloud.resources .function).filter fun r => r.id ∉ ["fn-old"]) =
        [function "fn-new"] := by
  intro document function cloud
  refine ⟨_, rfl, rfl, ?_⟩
  have hcloud : cloud.Distinguished := by
    intro type
    cases type with
    | function =>
        have hunlike : (function "fn-old").Unlike .function (function "fn-new") := by
          rw [Resource.Unlike,
            show (function "fn-old").identifiers .function = ["fn-old", "urn:fss:fn-old"] by
              decide +kernel,
            show (function "fn-new").identifiers .function = ["fn-new", "urn:fss:fn-new"] by
              decide +kernel]
          simp [List.Disjoint]
        exact .cons (by simpa using hunlike) (List.pairwise_singleton _ _)
    | loadBalancer | listener | patch | script | topic => exact .nil
  obtain ⟨-, hspared, -⟩ := run_changes_only_matched {} {} document _ rfl _ List.mem_cons_self
    (by decide) (.ledger Sha256.hex) ⟨0, 0⟩ (.ofNat 1) (some { resourceIds := ["fn-old"] }) []
    ⟨cloud, {}⟩ hcloud
  exact hspared

end Policy

end CloudPolicy
