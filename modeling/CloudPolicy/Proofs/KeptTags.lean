import CloudPolicy.Proofs.Attribution

/-! What an attribution that does not overwrite leaves alone: the tag of every resource that had it
when the run listed the resources, whatever the actions before it did and whatever fails. -/

namespace CloudPolicy

open Steps (Within)

/-! ### The tag of one resource -/

namespace Cloud

/-- The tag under the key of the resource with the identifier `id` is the same. -/
def Holds (type : ResourceType) (key id : String) (before after : Cloud) : Prop :=
  ((after.column type key).filter fun c => c.1 = id) =
    (before.column type key).filter fun c => c.1 = id

variable {type : ResourceType} {key id : String}

instance : IsPreorder Cloud (Holds type key id) where
  refl := fun _ => rfl
  trans := fun _ _ _ h h' => Eq.trans h' h

theorem SameRecords.holds {before after : Cloud} (h : SameRecords before after) :
    Holds type key id before after := by
  have hrecords : after.resources = before.resources := h
  rw [Holds, column, column, hrecords]

theorem filter_column (cloud : Cloud) (type : ResourceType) (key id : String) :
    ((cloud.column type key).filter fun c => c.1 = id) =
      ((cloud.resources type).filter fun r => r.id = id).map (Resource.cell key) := by
  rw [column, List.filter_map]
  rfl

variable {operation tagTypeName : String} {ids : List String} {f : TagSet → TagSet}

/-- A write to other resources leaves the tag. -/
theorem writeTags_holds_of_not_mem (htype : type.tagServiceName? = some tagTypeName)
    (hid : id ∉ ids) :
    Within (Holds type key id) (fun _ => True) (writeTags operation tagTypeName ids f) := by
  refine writeTags_within (fun _ _ h => h.records.holds) htype fun cloud => ?_
  have hids : ∀ other ∈ ids, decide (other = id) = false := by
    rintro other hother
    refine decide_eq_false ?_
    rintro rfl
    exact hid hother
  rw [Holds, filter_column, filter_column, resources_setResources_self]
  exact congrArg (List.map (Resource.cell key)) (filter_retagAll hids)

/-- A write under other keys leaves the tag. -/
theorem writeTags_holds_of_get?_eq (htype : type.tagServiceName? = some tagTypeName)
    (hf : ∀ tags, (f tags).get? key = tags.get? key) :
    Within (Holds type key id) (fun _ => True) (writeTags operation tagTypeName ids f) := by
  refine writeTags_within (fun _ _ h => h.records.holds) htype fun cloud => ?_
  rw [Holds, column, column, resources_setResources_self, map_retagAll fun r => ?_]
  rw [Resource.cell, Resource.cell, id_retag, tags_retag, hf]

end Cloud

namespace Action

open Cloud (Holds)

variable {options : AttributionOptions} {resources : List Resource}
  {id : String}

theorem not_mem_primaryTargets (hupdate : options.update = false)
    (htagged : ∀ r ∈ resources, r.id = id → r.tags.contains options.tag = true) :
    id ∉ primaryTargets options resources := by
  rw [primaryTargets, hupdate]
  intro hid
  obtain ⟨r, hr, rfl⟩ := List.mem_map.1 hid
  obtain ⟨hr, hlacks⟩ := List.mem_filter.1 hr
  rw [htagged r hr rfl] at hlacks
  cases hlacks

/-- An attribution leaves the tag of a resource that it was handed with that tag. -/
theorem autoTag_holds (context : RunContext) (hupdate : options.update = false)
    (hprincipal : options.principalTag = some options.tag → options.principalTarget ≠ .all)
    (htagged : ∀ r ∈ resources, r.id = id → r.tags.contains options.tag = true) :
    Within (Holds context.resourceType options.tag id) (fun _ => True)
      ((autoTag options).process context resources) := by
  have huntouched := not_mem_primaryTargets hupdate htagged
  refine (autoTag_calls ..).within ?_
  rintro request ⟨key, value, targets, h, htargets⟩
  have helsewhere (hid : id ∉ targets) :
      Within (Holds context.resourceType options.tag id) (fun _ => True) request.call := by
    rw [TagRequest.call, TagWrite.call_eq]
    exact Cloud.writeTags_holds_of_not_mem h.type fun hmem => hid (h.ids hmem)
  rcases htargets with ⟨-, rfl⟩ | ⟨hkey, rfl⟩
  · exact helsewhere huntouched
  by_cases hsame : key = options.tag
  · refine helsewhere ?_
    rw [principalTargets]
    cases htarget : options.principalTarget with
    | untagged => exact huntouched
    | all => exact absurd htarget (hprincipal (hsame ▸ hkey))
  · rw [TagRequest.call, TagWrite.call_eq, h.write]
    refine Cloud.writeTags_holds_of_get?_eq h.type fun tags => ?_
    exact TagSet.get?_insert_of_ne tags (Ne.symm hsame) value

end Action

/-! ### Runs -/

namespace Policy

open Cloud (Holds)

/-- The policy without its actions from the one at position `n` on. -/
def cut (policy : Policy) (n : Nat) : Policy := { policy with actions := policy.actions.take n }

variable {R : Cloud → Cloud → Prop} [IsPreorder Cloud R] {policy : Policy} {action : Action}
  {n : Nat} {settings : Settings} {now : Timestamp} {event : Option Event} {schedule : List Nat}
  {world : World}

/-- What holds of an action on what the filters leave holds of its part of a run. -/
theorem rel_cut_succ (hposition : policy.actions[n]? = some action)
    (haction : ∀ seen matched listed,
      (policy.select (policy.runContext settings now seen schedule)).run world.cloud =
        (.ok matched, listed) →
      Within R (fun _ => True)
        (action.process (policy.runContext settings now seen schedule) matched))
    (sink : AuditSink) (runId : RunId) :
    R (((policy.cut n).run sink settings now runId event schedule).run world).2.cloud
      (((policy.cut (n + 1)).run sink settings now runId event schedule).run world).2.cloud := by
  by_cases hrun : ∃ seen, policy.trigger event = .run seen
  · obtain ⟨seen, htrigger⟩ := hrun
    have hrun (k : Nat) : (policy.cut k).trigger event = .run seen := htrigger
    rcases hselect : (policy.select (policy.runContext settings now seen schedule)).run
      world.cloud with ⟨e | matched, listed⟩
    · have hfails (k : Nat) : (((policy.cut k).run sink settings now runId event schedule).run
          world).2.cloud = listed := by
        have hselect : ((policy.cut k).select ((policy.cut k).runContext settings now seen
          schedule)).run world.cloud = (.error e, listed) := hselect
        rw [run_of_trigger (hrun k), execute, Steps.run_bind_of_error (RunM.run_inCloud hselect)]
      rw [hfails, hfails]
      exact refl_of R listed
    · have hacts (k : Nat) : (((policy.cut k).run sink settings now runId event schedule).run
          world).2.cloud = ((act sink runId (policy.runContext settings now seen schedule) matched
            ((policy.cut k).due settings matched)).run { world with cloud := listed }).2.cloud :=
        cloud_run_of_select (hrun k) hselect sink runId
      rw [hacts, hacts, due, due]
      split
      next => exact refl_of R listed
      next =>
        have hactions : (policy.cut (n + 1)).actions = (policy.cut n).actions ++ [action] := by
          rw [cut, cut, List.take_add_one, hposition]
          rfl
        have honly : ∀ other ∈ [action], Within R (fun _ => True)
            (other.process (policy.runContext settings now seen schedule) matched) := by
          simpa using haction seen matched listed hselect
        rw [hactions, act_append]
        refine Within.moves_bind (R := World.InCloud R) (Q := fun _ => True) (fun _ => ?_) _
        exact (act_within honly).andThen fun _ => .done _
  · have hidle (k : Nat) (seen : Option Event) : (policy.cut k).trigger event ≠ .run seen :=
      fun htrigger => hrun ⟨seen, htrigger⟩
    rw [run_of_not_run (hidle _), run_of_not_run (hidle _)]
    exact refl_of R world.cloud

/-- **Attribution keeps the tags that it finds.** Let an attribution that does not overwrite stand
at position `n` among the actions of a compiled policy; it starts in the cloud in which the run that
is cut off before it ends. Unless it writes the identifier of the actor under the same tag and to
all resources, it does not change the tag of a resource that was stored with the tag when the run
began, whatever the other actions do, whatever fails, and whether or not the run comes to its end.
Should several records share the identifier of the resource, all of them must have had the tag. -/
theorem attribution_keeps_tags (building settings : Settings) (document : PolicyDocument)
    (policies : List Policy) (hcompiled : ofDocument building document = .ok policies)
    (policy : Policy) (hpolicy : policy ∈ policies) (n : Nat) (options : AttributionOptions)
    (hposition : policy.actions[n]? = some (.autoTag options)) (hupdate : options.update = false)
    (hprincipal : options.principalTag = some options.tag → options.principalTarget ≠ .all)
    (sink : AuditSink) (now : Timestamp) (runId : RunId) (event : Option Event)
    (schedule : List Nat) (world : World) (id : String)
    (htagged : ∀ r ∈ world.cloud.resources policy.resourceType, r.id = id →
      r.tags.contains options.tag) :
    let cloudAfter (k : Nat) :=
      (((policy.cut k).run sink settings now runId event schedule).run world).2.cloud
    (((cloudAfter (n + 1)).column policy.resourceType options.tag).filter fun c => c.1 = id) =
      ((cloudAfter n).column policy.resourceType options.tag).filter fun c => c.1 = id := by
  obtain ⟨hfilters, -⟩ := compiled_of_ofDocument hcompiled hpolicy
  have hnarrows : ∀ filter ∈ policy.filters, filter.Narrows := by
    intro filter hfilter
    obtain ⟨kind, -, block, hbuild⟩ := hfilters filter hfilter
    exact (FilterKind.builds_of_build hbuild).narrows
  refine rel_cut_succ (R := Holds policy.resourceType options.tag id) hposition ?_ sink runId
  intro seen matched listed hselect
  refine Action.autoTag_holds (policy.runContext settings now seen schedule) hupdate hprincipal
    fun m hm hid => ?_
  have hkept := (select_keeps hnarrows (policy.runContext settings now seen schedule)
    world.cloud).2 matched (by rw [hselect])
  obtain ⟨r, hr, hreflects⟩ := hkept.exists_of_mem hm
  rw [hreflects.tags_eq]
  exact htagged r ((restrict_sublist seen _).subset hr) (hreflects.id_eq ▸ hid)

/-- An attribution that comes after the setting of the same tag leaves what was set on a function
that had an owner before. -/
theorem attribution_keeps_new_owner :
    let document : PolicyDocument :=
      ⟨[{ name := "owner", resource := "functiongraph", mode := .trail [],
          actions := [.obj [("type", .string "tag"), ("key", .string "Owner"),
              ("value", .string "finance")],
            .obj [("type", .string "auto-tag-user"), ("tag", .string "Owner"),
              ("principal_id_tag", .string "Owner")]] }]⟩
    let cloud := ({} : Cloud).setResources .function
      [.ofRecord (.obj [("id", .string "fn-1"), ("tags", .strings ["Owner=carol"])])]
    let event : Event :=
      { user := ⟨"IAMUser", some "alice", some "id-1"⟩, resourceIds := ["fn-1"] }
    ∃ policy, ofDocument {} document = .ok [policy] ∧
      let cloudAfter (k : Nat) := (((policy.cut k).run (.ledger Sha256.hex) {} ⟨0, 0⟩ (.ofNat 1)
        (some event)).run ⟨cloud, {}⟩).2.cloud
      (cloudAfter 1).column .function "Owner" = [("fn-1", some "finance")] ∧
        ((cloudAfter 2).column .function "Owner").filter (fun c => c.1 = "fn-1") =
          ((cloudAfter 1).column .function "Owner").filter fun c => c.1 = "fn-1" := by
  intro document cloud event
  refine ⟨_, rfl, by decide +kernel, ?_⟩
  exact attribution_keeps_tags {} {} document _ rfl _ List.mem_cons_self 1
    { tag := "Owner", principalTag := some "Owner" } rfl rfl (by decide) (.ledger Sha256.hex) ⟨0, 0⟩
    (.ofNat 1) (some event) [] ⟨cloud, {}⟩ "fn-1" (by decide +kernel)

/-- Without these conditions an attribution that does not overwrite can change a tag that its
resource has: one that was set after the resources were listed, and, with the identifier of the
actor under the same tag for all resources, also one that was there before. -/
theorem attribution_replaces_tags :
    let policyOf (actions : List Json) : PolicyDocument :=
      ⟨[{ name := "owner", resource := "functiongraph", mode := .trail [], actions }]⟩
    let setting := Json.obj [("type", .string "tag"), ("key", .string "Owner"),
      ("value", .string "finance")]
    let attribution := Json.obj [("type", .string "auto-tag-user"), ("tag", .string "Owner")]
    let attributionToAll := Json.obj [("type", .string "auto-tag-user"), ("tag", .string "Owner"),
      ("principal_id_tag", .string "Owner"), ("principal-id-target", .string "all")]
    let cloud := ({} : Cloud).setResources .function
      [.ofRecord (.obj [("id", .string "fn-1")]),
        .ofRecord (.obj [("id", .string "fn-2"), ("tags", .obj [("Owner", .string "bob")])])]
    let ownersAfter (policy : Policy) (id : String) (k : Nat) :=
      (((policy.cut k).run (.ledger Sha256.hex) {} ⟨0, 0⟩ (.ofNat 1)
        (some { user := ⟨"IAMUser", some "alice", some "id-1"⟩, resourceIds := [id] })).run
          ⟨cloud, {}⟩).2.cloud.column .function "Owner"
    (∃ policy, ofDocument {} (policyOf [setting, attribution]) = .ok [policy] ∧
      policy.actions[1]? = some (.autoTag { tag := "Owner" }) ∧
      ownersAfter policy "fn-1" 1 = [("fn-1", some "finance"), ("fn-2", some "bob")] ∧
      ownersAfter policy "fn-1" 2 = [("fn-1", some "alice"), ("fn-2", some "bob")]) ∧
    ∃ policy, ofDocument {} (policyOf [attributionToAll]) = .ok [policy] ∧
      policy.actions[0]? = some (.autoTag
        { tag := "Owner", principalTag := some "Owner", principalTarget := .all }) ∧
      ownersAfter policy "fn-2" 0 = [("fn-1", none), ("fn-2", some "bob")] ∧
      ownersAfter policy "fn-2" 1 = [("fn-1", none), ("fn-2", some "id-1")] := by
  intro policyOf setting attribution attributionToAll cloud ownersAfter
  refine ⟨⟨_, rfl, rfl, ?_, ?_⟩, _, rfl, rfl, ?_, ?_⟩ <;> decide +kernel

end Policy

end CloudPolicy
