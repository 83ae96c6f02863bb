import Mathlib.Data.List.Nodup
import CloudPolicy.Proofs.Compiled
import CloudPolicy.Proofs.TagCalls

/-! What actions may change of the stored records. Most operations of the services leave them all as
they are; for the others it is enough to know what they do to the records of one type. So a relation
between clouds holds of everything that actions do as soon as it holds of a few operations. -/

namespace CloudPolicy

open Steps (Within)

/-- The stored records are the same. -/
def Cloud.SameRecords (before after : Cloud) : Prop := after.resources = before.resources

instance : IsPreorder Cloud Cloud.SameRecords where
  refl := fun _ => rfl
  trans := fun _ _ _ h h' => Eq.trans h' h

/-- The stored records are the same, and calls were only added to the log. -/
structure Cloud.KeepsRecords (before after : Cloud) : Prop where
  records : before.SameRecords after
  calls : before.calls <+: after.calls

instance : IsPreorder Cloud Cloud.KeepsRecords where
  refl := fun cloud => ⟨refl_of Cloud.SameRecords cloud, List.prefix_rfl⟩
  trans := fun _ _ _ h h' =>
    ⟨trans_of Cloud.SameRecords h.records h'.records, h.calls.trans h'.calls⟩

namespace Cloud

theorem LogsOnly.sameRecords {before after : Cloud} (h : LogsOnly before after) :
    SameRecords before after := by
  obtain ⟨_, rfl⟩ := h
  rfl

theorem LogsOnly.keepsRecords {before after : Cloud} (h : LogsOnly before after) :
    KeepsRecords before after := by
  obtain ⟨calls, rfl⟩ := h
  exact ⟨rfl, List.prefix_append _ calls⟩

theorem enter_keeps (service operation target : String) :
    Within KeepsRecords (fun _ => True) (enter service operation target) :=
  (enter_logs service operation target).mono (fun _ _ => LogsOnly.keepsRecords) fun _ h => h

/-- A change of what is neither a record nor the log. -/
theorem keeps_of_eq {before after : Cloud} (hrecords : after.resources = before.resources)
    (hcalls : after.calls = before.calls) : KeepsRecords before after :=
  ⟨hrecords, hcalls ▸ List.prefix_rfl⟩

/-! ### Operations that leave the records -/

section

variable {α : Type} {service operation target : String}

theorem ask_logs (answer : Cloud → α) : Within LogsOnly (fun _ => True)
    (do enter service operation target; return answer (← get) : CloudM α) :=
  (enter_logs service operation target).andThen fun _ => Within.of_get.andThen fun _ => .done _

theorem ask_keeps (answer : Cloud → α) : Within KeepsRecords (fun _ => True)
    (do enter service operation target; return answer (← get) : CloudM α) :=
  (ask_logs answer).mono (fun _ _ => LogsOnly.keepsRecords) fun _ h => h

end

theorem createTransfer_keeps (transfer : Json) :
    Within KeepsRecords (fun _ => True) (createTransfer transfer) :=
  (enter_keeps _ _ _).andThen fun _ => .of_modify fun _ => keeps_of_eq rfl rfl

theorem updateFunctionConfig_keeps (function : String) (update : Json) :
    Within KeepsRecords (fun _ => True) (updateFunctionConfig function update) :=
  (enter_keeps _ _ _).andThen fun _ => .of_modify fun _ => keeps_of_eq rfl rfl

theorem updateAccessPolicy_keeps (topic : String) (policy : Option String) :
    Within KeepsRecords (fun _ => True) (updateAccessPolicy topic policy) :=
  (enter_keeps _ _ _).andThen fun _ => .of_modify fun _ => keeps_of_eq rfl rfl

theorem deleteTopicAttributes_keeps (topic : String) :
    Within KeepsRecords (fun _ => True) (deleteTopicAttributes topic) :=
  (enter_keeps _ _ _).andThen fun _ => .of_modify fun _ => keeps_of_eq rfl rfl

theorem publish_keeps (topic : String) (subject : Option String) (body : MessageBody) :
    Within KeepsRecords (fun _ => True) (publish topic subject body) :=
  (enter_keeps _ _ _).andThen fun _ => Within.of_get.andThen fun _ =>
    Within.andThen (.of_modify fun _ => keeps_of_eq rfl rfl) fun _ => .done _

theorem createLogtank_keeps (topic group stream : String) :
    Within KeepsRecords (fun _ => True) (createLogtank topic group stream) :=
  (enter_keeps _ _ _).andThen fun _ => Within.of_get.andThen fun _ =>
    .of_modify fun _ => keeps_of_eq rfl rfl

theorem deleteLogtank_keeps (topic id : String) :
    Within KeepsRecords (fun _ => True) (deleteLogtank topic id) := by
  refine (enter_keeps _ _ _).andThen fun _ => Within.of_get.andThen fun cloud => ?_
  exact Within.andThen (.of_modify fun _ => keeps_of_eq rfl rfl) fun _ => .throw_if _

theorem createRedirectPolicy_keeps (listener redirect : String) :
    Within KeepsRecords (fun _ => True) (createRedirectPolicy listener redirect) :=
  (enter_keeps _ _ _).andThen fun _ => Within.of_get.andThen fun _ =>
    .of_modify fun _ => keeps_of_eq rfl rfl

theorem showFunctionConfig_keeps (function : String) :
    Within KeepsRecords (fun _ => True) (showFunctionConfig function) := by
  refine (enter_keeps _ _ _).andThen fun _ => Within.of_get.andThen fun cloud => ?_
  cases cloud.functionConfigs.get? function with
  | some config => exact .done _
  | none => exact .of_throw _

theorem invoke_keeps (function : String) (invocation : Invocation) :
    Within KeepsRecords (fun _ => True) (invoke function invocation) := by
  refine (enter_keeps _ _ _).andThen fun _ =>
    Within.andThen (.of_modify fun _ => keeps_of_eq rfl rfl) fun _ =>
      Within.of_get.andThen fun cloud => ?_
  dsimp only
  split
  next => exact .done _
  next => exact .done _

/-! ### Changing records in their places -/

theorem filter_updateFirst {α : Type} {p q : α → Bool} {f : α → α} {xs : List α}
    (h : ∀ x ∈ xs, p x = true → q x = false ∧ q (f x) = false) :
    (updateFirst p f xs).filter q = xs.filter q := by
  induction xs with
  | nil => rfl
  | cons x xs ih =>
      obtain ⟨hx, hxs⟩ := List.forall_mem_cons.1 h
      rw [updateFirst]
      split
      next hp =>
        obtain ⟨hq, hqf⟩ := hx hp
        simp only [List.filter_cons, hq, hqf, Bool.false_eq_true, if_false]
      next => rw [List.filter_cons, List.filter_cons, ih hxs]

theorem map_updateFirst {α β : Type} {p : α → Bool} {f : α → α} {view : α → β}
    (hview : ∀ x, p x = true → view (f x) = view x) (xs : List α) :
    (updateFirst p f xs).map view = xs.map view := by
  induction xs with
  | nil => rfl
  | cons x xs ih =>
      rw [updateFirst]
      split
      next hp => rw [List.map_cons, List.map_cons, hview x hp]
      next => rw [List.map_cons, List.map_cons, ih]

/-- Of distinct records the first one with an identifier is the only one. -/
theorem updateFirst_eq_map {f : Resource → Resource} (id : String) {stored : List Resource}
    (hdistinct : (stored.map (·.id)).Nodup) :
    updateFirst (·.id = id) f stored = stored.map fun r => if r.id = id then f r else r := by
  induction stored with
  | nil => rfl
  | cons r stored ih =>
      obtain ⟨hr, hstored⟩ := List.nodup_cons.1 hdistinct
      rw [updateFirst, List.map_cons]
      by_cases hid : r.id = id
      · have hothers : (stored.map fun r => if r.id = id then f r else r) = stored := by
          refine (List.map_congr_left fun s hs => if_neg fun hsid => hr ?_).trans (List.map_id _)
          show r.id ∈ _
          rw [hid, ← hsid]
          exact List.mem_map_of_mem hs
        rw [hothers, if_pos (decide_eq_true hid), if_pos hid]
      · rw [ih hstored, if_neg fun h => hid (of_decide_eq_true h), if_neg hid]

theorem find?_id {stored : List Resource} (hdistinct : (stored.map (·.id)).Nodup) {r : Resource}
    (hr : r ∈ stored) : stored.find? (·.id = r.id) = some r := by
  have hunique (s : Resource) (hs : s ∈ stored) (hid : s.id = r.id) : s = r :=
    List.inj_on_of_nodup_map hdistinct hs hr hid
  cases hfound : stored.find? (·.id = r.id) with
  | none => exact absurd (decide_eq_true rfl) (List.find?_eq_none.1 hfound r hr)
  | some s =>
      have hid := List.find?_some hfound
      rw [hunique s (List.mem_of_find?_eq_some hfound) (of_decide_eq_true hid)]

@[simp] theorem id_retag (f : TagSet → TagSet) (r : Resource) : (retag f r).id = r.id :=
  r.id_set_of_ne (by decide) _

/-- What a view shows of a record does not change when writing its tags leaves it. -/
theorem map_retagAll {α : Type} {f : TagSet → TagSet} {view : Resource → α}
    (hview : ∀ r, view (retag f r) = view r) (rejected ids : List String) (stored : List Resource) :
    (retagAll f rejected ids stored).2.map view = stored.map view := by
  induction ids generalizing stored with
  | nil => rfl
  | cons id ids ih =>
      rw [retagAll]
      split
      next => exact ih stored
      split
      next =>
        rw [ih]
        exact map_updateFirst (fun r _ => hview r) stored
      next => exact ih stored

/-- Records whose identifier is not among those written to stay as they are. -/
theorem filter_retagAll {f : TagSet → TagSet} {rejected ids : List String}
    {stored : List Resource} {p : String → Bool} (hids : ∀ id ∈ ids, p id = false) :
    ((retagAll f rejected ids stored).2.filter fun r => p r.id) =
      stored.filter fun r => p r.id := by
  induction ids generalizing stored with
  | nil => rfl
  | cons id ids ih =>
      obtain ⟨hid, hrest⟩ := List.forall_mem_cons.1 hids
      rw [retagAll]
      split
      next => exact ih hrest
      split
      next =>
        rw [ih hrest]
        refine filter_updateFirst fun r _ hr => ?_
        have hr : r.id = id := of_decide_eq_true hr
        rw [id_retag, hr, hid]
        exact ⟨rfl, rfl⟩
      next => exact ih hrest

/-! ### Operations on the records of a type -/

theorem tagType?_of_tagServiceName? {type : ResourceType} {name : String}
    (h : type.tagServiceName? = some name) : tagType? name = some type := by
  cases type <;> cases h <;> rfl

theorem tagServiceName?_of_tagType? {name : String} {type : ResourceType}
    (h : tagType? name = some type) : type.tagServiceName? = some name := by
  rw [tagType?] at h
  exact of_decide_eq_true (List.find?_some h :)

section

variable {R : Cloud → Cloud → Prop}
  (hkeeps : ∀ before after, KeepsRecords before after → R before after)

include hkeeps

theorem enter_within (service operation target : String) :
    Within R (fun _ => True) (enter service operation target) :=
  (enter_keeps service operation target).mono hkeeps fun _ h => h

theorem ask_within {α : Type} {service operation target : String} (answer : Cloud → α) :
    Within R (fun _ => True)
      (do enter service operation target; return answer (← get) : CloudM α) :=
  (ask_keeps answer).mono hkeeps fun _ h => h

variable [IsPreorder Cloud R]

theorem remove_within {service operation urnField target : String} {type : ResourceType}
    (hremove : ∀ cloud : Cloud, R cloud (cloud.setResources type
      ((cloud.resources type).filter fun r => !addressedBy urnField target r))) :
    Within R (fun _ => True) (remove service operation type urnField target) := by
  refine (enter_within hkeeps _ _ _).andThen fun _ => .of_get_bind (fun cloud => ?_)
    fun _ _ _ => trivial
  exact trans_of R (hremove cloud) ((Within.throw_if (R := R) _).moves _)

theorem updateRecord_within {service operation target : String} {type : ResourceType}
    {f : Resource → Resource} (hupdate : ∀ cloud : Cloud, R cloud (cloud.setResources type
      (updateFirst (·.id = target) f (cloud.resources type)))) :
    Within R (fun _ => True) (updateRecord service operation type target f) := by
  refine (enter_within hkeeps _ _ _).andThen fun _ => .of_get_bind (fun cloud => ?_)
    fun _ _ _ => trivial
  dsimp only
  split
  next => exact hupdate cloud
  next => exact refl_of R cloud

theorem writeTags_within {operation tagTypeName : String} {type : ResourceType}
    (htype : type.tagServiceName? = some tagTypeName) {ids : List String} {f : TagSet → TagSet}
    (hwrite : ∀ cloud : Cloud, R cloud (cloud.setResources type
      (retagAll f cloud.rejectedTagTargets ids (cloud.resources type)).2)) :
    Within R (fun _ => True) (writeTags operation tagTypeName ids f) := by
  rw [writeTags, tagType?_of_tagServiceName? htype]
  exact (enter_within hkeeps _ _ _).andThen fun _ => .of_get_bind hwrite fun _ _ _ => trivial

end

end Cloud

/-! ### Actions, step by step -/

namespace Action

variable {R : Cloud → Cloud → Prop} [IsPreorder Cloud R]

theorem eachWith_within {σ : Type} {step : σ → Resource → CloudM (Step × σ)}
    {resources : List Resource}
    (hstep : ∀ r ∈ resources, ∀ memory, Within R (fun _ => True) (step memory r)) (memory : σ)
    (report : Report) : Within R (fun _ => True) (eachWith step memory report resources) := by
  induction resources generalizing memory report with
  | nil => exact .done _
  | cons r rest ih =>
      obtain ⟨hr, hrest⟩ := List.forall_mem_cons.1 hstep
      exact (hr memory).andThen fun result => ih hrest result.2 _

theorem ofStep_within {name : String} {step : RunContext → Resource → CloudM Step}
    {context : RunContext} {resources : List Resource}
    (hstep : ∀ r ∈ resources, Within R (fun _ => True) (step context r)) :
    Within R (fun _ => True) ((ofStep name step).process context resources) :=
  eachWith_within (fun r hr _ => (hstep r hr).andThen fun _ => .done _) () _

theorem eachWith_moves {σ : Type} {step : σ → Resource → CloudM (Step × σ)}
    {resources : List Resource} (hstep : ∀ r ∈ resources, ∀ memory before result after,
      (step memory r).run before = (.ok result, after) → R before after)
    {memory : σ} {start report : Report} {before after : Cloud}
    (hrun : (eachWith step memory start resources).run before = (.ok report, after)) :
    R before after := by
  induction resources generalizing memory start before with
  | nil =>
      cases hrun
      exact refl_of R _
  | cons r rest ih =>
      obtain ⟨hr, hrest⟩ := List.forall_mem_cons.1 hstep
      obtain ⟨result, middle, hfirst, hothers⟩ := Steps.of_run_bind_eq_ok hrun
      exact trans_of R (hr memory before result middle hfirst) (ih hrest hothers)

/-- When the steps for all resources come to their end, so does that of each one, between those for
the resources before it and those for the resources after it. -/
theorem eachWith_passes {σ : Type} {step : σ → Resource → CloudM (Step × σ)}
    {resources : List Resource} (hstep : ∀ r ∈ resources, ∀ memory before result after,
      (step memory r).run before = (.ok result, after) → R before after)
    {memory : σ} {start report : Report} {before after : Cloud}
    (hrun : (eachWith step memory start resources).run before = (.ok report, after))
    {r : Resource} (hr : r ∈ resources) : ∃ memory reached result left, R before reached ∧
      (step memory r).run reached = (.ok result, left) ∧ R left after := by
  induction resources generalizing memory start before with
  | nil => cases hr
  | cons first rest ih =>
      obtain ⟨hfirst, hrest⟩ := List.forall_mem_cons.1 hstep
      obtain ⟨result, middle, hresult, hothers⟩ := Steps.of_run_bind_eq_ok hrun
      rcases List.mem_cons.1 hr with rfl | hr
      · exact ⟨memory, before, result, middle, refl_of R _, hresult, eachWith_moves hrest hothers⟩
      · obtain ⟨memory', reached, result', left, hreached, hrun', hleft⟩ := ih hrest hothers hr
        exact ⟨memory', reached, result', left,
          trans_of R (hfirst memory before result middle hresult) hreached, hrun', hleft⟩

theorem ofStep_passes {name : String} {step : RunContext → Resource → CloudM Step}
    {context : RunContext} {resources : List Resource}
    (hstep : ∀ r ∈ resources, ∀ before result after,
      (step context r).run before = (.ok result, after) → R before after)
    {before after : Cloud} {report : Report}
    (hrun : ((ofStep name step).process context resources).run before = (.ok report, after))
    {r : Resource} (hr : r ∈ resources) : ∃ reached result left, R before reached ∧
      (step context r).run reached = (.ok result, left) ∧ R left after := by
  have hstep' : ∀ r ∈ resources, ∀ (memory : Unit) before result after,
      (do return (← step context r, ()) : CloudM (Step × Unit)).run before = (.ok result, after) →
        R before after := by
    intro r hr _ before result after hresult
    obtain ⟨outcome, middle, houtcome, hpure⟩ := Steps.of_run_bind_eq_ok hresult
    cases hpure
    exact hstep r hr before outcome _ houtcome
  obtain ⟨_, reached, result, left, hreached, hresult, hleft⟩ := eachWith_passes hstep' hrun hr
  obtain ⟨outcome, middle, houtcome, hpure⟩ := Steps.of_run_bind_eq_ok hresult
  cases hpure
  exact ⟨reached, outcome, _, hreached, houtcome, hleft⟩

theorem ofCall_within {name : String} {call : Resource → CloudM Unit} {context : RunContext}
    {resources : List Resource} (hcall : ∀ r ∈ resources, Within R (fun _ => True) (call r)) :
    Within R (fun _ => True) ((ofCall name call).process context resources) :=
  ofStep_within fun r hr => (hcall r hr).andThen fun _ => .done _

theorem forEach_within {α : Type} {call : α → CloudM Unit} {xs : List α}
    (hcall : ∀ x ∈ xs, Within R (fun _ => True) (call x)) :
    Within R (fun _ => True) (forEach call xs) := by
  induction xs with
  | nil => exact .done _
  | cons x xs ih =>
      obtain ⟨hx, hxs⟩ := List.forall_mem_cons.1 hcall
      exact hx.andThen fun _ => ih hxs

/-! ### Actions that leave the records -/

theorem unbind_keeps (kinds : List AddressKind) (r : Resource) :
    Within Cloud.KeepsRecords (fun _ => True) (unbind kinds r) := by
  have hcalls {α : Type} (service operation : String) (target : α → String) (xs : List α) :
      Within Cloud.KeepsRecords (fun _ => True)
        (forEach (fun x => Cloud.enter service operation (target x)) xs) :=
    forEach_within fun x _ => Cloud.enter_keeps service operation (target x)
  refine .ite_andThen (hcalls _ _ _ _) fun _ => .ite_andThen (hcalls _ _ id _) fun _ => ?_
  split
  next => exact hcalls _ _ id _
  next => exact .done _

theorem transferStep_keeps (info : Json) (created : List String) (r : Resource) :
    Within Cloud.KeepsRecords (fun _ => True) (transferStep info created r) := by
  rw [transferStep]
  split
  next => exact .done _
  dsimp only
  split
  next => exact .done _
  next => exact (Cloud.createTransfer_keeps _).andThen fun _ => .done _

theorem redirectStep_keeps (target : RedirectTarget) (listeners : Option (List Resource))
    (r : Resource) :
    Within Cloud.KeepsRecords (fun _ => True) (redirectStep target listeners r) := by
  unfold redirectStep
  extract_lets redirectAmong
  have hredirect (known : List Resource) :
      Within Cloud.KeepsRecords (fun _ => True) (redirectAmong known) := by
    dsimp only [redirectAmong]
    cases known.find? target.accepts with
    | none => exact .done _
    | some redirect =>
        exact (Cloud.createRedirectPolicy_keeps _ _).andThen fun _ => .done _
  split
  next => exact .done _
  cases listeners with
  | none => exact (Cloud.ask_keeps _).andThen hredirect
  | some known => exact Within.andThen (.done _) hredirect

theorem applyConfig_keeps (properties : Json) (r : Resource) :
    Within Cloud.KeepsRecords (fun _ => True) (applyConfig properties r) :=
  (Cloud.showFunctionConfig_keeps _).andThen fun _ => Cloud.updateFunctionConfig_keeps _ _

theorem modifyGroupsStep_keeps (groups : List String) (xrole : String) (r : Resource) :
    Within Cloud.KeepsRecords (fun _ => True) (modifyGroupsStep groups xrole r) := by
  refine (Cloud.showFunctionConfig_keeps _).andThen fun current => ?_
  cases withGroups? groups xrole current with
  | none => exact .done _
  | some properties => exact (Cloud.updateFunctionConfig_keeps _ _).andThen fun _ => .done _

theorem publishing_keeps (name : String) (topics : List String) (subject : Option String)
    (body : RunContext → List Resource → MessageBody) (context : RunContext)
    (resources : List Resource) : Within Cloud.KeepsRecords (fun _ => True)
      ((publishing name topics subject body).process context resources) := by
  have hall (message : MessageBody) :
      Within Cloud.KeepsRecords (fun _ => True) (publishAll subject message topics) := by
    induction topics with
    | nil => exact .done _
    | cons topic topics ih => exact (Cloud.publish_keeps _ _ _).andThen fun _ => ih
  rw [publishing]
  dsimp only
  split
  next => exact .done _
  next => exact (hall _).andThen fun _ => .done _

theorem deleteLoggingStep_keeps (r : Resource) :
    Within Cloud.KeepsRecords (fun _ => True) (deleteLoggingStep r) := by
  have hbindings : Within Cloud.KeepsRecords (fun _ => True) (Filter.bindingsOf r) := by
    rw [Filter.bindingsOf]
    split
    next => exact .done _
    next => exact (Cloud.ask_keeps _).andThen fun _ => .done _
  refine hbindings.andThen fun looked => ?_
  dsimp only
  split
  next => exact .done _
  next =>
    exact (forEach_within fun id _ => Cloud.deleteLogtank_keeps _ id).andThen
      fun _ => .done _

theorem deleteAllowAllStep_within {r : Resource}
    (hask : Within R (fun _ => True) (Cloud.accessPolicy r.topicUrn))
    (hupdate : ∀ policy, Within R (fun _ => True) (Cloud.updateAccessPolicy r.topicUrn policy)) :
    Within R (fun _ => True) (deleteAllowAllStep r) := by
  have hpolicy : Within R (fun _ => True) (Filter.policyOf r) := by
    rw [Filter.policyOf]
    split
    next => exact .done _
    next =>
      refine hask.andThen fun found => ?_
      cases found <;> exact .done _
  refine hpolicy.andThen fun looked => ?_
  dsimp only
  split
  next => exact .done _
  next text _ =>
    refine (Cloud.ofExcept_within (Stripped.ofText text)).andThen fun stripped => ?_
    cases stripped with
    | unchanged => exact .done _
    | narrowed text => exact (hupdate _).andThen fun _ => .done _
    | cleared => exact (hupdate _).andThen fun _ => .done _

theorem deleteAllowAllStep_keeps (r : Resource) :
    Within Cloud.KeepsRecords (fun _ => True) (deleteAllowAllStep r) :=
  deleteAllowAllStep_within (Cloud.ask_keeps _) (Cloud.updateAccessPolicy_keeps r.topicUrn)

end Action

/-! ### Relations that actions keep to -/

/-- What a relation has to hold of so that it holds of everything that actions do to a batch of
resources of a type: steps that leave the records, and the operations that change records. -/
structure Cloud.Admits (R : Cloud → Cloud → Prop) (type : ResourceType) (batch : List Resource) :
    Prop where
  keeps : ∀ before after, KeepsRecords before after → R before after
  writeTags : ∀ {operation tagTypeName ids f}, type.tagServiceName? = some tagTypeName →
    ids ⊆ batch.map (·.id) →
    Within R (fun _ => True) (Cloud.writeTags operation tagTypeName ids f)
  updateRecord : ∀ {service operation f} {m : Resource}, m ∈ batch →
    (∀ r, (f r).id = r.id) →
    Within R (fun _ => True) (Cloud.updateRecord service operation type m.id f)
  remove : ∀ {service operation} {m : Resource}, m ∈ batch →
    Within R (fun _ => True) (Cloud.remove service operation type "id" m.id)
  deleteTopic : type = .topic → ∀ m ∈ batch,
    Within R (fun _ => True) (Cloud.deleteTopic m.topicUrn)
  deleteFunction : type = .function → ∀ m ∈ batch,
    Within R (fun _ => True) (Cloud.deleteFunction (withoutLatest m.functionUrn))
  updateMaxInstances : type = .function → ∀ m ∈ batch, ∀ count,
    Within R (fun _ => True) (Cloud.updateMaxInstances m.functionUrn count)

namespace Action

open Cloud (Admits)

variable {R : Cloud → Cloud → Prop} [IsPreorder Cloud R] {type : ResourceType}
  {batch : List Resource}

omit [IsPreorder Cloud R] in
theorem call_admitted (hR : Admits R type batch) {request : TagRequest}
    (htype : type.tagServiceName? = some request.tagTypeName)
    (hids : request.ids ⊆ batch.map (·.id)) : Within R (fun _ => True) request.call := by
  rw [TagRequest.call]
  cases request.write with
  | create tags => exact hR.writeTags htype hids
  | delete keys => exact hR.writeTags htype hids

theorem primaryTargets_sublist (options : AttributionOptions) (batch : List Resource) :
    (primaryTargets options batch).Sublist (batch.map (·.id)) := by
  rw [primaryTargets]
  split
  next => exact .refl _
  next => exact List.filter_sublist.map _

theorem principalTargets_sublist (options : AttributionOptions) (batch : List Resource) :
    (principalTargets options batch).Sublist (batch.map (·.id)) := by
  rw [principalTargets]
  cases options.principalTarget with
  | untagged => exact primaryTargets_sublist options batch
  | all => exact .refl _

theorem enableLogging_admitted (hR : Admits R .loadBalancer batch) (group stream : LogReference)
    (context : RunContext) :
    Within R (fun _ => True) ((enableLogging group stream).process context batch) := by
  have hbind (m : Resource) (hm : m ∈ batch) (group stream : String) :
      Within R (fun _ => True) (Cloud.bindAccessLog m.id group stream) :=
    hR.updateRecord hm fun r => by
      rw [Resource.id_set_of_ne _ (by decide), Resource.id_set_of_ne _ (by decide)]
  rw [enableLogging]
  dsimp only
  split
  next => exact .done _
  next =>
    exact (Cloud.ask_within hR.keeps _).andThen fun groups =>
      (Cloud.ofExcept_within _).andThen fun group =>
        (Cloud.ask_within hR.keeps _).andThen fun streams =>
          (Cloud.ofExcept_within _).andThen fun stream =>
            ofCall_within fun m hm => hbind m hm group stream

theorem deleteListenerStep_admitted (hR : Admits R .listener batch) (balancers : List String)
    {m : Resource} (hm : m ∈ batch) :
    Within R (fun _ => True) (deleteListenerStep balancers m) := by
  have hpool (pool : String) : Within R (fun _ => True) (Cloud.deletePool pool) :=
    Cloud.enter_within hR.keeps _ _ _
  have hdelete :
      Within R (fun _ => True) (do Cloud.deleteListener m.id; return .done : CloudM Step) :=
    (hR.remove hm).andThen fun _ => .done _
  rw [deleteListenerStep]
  split
  next => exact .done _
  next =>
    split
    next pool _ => exact ((hpool pool).catch_with fun _ => .done _).andThen fun _ => hdelete
    next => exact hdelete

theorem setAccessControl_admitted (hR : Admits R .listener batch) (ids names : List String)
    (enabled : Bool) (group : AddressGroupKind) (context : RunContext) :
    Within R (fun _ => True)
      ((setAccessControl ids names enabled group).process context batch) := by
  rw [setAccessControl]
  dsimp only
  split
  next => exact .done _
  next =>
    refine (Cloud.ask_within hR.keeps _).andThen fun groups => ?_
    split
    next => exact .of_throw _
    next =>
      exact ofCall_within fun m hm => hR.updateRecord hm fun r => r.id_set_of_ne (by decide) _

theorem trimVersions_within
    (hkeeps : ∀ before after, Cloud.KeepsRecords before after → R before after)
    (hdelete : ∀ urn, Within R (fun _ => True) (Cloud.deleteFunction urn))
    (retention : VersionRetention) (context : RunContext) (resources : List Resource) :
    Within R (fun _ => True) ((trimVersions retention).process context resources) :=
  ofStep_within fun _ _ => (Cloud.ask_within hkeeps _).andThen fun _ =>
    (Cloud.ask_within hkeeps _).andThen fun _ => (Cloud.ofExcept_within _).andThen fun _ =>
      (forEach_within fun urn _ => hdelete urn).andThen fun _ => .done _

end Action

/-- Whatever a kind of the type builds keeps to a relation that admits what it does to the resources
that it is run on. Only the trimming of versions deletes others. -/
theorem ActionKind.Builds.within {R : Cloud → Cloud → Prop} [IsPreorder Cloud R]
    {type : ResourceType} {batch : List Resource} (hR : Cloud.Admits R type batch)
    {kind : ActionKind} {action : Action} (hbuilds : kind.Builds action) {context : RunContext}
    (htype : context.resourceType = type) (hkind : kind ∈ type.actions)
    (htrim : kind = ActionKind.trimVersions →
      ∀ urn, Within R (fun _ => True) (Cloud.deleteFunction urn)) :
    Within R (fun _ => True) (action.process context batch) := by
  have hkeeps {step : CloudM Report} (hstep : Within Cloud.KeepsRecords (fun _ => True) step) :
      Within R (fun _ => True) step :=
    hstep.mono hR.keeps fun _ h => h
  subst htype
  cases hbuilds with
  | write write =>
      exact (Action.writeTags_calls ..).within fun _ h => Action.call_admitted hR h.type h.ids
  | plan plan =>
      refine (Action.ofPlan_calls ..).within ?_
      rintro request ⟨htype, r, hr, hids, -⟩
      refine Action.call_admitted hR htype ?_
      rw [hids]
      exact List.cons_subset.2 ⟨List.mem_map_of_mem hr, List.nil_subset _⟩
  | markForOp mark =>
      refine (Action.markForOp_calls ..).within ?_
      rintro request ⟨_, h⟩
      exact Action.call_admitted hR h.type h.ids
  | autoTag options =>
      refine (Action.autoTag_calls ..).within ?_
      rintro request ⟨key, value, targets, h, htargets⟩
      refine Action.call_admitted hR h.type (List.Subset.trans h.ids ?_)
      rcases htargets with ⟨-, rfl⟩ | ⟨-, rfl⟩
      · exact (Action.primaryTargets_sublist options batch).subset
      · exact (Action.principalTargets_sublist options batch).subset
  | deleteLoadBalancer =>
      rw [ActionKind.eq_of_mem_actions hkind rfl] at hR
      exact Action.ofCall_within fun r hr => hR.remove hr
  | unbind kinds => exact hkeeps (Action.ofCall_within fun r _ => Action.unbind_keeps kinds r)
  | enableLogging group stream =>
      rw [ActionKind.eq_of_mem_actions hkind rfl] at hR
      exact Action.enableLogging_admitted hR group stream context
  | createTransfers info =>
      exact hkeeps (Action.eachWith_within (fun r _ created =>
        Action.transferStep_keeps info created r) _ _)
  | deleteListener balancers =>
      rw [ActionKind.eq_of_mem_actions hkind rfl] at hR
      exact Action.ofStep_within fun r hr => Action.deleteListenerStep_admitted hR balancers hr
  | setAccessControl ids names enabled group =>
      rw [ActionKind.eq_of_mem_actions hkind rfl] at hR
      exact Action.setAccessControl_admitted hR ids names enabled group context
  | redirectToHttps target =>
      exact hkeeps (Action.eachWith_within (fun r _ listeners =>
        Action.redirectStep_keeps target listeners r) _ _)
  | deleteFunction =>
      have hfunction := ActionKind.eq_of_mem_actions hkind rfl
      exact Action.ofCall_within fun r hr => hR.deleteFunction hfunction r hr
  | updateConcurrency count =>
      have hfunction := ActionKind.eq_of_mem_actions hkind rfl
      exact Action.ofCall_within fun r hr => hR.updateMaxInstances hfunction r hr count
  | modifyGroups groups xrole =>
      exact hkeeps (Action.ofStep_within fun r _ => Action.modifyGroupsStep_keeps groups xrole r)
  | showConfig =>
      exact hkeeps (Action.ofCall_within fun r _ =>
        (Cloud.showFunctionConfig_keeps _).andThen fun _ => .done _)
  | updateConfig properties =>
      exact hkeeps (Action.ofCall_within fun r _ => Action.applyConfig_keeps properties r)
  | trimVersions retention =>
      exact Action.trimVersions_within hR.keeps (htrim rfl) retention context batch
  | invoke invocation =>
      exact hkeeps (Action.ofCall_within fun r _ =>
        (Cloud.invoke_keeps _ invocation).andThen fun _ => .done _)
  | publishing topics subject body =>
      exact hkeeps (Action.publishing_keeps _ topics subject body context batch)
  | deleteTopic =>
      have htopic := ActionKind.eq_of_mem_actions hkind rfl
      exact Action.ofCall_within fun r hr => hR.deleteTopic htopic r hr
  | createLogging group stream =>
      exact hkeeps (Action.ofCall_within fun r _ => Cloud.createLogtank_keeps _ group stream)
  | deleteLogging =>
      exact hkeeps (Action.ofStep_within fun r _ => Action.deleteLoggingStep_keeps r)
  | updateAccess policy =>
      exact hkeeps (Action.ofCall_within fun r _ => Cloud.updateAccessPolicy_keeps _ _)
  | deleteAccess =>
      exact hkeeps (Action.ofCall_within fun r _ => Cloud.deleteTopicAttributes_keeps _)
  | deleteAllowAll =>
      exact hkeeps (Action.ofStep_within fun r _ => Action.deleteAllowAllStep_keeps r)

end CloudPolicy
