import CloudPolicy.Action.Attribution
import CloudPolicy.Action.Retagging
import CloudPolicy.Proofs.Effects

/-! The calls that actions on tags are put together of. Each of these actions does nothing to the
cloud but to call the tag service, so that what it does and what it may change follows from the
requests that it can make: a batch of the resources that it was given, or one resource with what is
planned for it. -/

namespace CloudPolicy

open Steps (Within)

/-- What one call asks of the tag service. -/
structure TagRequest where
  tagTypeName : String
  ids : List String
  write : TagWrite

namespace TagRequest

def call (request : TagRequest) : CloudM (List FailedResource) :=
  request.write.call request.tagTypeName request.ids

/-- The request is for a batch of the given resources, to which the same is written. -/
structure IsBatch (context : RunContext) (targets : List String) (written : TagWrite)
    (request : TagRequest) : Prop where
  type : context.resourceType.tagServiceName? = some request.tagTypeName
  ids : request.ids ⊆ targets
  length : request.ids.length ≤ max context.settings.tagBatchSize 1
  write : request.write = written
  size : request.write.size ≤ context.settings.maxTagsPerCall

/-- The request is for one of the given resources and part of the change that is planned for it. -/
structure IsPlanned (context : RunContext) (resources : List Resource) (plan : Resource → Plan)
    (request : TagRequest) : Prop where
  type : context.resourceType.tagServiceName? = some request.tagTypeName
  planned : ∃ r ∈ resources, request.ids = [r.id] ∧ ∃ change, plan r = .ok (some change) ∧
    (request.write = .delete change.delete ∨ request.write = .create change.create)

/-- The request is for a batch of the resources that an attribution writes one of its tags to. -/
def IsAttribution (context : RunContext) (options : AttributionOptions) (resources : List Resource)
    (request : TagRequest) : Prop :=
  ∃ key value targets, request.IsBatch context targets (.create (.ofList [(key, value)])) ∧
    (key = options.tag ∧ targets = Action.primaryTargets options resources ∨
      options.principalTag = some key ∧ targets = Action.principalTargets options resources)

end TagRequest

/-- The step is put together of calls of the tag service whose requests satisfy `Q`, whatever the
service answers, and does nothing else to the cloud. -/
inductive TagCalls (Q : TagRequest → Prop) : {α : Type} → CloudM α → Prop where
  | done {α : Type} (a : α) : TagCalls Q (pure a : CloudM α)
  | fail {α : Type} (e : Error) : TagCalls Q (throw e : CloudM α)
  | call {request : TagRequest} (h : Q request) : TagCalls Q request.call
  | bind {α β : Type} {x : CloudM α} {f : α → CloudM β} (hx : TagCalls Q x)
      (hf : ∀ a, TagCalls Q (f a)) : TagCalls Q (x >>= f)

namespace TagCalls

variable {α : Type} {step : CloudM α} {P Q : TagRequest → Prop}

theorem mono (hstep : TagCalls P step) (h : ∀ request, P request → Q request) :
    TagCalls Q step := by
  induction hstep with
  | done a => exact .done a
  | fail e => exact .fail e
  | call hrequest => exact .call (h _ hrequest)
  | bind _ _ ihx ihf => exact .bind ihx ihf

/-- What relates the clouds before and after each call relates those before and after the step. -/
theorem within {R : Cloud → Cloud → Prop} [IsPreorder Cloud R] (hstep : TagCalls Q step)
    (hcall : ∀ request : TagRequest, Q request → Within R (fun _ => True) request.call) :
    Within R (fun _ => True) step := by
  induction hstep with
  | done a => exact .done a
  | fail e => exact .of_throw e
  | call hrequest => exact hcall _ hrequest
  | bind _ _ ihx ihf => exact ihx.andThen ihf

end TagCalls

namespace Action

variable {Q : TagRequest → Prop}

/-! ### Writing the same tags to all resources -/

theorem of_mem_chunks {α : Type} {n fuel : Nat} {xs batch : List α}
    (hbatch : batch ∈ chunks n fuel xs) : batch ⊆ xs ∧ batch.length ≤ n := by
  induction fuel generalizing xs with
  | zero => cases hbatch
  | succ fuel ih =>
      cases xs with
      | nil => cases hbatch
      | cons first rest =>
          rw [chunks] at hbatch
          rcases List.mem_cons.1 hbatch with rfl | hbatch
          · exact ⟨List.take_subset _ _, List.length_take_le _ _⟩
          · obtain ⟨hsubset, hlength⟩ := ih hbatch
            exact ⟨fun _ hx => List.mem_of_mem_drop (hsubset hx), hlength⟩

theorem writeBatches_calls {tagTypeName : String} {write : TagWrite} {batches : List (List String)}
    (hbatches : ∀ batch ∈ batches, Q ⟨tagTypeName, batch, write⟩) (report : Report) :
    TagCalls Q (writeBatches tagTypeName write report batches) := by
  induction batches generalizing report with
  | nil => exact .done _
  | cons batch batches ih =>
      obtain ⟨hbatch, hrest⟩ := List.forall_mem_cons.1 hbatches
      exact .bind (.call hbatch) fun _ => ih hrest _

theorem writeTags_calls (context : RunContext) (action : String) (ids : List String)
    (write : TagWrite) :
    TagCalls (·.IsBatch context ids write) (writeTags context action ids write) := by
  rw [writeTags]
  split
  next => exact .fail _
  next hsize =>
    cases htype : context.resourceType.tagServiceName? with
    | none => exact .done _
    | some tagTypeName =>
        dsimp only
        split
        next => exact .done _
        next =>
          refine .bind (writeBatches_calls (fun batch hmem => ?_) _) fun _ => .done _
          obtain ⟨hids, hlength⟩ := of_mem_chunks hmem
          exact ⟨htype, hids, hlength, rfl, Nat.not_lt.1 hsize⟩

theorem markForOp_calls (context : RunContext) (mark : MarkOptions) (resources : List Resource) :
    TagCalls (fun request => ∃ written, request.IsBatch context (resources.map (·.id)) written)
      ((markForOp mark).process context resources) := by
  have hvalue {α : Type} (outcome : Except Error α) :
      TagCalls (fun request => ∃ written, request.IsBatch context (resources.map (·.id)) written)
        (CloudM.ofExcept outcome) := by
    cases outcome with
    | error e => exact .fail e
    | ok a => exact .done a
  refine .bind (hvalue _) fun value => ?_
  dsimp only
  split
  next => exact .fail _
  next => exact (writeTags_calls _ _ _ _).mono fun _ h => ⟨_, h⟩

theorem autoTag_calls (context : RunContext) (options : AttributionOptions)
    (resources : List Resource) :
    TagCalls (·.IsAttribution context options resources)
      ((autoTag options).process context resources) := by
  rw [autoTag]
  dsimp only
  split
  next => exact .done _
  next a _ =>
    have hwrite {key value : String} {targets : List String}
        (htargets : key = options.tag ∧ targets = primaryTargets options resources ∨
          options.principalTag = some key ∧ targets = principalTargets options resources)
        (report : Report) : TagCalls (·.IsAttribution context options resources)
          (writeAttribution context targets (some (key, value)) report) :=
      .bind ((writeTags_calls _ _ _ _).mono fun _ h => ⟨key, value, targets, h, htargets⟩)
        fun _ => .done _
    have hfirst (report : Report) : TagCalls (·.IsAttribution context options resources)
        (writeAttribution context (primaryTargets options resources)
          (a.tagValue.map fun value => (options.tag, value)) report) := by
      cases a.tagValue with
      | none => exact .done _
      | some value => exact hwrite (.inl ⟨rfl, rfl⟩) report
    have hsecond (report : Report) : TagCalls (·.IsAttribution context options resources)
        (writeAttribution context (principalTargets options resources) (principalTag? options a)
          report) := by
      rw [principalTag?]
      cases hkey : options.principalTag with
      | none => exact .done _
      | some key =>
          cases Attribution.nonEmpty a.principalId with
          | none => exact .done _
          | some principal => exact hwrite (.inr ⟨hkey, rfl⟩) report
    exact .bind (hfirst _) fun report => .bind (hsecond report) fun _ => .done _

/-! ### Planning a change for each resource -/

theorem eachWith_calls {σ : Type} {step : σ → Resource → CloudM (Step × σ)}
    {resources : List Resource} (hstep : ∀ r ∈ resources, ∀ memory, TagCalls Q (step memory r))
    (memory : σ) (report : Report) : TagCalls Q (eachWith step memory report resources) := by
  induction resources generalizing memory report with
  | nil => exact .done _
  | cons r rest ih =>
      obtain ⟨hr, hrest⟩ := List.forall_mem_cons.1 hstep
      exact .bind (hr memory) fun result => ih hrest result.2 _

theorem carryOut_calls {tagTypeName id : String} {change : TagChange}
    (hdelete : Q ⟨tagTypeName, [id], .delete change.delete⟩)
    (hcreate : Q ⟨tagTypeName, [id], .create change.create⟩) :
    TagCalls Q (carryOut tagTypeName id change) := by
  have hdelete : TagCalls Q (TagRequest.call ⟨tagTypeName, [id], .delete change.delete⟩) :=
    .call hdelete
  have hcreate : TagCalls Q (TagRequest.call ⟨tagTypeName, [id], .create change.create⟩) :=
    .call hcreate
  unfold carryOut
  extract_lets create
  have hrest (refused : Option Step) : TagCalls Q (create refused) := by
    dsimp only [create]
    cases refused with
    | some step => exact .done _
    | none =>
        dsimp only
        split
        next => exact .done _
        next => exact .bind hcreate fun _ => .done _
  split
  next => exact .bind (.done _) hrest
  next => exact .bind hdelete fun _ => .bind (.done _) hrest

theorem follow_calls {tagTypeName : String} {plan : Resource → Plan} {r : Resource}
    (hplan : ∀ change, plan r = .ok (some change) →
      Q ⟨tagTypeName, [r.id], .delete change.delete⟩ ∧
        Q ⟨tagTypeName, [r.id], .create change.create⟩) :
    TagCalls Q (follow tagTypeName plan r) := by
  rw [follow]
  split
  next change hchange => exact carryOut_calls (hplan change hchange).1 (hplan change hchange).2
  next => exact .done _
  next => exact .done _

theorem ofPlan_calls (name : String) (context : RunContext) (plan : Resource → Plan)
    (resources : List Resource) :
    TagCalls (·.IsPlanned context resources plan)
      ((ofPlan name plan).process context resources) := by
  rw [ofPlan]
  dsimp only
  split
  next => exact .done _
  next tagTypeName htype =>
    refine eachWith_calls (fun r hr _ => .bind (follow_calls fun change hchange => ?_)
      fun _ => .done _) _ _
    exact ⟨⟨htype, r, hr, rfl, change, hchange, .inl rfl⟩,
      ⟨htype, r, hr, rfl, change, hchange, .inr rfl⟩⟩

end Action

end CloudPolicy
