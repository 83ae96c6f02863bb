import CloudPolicy.Proofs.Compiled
import CloudPolicy.Proofs.Effects

/-! Where actions stop. Most actions take one step for each resource, some of them after look-ups
for the whole batch and some with a memory of what the steps before have found or made. Main
statement: when such an action fails, it fails at one resource, and what it has done by then is what
it does with the batch that ends there. -/

namespace CloudPolicy

/-- When a batch with some resources fails, it fails at one of them: the batch up to that one fails
in the same way and leaves the same cloud, and the batch before it, unless there is none, comes to
its end. -/
def StopsAtOne (process : List Resource → CloudM Report) : Prop :=
  ∀ ⦃resources cloud e after⦄, resources ≠ [] →
    (process resources).run cloud = (.error e, after) →
    ∃ front r rest, resources = front ++ r :: rest ∧
      (front = [] ∨ ∃ report reached, (process front).run cloud = (.ok report, reached)) ∧
      (process (front ++ [r])).run cloud = (.error e, after)

namespace StopsAtOne

variable {process : List Resource → CloudM Report}

/-- A failure before the first resource is one at the first resource. -/
theorem of_first {resources : List Resource} {cloud after : Cloud} {e : Error}
    (hsome : resources ≠ []) (hfails : ∀ r, (process [r]).run cloud = (.error e, after)) :
    ∃ front r rest, resources = front ++ r :: rest ∧
      (front = [] ∨ ∃ report reached, (process front).run cloud = (.ok report, reached)) ∧
      (process (front ++ [r])).run cloud = (.error e, after) := by
  obtain ⟨r, rest, rfl⟩ := List.exists_cons_of_ne_nil hsome
  exact ⟨[], r, rest, rfl, .inl rfl, hfails r⟩

theorem of_throw (e : Error) : StopsAtOne fun _ => throw e :=
  fun _ _ _ _ hsome hrun => of_first hsome fun _ => hrun

/-- What is looked up for a whole batch does not depend on it. -/
theorem after_look_up {α : Type} {look : CloudM α} {rest : α → List Resource → CloudM Report}
    (hrest : ∀ a, StopsAtOne (rest a)) :
    StopsAtOne fun resources => look >>= fun a => rest a resources := by
  intro resources cloud e after hsome hrun
  rcases hlook : look.run cloud with ⟨e' | a, reached⟩
  · rw [Steps.run_bind_of_error hlook] at hrun
    exact of_first hsome fun r => by rw [Steps.run_bind_of_error hlook, hrun]
  · simp only [Steps.run_bind_of_ok hlook] at hrun ⊢
    exact hrest a hsome hrun

/-- An action may do nothing about no resources. -/
theorem unless_empty (h : StopsAtOne process) (nothing : Report) :
    StopsAtOne fun resources => if resources.isEmpty then pure nothing else process resources := by
  intro resources cloud e after hsome hrun
  dsimp only at hrun ⊢
  rw [if_neg (by rwa [List.isEmpty_iff])] at hrun
  obtain ⟨front, r, rest, hsplit, hfront, hfails⟩ := h hsome hrun
  refine ⟨front, r, rest, hsplit, ?_, ?_⟩
  · rcases front with _ | ⟨first, front⟩
    · exact .inl rfl
    · exact hfront
  · rw [if_neg (by simp)]
    exact hfails

end StopsAtOne

/-- The batch is worked off one resource after the other, and of no resources nothing is made. -/
structure WorksInTurn (process : List Resource → CloudM Report) : Prop where
  nothing : ∀ cloud, ∃ report, (process []).run cloud = (.ok report, cloud)
  stops : StopsAtOne process

namespace Action

/-- The steps for a batch stop at the first one that fails, whatever they remember. -/
theorem eachWith_stops {σ : Type} (step : σ → Resource → CloudM (Step × σ)) (memory : σ)
    (report : Report) : StopsAtOne (eachWith step memory report) := by
  intro resources cloud e after hsome hrun
  clear hsome
  induction resources generalizing memory report cloud with
  | nil => cases hrun
  | cons r rest ih =>
      rcases hfirst : (step memory r).run cloud with ⟨e' | ⟨result, later⟩, reached⟩
      · rw [eachWith, Steps.run_bind_of_error hfirst] at hrun
        refine ⟨[], r, rest, rfl, .inl rfl, ?_⟩
        rw [List.nil_append, eachWith, Steps.run_bind_of_error hfirst, hrun]
      · have hgoes (others : List Resource) :
            (eachWith step memory report (r :: others)).run cloud =
              (eachWith step later (report.add r.id result) others).run reached := by
          rw [eachWith, Steps.run_bind_of_ok hfirst]
        rw [hgoes] at hrun
        obtain ⟨front, s, others, rfl, hfront, hfails⟩ := ih _ _ hrun
        refine ⟨r :: front, s, others, rfl, .inr ?_, ?_⟩
        · rw [hgoes]
          rcases hfront with rfl | hfront
          · exact ⟨_, _, rfl⟩
          · exact hfront
        · rw [List.cons_append, hgoes]
          exact hfails

theorem eachWith_worksInTurn {σ : Type} (step : σ → Resource → CloudM (Step × σ)) (memory : σ)
    (report : Report) : WorksInTurn (eachWith step memory report) :=
  ⟨fun _ => ⟨report, rfl⟩, eachWith_stops step memory report⟩

variable (context : RunContext)

theorem ofStep_worksInTurn (name : String) (step : RunContext → Resource → CloudM Step) :
    WorksInTurn ((ofStep name step).process context) :=
  eachWith_worksInTurn _ () _

theorem ofPlan_worksInTurn (name : String) (plan : Resource → Plan) :
    WorksInTurn ((ofPlan name plan).process context) := by
  cases htype : context.resourceType.tagServiceName? with
  | none =>
      simp only [ofPlan, htype]
      exact ⟨fun _ => ⟨_, rfl⟩, fun _ _ _ _ _ hrun => by cases hrun⟩
  | some tagTypeName =>
      simp only [ofPlan, htype]
      exact ofStep_worksInTurn context name _

theorem enableLogging_worksInTurn (group stream : LogReference) :
    WorksInTurn ((enableLogging group stream).process context) :=
  ⟨fun _ => ⟨_, rfl⟩, .unless_empty (.after_look_up fun _ => .after_look_up fun _ =>
    .after_look_up fun _ => .after_look_up fun _ => (ofStep_worksInTurn context _ _).stops) _⟩

theorem setAccessControl_worksInTurn (ids names : List String) (enabled : Bool)
    (kind : AddressGroupKind) :
    WorksInTurn ((setAccessControl ids names enabled kind).process context) := by
  refine ⟨fun _ => ⟨_, rfl⟩, .unless_empty (.after_look_up fun groups => ?_) _⟩
  dsimp only
  split
  next => exact .of_throw _
  next => exact (ofStep_worksInTurn context _ _).stops

end Action

namespace ActionKind

/-- The kinds that take one step for each resource. The others write tags in batches or publish
messages about all resources. -/
def stepwise : List ActionKind :=
  [renameTag, normalizeTag, trimTags, deleteLoadBalancer, unbindPublicAddresses, enableLogging,
    createLogTransfer, deleteListener, setAccessControl, redirectToHttps, deleteFunction,
    updateConcurrency, modifySecurityGroups, showConfig, updateConfig, trimVersions, invoke,
    deleteTopic, createTopicLogging, deleteTopicLogging, updateAccess, deleteAccess, deleteAllowAll]

/-- Whatever is built for a kind of this list works in turn. -/
theorem worksInTurn_of_build {kind : ActionKind} (hkind : kind ∈ stepwise) {block : Json}
    {build : BuildContext} {action : Action} (hbuild : kind.build block build = .ok action)
    (context : RunContext) : WorksInTurn (action.process context) := by
  cases kind with
  | renameTag =>
      obtain ⟨_, _, -, -, -, rfl⟩ := Action.exists_keys_of_buildRename hbuild
      exact Action.ofPlan_worksInTurn context _ _
  | normalizeTag =>
      obtain ⟨_, _, -, -, rfl⟩ := Action.exists_rule_of_buildNormalize hbuild
      exact Action.ofPlan_worksInTurn context _ _
  | trimTags =>
      obtain ⟨_, -, -, rfl⟩ := Action.exists_space_of_buildTrim hbuild
      exact Action.ofPlan_worksInTurn context _ _
  | deleteLoadBalancer | unbindPublicAddresses | deleteListener | deleteFunction | showConfig
  | trimVersions | deleteTopic | deleteTopicLogging | deleteAccess | deleteAllowAll =>
      cases hbuild
      exact Action.ofStep_worksInTurn context _ _
  | redirectToHttps =>
      cases hbuild
      exact Action.eachWith_worksInTurn _ none _
  | createLogTransfer =>
      obtain ⟨_, -, hbuild⟩ := Steps.of_bind_eq_ok hbuild
      cases hbuild
      exact Action.eachWith_worksInTurn _ [] _
  | updateConcurrency =>
      obtain ⟨_, -, hbuild⟩ := Steps.of_bind_eq_ok hbuild
      cases hbuild
      exact Action.ofStep_worksInTurn context _ _
  | modifySecurityGroups | createTopicLogging =>
      obtain ⟨_, -, hbuild⟩ := Steps.of_bind_eq_ok hbuild
      obtain ⟨_, -, hbuild⟩ := Steps.of_bind_eq_ok hbuild
      cases hbuild
      exact Action.ofStep_worksInTurn context _ _
  | updateConfig | updateAccess =>
      obtain ⟨_, -, hbuild⟩ := Steps.of_bind_eq_ok hbuild
      split at hbuild <;> cases hbuild
      exact Action.ofStep_worksInTurn context _ _
  | invoke =>
      obtain ⟨_, -, hbuild⟩ := Steps.of_bind_eq_ok hbuild
      dsimp only at hbuild
      split at hbuild <;> cases hbuild
      exact Action.ofStep_worksInTurn context _ _
  | enableLogging =>
      obtain ⟨_, -, hbuild⟩ := Steps.of_bind_eq_ok hbuild
      obtain ⟨_, -, hbuild⟩ := Steps.of_bind_eq_ok hbuild
      cases hbuild
      exact Action.enableLogging_worksInTurn context _ _
  | setAccessControl =>
      rw [ActionKind.build, Action.buildSetAccessControl] at hbuild
      split at hbuild
      next => cases hbuild
      obtain ⟨_, -, hbuild⟩ := Steps.of_bind_eq_ok hbuild
      cases hbuild
      exact Action.setAccessControl_worksInTurn context _ _ _ _
  | _ => exact absurd hkind (by decide)

/-- **A failing action stops at the failing resource.** Take an action of any kind that works
resource by resource, whatever its block and its context, and a batch on which it fails, whatever
the cloud stores, refuses and fails at. There is one resource in the batch such that the action
comes to its end on the batch before it, and on the batch up to it fails with the same error and
leaves the same cloud with the same calls: nothing was done about the resources after it. -/
theorem failing_action_stops (kind : ActionKind) (hkind : kind ∈ stepwise) (block : Json)
    (build : BuildContext) (action : Action) (hbuild : kind.build block build = .ok action)
    (context : RunContext) (resources : List Resource) (cloud after : Cloud) (e : Error)
    (hrun : (action.process context resources).run cloud = (.error e, after)) :
    ∃ front r rest, resources = front ++ r :: rest ∧
      (∃ report reached, (action.process context front).run cloud = (.ok report, reached)) ∧
      (action.process context (front ++ [r])).run cloud = (.error e, after) := by
  obtain ⟨hnothing, hstops⟩ := worksInTurn_of_build hkind hbuild context
  have hsome : resources ≠ [] := by
    rintro rfl
    obtain ⟨report, hended⟩ := hnothing cloud
    rw [hended] at hrun
    cases hrun
  obtain ⟨front, r, rest, hsplit, hfront, hfails⟩ := hstops hsome hrun
  refine ⟨front, r, rest, hsplit, ?_, hfails⟩
  rcases hfront with rfl | hfront
  · obtain ⟨report, hended⟩ := hnothing cloud
    exact ⟨report, cloud, hended⟩
  · exact hfront

/-- Of three topics the first one is deleted, the service fails at the second one, and is not asked
about the third one. -/
theorem topic_after_failing_one_untouched :
    let topics : List Resource := ["t-1", "t-2", "t-3"].map fun id =>
      .ofRecord (.obj [("id", .string id)])
    let cloud : Cloud := (({} : Cloud).setResources .topic topics).failOn "delete_topic" "t-2"
    let run (batch : List Resource) := (Action.deleteTopic.process default batch).run cloud
    deleteTopic ∈ stepwise ∧ deleteTopic.build .null default = .ok Action.deleteTopic ∧
      ∃ e after, run topics = (.error e, after) ∧ after.calls.map (·.target) = ["t-1", "t-2"] ∧
        (after.resources .topic).map (·.id) = ["t-2", "t-3"] ∧
        ∃ front r rest, topics = front ++ r :: rest ∧
          (∃ report reached, run front = (.ok report, reached)) ∧
          run (front ++ [r]) = (.error e, after) := by
  intro topics cloud run
  have hkind : deleteTopic ∈ stepwise := by decide
  have hrun : run topics = (.error (.serviceCall "smn" "delete_topic" "injected failure for 't-2'"),
      (run topics).2) := rfl
  exact ⟨hkind, rfl, _, _, hrun, by decide +kernel, by decide +kernel,
    failing_action_stops deleteTopic hkind .null default _ rfl default topics cloud _ _ hrun⟩

end ActionKind

end CloudPolicy
