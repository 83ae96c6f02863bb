import CloudPolicy.Proofs.Compiled
import CloudPolicy.Run.Basic

/-! Filters and empty batches. A run stops filtering when no resource is left; a run that applies
every filter, whatever is left, is defined beside it. Main statement: no filter that a kind builds
looks anything up for an empty batch, so the two runs do the same. -/

namespace CloudPolicy

namespace Filter

/-- Of nothing the filter makes nothing, without a look at the cloud. -/
def IsIdle (filter : Filter) : Prop :=
  ∀ context cloud, (filter.process context []).run cloud = (.ok [], cloud)

theorem lookUpAll_nil {α : Type} (context : RunContext) (unset : α) (look : Resource → CloudM α)
    (cloud : Cloud) : (lookUpAll context unset look []).run cloud = (.ok [], cloud) := by
  have hpool : Pool.fanOutWith context.schedule (lookUpTask look) [] context.settings.maxWorkers =
      pure ([], none) := by
    simp only [Pool.fanOutWith, List.length_nil, Nat.min_zero, Nat.zero_le, if_true, Pool.inOrder]
  rw [lookUpAll, List.map_nil, hpool]
  rfl

end Filter

/-- An empty batch lists no attachments, so none are asked for. -/
theorem Attachment.fetch_nil (attachment : Attachment) (type : ResourceType) (cloud : Cloud) :
    (attachment.fetch type []).run cloud = (.ok ∅, cloud) := rfl

theorem Filter.fetchCompared_nil (compared : Bool) (attachment : Attachment) (type : ResourceType)
    (cloud : Cloud) : (fetchCompared compared attachment type []).run cloud = (.ok ∅, cloud) := by
  cases compared with
  | true => exact attachment.fetch_nil type cloud
  | false => rfl

theorem FilterKind.Builds.idle {kind : FilterKind} {filter : Filter}
    (hbuilds : kind.Builds filter) : filter.IsIdle := by
  intro context cloud
  cases hbuilds with
  | placement options =>
      simp only [Filter.placement, Steps.run_bind_of_ok (Filter.fetchCompared_nil _ _ _ _)]
      rfl
  | triggered p =>
      simp only [Filter.triggered, Steps.run_bind_of_ok (Filter.lookUpAll_nil _ _ _ _)]
      rfl
  | reserved p =>
      simp only [Filter.reserved, Steps.run_bind_of_ok (Filter.lookUpAll_nil _ _ _ _)]
      rfl
  | _ => rfl

namespace Policy

/-! ### Runs without the exit -/

/-- Apply one filter after the other, whatever is left. -/
def applyAll (context : RunContext) : List Filter → List Resource → CloudM (List Resource)
  | [], resources => return resources
  | filter :: filters, resources => do
    let kept ← filter.process context resources
    applyAll context filters kept

/-- List the resources of a policy and apply every filter. -/
def selectThroughout (policy : Policy) (context : RunContext) : CloudM (List Resource) := do
  let resources ← Cloud.list policy.resourceType
  applyAll context policy.filters (restrict context.event resources)

/-- `execute` with a selection of the matched resources. -/
def executeOn (policy : Policy) (select : RunContext → CloudM (List Resource)) (sink : AuditSink)
    (runId : RunId) (context : RunContext) : RunM RunOutcome := do
  let matched ← RunM.inCloud (select context)
  let actions := if context.settings.dryRun || matched.isEmpty then [] else policy.actions
  let reports ← act sink runId context matched actions
  RunM.inLedger fun ledger => sink.finalize ledger runId
  return { runId, policy := policy.name, matched, reports }

/-- `run` with a selection of the matched resources. -/
def runOn (policy : Policy) (select : RunContext → CloudM (List Resource)) (sink : AuditSink)
    (settings : Settings) (now : Timestamp) (runId : RunId) (event : Option Event)
    (schedule : List Nat) : RunM RunOutcome :=
  match policy.trigger event with
  | .missing =>
    throw (.execution ("policy '" ++ policy.name ++ "' is event-driven and needs an event"))
  | .ignored => return { runId, policy := policy.name, triggered := false }
  | .run event => policy.executeOn select sink runId
      { policy := policy.name, resourceType := policy.resourceType, settings, event, now, schedule }

/-- A run is one on the selection that stops when nothing is left. -/
theorem run_eq_runOn (policy : Policy) (sink : AuditSink) (settings : Settings) (now : Timestamp)
    (runId : RunId) (event : Option Event) (schedule : List Nat) :
    policy.run sink settings now runId event schedule =
      policy.runOn policy.select sink settings now runId event schedule := rfl

/-! ### The exit is not seen -/

variable {context : RunContext} {filters : List Filter}

theorem applyAll_nil (hidle : ∀ filter ∈ filters, filter.IsIdle) (cloud : Cloud) :
    (applyAll context filters []).run cloud = (.ok [], cloud) := by
  induction filters with
  | nil => rfl
  | cons filter filters ih =>
      obtain ⟨hfilter, hrest⟩ := List.forall_mem_cons.1 hidle
      rw [applyAll, Steps.run_bind_of_ok (hfilter context cloud)]
      exact ih hrest

/-- Where idle filters stop early, they would have done nothing more. -/
theorem applyFilters_eq_applyAll (hidle : ∀ filter ∈ filters, filter.IsIdle)
    (resources : List Resource) :
    applyFilters context filters resources = applyAll context filters resources := by
  induction filters generalizing resources with
  | nil => rfl
  | cons filter filters ih =>
      rcases resources with _ | ⟨r, rest⟩
      · refine ExceptT.ext (StateT.ext fun cloud => ?_)
        exact (applyAll_nil hidle cloud).symm
      · obtain ⟨-, hrest⟩ := List.forall_mem_cons.1 hidle
        rw [applyFilters, applyAll, if_neg (by simp)]
        exact bind_congr fun kept => ih hrest kept

/-- **An empty batch costs nothing.** Every filter that a kind builds, of whatever block, makes of
an empty batch an empty one and does not call a service, whatever the services fail at and however
many workers there are. So a run of a compiled policy, which stops filtering when no resource is
left, gives the same outcome or failure and leaves the same cloud, with the same calls, and the same
ledger as one that applies every filter. -/
theorem early_exit_unseen :
    (∀ kind block build filter, FilterKind.build kind block build = .ok filter →
      ∀ context cloud, (filter.process context []).run cloud = (.ok [], cloud)) ∧
    ∀ building document policies, ofDocument building document = .ok policies →
      ∀ policy ∈ policies, ∀ sink settings now runId event schedule world,
        (policy.run sink settings now runId event schedule).run world =
          (policy.runOn policy.selectThroughout sink settings now runId event schedule).run
            world := by
  constructor
  · intro kind block build filter hbuild
    exact (FilterKind.builds_of_build hbuild).idle
  · intro building document policies hcompiled policy hpolicy sink settings now runId event schedule
      world
    have hidle : ∀ filter ∈ policy.filters, filter.IsIdle := by
      intro filter hfilter
      obtain ⟨kind, -, block, hbuild⟩ :=
        (compiled_of_ofDocument hcompiled hpolicy).filters filter hfilter
      exact (FilterKind.builds_of_build hbuild).idle
    have hselect : policy.select = policy.selectThroughout := by
      funext context
      exact bind_congr fun resources => applyFilters_eq_applyAll hidle _
    rw [run_eq_runOn, hselect]

/-- A filter on names leaves none of two functions. The one on triggers would let four workers look
at each function, which fails, but there is none to look at. -/
theorem failing_look_up_unreached :
    let document : PolicyDocument :=
      ⟨[{ name := "idle", resource := "functiongraph",
          filters := [.obj [("type", .string "value"), ("key", .string "name"),
              ("value", .string "other")],
            .obj [("type", .string "trigger-type"), ("key", .string "trigger_type_code"),
              ("value", .string "TIMER")]],
          actions := [.string "delete-function"] }]⟩
    let function (id : String) : Resource := .ofRecord (.obj [("id", .string id)])
    let cloud := (({} : Cloud).setResources .function [function "fn-1", function "fn-2"]).failOn
      "list_triggers" "*"
    let block : Json := .obj [("key", .string "trigger_type_code"), ("value", .string "TIMER")]
    ∃ policy filter, ofDocument {} document = .ok [policy] ∧
      FilterKind.triggerType.build block default = .ok filter ∧
      (filter.process default []).run cloud = (.ok [], cloud) ∧
      ((filter.process default [function "fn-1"]).run cloud).1.toOption = none ∧
      let whole := (policy.runOn policy.selectThroughout (.ledger Sha256.hex) { maxWorkers := 4 }
        ⟨0, 0⟩ (.ofNat 1) none []).run ⟨cloud, {}⟩
      (policy.run (.ledger Sha256.hex) { maxWorkers := 4 } ⟨0, 0⟩ (.ofNat 1) none []).run
        ⟨cloud, {}⟩ = whole ∧
      (whole.1.toOption.map fun outcome => outcome.matched.map (·.id)) = some [] ∧
      whole.2.cloud.calls.map (·.operation) = ["list"] := by
  intro document function cloud block
  refine ⟨_, _, rfl, rfl, ?_, by decide +kernel, ?_, by decide +kernel, by decide +kernel⟩
  · exact early_exit_unseen.1 .triggerType block default _ rfl default cloud
  · exact early_exit_unseen.2 {} document _ rfl _ List.mem_cons_self (.ledger Sha256.hex)
      { maxWorkers := 4 } ⟨0, 0⟩ (.ofNat 1) none [] ⟨cloud, {}⟩

end Policy

end CloudPolicy
