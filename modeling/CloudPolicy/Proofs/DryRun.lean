import CloudPolicy.Proofs.ActionEffects
import CloudPolicy.Proofs.RunEffects

/-! Runs without their actions. Filters do not ask whether a run is dry, they only look things up,
and actions never take back a call. Main statement: a dry run leaves the cloud and the entries of
the ledger as they are, and whenever the real run comes to its end, the dry one shows what that one
matches and the calls that it starts with. -/

namespace CloudPolicy

open Cloud (LogsOnly)
open Steps (Within)

/-! ### Selections -/

/-- What a run reads, when it is to be dry or not. -/
def RunContext.withDryRun (context : RunContext) (dryRun : Bool) : RunContext :=
  { context with settings := { context.settings with dryRun } }

/-- A filter does the same whether a run is dry or not. -/
theorem FilterKind.Builds.process_withDryRun {kind : FilterKind} {filter : Filter}
    (hbuilds : kind.Builds filter) (context : RunContext) (dryRun : Bool) :
    filter.process (context.withDryRun dryRun) = filter.process context := by
  cases hbuilds with
  | test name test hclock _ =>
      have hsame : test (context.withDryRun dryRun) = test context := hclock _ _ rfl
      simp only [Filter.ofTest, hsame]
  | _ => rfl

namespace Policy

theorem applyFilters_withDryRun {filters : List Filter} {context : RunContext} {dryRun : Bool}
    (hfilters : ∀ filter ∈ filters,
      filter.process (context.withDryRun dryRun) = filter.process context)
    (resources : List Resource) :
    applyFilters (context.withDryRun dryRun) filters resources =
      applyFilters context filters resources := by
  induction filters generalizing resources with
  | nil => rfl
  | cons filter filters ih =>
      obtain ⟨hfilter, hrest⟩ := List.forall_mem_cons.1 hfilters
      rw [applyFilters, applyFilters, hfilter]
      simp only [ih hrest]

theorem select_withDryRun {policy : Policy} {context : RunContext} {dryRun : Bool}
    (hfilters : ∀ filter ∈ policy.filters,
      filter.process (context.withDryRun dryRun) = filter.process context) :
    policy.select (context.withDryRun dryRun) = policy.select context := by
  rw [select, select]
  simp only [applyFilters_withDryRun hfilters]
  rfl

end Policy

/-! ### Actions -/

/-- No call was taken back. -/
def Cloud.CallsGrow (before after : Cloud) : Prop := before.calls <+: after.calls

instance : IsPreorder Cloud Cloud.CallsGrow where
  refl := fun _ => List.prefix_rfl
  trans := fun _ _ _ h h' => List.IsPrefix.trans h h'

namespace Cloud

theorem callsGrow_of_keeps (before after : Cloud) (h : KeepsRecords before after) :
    CallsGrow before after :=
  h.calls

theorem enter_callsGrow (service operation target : String) :
    Within CallsGrow (fun _ => True) (enter service operation target) :=
  enter_within callsGrow_of_keeps service operation target

theorem deleteFunction_callsGrow (target : String) :
    Within CallsGrow (fun _ => True) (deleteFunction target) :=
  (enter_callsGrow _ _ _).andThen fun _ => .of_modify fun _ => List.prefix_rfl

theorem admits_callsGrow (type : ResourceType) (batch : List Resource) :
    Admits CallsGrow type batch where
  keeps := callsGrow_of_keeps
  writeTags := fun htype _ => writeTags_within callsGrow_of_keeps htype fun _ => List.prefix_rfl
  updateRecord := fun _ _ => updateRecord_within callsGrow_of_keeps fun _ => List.prefix_rfl
  remove := fun _ => remove_within callsGrow_of_keeps fun _ => List.prefix_rfl
  deleteTopic := fun _ _ _ => remove_within callsGrow_of_keeps fun _ => List.prefix_rfl
  deleteFunction := fun _ _ _ => deleteFunction_callsGrow _
  updateMaxInstances := fun _ _ _ _ =>
    (enter_callsGrow _ _ _).andThen fun _ => .of_modify fun _ => List.prefix_rfl

end Cloud

theorem ActionKind.Builds.callsGrow {kind : ActionKind} {action : Action}
    (hbuilds : kind.Builds action) {context : RunContext}
    (hkind : kind ∈ context.resourceType.actions) (resources : List Resource) :
    Within Cloud.CallsGrow (fun _ => True) (action.process context resources) :=
  hbuilds.within (Cloud.admits_callsGrow _ resources) rfl hkind
    fun _ => Cloud.deleteFunction_callsGrow

/-! ### Runs -/

theorem RunM.run_inLedger_of_error {step : Ledger → Except Error Ledger} {world : World}
    {e : Error} (h : step world.ledger = .error e) :
    (inLedger step).run world = (.error e, world) := by
  simp only [inLedger, ExceptT.run_mk, h]

/-- Nothing was done but look things up and seal runs. -/
structure World.LooksUp (before after : World) : Prop where
  cloud : LogsOnly before.cloud after.cloud
  entries : after.ledger.entries = before.ledger.entries

instance : IsPreorder World World.LooksUp where
  refl := fun world => ⟨refl_of LogsOnly world.cloud, rfl⟩
  trans := fun _ _ _ h h' => ⟨trans_of LogsOnly h.cloud h'.cloud, h'.entries.trans h.entries⟩

namespace Policy

variable {hash : HashFunction} {policy : Policy} {runId : RunId} {context : RunContext}
  {world : World}

theorem due_of_dryRun (hdry : context.settings.dryRun = true) (matched : List Resource) :
    policy.due context.settings matched = [] := by
  rw [due, hdry]
  rfl

/-- However a dry run ends, it did nothing but look things up. -/
theorem execute_looksUp (hfilters : ∀ filter ∈ policy.filters, filter.Narrows)
    (hdry : context.settings.dryRun = true) :
    Within World.LooksUp (fun _ => True) (policy.execute (.ledger hash) runId context) := by
  have hselect : Within World.LooksUp (fun _ => True) (RunM.inCloud (policy.select context)) :=
    ⟨fun world => ⟨(select_keeps hfilters context world.cloud).1, rfl⟩, fun _ _ _ => trivial⟩
  have hseal : Within World.LooksUp (fun _ => True)
      (RunM.inLedger fun ledger => (AuditSink.ledger hash).finalize ledger runId) := by
    refine ⟨fun world => ?_, fun _ _ _ => trivial⟩
    by_cases hsealed : runId ∈ world.ledger.sealedRuns
    · rw [RunM.run_inLedger_of_error (Ledger.finalize_sealed hsealed)]
      exact refl_of World.LooksUp world
    · rw [RunM.run_inLedger (Ledger.finalize_fresh hsealed)]
      exact ⟨refl_of LogsOnly world.cloud, rfl⟩
  refine hselect.andThen fun matched => ?_
  dsimp only
  rw [hdry, Bool.true_or, if_pos rfl]
  exact Within.andThen (.done _) fun _ => hseal.andThen fun _ => .done _

/-- A run that comes to its end was not sealed before, and it says what its filters left. -/
theorem ended_of_execute_eq_ok {outcome : RunOutcome} {after : World}
    (hrun : (policy.execute (.ledger hash) runId context).run world = (.ok outcome, after)) :
    runId ∉ world.ledger.sealedRuns ∧
      outcome = ⟨runId, policy.name, true, outcome.matched, outcome.reports⟩ ∧
      ∃ cloud, (policy.select context).run world.cloud = (.ok outcome.matched, cloud) := by
  rcases hselect : (policy.select context).run world.cloud with ⟨e | matched, cloud⟩
  · rw [execute_of_select_error hselect] at hrun
    cases hrun
  have hcases := Steps.run_mapM_cases (fun action : Action => action.process context matched)
    (policy.due context.settings matched) cloud
  obtain ⟨reports, last, hactions⟩ |
    ⟨before, action, later, reports, middle, e, last, hdue, hbefore, haction⟩ := hcases
  · by_cases hsealed : runId ∈ world.ledger.sealedRuns
    · let written := world.ledger.writeAll hash (reports.map (context.record runId))
      have hact : (act (.ledger hash) runId context matched
          (policy.due context.settings matched)).run ⟨cloud, world.ledger⟩ =
            (.ok reports, ⟨last, written⟩) := act_of_ok world.ledger hactions
      have hstill : runId ∈ written.sealedRuns := by
        rw [Ledger.sealedRuns_writeAll]
        exact hsealed
      rw [execute, Steps.run_bind_of_ok (RunM.run_inCloud hselect)] at hrun
      rw [due] at hact
      rw [Steps.run_bind_of_ok hact, Steps.run_bind_of_error
        (RunM.run_inLedger_of_error (Ledger.finalize_sealed hstill))] at hrun
      cases hrun
    · obtain ⟨ledger, hended, -⟩ := execute_of_ok hsealed hselect hactions
      rw [hended] at hrun
      cases hrun
      exact ⟨hsealed, rfl, cloud, rfl⟩
  · rw [execute_of_action_error hselect hdue hbefore haction] at hrun
    cases hrun

/-- The dry run of a policy whose filters do not ask for it shows how the real one begins. -/
theorem execute_previews (context : RunContext)
    (hnarrows : ∀ filter ∈ policy.filters, filter.Narrows)
    (hfilters : ∀ dryRun, ∀ filter ∈ policy.filters,
      filter.process (context.withDryRun dryRun) = filter.process context)
    (hactions : ∀ matched, ∀ action ∈ policy.actions,
      Within Cloud.CallsGrow (fun _ => True) (action.process (context.withDryRun false) matched)) :
    let run (dryRun : Bool) :=
      (policy.execute (.ledger hash) runId (context.withDryRun dryRun)).run world
    world.LooksUp (run true).2 ∧
    ∀ outcome, (run false).1 = .ok outcome →
      (run true).1 = .ok { outcome with reports := [] } ∧
      (run true).2.cloud.CallsGrow (run false).2.cloud := by
  intro run
  refine ⟨(execute_looksUp hnarrows rfl).moves world, fun outcome hended => ?_⟩
  obtain ⟨hfresh, houtcome, cloud, hselect⟩ := ended_of_execute_eq_ok (Steps.eq_ok_of_fst hended)
  have hgrows : cloud.CallsGrow (run false).2.cloud :=
    (execute_of_select_ok hselect (hactions outcome.matched)).1
  have hdry : (policy.select (context.withDryRun true)).run world.cloud =
      (.ok outcome.matched, cloud) := by
    rw [select_withDryRun (hfilters true), ← select_withDryRun (hfilters false)]
    exact hselect
  have hnothing : (processAll (context.withDryRun true) outcome.matched
      (policy.due (context.withDryRun true).settings outcome.matched)).run cloud =
        (.ok [], cloud) := by
    rw [due_of_dryRun rfl]
    exact Steps.run_mapM_nil
  obtain ⟨ledger, hrun, -⟩ := execute_of_ok hfresh hdry hnothing
  have hpreview : run true = (.ok { outcome with reports := [] }, ⟨cloud, ledger⟩) := by
    rw [houtcome]
    exact hrun
  rw [hpreview]
  exact ⟨rfl, hgrows⟩

/-- **A dry run previews the run.** A dry run of a compiled policy leaves all of the cloud but its
log of calls, and the entries of the ledger, as they were, whether it comes to its end or not. When
the run from the same state with actions comes to its end, the dry one does so too, with the same
outcome but for the reports, and its calls are those that the other one starts with. -/
theorem dry_run_previews (building settings : Settings) (document : PolicyDocument)
    (policies : List Policy) (hcompiled : ofDocument building document = .ok policies)
    (policy : Policy) (hpolicy : policy ∈ policies) (hash : HashFunction) (now : Timestamp)
    (runId : RunId) (event : Option Event) (schedule : List Nat) (world : World) :
    let run (dryRun : Bool) :=
      (policy.run (.ledger hash) { settings with dryRun } now runId event schedule).run world
    (∃ calls, (run true).2.cloud = { world.cloud with calls := world.cloud.calls ++ calls }) ∧
    (run true).2.ledger.entries = world.ledger.entries ∧
    ∀ outcome, (run false).1 = .ok outcome →
      (run true).1 = .ok { outcome with reports := [] } ∧
      ∃ previewed later, (run true).2.cloud.calls = world.cloud.calls ++ previewed ∧
        (run false).2.cloud.calls = world.cloud.calls ++ (previewed ++ later) := by
  intro run
  suffices hpreviews : world.LooksUp (run true).2 ∧ ∀ outcome, (run false).1 = .ok outcome →
      (run true).1 = .ok { outcome with reports := [] } ∧
      (run true).2.cloud.CallsGrow (run false).2.cloud by
    obtain ⟨⟨⟨calls, hcloud⟩, hentries⟩, hended⟩ := hpreviews
    refine ⟨⟨calls, hcloud⟩, hentries, fun outcome houtcome => ?_⟩
    obtain ⟨hdry, later, hlater⟩ := hended outcome houtcome
    refine ⟨hdry, calls, later, by rw [hcloud], ?_⟩
    rw [← hlater, hcloud, List.append_assoc]
  cases htrigger : policy.trigger event with
  | missing =>
      simp only [run, Policy.run, htrigger]
      exact ⟨refl_of World.LooksUp world, fun _ hended => by cases hended⟩
  | ignored =>
      simp only [run, Policy.run, htrigger]
      refine ⟨refl_of World.LooksUp world, ?_⟩
      rintro outcome ⟨⟩
      exact ⟨rfl, refl_of Cloud.CallsGrow world.cloud⟩
  | run seen =>
      obtain ⟨hfilters, hactions⟩ := compiled_of_ofDocument hcompiled hpolicy
      simp only [run, run_of_trigger htrigger]
      refine execute_previews (policy.runContext settings now seen schedule) ?_ ?_ ?_
      · intro filter hfilter
        obtain ⟨kind, -, block, hbuild⟩ := hfilters filter hfilter
        exact (FilterKind.builds_of_build hbuild).narrows
      · intro dryRun filter hfilter
        obtain ⟨kind, -, block, hbuild⟩ := hfilters filter hfilter
        exact (FilterKind.builds_of_build hbuild).process_withDryRun _ dryRun
      · intro matched action haction
        obtain ⟨kind, hkind, block, hbuild⟩ := hactions action haction
        exact (ActionKind.builds_of_build hbuild).callsGrow hkind matched

/-- The dry run of a deletion of the topics without log bindings keeps them all. -/
theorem topic_deletion_previewed :
    let document : PolicyDocument :=
      ⟨[{ name := "unlogged", resource := "smn-topic",
          filters := [.obj [("type", .string "topic-lts"), ("enabled", .bool false)]],
          actions := [.string "delete"] }]⟩
    let topic (name : String) : Resource := .ofRecord (.obj [("id", .string name)])
    let cloud : Cloud := { ({} : Cloud).setResources .topic [topic "orders", topic "alarms"] with
      logtanks := .ofList [("orders", [.obj [("id", .string "lts-1")]])] }
    ∃ policy, ofDocument {} document = .ok [policy] ∧
      let run (dryRun : Bool) := (policy.run (.ledger Sha256.hex) { dryRun } ⟨0, 0⟩ (.ofNat 1)
        none).run ⟨cloud, {}⟩
      ((run false).2.cloud.resources .topic).map (·.id) = ["orders"] ∧
      (run true).2.cloud.resources .topic = [topic "orders", topic "alarms"] ∧
      ∃ outcome, (run false).1 = .ok outcome ∧ outcome.matched.map (·.id) = ["alarms"] ∧
        (run true).1 = .ok { outcome with reports := [] } := by
  intro document topic cloud
  refine ⟨_, rfl, ?_⟩
  intro run
  obtain ⟨⟨calls, hcloud⟩, -, hended⟩ := dry_run_previews {} {} document _ rfl _
    List.mem_cons_self Sha256.hex ⟨0, 0⟩ (.ofNat 1) none [] ⟨cloud, {}⟩
  refine ⟨by decide +kernel, ?_, _, rfl, by decide +kernel, (hended _ rfl).1⟩
  exact congrArg (fun after : Cloud => after.resources .topic) hcloud

end Policy

end CloudPolicy
