import CloudPolicy.Proofs.Ledger
import CloudPolicy.Proofs.Steps
import CloudPolicy.Run.Basic

/-! One run of a policy and the trail that it leaves. Filters and actions are arbitrary steps of the
cloud that may fail anywhere. Main statement: whatever way a run takes, the ledger gets one record
for each action that was carried out, in their order, and the run is sealed exactly when it comes to
its end. -/

namespace CloudPolicy

namespace Ledger

variable {hash : HashFunction}

/-- Write some records, one after the other. -/
def writeAll (hash : HashFunction) (ledger : Ledger) (records : List RunRecord) : Ledger :=
  records.foldl (write hash) ledger

@[simp] theorem sealedRuns_writeAll (ledger : Ledger) (records : List RunRecord) :
    (ledger.writeAll hash records).sealedRuns = ledger.sealedRuns := by
  induction records generalizing ledger with
  | nil => rfl
  | cons record records ih => exact ih (ledger.write hash record)

theorem entries_writeAll (hash : HashFunction) (ledger : Ledger) (records : List RunRecord) :
    ∃ new, (ledger.writeAll hash records).entries = ledger.entries ++ new ∧
      new.map (·.record) = records := by
  induction records generalizing ledger with
  | nil => exact ⟨[], (List.append_nil _).symm, rfl⟩
  | cons record records ih =>
      obtain ⟨new, hentries, hrecords⟩ := ih (ledger.write hash record)
      refine ⟨ledger.nextEntry hash record :: new, ?_, ?_⟩
      · calc (ledger.writeAll hash (record :: records)).entries
            = ((ledger.write hash record).writeAll hash records).entries := rfl
          _ = ledger.entries ++ [ledger.nextEntry hash record] ++ new := hentries
          _ = ledger.entries ++ ledger.nextEntry hash record :: new := by
            rw [List.append_assoc, List.singleton_append]
      · rw [List.map_cons, hrecords]
        rfl

/-- From one ledger to another, entries with these records and these sealed runs were appended. -/
def Grows (before after : Ledger) (records : List RunRecord) (runs : List RunId) : Prop :=
  ∃ new, after.entries = before.entries ++ new ∧ new.map (·.record) = records ∧
    after.sealedRuns = before.sealedRuns ++ runs

end Ledger

namespace RunM

theorem run_inCloud {α : Type} {step : CloudM α} {world : World} {result : Except Error α}
    {cloud : Cloud} (h : step.run world.cloud = (result, cloud)) :
    (inCloud step).run world = (result, { world with cloud }) := by
  simp only [inCloud, ExceptT.run_mk, h]

theorem run_inLedger {step : Ledger → Except Error Ledger} {world : World} {ledger : Ledger}
    (h : step world.ledger = .ok ledger) :
    (inLedger step).run world = (.ok (), { world with ledger }) := by
  simp only [inLedger, ExceptT.run_mk, h]

end RunM

/-- What an action of a run leaves in the ledger. -/
def RunContext.record (context : RunContext) (runId : RunId) (report : Report) : RunRecord where
  runId := runId
  policy := context.policy
  resourceType := context.resourceType
  report := report
  timestamp := context.now

namespace Policy

variable {hash : HashFunction} {runId : RunId} {context : RunContext} {matched : List Resource}

/-! ### Actions -/

/-- What the actions do in the cloud, without the ledger. -/
def processAll (context : RunContext) (matched : List Resource) (actions : List Action) :
    CloudM (List Report) :=
  actions.mapM fun action => action.process context matched

theorem act_cons_of_ok {action : Action} {actions : List Action} {cloud after : Cloud}
    {ledger : Ledger} {report : Report}
    (haction : (action.process context matched).run cloud = (.ok report, after)) :
    (act (.ledger hash) runId context matched (action :: actions)).run ⟨cloud, ledger⟩ =
      (act (.ledger hash) runId context matched actions >>= fun reports =>
        return report :: reports).run ⟨after, ledger.write hash (context.record runId report)⟩ := by
  have hcloud : (RunM.inCloud (action.process context matched)).run ⟨cloud, ledger⟩ =
      (.ok report, ⟨after, ledger⟩) := RunM.run_inCloud haction
  have hwrite : (RunM.inLedger fun ledger => (AuditSink.ledger hash).write ledger
      (context.record runId report)).run ⟨after, ledger⟩ =
      (.ok (), ⟨after, ledger.write hash (context.record runId report)⟩) := RunM.run_inLedger rfl
  rw [act, Steps.run_bind_of_ok hcloud]
  exact Steps.run_bind_of_ok hwrite

/-- Actions that all come to their end leave one record each. -/
theorem act_of_ok {actions : List Action} {cloud after : Cloud} (ledger : Ledger)
    {reports : List Report}
    (hactions : (processAll context matched actions).run cloud = (.ok reports, after)) :
    (act (.ledger hash) runId context matched actions).run ⟨cloud, ledger⟩ =
      (.ok reports, ⟨after, ledger.writeAll hash (reports.map (context.record runId))⟩) := by
  induction actions generalizing cloud ledger reports with
  | nil =>
      rw [processAll, Steps.run_mapM_nil] at hactions
      cases hactions
      rfl
  | cons action actions ih =>
      obtain ⟨report, rest, middle, rfl, haction, hrest⟩ := Steps.of_run_mapM_cons_eq_ok hactions
      rw [act_cons_of_ok haction, Steps.run_bind_of_ok (ih _ hrest)]
      rfl

/-- The first action that fails ends them all; those before it leave one record each. -/
theorem act_of_error {before later : List Action} {action : Action} {cloud middle after : Cloud}
    (ledger : Ledger) {reports : List Report} {e : Error}
    (hbefore : (processAll context matched before).run cloud = (.ok reports, middle))
    (haction : (action.process context matched).run middle = (.error e, after)) :
    (act (.ledger hash) runId context matched (before ++ action :: later)).run ⟨cloud, ledger⟩ =
      (.error e, ⟨after, ledger.writeAll hash (reports.map (context.record runId))⟩) := by
  induction before generalizing cloud ledger reports with
  | nil =>
      rw [processAll, Steps.run_mapM_nil] at hbefore
      cases hbefore
      have hcloud : (RunM.inCloud (action.process context matched)).run ⟨middle, ledger⟩ =
          (.error e, ⟨after, ledger⟩) := RunM.run_inCloud haction
      rw [List.nil_append, act, Steps.run_bind_of_error hcloud]
      rfl
  | cons first before ih =>
      obtain ⟨report, rest, next, rfl, hfirst, hrest⟩ := Steps.of_run_mapM_cons_eq_ok hbefore
      rw [List.cons_append, act_cons_of_ok hfirst, Steps.run_bind_of_error (ih _ hrest)]
      rfl

/-! ### Runs -/

/-- The actions that a run carries out on what it matched. -/
def due (policy : Policy) (settings : Settings) (matched : List Resource) : List Action :=
  if settings.dryRun || matched.isEmpty then [] else policy.actions

theorem execute_of_select_error {policy : Policy} {world : World} {e : Error} {cloud : Cloud}
    (hselect : (policy.select context).run world.cloud = (.error e, cloud)) :
    (policy.execute (.ledger hash) runId context).run world = (.error e, { world with cloud }) := by
  rw [execute, Steps.run_bind_of_error (RunM.run_inCloud hselect)]

theorem execute_of_action_error {policy : Policy} {world : World} {cloud middle after : Cloud}
    {before later : List Action} {action : Action} {reports : List Report} {e : Error}
    (hselect : (policy.select context).run world.cloud = (.ok matched, cloud))
    (hdue : policy.due context.settings matched = before ++ action :: later)
    (hbefore : (processAll context matched before).run cloud = (.ok reports, middle))
    (haction : (action.process context matched).run middle = (.error e, after)) :
    (policy.execute (.ledger hash) runId context).run world =
      (.error e, ⟨after, world.ledger.writeAll hash (reports.map (context.record runId))⟩) := by
  rw [execute, Steps.run_bind_of_ok (RunM.run_inCloud hselect)]
  simp only [due] at hdue
  rw [hdue, Steps.run_bind_of_error (act_of_error world.ledger hbefore haction)]

theorem execute_of_ok {policy : Policy} {world : World} {cloud after : Cloud}
    {reports : List Report} (hfresh : runId ∉ world.ledger.sealedRuns)
    (hselect : (policy.select context).run world.cloud = (.ok matched, cloud))
    (hactions : (processAll context matched (policy.due context.settings matched)).run cloud =
      (.ok reports, after)) :
    ∃ ledger, (policy.execute (.ledger hash) runId context).run world =
        (.ok { runId, policy := policy.name, matched, reports }, ⟨after, ledger⟩) ∧
      world.ledger.Grows ledger (reports.map (context.record runId)) [runId] := by
  let written := world.ledger.writeAll hash (reports.map (context.record runId))
  obtain ⟨new, hentries, hrecords⟩ :=
    Ledger.entries_writeAll hash world.ledger (reports.map (context.record runId))
  have hsealed : written.sealedRuns = world.ledger.sealedRuns := Ledger.sealedRuns_writeAll _ _
  have hopen : runId ∉ written.sealedRuns := by
    rw [hsealed]
    exact hfresh
  refine ⟨{ written with sealedRuns := written.sealedRuns ++ [runId] }, ?_,
    new, hentries, hrecords, by rw [hsealed]⟩
  have hact : (act (.ledger hash) runId context matched (policy.due context.settings matched)).run
      ⟨cloud, world.ledger⟩ = (.ok reports, ⟨after, written⟩) := act_of_ok world.ledger hactions
  have hfinalize : (RunM.inLedger fun ledger => (AuditSink.ledger hash).finalize ledger runId).run
      ⟨after, written⟩ = (.ok (), ⟨after, { written with
        sealedRuns := written.sealedRuns ++ [runId] }⟩) :=
    RunM.run_inLedger (Ledger.finalize_fresh hopen)
  rw [execute, Steps.run_bind_of_ok (RunM.run_inCloud hselect)]
  rw [due] at hact
  rw [Steps.run_bind_of_ok hact, Steps.run_bind_of_ok hfinalize]
  rfl

end Policy

end CloudPolicy
