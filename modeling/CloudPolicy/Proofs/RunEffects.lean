import CloudPolicy.Proofs.Run
import CloudPolicy.Proofs.Selection

/-! What a run can do to the cloud, whether it comes to its end or not: a relation that holds of
look-ups and of the actions of a policy on what its filters leave holds of the whole run. -/

namespace CloudPolicy

open Cloud (LogsOnly)
open Steps (Within)

/-- The relation holds of the clouds. -/
def World.InCloud (R : Cloud → Cloud → Prop) (before after : World) : Prop :=
  R before.cloud after.cloud

variable {R : Cloud → Cloud → Prop}

instance [IsPreorder Cloud R] : IsPreorder World (World.InCloud R) where
  refl := fun world => refl_of R world.cloud
  trans := fun _ _ _ h h' => trans_of R h h'

namespace RunM

theorem inCloud_within {α : Type} {P : α → Prop} {step : CloudM α} (hstep : Within R P step) :
    Within (World.InCloud R) P (inCloud step) where
  moves := fun world => hstep.moves world.cloud
  gives := fun world => hstep.gives world.cloud

theorem inLedger_within [IsPreorder Cloud R] (step : Ledger → Except Error Ledger) :
    Within (World.InCloud R) (fun _ => True) (inLedger step) where
  moves := by
    intro world
    rw [inLedger, ExceptT.run_mk]
    cases step world.ledger <;> exact refl_of R world.cloud
  gives := fun _ _ _ => trivial

end RunM

namespace Policy

variable [IsPreorder Cloud R]

theorem act_within {sink : AuditSink} {runId : RunId} {context : RunContext}
    {matched : List Resource} {actions : List Action}
    (hactions : ∀ action ∈ actions, Within R (fun _ => True) (action.process context matched)) :
    Within (World.InCloud R) (fun _ => True) (act sink runId context matched actions) := by
  induction actions with
  | nil => exact .done _
  | cons action actions ih =>
      obtain ⟨haction, hrest⟩ := List.forall_mem_cons.1 hactions
      exact (RunM.inCloud_within haction).andThen fun _ =>
        (RunM.inLedger_within _).andThen fun _ => (ih hrest).andThen fun _ => .done _

theorem execute_of_select_ok {policy : Policy} {sink : AuditSink} {runId : RunId}
    {context : RunContext} {world : World} {matched : List Resource} {cloud : Cloud}
    (hselect : (policy.select context).run world.cloud = (.ok matched, cloud))
    (hactions : ∀ action ∈ policy.actions,
      Within R (fun _ => True) (action.process context matched)) :
    R cloud ((policy.execute sink runId context).run world).2.cloud ∧
      ∀ outcome, ((policy.execute sink runId context).run world).1 = .ok outcome →
        outcome.matched = matched := by
  have hdue : ∀ action ∈ policy.due context.settings matched,
      Within R (fun _ => True) (action.process context matched) := by
    intro action haction
    rw [due] at haction
    split at haction
    next => exact absurd haction List.not_mem_nil
    next => exact hactions action haction
  have hrest : Within (World.InCloud R) (fun outcome => outcome.matched = matched) (do
      let reports ← act sink runId context matched (policy.due context.settings matched)
      RunM.inLedger fun ledger => sink.finalize ledger runId
      return { runId, policy := policy.name, matched, reports } : RunM RunOutcome) :=
    (act_within hdue).bind fun _ _ => (RunM.inLedger_within _).bind fun _ _ => .of_pure rfl
  rw [execute, Steps.run_bind_of_ok (RunM.run_inCloud hselect)]
  exact ⟨hrest.moves { world with cloud }, hrest.gives { world with cloud }⟩

/-! ### The cloud alone -/

section

variable (sink : AuditSink) (runId : RunId) (context : RunContext) (matched : List Resource)

theorem act_append (earlier later : List Action) :
    act sink runId context matched (earlier ++ later) = do
      let reports ← act sink runId context matched earlier
      let rest ← act sink runId context matched later
      return reports ++ rest := by
  induction earlier with
  | nil => simp [act]
  | cons action earlier ih => simp [act, ih]

/-- Whatever the sink does, the records of an action change nothing in the cloud. -/
theorem cloud_act_singleton (action : Action) (world : World) :
    ((act sink runId context matched [action]).run world).2.cloud =
      ((action.process context matched).run world.cloud).2 := by
  have hrest := Within.moves_bind (R := World.InCloud Eq) (Q := fun _ => True)
    (x := RunM.inCloud (action.process context matched)) (f := fun report => do
      RunM.inLedger fun ledger => sink.write ledger (context.record runId report)
      let reports ← act sink runId context matched []
      return report :: reports)
    (fun _ => (RunM.inLedger_within _).andThen fun _ => (Within.done _).andThen fun _ => .done _)
    world
  exact hrest.symm

end

/-! ### Whole runs -/

/-- What a run of the policy lets its filters and actions read. -/
def runContext (policy : Policy) (settings : Settings) (now : Timestamp) (event : Option Event)
    (schedule : List Nat) : RunContext where
  policy := policy.name
  resourceType := policy.resourceType
  settings := settings
  event := event
  now := now
  schedule := schedule

/-- What the filters of a run leave: nothing when the policy does not run or a look-up fails. -/
def matched (policy : Policy) (settings : Settings) (now : Timestamp) (event : Option Event)
    (schedule : List Nat) (cloud : Cloud) : List Resource :=
  match policy.trigger event with
  | .run seen =>
    match ((policy.select (policy.runContext settings now seen schedule)).run cloud).1 with
    | .ok matched => matched
    | .error _ => []
  | .ignored => []
  | .missing => []

variable {policy : Policy} {settings : Settings} {now : Timestamp} {event : Option Event}
  {schedule : List Nat}

theorem exists_of_mem_matched (hfilters : ∀ filter ∈ policy.filters, filter.Narrows)
    {cloud : Cloud} {m : Resource} (hm : m ∈ policy.matched settings now event schedule cloud) :
    ∃ seen, policy.trigger event = .run seen ∧
      ∃ r ∈ restrict seen (cloud.resources policy.resourceType), m.Reflects r := by
  rw [matched] at hm
  split at hm
  next seen hseen =>
    refine ⟨seen, hseen, ?_⟩
    split at hm
    next kept hkept => exact ((select_keeps hfilters _ cloud).2 kept hkept).exists_of_mem hm
    next => exact absurd hm List.not_mem_nil
  next => exact absurd hm List.not_mem_nil
  next => exact absurd hm List.not_mem_nil

/-- A policy that is run on an event sees that event. -/
theorem seen_of_trigger {given : Event} {seen : Option Event} (hmode : policy.mode.isEventDriven)
    (htrigger : policy.trigger (some given) = .run seen) : seen = some given := by
  cases hcase : policy.mode with
  | pull =>
      rw [hcase] at hmode
      cases hmode
  | trail events =>
      simp only [trigger, hcase] at htrigger
      split at htrigger
      next =>
        cases htrigger
        rfl
      next => cases htrigger

theorem run_of_trigger {seen : Option Event} (htrigger : policy.trigger event = .run seen)
    (sink : AuditSink) (runId : RunId) :
    policy.run sink settings now runId event schedule =
      policy.execute sink runId (policy.runContext settings now seen schedule) := by
  rw [run, htrigger]
  rfl

/-- After its selection a run changes the cloud by the actions that are due. -/
theorem cloud_run_of_select {seen : Option Event} (htrigger : policy.trigger event = .run seen)
    {world : World} {matched : List Resource} {cloud : Cloud}
    (hselect : (policy.select (policy.runContext settings now seen schedule)).run world.cloud =
      (.ok matched, cloud)) (sink : AuditSink) (runId : RunId) :
    ((policy.run sink settings now runId event schedule).run world).2.cloud =
      ((act sink runId (policy.runContext settings now seen schedule) matched
        (policy.due settings matched)).run { world with cloud }).2.cloud := by
  have hrest := Within.moves_bind (R := World.InCloud Eq) (Q := fun _ => True)
    (x := act sink runId (policy.runContext settings now seen schedule) matched
      (policy.due settings matched))
    (f := fun reports => do
      RunM.inLedger fun ledger => sink.finalize ledger runId
      return { runId, policy := policy.name, matched, reports : RunOutcome })
    (fun _ => (RunM.inLedger_within _).andThen fun _ => .done _) { world with cloud }
  rw [run_of_trigger htrigger, execute, Steps.run_bind_of_ok (RunM.run_inCloud hselect)]
  exact hrest.symm

/-- A policy that does not run changes nothing. -/
theorem run_of_not_run (hidle : ∀ seen, policy.trigger event ≠ .run seen) (sink : AuditSink)
    (runId : RunId) (world : World) :
    ((policy.run sink settings now runId event schedule).run world).2 = world := by
  rw [run]
  cases htrigger : policy.trigger event with
  | missing => rfl
  | ignored => rfl
  | run seen => exact absurd htrigger (hidle seen)

theorem matched_of_select {seen : Option Event} (htrigger : policy.trigger event = .run seen)
    {before after : Cloud} {kept : List Resource}
    (hselect : (policy.select (policy.runContext settings now seen schedule)).run before =
      (.ok kept, after)) : policy.matched settings now event schedule before = kept := by
  rw [matched, htrigger]
  dsimp only
  rw [hselect]

/-- A run is related to its start as its look-ups and actions are, and on its end it gives what its
filters left. -/
theorem run_of_actions (hlogs : ∀ before after, LogsOnly before after → R before after)
    (hfilters : ∀ filter ∈ policy.filters, filter.Narrows) {world : World}
    (hactions : ∀ context : RunContext, context.resourceType = policy.resourceType →
      ∀ action ∈ policy.actions, Within R (fun _ => True)
        (action.process context (policy.matched settings now event schedule world.cloud)))
    (sink : AuditSink) (runId : RunId) :
    let run := (policy.run sink settings now runId event schedule).run world
    R world.cloud run.2.cloud ∧ ∀ outcome, run.1 = .ok outcome →
      outcome.matched = policy.matched settings now event schedule world.cloud := by
  cases htrigger : policy.trigger event with
  | missing =>
      rw [run, htrigger]
      exact ⟨refl_of R world.cloud, fun _ hended => by cases hended⟩
  | ignored =>
      rw [run, matched, htrigger]
      refine ⟨refl_of R world.cloud, ?_⟩
      rintro outcome ⟨⟩
      rfl
  | run seen =>
      have hlogged := hlogs _ _
        (select_keeps hfilters (policy.runContext settings now seen schedule) world.cloud).1
      rw [run_of_trigger htrigger]
      rcases hselect : (policy.select (policy.runContext settings now seen schedule)).run
        world.cloud with ⟨e | kept, cloud⟩
      · rw [hselect] at hlogged
        rw [execute, Steps.run_bind_of_error (RunM.run_inCloud hselect)]
        exact ⟨hlogged, fun _ hended => by cases hended⟩
      · rw [matched_of_select htrigger hselect] at hactions ⊢
        rw [hselect] at hlogged
        obtain ⟨hrun, hended⟩ := execute_of_select_ok hselect (hactions _ rfl)
        exact ⟨trans_of R hlogged hrun, hended⟩

end Policy

end CloudPolicy
