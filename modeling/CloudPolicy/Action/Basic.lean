import CloudPolicy.Policy.Context

/-! Actions that work on one resource after the other. -/

namespace CloudPolicy

/-- What a step did with a resource. -/
inductive Step where
  | done
  /-- The resource needs nothing and is not reported. -/
  | skipped
  /-- The resource cannot be handled. -/
  | refused (reason : String)
  deriving DecidableEq, Repr, Inhabited

/-- Report what a step did with a resource. -/
def Report.add (report : Report) (id : String) : Step → Report
  | .done => report.success id
  | .skipped => report
  | .refused reason => report.failure id reason

namespace Action

/-- Run a step for each resource and pass on what the step remembers. The first step that fails ends
the action. -/
def eachWith {σ : Type} (step : σ → Resource → CloudM (Step × σ)) (memory : σ) (report : Report) :
    List Resource → CloudM Report
  | [] => return report
  | r :: rest => do
    let (result, memory) ← step memory r
    eachWith step memory (report.add r.id result) rest

/-- An action that runs a step for each resource. -/
def ofStep (name : String) (step : RunContext → Resource → CloudM Step) : Action where
  name := name
  process := fun context resources =>
    eachWith (fun _ r => return (← step context r, ())) () { action := name } resources

/-- An action that runs a call for each resource and is done with it. -/
def ofCall (name : String) (call : Resource → CloudM Unit) : Action :=
  ofStep name fun _ r => do
    call r
    return .done

end Action

end CloudPolicy
