import CloudPolicy.Cloud.Balancing
import CloudPolicy.Cloud.Topics
import CloudPolicy.Filter.Functions
import CloudPolicy.Proofs.Effects
import CloudPolicy.Proofs.Pool
import CloudPolicy.Proofs.Steps

/-! Steps of the cloud that only look things up. When no failure is injected, what such a step
answers depends on what the services store and not on the calls that they have received, and the
step changes nothing but the call log. -/

namespace CloudPolicy

variable {α β : Type} {cloud : Cloud}

/-- The step answers `result` and only adds to the call log, whatever calls were made before. -/
def Answers (cloud : Cloud) (step : CloudM α) (result : Except Error α) : Prop :=
  ∀ log, ∃ calls,
    step.run { cloud with calls := log } = (result, { cloud with calls := log ++ calls })

namespace Answers

theorem of_pure (a : α) : Answers cloud (pure a) (.ok a) := by
  intro log
  refine ⟨[], ?_⟩
  rw [Steps.run_pure, List.append_nil]

theorem of_throw (e : Error) : Answers cloud (throw e : CloudM α) (.error e) := by
  intro log
  refine ⟨[], ?_⟩
  rw [List.append_nil]
  rfl

theorem bind {step : CloudM α} {rest : α → CloudM β} {a : α} {result : Except Error β}
    (hstep : Answers cloud step (.ok a)) (hrest : Answers cloud (rest a) result) :
    Answers cloud (step >>= rest) result := by
  intro log
  obtain ⟨first, hfirst⟩ := hstep log
  obtain ⟨second, hsecond⟩ := hrest (log ++ first)
  refine ⟨first ++ second, ?_⟩
  rw [Steps.run_bind_of_ok hfirst, hsecond, List.append_assoc]

theorem bind_error {step : CloudM α} {rest : α → CloudM β} {e : Error}
    (hstep : Answers cloud step (.error e)) : Answers cloud (step >>= rest) (.error e) := by
  intro log
  obtain ⟨calls, hcalls⟩ := hstep log
  exact ⟨calls, Steps.run_bind_of_error hcalls⟩

/-- A handler that gives a value catches every failure. -/
theorem catch_pure {step : CloudM α} {result : Except Error α} (instead : α)
    (hstep : Answers cloud step result) :
    Answers cloud (tryCatch step fun _ => pure instead) (.ok (result.toOption.getD instead)) := by
  intro log
  obtain ⟨calls, hcalls⟩ := hstep log
  refine ⟨calls, ?_⟩
  rw [ExceptT.run_tryCatch]
  simp only [Bind.bind, StateT.bind, hcalls]
  cases result <;> rfl

end Answers

/-! ### Operations of the services -/

theorem Answers.enter_of_working {operation target : String}
    (hworks : cloud.isFailing operation target = false) (service : String) :
    Answers cloud (Cloud.enter service operation target) (.ok ()) := by
  intro log
  have hworks : ({ cloud with calls := log } : Cloud).isFailing operation target = false := hworks
  refine ⟨[⟨service, operation, target⟩], ?_⟩
  rw [Cloud.run_enter, hworks]
  rfl

theorem Answers.enter_of_failing {operation target : String}
    (hfails : cloud.isFailing operation target = true) (service : String) :
    Answers cloud (Cloud.enter service operation target)
      (.error (.serviceCall service operation ("injected failure for '" ++ target ++ "'"))) := by
  intro log
  have hfails : ({ cloud with calls := log } : Cloud).isFailing operation target = true := hfails
  refine ⟨[⟨service, operation, target⟩], ?_⟩
  rw [Cloud.run_enter, hfails]
  rfl

theorem Answers.enter (hfailures : cloud.failures = []) (service operation target : String) :
    Answers cloud (Cloud.enter service operation target) (.ok ()) :=
  .enter_of_working (by simp [Cloud.isFailing, hfailures]) service

theorem Answers.of_get {answer : Cloud → α}
    (hanswer : ∀ log, answer { cloud with calls := log } = answer cloud) :
    Answers cloud (do return answer (← get)) (.ok (answer cloud)) := by
  intro log
  refine ⟨[], ?_⟩
  rw [List.append_nil, ← hanswer log]
  rfl

/-- A call that asks for part of what the services store. -/
theorem Answers.call (hfailures : cloud.failures = []) (service operation target : String)
    {answer : Cloud → α} (hanswer : ∀ log, answer { cloud with calls := log } = answer cloud) :
    Answers cloud (do Cloud.enter service operation target; return answer (← get))
      (.ok (answer cloud)) :=
  (Answers.enter hfailures service operation target).bind (Answers.of_get hanswer)

theorem Cloud.answers_accessPolicy_of_working {topic : String}
    (hworks : cloud.isFailing "access_policy" topic = false) :
    Answers cloud (accessPolicy topic) (.ok (cloud.accessPolicies.get? topic)) :=
  (Answers.enter_of_working hworks _).bind (Answers.of_get fun _ => rfl)

namespace Cloud

variable (hfailures : cloud.failures = [])

include hfailures

theorem answers_list (type : ResourceType) :
    Answers cloud (list type) (.ok (cloud.resources type)) :=
  Answers.call hfailures _ _ _ fun _ => rfl

theorem answers_memberCount (balancer : String) :
    Answers cloud (memberCount balancer) (.ok ((cloud.members.get? balancer).getD 0)) :=
  Answers.call hfailures _ _ _ fun _ => rfl

theorem answers_listTransfers : Answers cloud listTransfers (.ok cloud.transfers) :=
  Answers.call hfailures _ _ _ fun _ => rfl

theorem answers_listForwardingPolicies (listener : String) :
    Answers cloud (listForwardingPolicies listener) (.ok (cloud.forwardingPoliciesOf listener)) :=
  Answers.call hfailures _ _ _ fun _ => rfl

theorem answers_listTriggers (function : String) :
    Answers cloud (listTriggers function) (.ok ((cloud.triggers.get? function).getD (some []))) :=
  Answers.call hfailures _ _ _ fun _ => rfl

theorem answers_listReservedInstances (function : String) :
    Answers cloud (listReservedInstances function)
      (.ok ((cloud.reservedInstances.get? function).getD [])) :=
  Answers.call hfailures _ _ _ fun _ => rfl

theorem answers_listVersions (function : String) :
    Answers cloud (listVersions function) (.ok ((cloud.versions.get? function).getD [])) :=
  Answers.call hfailures _ _ _ fun _ => rfl

theorem answers_listAliases (function : String) :
    Answers cloud (listAliases function) (.ok ((cloud.aliases.get? function).getD [])) :=
  Answers.call hfailures _ _ _ fun _ => rfl

theorem answers_listLogtanks (topic : String) :
    Answers cloud (listLogtanks topic) (.ok (cloud.logtanksOf topic)) :=
  Answers.call hfailures _ _ _ fun _ => rfl

theorem answers_accessPolicy (topic : String) :
    Answers cloud (accessPolicy topic) (.ok (cloud.accessPolicies.get? topic)) :=
  Answers.call hfailures _ _ _ fun _ => rfl

end Cloud

/-! ### Look-ups by a pool -/

namespace Filter

variable {look : Resource → CloudM α} {answer : Resource → α}

/-- A look-up by a worker depends on its resource alone, whatever calls other workers made. -/
theorem settles_lookUpTask (hlook : ∀ r, Answers cloud (look r) (.ok (answer r)))
    (log : List ServiceCall) :
    Pool.Settles (fun after => ∃ calls, after = { cloud with calls := log ++ calls })
      (fun slot => ((slot.1, answer slot.1), none)) (lookUpTask look) := by
  rintro slot shared ⟨calls, rfl⟩
  obtain ⟨new, hnew⟩ := hlook slot.1 (log ++ calls)
  refine ⟨_, ?_, calls ++ new, rfl⟩
  rw [lookUpTask, hnew, List.append_assoc]

/-- Whatever the count of workers and the order of their steps, every resource gets its answer. -/
theorem answers_lookUpAll (hlook : ∀ r, Answers cloud (look r) (.ok (answer r)))
    (context : RunContext) (unset : α) (resources : List Resource) :
    Answers cloud (lookUpAll context unset look resources)
      (.ok (resources.map fun r => (r, answer r))) := by
  intro log
  obtain ⟨after, hpool, calls, rfl⟩ := Pool.fanOutWith_of_ok (settles_lookUpTask hlook log)
    (fun _ => rfl) context.schedule (resources.map fun r => (r, unset)) context.settings.maxWorkers
    ⟨[], by rw [List.append_nil]⟩
  refine ⟨calls, ?_⟩
  have hlift : (ExceptT.lift (Pool.fanOutWith context.schedule (lookUpTask look)
      (resources.map fun r => (r, unset)) context.settings.maxWorkers) : CloudM _).run
      { cloud with calls := log } =
      (.ok (resources.map fun r => (r, answer r), none), { cloud with calls := log ++ calls }) := by
    simp only [ExceptT.run_lift, Functor.map, StateT.map, hpool, List.map_map]
    rfl
  rw [lookUpAll, Steps.run_bind_of_ok hlift]
  rfl

end Filter

end CloudPolicy
