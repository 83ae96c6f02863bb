import CloudPolicy.Cloud.Operation
import CloudPolicy.Proofs.Effects
import CloudPolicy.Proofs.Maps

/-! Operations that fail leave nothing behind. An operation either records its one call and comes to
its end, or it fails, and then the cloud answers everything that is asked of it later as if the
operation had not been called. Nothing an observer sees depends on the call log, nor on whether a
topic without log bindings has an empty list of them. -/

namespace CloudPolicy

/-! ### Clouds that cannot be told apart -/

namespace Cloud

/-- The clouds differ in nothing but the calls that they have received, and in whether topics without
log bindings have an empty list of them. -/
structure Agrees (c d : Cloud) : Prop where
  others : { c with calls := [], logtanks := ∅ } = { d with calls := [], logtanks := ∅ }
  logtanks : d.logtanksOf = c.logtanksOf

namespace Agrees

variable {c d : Cloud}

theorem refl (c : Cloud) : c.Agrees c := ⟨rfl, rfl⟩

theorem trans {e : Cloud} (h : c.Agrees d) (h' : d.Agrees e) : c.Agrees e :=
  ⟨h.others.trans h'.others, h'.logtanks.trans h.logtanks⟩

theorem exists_eq (h : c.Agrees d) :
    ∃ log tanks, d = { c with calls := log, logtanks := tanks } := by
  refine ⟨d.calls, d.logtanks, ?_⟩
  have hothers := congrArg (fun e : Cloud => { e with calls := d.calls, logtanks := d.logtanks })
    h.others
  exact hothers.symm

/-- What an observer is shown is the same. -/
theorem inspect_eq (h : c.Agrees d) : d.inspect = c.inspect := by
  have hlogtanks := h.logtanks
  obtain ⟨log, tanks, rfl⟩ := h.exists_eq
  rw [inspect, hlogtanks]
  rfl

end Agrees

/-- The step neither reads nor writes the call log and the log bindings. -/
def Ignores (g : Cloud → Cloud) : Prop :=
  ∀ c log tanks, g { c with calls := log, logtanks := tanks } =
    { g c with calls := log, logtanks := tanks }

theorem Ignores.calls_eq {g : Cloud → Cloud} (hg : Ignores g) (c : Cloud) :
    (g c).calls = c.calls := by
  have hsame := congrArg calls (hg c c.calls c.logtanks)
  exact hsame

theorem Ignores.agrees {g : Cloud → Cloud} (hg : Ignores g) {c d : Cloud} (h : c.Agrees d) :
    (g c).Agrees (g d) := by
  have hlogtanks := congrArg logtanks (hg c c.calls c.logtanks)
  have hsame := h.logtanks
  obtain ⟨log, tanks, rfl⟩ := h.exists_eq
  rw [hg c log tanks]
  refine ⟨rfl, hsame.trans ?_⟩
  funext topic
  exact congrArg (fun tanks => (tanks.get? topic).getD []) hlogtanks.symm

end Cloud

open Cloud (Agrees Ignores)

variable {α β : Type}

/-! ### What an operation does once its call is recorded -/

/-- The step makes no call, does the same to clouds that cannot be told apart, and has changed
nothing that could be told when it fails. -/
structure Serves (step : CloudM α) : Prop where
  silent : ∀ c, (step.run c).2.calls = c.calls
  blind : ∀ c d, Agrees c d →
    (step.run d).1 = (step.run c).1 ∧ Agrees (step.run c).2 (step.run d).2
  undone : ∀ c e, (step.run c).1 = .error e → Agrees c (step.run c).2

namespace Serves

variable {step : CloudM α}

theorem of_run (outcome : Cloud → Except Error α) (next : Cloud → Cloud)
    (hrun : ∀ c, step.run c = (outcome c, next c)) (hsilent : ∀ c, (next c).calls = c.calls)
    (houtcome : ∀ c d, Agrees c d → outcome d = outcome c)
    (hnext : ∀ c d, Agrees c d → Agrees (next c) (next d))
    (hundone : ∀ c e, outcome c = .error e → Agrees c (next c)) : Serves step where
  silent := by
    intro c
    rw [hrun]
    exact hsilent c
  blind := by
    intro c d h
    rw [hrun, hrun]
    exact ⟨houtcome c d h, hnext c d h⟩
  undone := by
    intro c e he
    rw [hrun] at he ⊢
    exact hundone c e he

/-- A step that always comes to its end. -/
theorem of_ok (answer : Cloud → α) (next : Cloud → Cloud)
    (hrun : ∀ c, step.run c = (.ok (answer c), next c)) (hsilent : ∀ c, (next c).calls = c.calls)
    (hanswer : ∀ c d, Agrees c d → answer d = answer c)
    (hnext : ∀ c d, Agrees c d → Agrees (next c) (next d)) : Serves step := by
  refine .of_run _ _ hrun hsilent (fun c d h => congrArg Except.ok (hanswer c d h)) hnext ?_
  intro c e he
  cases he

/-- A step that reads the cloud. -/
theorem of_ask {answer : Cloud → α} (hrun : ∀ c, step.run c = (.ok (answer c), c))
    (hanswer : ∀ c d, Agrees c d → answer d = answer c) : Serves step :=
  .of_ok _ _ hrun (fun _ => rfl) hanswer fun _ _ h => h

/-- A step that changes the cloud. -/
theorem of_update (answer : Cloud → α) {next : Cloud → Cloud}
    (hrun : ∀ c, step.run c = (.ok (answer c), next c)) (hnext : Ignores next)
    (hanswer : ∀ c log tanks, answer { c with calls := log, logtanks := tanks } = answer c) :
    Serves step := by
  refine .of_ok _ _ hrun hnext.calls_eq (fun c d h => ?_) fun _ _ => hnext.agrees
  obtain ⟨log, tanks, rfl⟩ := h.exists_eq
  exact hanswer c log tanks

/-- A step that changes the cloud first and fails when that was in vain. -/
theorem of_edit {edit : Cloud → Cloud → Cloud} {vain : Cloud → Prop} [DecidablePred vain]
    {e : Error} (hsilent : ∀ c, (edit c c).calls = c.calls)
    (hvain : ∀ c d, Agrees c d → (vain d ↔ vain c))
    (hedit : ∀ c d, Agrees c d → Agrees (edit c c) (edit d d))
    (hundone : ∀ c, vain c → Agrees c (edit c c)) :
    Serves (do let c ← get; modify (edit c); if vain c then throw e : CloudM Unit) := by
  refine .of_run (fun c => if vain c then .error e else .ok ()) (fun c => edit c c)
    (fun c => ?_) hsilent (fun c d h => ?_) hedit ?_
  · show (if vain c then (throw e : CloudM Unit) else pure ()).run (edit c c) = _
    split <;> rfl
  · simp only [hvain c d h]
  · intro c e he
    split at he
    next h => exact hundone c h
    next => cases he

/-- A step that changes the cloud only where it is asked to do something that is possible. -/
theorem of_guard {edit : Cloud → Cloud → Cloud} {possible : Cloud → Prop}
    [DecidablePred possible] {e : Error}
    (hpossible : ∀ c d, Agrees c d → (possible d ↔ possible c))
    (hedit : Ignores fun c => edit c c) :
    Serves (do let c ← get; if possible c then modify (edit c) else throw e : CloudM Unit) := by
  refine .of_run (fun c => if possible c then .ok () else .error e)
    (fun c => if possible c then edit c c else c) (fun c => ?_) (fun c => ?_) (fun c d h => ?_)
    (fun c d h => ?_) ?_
  · rw [Steps.run_get_bind]
    split <;> rfl
  · split
    next => exact hedit.calls_eq c
    next => rfl
  · simp only [hpossible c d h]
  · simp only [hpossible c d h]
    split
    next => exact hedit.agrees h
    next => exact h
  · intro c e he
    split at he
    next => cases he
    next hnot =>
      rw [if_neg hnot]
      exact .refl c

theorem of_modify {g : Cloud → Cloud} (hg : Ignores g) : Serves (modify g : CloudM Unit) :=
  of_update _ (fun _ => rfl) hg fun _ _ _ => rfl

theorem map (hstep : Serves step) (f : α → β) : Serves (f <$> step) := by
  refine .of_run _ _ (Steps.run_map f step) hstep.silent (fun c d h => ?_) (fun c d h => (hstep.blind c d h).2) ?_
  · rw [(hstep.blind c d h).1]
  · intro c e he
    cases houtcome : (step.run c).1 with
    | error e => exact hstep.undone c e houtcome
    | ok a =>
        rw [houtcome] at he
        cases he

end Serves

/-! ### Operations -/

theorem Cloud.agrees_record (c : Cloud) (service operation target : String) :
    Agrees c (c.record service operation target) := ⟨rfl, rfl⟩

theorem Cloud.Agrees.isFailing_eq {c d : Cloud} (h : Agrees c d) (operation target : String) :
    d.isFailing operation target = c.isFailing operation target := by
  obtain ⟨log, tanks, rfl⟩ := h.exists_eq
  rfl

/-- From clouds `c` and `d`, two runs have equal outcomes, lead to clouds that cannot be told apart,
and add the same calls to their logs. -/
structure Mirrors (c d : Cloud) (x y : β × Cloud) : Prop where
  outcome : y.1 = x.1
  agrees : Agrees x.2 y.2
  calls : ∃ calls, x.2.calls = c.calls ++ calls ∧ y.2.calls = d.calls ++ calls

theorem Mirrors.of_silent {c d : Cloud} {x y : β × Cloud} (houtcome : y.1 = x.1)
    (hagrees : Agrees x.2 y.2) (hx : x.2.calls = c.calls) (hy : y.2.calls = d.calls) :
    Mirrors c d x y :=
  ⟨houtcome, hagrees, [], hx.trans (List.append_nil _).symm, hy.trans (List.append_nil _).symm⟩

/-- How operations go: they are refused before any call, or record one call, at which a failure may
be injected, and are then served. -/
inductive IsService : CloudM α → Prop where
  | refused (e : Error) : IsService (throw e)
  | served (service operation target : String) {step : CloudM α} (hstep : Serves step) :
      IsService (Cloud.enter service operation target >>= fun _ => step)

namespace IsService

variable {step : CloudM α}

theorem map (hstep : IsService step) (f : α → β) : IsService (f <$> step) := by
  cases hstep with
  | refused e => exact .refused e
  | served service operation target hstep =>
      rw [map_bind]
      exact .served service operation target (hstep.map f)

/-- An operation that ends has recorded its call. -/
theorem calls_of_ok (hstep : IsService step) {c after : Cloud} {a : α}
    (hrun : step.run c = (.ok a, after)) : ∃ call, after.calls = c.calls ++ [call] := by
  cases hstep with
  | refused e => cases hrun
  | @served service operation target step hstep =>
      have hcalls := hstep.silent (c.record service operation target)
      rw [Cloud.run_enter_bind] at hrun
      split at hrun
      next => cases hrun
      next =>
        rw [hrun] at hcalls
        exact ⟨_, hcalls⟩

/-- After an operation that fails the cloud cannot be told from the one before, and there is one
call more at most. -/
theorem agrees_of_error (hstep : IsService step) {c after : Cloud} {e : Error}
    (hrun : step.run c = (.error e, after)) :
    Agrees c after ∧ ∃ calls, calls.length ≤ 1 ∧ after.calls = c.calls ++ calls := by
  cases hstep with
  | refused e =>
      cases hrun
      exact ⟨.refl c, [], Nat.zero_le 1, (List.append_nil _).symm⟩
  | @served service operation target step hstep =>
      have hrecord := c.agrees_record service operation target
      rw [Cloud.run_enter_bind] at hrun
      split at hrun
      next =>
        cases hrun
        exact ⟨hrecord, [_], Nat.le_refl 1, rfl⟩
      next =>
        have hcalls := hstep.silent (c.record service operation target)
        have hundone := hstep.undone (c.record service operation target) e (by rw [hrun])
        rw [hrun] at hcalls hundone
        exact ⟨hrecord.trans hundone, [_], Nat.le_refl 1, hcalls⟩

theorem mirrors (hstep : IsService step) {c d : Cloud} (h : Agrees c d) :
    Mirrors c d (step.run c) (step.run d) := by
  cases hstep with
  | refused e => exact .of_silent rfl h rfl rfl
  | @served service operation target step hstep =>
      have hrecord : Agrees (c.record service operation target)
        (d.record service operation target) := ⟨h.others, h.logtanks⟩
      rw [Cloud.run_enter_bind, Cloud.run_enter_bind, h.isFailing_eq]
      split
      next => exact ⟨rfl, hrecord, _, rfl, rfl⟩
      next =>
        obtain ⟨houtcome, hafter⟩ := hstep.blind _ _ hrecord
        exact ⟨houtcome, hafter, _, hstep.silent _, hstep.silent _⟩

end IsService

/-! ### The operations of the services -/

namespace Cloud

variable {service operation target : String}

theorem isService_ask (answer : Cloud → α)
    (hanswer : ∀ c log tanks, answer { c with calls := log, logtanks := tanks } = answer c) :
    IsService (do enter service operation target; return answer (← get) : CloudM α) := by
  refine .served _ _ _ (.of_ask (fun _ => rfl) fun c d h => ?_)
  obtain ⟨log, tanks, rfl⟩ := h.exists_eq
  exact hanswer c log tanks

theorem isService_enter : IsService (enter service operation target) := by
  have hdone : Serves (pure () : CloudM Unit) := .of_ask (fun _ => rfl) fun _ _ _ => rfl
  have hserved := IsService.served service operation target hdone
  rwa [bind_pure] at hserved

theorem isService_modify {g : Cloud → Cloud} (hg : Ignores g) :
    IsService (do enter service operation target; modify g) :=
  .served _ _ _ (.of_modify hg)

theorem ignores_setResources (type : ResourceType) (f : Cloud → List Resource)
    (hf : ∀ c log tanks, f { c with calls := log, logtanks := tanks } = f c) :
    Ignores fun c => c.setResources type (f c) := by
  intro c log tanks
  simp only [hf]
  rfl

/-- Where nothing is removed, the records are as many as before, and the same. -/
theorem isService_remove (type : ResourceType) (urnField : String) :
    IsService (remove service operation type urnField target) := by
  have hnext : Ignores fun c => c.setResources type
      ((c.resources type).filter fun r => !addressedBy urnField target r) :=
    ignores_setResources type _ fun _ _ _ => rfl
  refine .served _ _ _ (.of_edit hnext.calls_eq ?_ (fun _ _ => hnext.agrees) ?_)
  · intro c d h
    obtain ⟨log, tanks, rfl⟩ := h.exists_eq
    rfl
  · intro c hsame
    rw [List.filter_sublist.eq_of_length hsame, setResources_self]
    exact .refl c

theorem isService_updateRecord (type : ResourceType) (f : Resource → Resource) :
    IsService (updateRecord service operation type target f) := by
  have hnext := ignores_setResources type (fun c =>
    updateFirst (·.id = target) f (c.resources type)) fun _ _ _ => rfl
  refine .served _ _ _ (.of_guard (fun c d h => ?_) hnext)
  obtain ⟨log, tanks, rfl⟩ := h.exists_eq
  rfl

theorem isService_writeTags (tagTypeName : String) (ids : List String) (f : TagSet → TagSet) :
    IsService (writeTags operation tagTypeName ids f) := by
  rw [writeTags]
  split
  next => exact .refused _
  next type _ =>
    let written (c : Cloud) : List FailedResource × List Resource :=
      retagAll f c.rejectedTagTargets ids (c.resources type)
    have hnext := ignores_setResources type (fun c => (written c).2) fun _ _ _ => rfl
    exact .served _ _ _ (.of_update (fun c => (written c).1) (fun _ => rfl) hnext
      fun _ _ _ => rfl)

theorem agrees_insertLogtanks {c d : Cloud} (h : Agrees c d) (topic : String)
    (tanks : List Json) : Agrees { c with logtanks := c.logtanks.insert topic tanks }
      { d with logtanks := d.logtanks.insert topic tanks } := by
  refine ⟨h.others, ?_⟩
  funext other
  have hother := congrFun h.logtanks other
  rw [logtanksOf, logtanksOf] at hother ⊢
  rw [StringMap.get?_insert, StringMap.get?_insert]
  split
  next => rfl
  next => exact hother

theorem isService_createLogtank (topic group stream : String) :
    IsService (createLogtank topic group stream) := by
  refine .served _ _ _ (.of_ok _ _ (fun _ => rfl) (fun _ => rfl) (fun _ _ _ => rfl)
    fun c d h => ?_)
  rw [h.logtanks]
  exact agrees_insertLogtanks h topic _

/-- Where no binding is removed, they are as many as before, and the same. -/
theorem isService_deleteLogtank (topic id : String) : IsService (deleteLogtank topic id) := by
  refine .served _ _ _ (.of_edit (fun _ => rfl) ?_ ?_ ?_)
  · intro c d h
    rw [h.logtanks]
  · intro c d h
    rw [h.logtanks]
    exact agrees_insertLogtanks h topic _
  · intro c hsame
    have hleft := List.filter_sublist.eq_of_length hsame
    refine ⟨rfl, ?_⟩
    funext other
    rw [logtanksOf, hleft, StringMap.get?_insert]
    split
    next h =>
      rw [h]
      rfl
    next => rfl

theorem isService_showFunctionConfig (function : String) :
    IsService (showFunctionConfig function) := by
  let notThere : Error := notFound "functiongraph" "show_function_config" function
  refine .served _ _ _ (.of_run
    (fun c => (c.functionConfigs.get? function).elim (.error notThere) .ok) id (fun c => ?_)
    (fun _ => rfl) (fun c d h => ?_) (fun _ _ h => h) fun c _ _ => .refl c)
  · rw [Steps.run_get_bind]
    cases c.functionConfigs.get? function <;> rfl
  · obtain ⟨log, tanks, rfl⟩ := h.exists_eq
    rfl

/-- What is answered of log bindings is the same for a topic without them and one with none left. -/
theorem isService_listLogtanks (topic : String) : IsService (listLogtanks topic) :=
  .served _ _ _ (.of_ask (fun _ => rfl) fun _ _ h => congrFun h.logtanks topic)

theorem isService_createRedirectPolicy (listener target : String) :
    IsService (createRedirectPolicy listener target) := by
  refine .served _ _ _ (.of_update _ (fun _ => rfl) ?_ fun _ _ _ => rfl)
  intro c log tanks
  rfl

theorem isService_invoke (function : String) (invocation : Invocation) :
    IsService (invoke function invocation) := by
  rw [invoke]
  cases invocation.asynchronous with
  | true => exact .served _ _ _ (.of_update _ (fun _ => rfl) (fun _ _ _ => rfl) fun _ _ _ => rfl)
  | false => exact .served _ _ _ (.of_update _ (fun _ => rfl) (fun _ _ _ => rfl) fun _ _ _ => rfl)

theorem isService_publish (topic : String) (subject : Option String) (body : MessageBody) :
    IsService (publish topic subject body) :=
  .served _ _ _ (.of_update _ (fun _ => rfl) (fun _ _ _ => rfl) fun _ _ _ => rfl)

end Cloud

open Cloud in
/-- Every operation of the services goes the same way. -/
theorem Operation.isService (operation : Operation) : IsService operation.perform := by
  cases operation with
  | list type => exact (isService_ask (·.resources type) fun _ _ _ => rfl).map _
  | createTags typeName ids tags => exact (isService_writeTags typeName ids _).map _
  | deleteTags typeName ids keys => exact (isService_writeTags typeName ids _).map _
  | subnetsOf ids =>
      let found (c : Cloud) : List Resource := c.subnets.filter fun r => r.id ∈ ids
      exact (isService_ask found fun _ _ _ => rfl).map _
  | securityGroupsOf ids =>
      let found (c : Cloud) : List Resource := c.securityGroups.filter fun r => r.id ∈ ids
      exact (isService_ask found fun _ _ _ => rfl).map _
  | memberCount balancer =>
      exact (isService_ask (fun c => (c.members.get? balancer).getD 0) fun _ _ _ => rfl).map _
  | deleteLoadBalancer balancer => exact (isService_remove .loadBalancer "id").map _
  | removeIpv6Bandwidth balancer => exact isService_enter.map _
  | disassociatePublicAddress address => exact isService_enter.map _
  | disassociateGlobalAddress address => exact isService_enter.map _
  | deletePool pool => exact isService_enter.map _
  | deleteListener listener => exact (isService_remove .listener "id").map _
  | bindAccessLog balancer group stream => exact (isService_updateRecord .loadBalancer _).map _
  | listAddressGroups => exact (isService_ask (·.ipGroups) fun _ _ _ => rfl).map _
  | updateListenerAddressGroups listener groups =>
      exact (isService_updateRecord .listener _).map _
  | listForwardingPolicies listener =>
      exact (isService_ask (·.forwardingPoliciesOf listener) fun _ _ _ => rfl).map _
  | createRedirectPolicy listener target =>
      exact (isService_createRedirectPolicy listener target).map _
  | listLogGroups => exact (isService_ask (·.logGroups) fun _ _ _ => rfl).map _
  | listLogStreams group =>
      exact (isService_ask (fun c => (c.logStreams.get? group).getD []) fun _ _ _ => rfl).map _
  | listTransfers => exact (isService_ask (·.transfers) fun _ _ _ => rfl).map _
  | createTransfer transfer => exact (isService_modify fun _ _ _ => rfl).map _
  | listTriggers function =>
      exact (isService_ask (fun c => (c.triggers.get? function).getD (some []))
        fun _ _ _ => rfl).map _
  | deleteFunction target => exact (isService_modify fun _ _ _ => rfl).map _
  | updateMaxInstances function count => exact (isService_modify fun _ _ _ => rfl).map _
  | showFunctionConfig function => exact (isService_showFunctionConfig function).map _
  | updateFunctionConfig function update => exact (isService_modify fun _ _ _ => rfl).map _
  | listReservedInstances function =>
      exact (isService_ask (fun c => (c.reservedInstances.get? function).getD [])
        fun _ _ _ => rfl).map _
  | listVersions function =>
      exact (isService_ask (fun c => (c.versions.get? function).getD []) fun _ _ _ => rfl).map _
  | listAliases function =>
      exact (isService_ask (fun c => (c.aliases.get? function).getD []) fun _ _ _ => rfl).map _
  | invoke function invocation => exact (isService_invoke function invocation).map _
  | publish topic subject body => exact (isService_publish topic subject body).map _
  | deleteTopic topic => exact (isService_remove .topic "topic_urn").map _
  | listLogtanks topic => exact (isService_listLogtanks topic).map _
  | createLogtank topic group stream => exact (isService_createLogtank topic group stream).map _
  | deleteLogtank topic id => exact (isService_deleteLogtank topic id).map _
  | accessPolicy topic =>
      exact (isService_ask (·.accessPolicies.get? topic) fun _ _ _ => rfl).map _
  | updateAccessPolicy topic policy => exact (isService_modify fun _ _ _ => rfl).map _
  | deleteTopicAttributes topic => exact (isService_modify fun _ _ _ => rfl).map _

/-! ### Sequences -/

namespace Move

theorem mirrors_run (move : Move) {c d : Cloud} (h : Agrees c d) :
    Mirrors c d (move.run c) (move.run d) := by
  cases move with
  | perform operation => exact operation.isService.mirrors h
  | failOn operation target =>
      have hnext : Ignores (·.failOn operation target) := fun _ _ _ => rfl
      exact .of_silent rfl (hnext.agrees h) rfl rfl
  | rejectTags id =>
      have hnext : Ignores (·.rejectTags id) := fun _ _ _ => rfl
      exact .of_silent rfl (hnext.agrees h) rfl rfl

/-- Clouds that cannot be told apart stay so whatever is done to both. -/
theorem mirrors_runAll (moves : List Move) {c d : Cloud} (h : Agrees c d) :
    Mirrors c d (runAll moves c) (runAll moves d) := by
  induction moves generalizing c d with
  | nil => exact .of_silent rfl h rfl rfl
  | cons move moves ih =>
      obtain ⟨houtcome, hnext, calls, hc, hd⟩ := move.mirrors_run h
      obtain ⟨houtcomes, hafter, later, hc', hd'⟩ := ih hnext
      refine ⟨?_, hafter, calls ++ later, ?_, ?_⟩
      · simp only [runAll, houtcome, houtcomes]
      · rw [runAll, hc', hc, List.append_assoc]
      · rw [runAll, hd', hd, List.append_assoc]

end Move

/-- **Operations are atomic.** An operation that succeeds adds one call to the log. One that fails
adds one at most, and whatever is done to the cloud afterwards, even nothing, answers and lets an
observer see the same as if the operation had not been called, and adds the same calls. -/
theorem operations_are_atomic (operation : Operation) (cloud : Cloud) :
    match operation.perform.run cloud with
    | (.ok _, after) => ∃ call, after.calls = cloud.calls ++ [call]
    | (.error _, after) => ∃ calls, calls.length ≤ 1 ∧ after.calls = cloud.calls ++ calls ∧
        ∀ moves, ∃ later,
          (Move.runAll moves after).1 = (Move.runAll moves cloud).1 ∧
          (Move.runAll moves after).2.inspect = (Move.runAll moves cloud).2.inspect ∧
          (Move.runAll moves cloud).2.calls = cloud.calls ++ later ∧
          (Move.runAll moves after).2.calls = cloud.calls ++ calls ++ later := by
  rcases hrun : operation.perform.run cloud with ⟨e | answer, after⟩
  · obtain ⟨hagrees, calls, hlength, hcalls⟩ := operation.isService.agrees_of_error hrun
    refine ⟨calls, hlength, hcalls, fun moves => ?_⟩
    obtain ⟨houtcomes, hafter, later, hcloud, hlater⟩ := Move.mirrors_runAll moves hagrees
    rw [hcalls] at hlater
    exact ⟨later, houtcomes, hafter.inspect_eq, hcloud, hlater⟩
  · exact operation.isService.calls_of_ok hrun

-- The stored data may differ all the same: the topic has an empty list of bindings afterwards.
example : (Operation.deleteLogtank "alarms" "lts-1").perform.run {} =
    (.error (Cloud.notFound "smn" "delete_logtank" "lts-1"),
      { calls := [⟨"smn", "delete_logtank", "alarms"⟩], logtanks := .ofList [("alarms", [])] }) :=
  rfl

end CloudPolicy
