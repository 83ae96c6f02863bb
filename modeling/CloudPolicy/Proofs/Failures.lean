import CloudPolicy.Cloud.Operation
import CloudPolicy.Proofs.Calendar
import CloudPolicy.Proofs.Compiled
import CloudPolicy.Proofs.Effects

/-! How actions fail. An error that ends a step is an error of one of the steps that it is put
together of, so that it has to be said of the single steps only what they fail with: operations of
the services fail as calls, and actions have a few errors of their own. Main statement: no action of
a compiled policy asks for more tags than one call may carry, so that the check of every write is
never what ends a run. -/

namespace CloudPolicy

/-! ### Errors of steps -/

namespace Steps

variable {σ α β : Type}

/-- Whatever the state before the step, an error that ends it satisfies `P`. -/
def FailsWith (P : Error → Prop) (step : ExceptT Error (StateM σ) α) : Prop :=
  ∀ s e, (step.run s).1 = .error e → P e

namespace FailsWith

variable {P Q : Error → Prop} {x : ExceptT Error (StateM σ) α}
  {f : α → ExceptT Error (StateM σ) β}

theorem mono (hx : FailsWith P x) (h : ∀ e, P e → Q e) : FailsWith Q x :=
  fun s e he => h e (hx s e he)

/-- A step that always comes to its end. -/
theorem of_ok (hx : ∀ s, ∃ a t, x.run s = (.ok a, t)) : FailsWith P x := by
  intro s e he
  obtain ⟨a, t, hrun⟩ := hx s
  rw [hrun] at he
  cases he

theorem done (a : α) : FailsWith P (pure a : ExceptT Error (StateM σ) α) :=
  of_ok fun s => ⟨a, s, rfl⟩

theorem of_throw {e : Error} (he : P e) : FailsWith P (throw e : ExceptT Error (StateM σ) α) := by
  intro s thrown hthrown
  cases hthrown
  exact he

theorem bind (hx : FailsWith P x) (hf : ∀ a, FailsWith P (f a)) : FailsWith P (x >>= f) := by
  intro s e he
  rcases hrun : x.run s with ⟨thrown | a, t⟩
  · have hthrown := hx s thrown (by rw [hrun])
    rw [run_bind_of_error hrun] at he
    cases he
    exact hthrown
  · rw [run_bind_of_ok hrun] at he
    exact hf a t e he

/-- A first part that may be left out. -/
theorem ite_bind {condition : Prop} [Decidable condition]
    {first : ExceptT Error (StateM σ) PUnit} {rest : PUnit → ExceptT Error (StateM σ) β}
    (hfirst : FailsWith P first) (hrest : ∀ u, FailsWith P (rest u)) :
    FailsWith P (if condition then first >>= rest else rest ⟨⟩) := by
  split
  next => exact hfirst.bind hrest
  next => exact hrest ⟨⟩

/-- A step that goes on by what it reads. -/
theorem of_get_bind {g : σ → ExceptT Error (StateM σ) β} (hg : ∀ s, FailsWith P (g s)) :
    FailsWith P (get >>= g) :=
  fun s e he => hg s s e he

theorem map (hx : FailsWith P x) (g : α → β) : FailsWith P (g <$> x) := by
  rw [← bind_pure_comp]
  exact hx.bind fun a => done (g a)

theorem of_map {g : α → β} (h : FailsWith P (g <$> x)) : FailsWith P x := by
  intro s e he
  apply h s e
  rw [run_map, he]
  rfl

/-- After a handler that always comes to its end nothing is left of a failure. -/
theorem of_tryCatch (a : Error → α) : FailsWith P (tryCatch x fun e => pure (a e)) := by
  apply of_ok
  intro s
  rw [ExceptT.run_tryCatch]
  simp only [Bind.bind, StateT.bind]
  rcases x.run s with ⟨e | b, t⟩
  · exact ⟨a e, t, rfl⟩
  · exact ⟨b, t, rfl⟩

end FailsWith

end Steps

open Steps (FailsWith)

/-! ### Operations of the services -/

/-- The error of a call of a service. -/
def Error.IsServiceCall (e : Error) : Prop :=
  ∃ service operation reason, e = .serviceCall service operation reason

namespace Cloud

variable {α : Type} {service operation target : String} {type : ResourceType}

theorem isServiceCall_notFound : (notFound service operation target).IsServiceCall :=
  ⟨service, operation, _, rfl⟩

theorem enter_fails : FailsWith Error.IsServiceCall (enter service operation target) := by
  intro cloud e he
  rw [run_enter] at he
  split at he
  next =>
    cases he
    exact ⟨service, operation, _, rfl⟩
  next => cases he

/-- An operation that comes to its end whenever its call is let through. -/
theorem served_fails {rest : Unit → CloudM α} (hrest : ∀ c, ∃ a d, (rest ()).run c = (.ok a, d)) :
    FailsWith Error.IsServiceCall (enter service operation target >>= rest) :=
  enter_fails.bind fun _ => .of_ok hrest

theorem remove_fails {urnField : String} :
    FailsWith Error.IsServiceCall (remove service operation type urnField target) := by
  refine enter_fails.bind fun _ => .of_get_bind fun cloud => .bind (.of_ok fun _ => ⟨_, _, rfl⟩) ?_
  intro _
  split
  next => exact .of_throw isServiceCall_notFound
  next => exact .done _

theorem updateRecord_fails {f : Resource → Resource} :
    FailsWith Error.IsServiceCall (updateRecord service operation type target f) := by
  refine enter_fails.bind fun _ => .of_get_bind fun cloud => ?_
  dsimp only
  split
  next => exact .of_ok fun _ => ⟨_, _, rfl⟩
  next => exact .of_throw isServiceCall_notFound

theorem writeTags_fails {tagTypeName : String} {ids : List String} {f : TagSet → TagSet} :
    FailsWith Error.IsServiceCall (writeTags operation tagTypeName ids f) := by
  rw [writeTags]
  split
  next => exact .of_throw ⟨_, _, _, rfl⟩
  next => exact served_fails fun _ => ⟨_, _, rfl⟩

theorem showFunctionConfig_fails (function : String) :
    FailsWith Error.IsServiceCall (showFunctionConfig function) := by
  refine enter_fails.bind fun _ => .of_get_bind fun cloud => ?_
  split
  next => exact .done _
  next => exact .of_throw isServiceCall_notFound

theorem invoke_fails (function : String) (invocation : Invocation) :
    FailsWith Error.IsServiceCall (invoke function invocation) := by
  refine enter_fails.bind fun _ => .bind (.of_ok fun _ => ⟨_, _, rfl⟩) fun _ =>
    .of_get_bind fun cloud => ?_
  dsimp only
  split
  next => exact .done _
  next => exact .done _

theorem deleteLogtank_fails (topic id : String) :
    FailsWith Error.IsServiceCall (deleteLogtank topic id) := by
  refine enter_fails.bind fun _ => .of_get_bind fun cloud => .bind (.of_ok fun _ => ⟨_, _, rfl⟩) ?_
  intro _
  split
  next => exact .of_throw isServiceCall_notFound
  next => exact .done _

end Cloud

open Cloud in
/-- An operation that fails does so as a call of its service, be it that a failure was injected,
that its target is not there or that nothing is known under a name. -/
theorem Operation.fails (operation : Operation) :
    FailsWith Error.IsServiceCall operation.perform := by
  cases operation with
  | createTags | deleteTags => exact writeTags_fails.map _
  | deleteLoadBalancer | deleteListener | deleteTopic => exact remove_fails.map _
  | bindAccessLog | updateListenerAddressGroups => exact updateRecord_fails.map _
  | removeIpv6Bandwidth | disassociatePublicAddress | disassociateGlobalAddress | deletePool =>
      exact enter_fails.map _
  | showFunctionConfig function => exact (showFunctionConfig_fails function).map _
  | invoke function invocation => exact (invoke_fails function invocation).map _
  | deleteLogtank topic id => exact (deleteLogtank_fails topic id).map _
  | list | subnetsOf | securityGroupsOf | memberCount | listAddressGroups | listForwardingPolicies
  | createRedirectPolicy | listLogGroups | listLogStreams | listTransfers | createTransfer
  | listTriggers | deleteFunction | updateMaxInstances | updateFunctionConfig
  | listReservedInstances | listVersions | listAliases | publish | listLogtanks | createLogtank
  | accessPolicy | updateAccessPolicy | deleteTopicAttributes =>
      exact (served_fails fun _ => ⟨_, _, rfl⟩).map _

/-! ### Dates out of range -/

theorem Timestamp.isFatal_of_move {seconds : Int}
    {move : TimeSpan → Except Error Timestamp} (hmove : ∀ span, ∃ u, move span = checked u)
    {e : Error} (h : (TimeSpan.ofSeconds seconds >>= move) = .error e) : e.isFatal = true := by
  rcases Steps.of_bind_eq_error h with hspan | ⟨span, -, hfar⟩
  · exact TimeSpan.isFatal_of_ofSeconds hspan
  · obtain ⟨u, hu⟩ := hmove span
    rw [hu] at hfar
    exact Timestamp.isFatal_of_checked hfar

theorem MarkOptions.isFatal_of_value {mark : MarkOptions} {now : Timestamp} {e : Error}
    (h : mark.value now = .error e) : e.isFatal = true := by
  rcases Steps.of_bind_eq_error h with hdue | ⟨due, -, hvalue⟩
  · exact Timestamp.isFatal_of_move (fun span => ⟨_, rfl⟩) hdue
  · cases hvalue

theorem Action.VersionRetention.isFatal_of_retains {retention : VersionRetention} {now : Timestamp}
    {aliases : List Json} {version : Json} {e : Error}
    (h : retention.retains now aliases version = .error e) : e.isFatal = true := by
  rw [retains] at h
  split at h
  next => cases h
  next =>
    split at h
    next => cases h
    next days _ =>
      rcases Steps.of_bind_eq_error h with hthreshold | ⟨_, -, hvalue⟩
      · exact Timestamp.isFatal_of_move (fun span => ⟨_, rfl⟩) hthreshold
      · cases hvalue

/-- The versions to delete are known, unless a date to compare is out of range. -/
theorem Action.VersionRetention.isFatal_of_doomed {retention : VersionRetention} {now : Timestamp}
    {aliases versions : List Json} {e : Error}
    (h : retention.doomed now aliases versions = .error e) : e.isFatal = true := by
  induction versions with
  | nil => cases h
  | cons version versions ih =>
      rcases Steps.of_bind_eq_error h with hfirst | ⟨stays, -, h⟩
      · exact isFatal_of_retains hfirst
      · rcases Steps.of_bind_eq_error h with hrest | ⟨doomed, -, hvalue⟩
        · exact ih hrest
        · cases hvalue

/-! ### Errors of actions -/

/-- The errors that end actions, but for that of a write with too many tags. -/
inductive Action.Failure : Error → Prop where
  | fatal {e : Error} (h : e.isFatal = true) : Failure e
  | service (service operation reason : String) : Failure (.serviceCall service operation reason)
  | misnamed (kind id name : String) :
      Failure (.execution (kind ++ " '" ++ id ++ "' is not named '" ++ name ++ "'"))
  | unknown (kind : String) (reference : LogReference) :
      Failure (.execution (kind ++ " " ++ reference.shown ++ " not found"))
  | noGroup (ids names : List String) :
      Failure (.execution ("set-acl-ipgroup: no IP group matches ids " ++ Text.quotedList ids
        ++ " or names " ++ Text.quotedList names))
  | emptyMark : Failure (.execution "mark-for-op message renders empty")
  | unreadable : Failure (.execution "access policy is not valid JSON")

namespace Action

theorem getLast?_append {text ending : String} {c : Char}
    (hending : ending.toList.getLast? = some c) : (text ++ ending).toList.getLast? = some c := by
  rw [String.toList_append, List.getLast?_append, hending]
  rfl

/-- The text about too many tags is told from another one by its last letter. -/
theorem execution_ne_tooManyTags {reason : String} {c : Char}
    (hlast : reason.toList.getLast? = some c) (hc : c ≠ 'l') {name : String} {count limit : Nat} :
    .execution reason ≠ tooManyTags name count limit := by
  intro heq
  have hcall : reason.toList.getLast? = some 'l' := by
    rw [tooManyTags, Error.execution.injEq] at heq
    rw [heq]
    exact getLast?_append (by decide)
  rw [hlast] at hcall
  exact hc (Option.some.inj hcall)

theorem Failure.ne_tooManyTags {e : Error} (he : Failure e) (name : String) (count limit : Nat) :
    e ≠ tooManyTags name count limit := by
  cases he with
  | fatal h =>
      rintro rfl
      cases h
  | service service operation reason => exact nofun
  | misnamed kind id given =>
      exact execution_ne_tooManyTags (c := '\'') (getLast?_append (by decide)) (by decide)
  | unknown kind reference =>
      exact execution_ne_tooManyTags (c := 'd') (getLast?_append (by decide)) (by decide)
  | noGroup ids names =>
      have hlist : (Text.quotedList names).toList.getLast? = some ']' :=
        getLast?_append (by decide)
      exact execution_ne_tooManyTags (getLast?_append hlist) (by decide)
  | emptyMark => exact execution_ne_tooManyTags (c := 'y') (by decide) (by decide)
  | unreadable => exact execution_ne_tooManyTags (c := 'N') (by decide) (by decide)

/-! ### Actions, step by step -/

variable {P : Error → Prop}

/-- An operation of a service inside of an action. -/
theorem operation_fails {α : Type} {call : CloudM α} {answer : α → Answer}
    (hcall : FailsWith Error.IsServiceCall (answer <$> call)) : FailsWith Failure call := by
  refine hcall.of_map.mono ?_
  rintro e ⟨service, operation, reason, rfl⟩
  exact .service service operation reason

theorem eachWith_fails {σ : Type} {step : σ → Resource → CloudM (Step × σ)}
    (hstep : ∀ memory r, FailsWith P (step memory r)) (memory : σ) (report : Report)
    (resources : List Resource) : FailsWith P (eachWith step memory report resources) := by
  induction resources generalizing memory report with
  | nil => exact .done report
  | cons r rest ih => exact (hstep memory r).bind fun result => ih result.2 _

theorem ofStep_fails {name : String} {step : RunContext → Resource → CloudM Step}
    {context : RunContext} (hstep : ∀ r, FailsWith P (step context r)) (resources : List Resource) :
    FailsWith P ((ofStep name step).process context resources) :=
  eachWith_fails (fun _ r => (hstep r).bind fun _ => .done _) () _ resources

theorem ofCall_fails {name : String} {call : Resource → CloudM Unit}
    (hcall : ∀ r, FailsWith P (call r)) (context : RunContext) (resources : List Resource) :
    FailsWith P ((ofCall name call).process context resources) :=
  ofStep_fails (fun r => (hcall r).bind fun _ => .done _) resources

theorem forEach_fails {α : Type} {call : α → CloudM Unit} (hcall : ∀ x, FailsWith P (call x))
    (xs : List α) : FailsWith P (forEach call xs) := by
  induction xs with
  | nil => exact .done ()
  | cons x xs ih => exact (hcall x).bind fun _ => ih

theorem ofExcept_fails {α : Type} {outcome : Except Error α}
    (houtcome : ∀ e, outcome = .error e → P e) : FailsWith P (CloudM.ofExcept outcome) := by
  cases outcome with
  | ok value => exact .done value
  | error e => exact .of_throw (houtcome e rfl)

/-! ### Actions on tags -/

theorem call_fails (tagTypeName : String) (ids : List String) (write : TagWrite) :
    FailsWith Failure (write.call tagTypeName ids) := by
  cases write with
  | create tags => exact operation_fails (Operation.fails (.createTags tagTypeName ids tags))
  | delete keys => exact operation_fails (Operation.fails (.deleteTags tagTypeName ids keys))

theorem writeBatches_fails (tagTypeName : String) (write : TagWrite) (report : Report)
    (batches : List (List String)) :
    FailsWith Failure (writeBatches tagTypeName write report batches) := by
  induction batches generalizing report with
  | nil => exact .done report
  | cons batch batches ih => exact (call_fails tagTypeName batch write).bind fun _ => ih _

/-- A write within the limit fails at its calls only. -/
theorem writeTags_fails {context : RunContext} {write : TagWrite}
    (hsize : write.size ≤ context.settings.maxTagsPerCall) (name : String) (ids : List String) :
    FailsWith Failure (writeTags context name ids write) := by
  rw [writeTags, if_neg (Nat.not_lt.2 hsize)]
  cases context.resourceType.tagServiceName? with
  | none => exact .done _
  | some tagTypeName =>
      dsimp only
      split
      next => exact .done _
      next => exact (writeBatches_fails tagTypeName write _ _).bind fun _ => .done _

theorem carryOut_fails (tagTypeName id : String) (change : TagChange) :
    FailsWith Failure (carryOut tagTypeName id change) := by
  have hdelete := call_fails tagTypeName [id] (.delete change.delete)
  have hcreate := call_fails tagTypeName [id] (.create change.create)
  unfold carryOut
  extract_lets create
  have hrest (refused : Option Step) : FailsWith Failure (create refused) := by
    dsimp only [create]
    cases refused with
    | some step => exact .done step
    | none =>
        dsimp only
        split
        next => exact .done _
        next => exact hcreate.bind fun _ => .done _
  split
  next => exact (FailsWith.done _).bind hrest
  next => exact hdelete.bind fun _ => (FailsWith.done _).bind hrest

theorem ofPlan_fails (name : String) (plan : Resource → Plan) (context : RunContext)
    (resources : List Resource) :
    FailsWith Failure ((ofPlan name plan).process context resources) := by
  rw [ofPlan]
  dsimp only
  split
  next => exact .done _
  next tagTypeName _ =>
    refine ofStep_fails (fun r => ?_) resources
    rw [follow]
    split
    next change _ => exact carryOut_fails tagTypeName r.id change
    next => exact .done _
    next => exact .done _

/-- A mark is one tag. -/
theorem markForOp_fails (mark : MarkOptions) {context : RunContext}
    (hlimit : 1 ≤ context.settings.maxTagsPerCall) (resources : List Resource) :
    FailsWith Failure ((markForOp mark).process context resources) := by
  refine (ofExcept_fails fun e he => .fatal (mark.isFatal_of_value he)).bind fun value => ?_
  dsimp only
  split
  next => exact .of_throw .emptyMark
  next =>
    apply writeTags_fails
    exact hlimit

theorem writeAttribution_fails {context : RunContext}
    (hlimit : 1 ≤ context.settings.maxTagsPerCall) (ids : List String)
    (tag : Option (String × String)) (report : Report) :
    FailsWith Failure (writeAttribution context ids tag report) := by
  cases tag with
  | none => exact .done report
  | some tag =>
      have hsize : (TagWrite.create (.ofList [tag])).size ≤ context.settings.maxTagsPerCall :=
        hlimit
      exact (writeTags_fails hsize autoTagName ids).bind fun _ => .done _

/-- An attribution writes its two tags one after the other. -/
theorem autoTag_fails (options : AttributionOptions) {context : RunContext}
    (hlimit : 1 ≤ context.settings.maxTagsPerCall) (resources : List Resource) :
    FailsWith Failure ((autoTag options).process context resources) := by
  rw [autoTag]
  dsimp only
  split
  next => exact .done _
  next =>
    exact (writeAttribution_fails hlimit _ _ _).bind fun _ =>
      (writeAttribution_fails hlimit _ _ _).bind fun _ => .done _

/-! ### Actions on load balancers and listeners -/

theorem unbind_fails (kinds : List AddressKind) (r : Resource) :
    FailsWith Failure (unbind kinds r) := by
  have hbandwidth (_ : Json) : FailsWith Failure (Cloud.removeIpv6Bandwidth r.id) :=
    operation_fails (Operation.fails (.removeIpv6Bandwidth r.id))
  have helastic (address : String) : FailsWith Failure (Cloud.disassociatePublicAddress address) :=
    operation_fails (Operation.fails (.disassociatePublicAddress address))
  have hglobal (address : String) : FailsWith Failure (Cloud.disassociateGlobalAddress address) :=
    operation_fails (Operation.fails (.disassociateGlobalAddress address))
  refine .ite_bind (forEach_fails hbandwidth _) fun _ =>
    .ite_bind (forEach_fails helastic _) fun _ => ?_
  split
  next => exact forEach_fails hglobal _
  next => exact .done ()

theorem resolve_fails {reference : LogReference} {kind : String} {entries : List Json}
    {idField nameField : String} {e : Error}
    (h : reference.resolve kind entries idField nameField = .error e) : Failure e := by
  rw [LogReference.resolve] at h
  split at h
  next entry id name _ _ _ =>
    split at h
    next => cases h
    next =>
      cases h
      exact .misnamed kind id name
  next =>
    split at h
    next => cases h
    next =>
      cases h
      exact .unknown kind reference

theorem enableLogging_fails (group stream : LogReference) (context : RunContext)
    (resources : List Resource) :
    FailsWith Failure ((enableLogging group stream).process context resources) := by
  rw [enableLogging]
  dsimp only
  split
  next => exact .done _
  next =>
    refine (operation_fails (Operation.fails .listLogGroups)).bind fun groups => ?_
    refine (ofExcept_fails fun _ => resolve_fails).bind fun group => ?_
    refine (operation_fails (Operation.fails (.listLogStreams group))).bind fun streams => ?_
    refine (ofExcept_fails fun _ => resolve_fails).bind fun stream => ?_
    exact ofCall_fails
      (fun r => operation_fails (Operation.fails (.bindAccessLog r.id group stream))) _ _

theorem transferStep_fails (info : Json) (created : List String) (r : Resource) :
    FailsWith Failure (transferStep info created r) := by
  rw [transferStep]
  split
  next => exact .done _
  dsimp only
  split
  next => exact .done _
  next =>
    exact (operation_fails (Operation.fails (.createTransfer _))).bind fun _ => .done _

/-- That a pool cannot be deleted ends nothing. -/
theorem deleteListenerStep_fails (balancers : List String) (r : Resource) :
    FailsWith Failure (deleteListenerStep balancers r) := by
  have hdelete : FailsWith Failure (do Cloud.deleteListener r.id; return .done : CloudM Step) :=
    (operation_fails (Operation.fails (.deleteListener r.id))).bind fun _ => .done _
  rw [deleteListenerStep]
  split
  next => exact .done _
  next =>
    split
    next => exact (FailsWith.of_tryCatch fun _ => ()).bind fun _ => hdelete
    next => exact hdelete

theorem setAccessControl_fails (ids names : List String) (enabled : Bool)
    (kind : AddressGroupKind) (context : RunContext) (resources : List Resource) :
    FailsWith Failure ((setAccessControl ids names enabled kind).process context resources) := by
  rw [setAccessControl]
  dsimp only
  split
  next => exact .done _
  next =>
    refine (operation_fails (Operation.fails .listAddressGroups)).bind fun groups => ?_
    split
    next => exact .of_throw (.noGroup ids names)
    next =>
      exact ofCall_fails
        (fun r => operation_fails (Operation.fails (.updateListenerAddressGroups r.id _))) _ _

theorem redirectStep_fails (target : RedirectTarget) (listeners : Option (List Resource))
    (r : Resource) : FailsWith Failure (redirectStep target listeners r) := by
  unfold redirectStep
  extract_lets redirectAmong
  have hredirect (known : List Resource) : FailsWith Failure (redirectAmong known) := by
    dsimp only [redirectAmong]
    cases known.find? target.accepts with
    | none => exact .done _
    | some redirect =>
        exact (operation_fails (Operation.fails (.createRedirectPolicy r.id redirect.id))).bind
          fun _ => .done _
  split
  next => exact .done _
  cases listeners with
  | none => exact (operation_fails (Operation.fails (.list .listener))).bind hredirect
  | some known => exact (FailsWith.done known).bind hredirect

/-! ### Actions on functions -/

theorem applyConfig_fails (properties : Json) (r : Resource) :
    FailsWith Failure (applyConfig properties r) :=
  (operation_fails (Operation.fails (.showFunctionConfig r.functionUrn))).bind fun _ =>
    operation_fails (Operation.fails (.updateFunctionConfig r.functionUrn _))

theorem modifyGroupsStep_fails (groups : List String) (xrole : String) (r : Resource) :
    FailsWith Failure (modifyGroupsStep groups xrole r) := by
  refine (operation_fails (Operation.fails (.showFunctionConfig r.functionUrn))).bind
    fun current => ?_
  cases withGroups? groups xrole current with
  | none => exact .done _
  | some properties =>
      exact (operation_fails (Operation.fails (.updateFunctionConfig r.functionUrn _))).bind
        fun _ => .done _

theorem trimStep_fails (retention : VersionRetention) (now : Timestamp) (r : Resource) :
    FailsWith Failure (trimStep retention now r) :=
  (operation_fails (Operation.fails (.listVersions _))).bind fun _ =>
    (operation_fails (Operation.fails (.listAliases _))).bind fun _ =>
      (ofExcept_fails fun _ he => .fatal (retention.isFatal_of_doomed he)).bind fun _ =>
      (forEach_fails (fun urn => operation_fails (Operation.fails (.deleteFunction urn))) _).bind
        fun _ => .done _

/-! ### Actions on topics, and notices -/

theorem deleteLoggingStep_fails (r : Resource) : FailsWith Failure (deleteLoggingStep r) := by
  have hbindings : FailsWith Failure (Filter.bindingsOf r) := by
    rw [Filter.bindingsOf]
    split
    next => exact .done _
    next => exact (operation_fails (Operation.fails (.listLogtanks _))).bind fun _ => .done _
  refine hbindings.bind fun looked => ?_
  dsimp only
  split
  next => exact .done _
  next =>
    exact (forEach_fails
      (fun id => operation_fails (Operation.fails (.deleteLogtank r.topicUrn id))) _).bind
        fun _ => .done _

theorem ofText_fails {text : String} {e : Error} (h : Stripped.ofText text = .error e) :
    Failure e := by
  rw [Stripped.ofText, Filter.policyDocument] at h
  split at h
  next => cases h
  next =>
    cases h
    exact .unreadable

theorem deleteAllowAllStep_fails (r : Resource) : FailsWith Failure (deleteAllowAllStep r) := by
  have hpolicy : FailsWith Failure (Filter.policyOf r) := by
    rw [Filter.policyOf]
    split
    next => exact .done _
    next =>
      refine (operation_fails (Operation.fails (.accessPolicy r.topicUrn))).bind fun found => ?_
      cases found <;> exact .done _
  have hupdate (policy : Option String) :
      FailsWith Failure
        (do Cloud.updateAccessPolicy r.topicUrn policy; return .done : CloudM Step) :=
    (operation_fails (Operation.fails (.updateAccessPolicy r.topicUrn policy))).bind
      fun _ => .done _
  refine hpolicy.bind fun looked => ?_
  dsimp only
  split
  next => exact .done _
  next text _ =>
    refine (ofExcept_fails fun _ => ofText_fails).bind fun stripped => ?_
    cases stripped with
    | unchanged => exact .done _
    | narrowed text => exact hupdate (some text)
    | cleared => exact hupdate none

theorem publishing_fails (name : String) (topics : List String) (subject : Option String)
    (body : RunContext → List Resource → MessageBody) (context : RunContext)
    (resources : List Resource) :
    FailsWith Failure ((publishing name topics subject body).process context resources) := by
  have hall (message : MessageBody) :
      FailsWith Failure (publishAll subject message topics) := by
    induction topics with
    | nil => exact .done ()
    | cons topic topics ih =>
        exact (operation_fails (Operation.fails (.publish topic subject message))).bind fun _ => ih
  rw [publishing]
  dsimp only
  split
  next => exact .done _
  next => exact (hall _).bind fun _ => .done _

end Action

/-! ### Actions of compiled policies -/

namespace ActionKind

variable {kind : ActionKind} {action : Action} {context : RunContext}

open CloudPolicy.Action in
/-- Actions that plan or write single tags, or none, fail with an error of their own or at a
call. -/
theorem Builds.fails (hbuilds : kind.Builds action) (hkind : kind ∉ writers)
    (hlimit : 1 ≤ context.settings.maxTagsPerCall) (resources : List Resource) :
    FailsWith Failure (action.process context resources) := by
  cases hbuilds with
  | write write hwriter => exact absurd hwriter hkind
  | plan plan => exact ofPlan_fails _ plan context resources
  | markForOp mark => exact markForOp_fails mark hlimit resources
  | autoTag options => exact autoTag_fails options hlimit resources
  | deleteLoadBalancer =>
      exact ofCall_fails (fun r => operation_fails (Operation.fails (.deleteLoadBalancer r.id))) _ _
  | unbind kinds => exact ofCall_fails (unbind_fails kinds) _ _
  | enableLogging group stream => exact enableLogging_fails group stream context resources
  | createTransfers info => exact eachWith_fails (transferStep_fails info) _ _ _
  | deleteListener balancers => exact ofStep_fails (deleteListenerStep_fails balancers) _
  | setAccessControl ids names enabled group =>
      exact setAccessControl_fails ids names enabled group context resources
  | redirectToHttps target => exact eachWith_fails (redirectStep_fails target) _ _ _
  | deleteFunction =>
      exact ofCall_fails (fun r => operation_fails (Operation.fails (.deleteFunction _))) _ _
  | updateConcurrency count =>
      exact ofCall_fails
        (fun r => operation_fails (Operation.fails (.updateMaxInstances r.functionUrn count))) _ _
  | modifyGroups groups xrole => exact ofStep_fails (modifyGroupsStep_fails groups xrole) _
  | showConfig =>
      exact ofCall_fails (fun r =>
        (operation_fails (Operation.fails (.showFunctionConfig r.functionUrn))).bind
          fun _ => .done _) _ _
  | updateConfig properties => exact ofCall_fails (applyConfig_fails properties) _ _
  | trimVersions retention => exact ofStep_fails (trimStep_fails retention context.now) _
  | invoke invocation =>
      exact ofCall_fails (fun r =>
        (operation_fails (Operation.fails (.invoke r.functionUrn invocation))).bind
          fun _ => .done _) _ _
  | publishing topics subject body =>
      exact publishing_fails _ topics subject body context resources
  | deleteTopic =>
      exact ofCall_fails (fun r => operation_fails (Operation.fails (.deleteTopic r.topicUrn))) _ _
  | createLogging group stream =>
      exact ofCall_fails
        (fun r => operation_fails (Operation.fails (.createLogtank r.topicUrn group stream))) _ _
  | deleteLogging => exact ofStep_fails deleteLoggingStep_fails _
  | updateAccess policy =>
      exact ofCall_fails
        (fun r => operation_fails (Operation.fails (.updateAccessPolicy r.topicUrn policy))) _ _
  | deleteAccess =>
      exact ofCall_fails
        (fun r => operation_fails (Operation.fails (.deleteTopicAttributes r.topicUrn))) _ _
  | deleteAllowAll => exact ofStep_fails deleteAllowAllStep_fails _

/-- What is built under some limit fails as actions do when it is run under no lower one. -/
theorem fails_of_build {block : Json} {build : BuildContext}
    (hbuild : kind.build block build = .ok action) (hlimit : 1 ≤ context.settings.maxTagsPerCall)
    (hsettings : build.settings.maxTagsPerCall ≤ context.settings.maxTagsPerCall)
    (resources : List Resource) :
    FailsWith Action.Failure (action.process context resources) := by
  by_cases hkind : kind ∈ writers
  · obtain ⟨write, hsize, rfl⟩ := exists_write_of_build hkind hbuild
    exact Action.writeTags_fails (Nat.le_trans hsize hsettings) kind.name _
  · exact (builds_of_build hbuild).fails hkind hlimit resources

end ActionKind

/-- **Loaded policies never ask for too many tags.** Whatever a document asks for, if its policies
compile under settings by which a call may carry a tag at all, none of their actions, run under the
same settings, ends with the error of a write that carries more tags than one call may: whatever the
event, the resources and the cloud with the failures injected into it. -/
theorem Policy.tag_limit_never_exceeded (settings : Settings)
    (hlimit : 1 ≤ settings.maxTagsPerCall) (document : PolicyDocument) (policies : List Policy)
    (hcompile : Policy.ofDocument settings document = .ok policies) (policy : Policy)
    (hpolicy : policy ∈ policies) (action : Action) (haction : action ∈ policy.actions)
    (context : RunContext) (hcontext : context.settings = settings) (resources : List Resource)
    (cloud : Cloud) (name : String) (count limit : Nat) :
    ((action.process context resources).run cloud).1 ≠
      .error (Action.tooManyTags name count limit) := by
  intro herror
  obtain ⟨kind, -, block, hbuild⟩ :=
    (Policy.compiled_of_ofDocument hcompile hpolicy).actions action haction
  subst hcontext
  have hfailure := ActionKind.fails_of_build hbuild hlimit (Nat.le_refl _) resources cloud _ herror
  exact hfailure.ne_tooManyTags name count limit rfl

/-- Two tags are loaded under a limit of two tags. Under this limit a run that fails does so at its
call; under a lower one it would be stopped before. -/
theorem Policy.two_tags_never_exceed_two :
    let document : PolicyDocument :=
      ⟨[{ name := "label", resource := "functiongraph",
          actions := [.obj [("type", .string "tag"),
            ("tags", .obj [("Owner", .string "finance"), ("Env", .string "prod")])]] }]⟩
    let context (limit : Nat) : RunContext := { (default : RunContext) with
      resourceType := .function, settings := { maxTagsPerCall := limit } }
    let function : Resource := .ofRecord (.obj [("id", .string "fn-1")])
    let cloud : Cloud :=
      (({} : Cloud).setResources .function [function]).failOn "create_tags" "fn-1"
    ∃ policy action, Policy.ofDocument { maxTagsPerCall := 2 } document = .ok [policy] ∧
      policy.actions = [action] ∧
      (let result (limit : Nat) := ((action.process (context limit) [function]).run cloud).1
      result 2 =
        .error (.serviceCall "tms" "create_tags" "injected failure for 'fn-1'") ∧
      (∀ name count limit, result 2 ≠ .error (Action.tooManyTags name count limit)) ∧
      result 1 = .error (Action.tooManyTags "tag" 2 1)) := by
  intro document context function cloud
  refine ⟨_, _, rfl, rfl, ?_⟩
  intro result
  refine ⟨rfl, fun name count limit => ?_, rfl⟩
  exact tag_limit_never_exceeded { maxTagsPerCall := 2 } (by decide) document _ rfl _
    List.mem_cons_self _ List.mem_cons_self (context 2) rfl [function] cloud name count limit

end CloudPolicy
