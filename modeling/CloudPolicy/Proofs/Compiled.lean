import CloudPolicy.Policy.Compile
import CloudPolicy.Proofs.Steps

/-! What compiled policies are made of. Every filter and every action of a policy that a document
gives was built by a kind that the resource type of the policy supports, and what a kind builds has
one of a few forms. -/

namespace CloudPolicy

/-! ### Policies -/

namespace Policy

variable {settings : Settings} {policy : Policy}

/-- What was known when the blocks of the policy were built. -/
def buildContext (settings : Settings) (policy : Policy) : BuildContext where
  policy := policy.name
  resourceType := policy.resourceType
  mode := policy.mode
  settings := settings

/-- The kind built the filter for the policy. -/
def FilterOf (settings : Settings) (policy : Policy) (kind : FilterKind) (filter : Filter) : Prop :=
  kind ∈ policy.resourceType.filters ∧
    ∃ block, kind.build block (policy.buildContext settings) = .ok filter

/-- The kind built the action for the policy. -/
def ActionOf (settings : Settings) (policy : Policy) (kind : ActionKind) (action : Action) : Prop :=
  kind ∈ policy.resourceType.actions ∧
    ∃ block, kind.build block (policy.buildContext settings) = .ok action

/-- Every filter and every action of the policy was built by a kind of its resource type. -/
structure Compiled (settings : Settings) (policy : Policy) : Prop where
  filters : ∀ filter ∈ policy.filters, ∃ kind, policy.FilterOf settings kind filter
  actions : ∀ action ∈ policy.actions, ∃ kind, policy.ActionOf settings kind action

theorem normalized_of_prepare {context : BuildContext} {kind : BlockKind} {block table : Json}
    (h : prepare context kind block = .ok table) : normalizeBlock kind block = .ok table := by
  rw [prepare] at h
  cases hnormal : normalizeBlock kind block with
  | error e =>
      rw [hnormal] at h
      cases h
  | ok normal =>
      rw [hnormal] at h
      exact h

/-- A filter is compiled from the table form of its block, by the kind that the block names. -/
theorem of_compileFilter {context : BuildContext} {block : Json} {filter : Filter}
    (h : compileFilter context block = .ok filter) :
    ∃ table kind, normalizeBlock .filter block = .ok table ∧
      context.resourceType.filter? (blockType table) = some kind ∧
      kind.build table context = .ok filter := by
  obtain ⟨table, htable, h⟩ := Steps.of_bind_eq_ok h
  dsimp only at h
  split at h
  next => cases h
  next kind hkind =>
    obtain ⟨_, -, hbuild⟩ := Steps.of_bind_eq_ok h
    exact ⟨table, kind, normalized_of_prepare htable, hkind, hbuild⟩

theorem of_compileAction {context : BuildContext} {block : Json} {action : Action}
    (h : compileAction context block = .ok action) :
    ∃ table kind, normalizeBlock .action block = .ok table ∧
      context.resourceType.action? (blockType table) = some kind ∧
      kind.build table context = .ok action := by
  obtain ⟨table, htable, h⟩ := Steps.of_bind_eq_ok h
  dsimp only at h
  split at h
  next => cases h
  next kind hkind =>
    obtain ⟨_, -, hbuild⟩ := Steps.of_bind_eq_ok h
    exact ⟨table, kind, normalized_of_prepare htable, hkind, hbuild⟩

theorem compiled_of_ofEntry {entry : PolicyEntry} (h : ofEntry settings entry = .ok policy) :
    policy.Compiled settings := by
  obtain ⟨type, -, h⟩ := Steps.of_bind_eq_ok h
  obtain ⟨filters, hfilters, h⟩ := Steps.of_bind_eq_ok h
  obtain ⟨actions, hactions, h⟩ := Steps.of_bind_eq_ok h
  cases h
  constructor
  · intro filter hfilter
    obtain ⟨block, -, hcompile⟩ := Steps.exists_of_mem_mapM hfilters hfilter
    obtain ⟨table, kind, -, hkind, hbuild⟩ := of_compileFilter hcompile
    exact ⟨kind, List.mem_of_find?_eq_some hkind, table, hbuild⟩
  · intro action haction
    obtain ⟨block, -, hcompile⟩ := Steps.exists_of_mem_mapM hactions haction
    obtain ⟨table, kind, -, hkind, hbuild⟩ := of_compileAction hcompile
    exact ⟨kind, List.mem_of_find?_eq_some hkind, table, hbuild⟩

theorem exists_entry_of_ofEntries {seen : List String} {entries : List PolicyEntry}
    {policies : List Policy} (h : ofEntries settings seen entries = .ok policies)
    (hpolicy : policy ∈ policies) : ∃ entry ∈ entries, ofEntry settings entry = .ok policy := by
  induction entries generalizing seen policies with
  | nil =>
      cases h
      exact absurd hpolicy List.not_mem_nil
  | cons entry entries ih =>
      rw [ofEntries] at h
      split at h
      next => cases h
      obtain ⟨first, hfirst, h⟩ := Steps.of_bind_eq_ok h
      obtain ⟨rest, hrest, h⟩ := Steps.of_bind_eq_ok h
      cases h
      rcases List.mem_cons.1 hpolicy with rfl | hmem
      · exact ⟨entry, List.mem_cons_self, hfirst⟩
      · obtain ⟨found, hfound, hof⟩ := ih hrest hmem
        exact ⟨found, List.mem_cons_of_mem _ hfound, hof⟩

theorem compiled_of_ofDocument {document : PolicyDocument} {policies : List Policy}
    (h : ofDocument settings document = .ok policies) (hpolicy : policy ∈ policies) :
    policy.Compiled settings := by
  obtain ⟨entry, -, hentry⟩ := exists_entry_of_ofEntries h hpolicy
  exact compiled_of_ofEntry hentry

end Policy

/-! ### Filters -/

namespace FilterKind

/-- The forms of the filters that a kind builds. Tests of single records read nothing of a run but
its clock, and of a record no field in which filters keep what they looked up. A predicate may be
about any field. -/
inductive Builds : FilterKind → Filter → Prop where
  | predicate {kind : FilterKind} (hkind : kind = value ∨ kind = attributes) (p : Predicate) :
      Builds kind (Filter.ofPredicate kind.name p)
  | test {kind : FilterKind} (name : String) (test : RunContext → Resource → Bool)
      (hclock : ∀ context other : RunContext, other.now = context.now →
        test other = test context)
      (hfields : ∀ context (r s : Resource), (∀ key ∉ ["lts", "access_policy"],
        s.get? key = r.get? key) → test context s = test context r) :
      Builds kind (Filter.ofTest name test)
  | marked (options : DueOptions) : Builds markedForOp (Filter.markedForOp options)
  | backendCount (operator : Operator) (count : Binary64) :
      Builds backendCount (Filter.backendCount operator count)
  | transferred {kind : FilterKind} (expected : Bool) : Builds kind (Filter.transferred expected)
  | redirecting (target : RedirectTarget) : Builds redirectsToHttps (Filter.redirecting target)
  | subnet (p : Predicate) (all : Bool) : Builds subnet (Filter.attached .subnet p all)
  | securityGroup (p : Predicate) (all : Bool) :
      Builds securityGroup (Filter.attached .securityGroup p all)
  | placement (options : PlacementOptions) : Builds networkLocation (Filter.placement options)
  | triggered (p : Predicate) : Builds triggerType (Filter.triggered p)
  | reserved (p : Predicate) : Builds reservedConcurrency (Filter.reserved p)
  | topicLogging (enabled : Bool) : Builds topicLogging (Filter.topicLogging enabled)
  | topicAccess (criteria : Filter.AccessCriteria) :
      Builds topicAccess (Filter.topicAccess criteria)

/-- The predicate of a filter on values is the one of its block. -/
theorem predicate_of_build {kind : FilterKind} (hkind : kind = value ∨ kind = attributes)
    {block : Json} {build : BuildContext} {filter : Filter}
    (hbuild : kind.build block build = .ok filter) :
    ∃ p, Predicate.ofBlock block = .ok p ∧ filter = Filter.ofPredicate kind.name p := by
  have hpredicate : Filter.buildPredicate kind.name block build = .ok filter := by
    rcases hkind with rfl | rfl <;> exact hbuild
  obtain ⟨p, hp, hbuild⟩ := Steps.of_bind_eq_ok hpredicate
  cases hbuild
  cases hblock : Predicate.ofBlock block with
  | error e =>
      rw [hblock] at hp
      cases hp
  | ok found =>
      rw [hblock] at hp
      cases hp
      exact ⟨p, rfl, rfl⟩

theorem exists_placement_of_build {block : Json} {build : BuildContext} {filter : Filter}
    (hbuild : networkLocation.build block build = .ok filter) :
    ∃ options, Filter.placementOptions block build = .ok options ∧
      filter = Filter.placement options := by
  rw [FilterKind.build, Filter.buildPlacement] at hbuild
  split at hbuild
  next => cases hbuild
  next =>
    obtain ⟨options, hoptions, hbuild⟩ := Steps.of_bind_eq_ok hbuild
    cases hbuild
    exact ⟨options, hoptions, rfl⟩

theorem exists_due_of_build {block : Json} {build : BuildContext} {filter : Filter}
    (hbuild : markedForOp.build block build = .ok filter) :
    ∃ options, DueOptions.ofBlock block build = .ok options ∧
      filter = Filter.markedForOp options := by
  obtain ⟨options, hoptions, hbuild⟩ := Steps.of_bind_eq_ok hbuild
  cases hbuild
  exact ⟨options, hoptions, rfl⟩

theorem builds_of_build {kind : FilterKind} {block : Json} {build : BuildContext} {filter : Filter}
    (hbuild : kind.build block build = .ok filter) : kind.Builds filter := by
  cases kind with
  | value =>
      obtain ⟨p, -, rfl⟩ := predicate_of_build (.inl rfl) hbuild
      exact .predicate (.inl rfl) p
  | attributes =>
      obtain ⟨p, -, rfl⟩ := predicate_of_build (.inr rfl) hbuild
      exact .predicate (.inr rfl) p
  | age =>
      obtain ⟨operator, -, hbuild⟩ := Steps.of_bind_eq_ok hbuild
      cases hbuild
      refine .test _ _ (fun _ _ hnow => by rw [hnow]) fun context r s hsame => ?_
      simp only [Filter.createdAt, Resource.text?, hsame "created_at" (by decide)]
  | tagCount =>
      obtain ⟨⟨operator, count⟩, -, hbuild⟩ := Steps.of_bind_eq_ok hbuild
      cases hbuild
      refine .test _ _ (fun _ _ _ => rfl) fun context r s hsame => ?_
      simp only [Filter.userTags, Resource.tags, hsame "tags" (by decide)]
  | publicAddressCount =>
      obtain ⟨⟨operator, count⟩, -, hbuild⟩ := Steps.of_bind_eq_ok hbuild
      cases hbuild
      refine .test _ _ (fun _ _ _ => rfl) fun context r s hsame => ?_
      simp only [Filter.publicAddresses, List.map_cons, List.map_nil, hsame "eips" (by decide),
        hsame "ipv6_bandwidth" (by decide), hsame "global_eips" (by decide)]
  | markedForOp =>
      obtain ⟨options, -, rfl⟩ := exists_due_of_build hbuild
      exact .marked options
  | backendCount =>
      obtain ⟨⟨operator, count⟩, -, hbuild⟩ := Steps.of_bind_eq_ok hbuild
      cases hbuild
      exact .backendCount operator count
  | isLogging | isNotLogging =>
      cases hbuild
      refine .test _ _ (fun _ _ _ => rfl) fun context r s hsame => ?_
      simp only [Filter.isLogging, Filter.isSet, Resource.text?, hsame "log_group_id" (by decide),
        hsame "log_topic_id" (by decide)]
  | scriptWithoutReviewer | scriptWithoutReviewerUnderscored =>
      cases hbuild
      refine .test _ _ (fun _ _ _ => rfl) fun context r s hsame => ?_
      simp only [Filter.lacksReviewer, hsame "properties" (by decide)]
  | isTransferred | isNotTransferred =>
      cases hbuild
      exact .transferred _
  | redirectsToHttps =>
      cases hbuild
      exact .redirecting _
  | subnet =>
      obtain ⟨p, -, hbuild⟩ := Steps.of_bind_eq_ok hbuild
      cases hbuild
      exact .subnet p _
  | securityGroup =>
      obtain ⟨p, -, hbuild⟩ := Steps.of_bind_eq_ok hbuild
      cases hbuild
      exact .securityGroup p _
  | networkLocation =>
      obtain ⟨options, -, rfl⟩ := exists_placement_of_build hbuild
      exact .placement options
  | triggerType =>
      obtain ⟨p, -, hbuild⟩ := Steps.of_bind_eq_ok hbuild
      cases hbuild
      exact .triggered p
  | reservedConcurrency =>
      obtain ⟨p, -, hbuild⟩ := Steps.of_bind_eq_ok hbuild
      cases hbuild
      exact .reserved p
  | topicLogging =>
      cases hbuild
      exact .topicLogging _
  | topicAccess =>
      cases hbuild
      exact .topicAccess _

/-- A filter has the name of its kind. -/
theorem name_of_build {kind : FilterKind} {block : Json} {build : BuildContext} {filter : Filter}
    (hbuild : kind.build block build = .ok filter) : filter.name = kind.name := by
  cases kind with
  | value | attributes | age | tagCount | publicAddressCount | backendCount | markedForOp | subnet
  | securityGroup | triggerType | reservedConcurrency =>
      obtain ⟨_, -, hbuild⟩ := Steps.of_bind_eq_ok hbuild
      cases hbuild
      rfl
  | networkLocation =>
      obtain ⟨_, -, rfl⟩ := exists_placement_of_build hbuild
      rfl
  | isLogging | isNotLogging | isTransferred | isNotTransferred | redirectsToHttps
  | scriptWithoutReviewer | scriptWithoutReviewerUnderscored | topicLogging | topicAccess =>
      cases hbuild
      rfl

end FilterKind

/-! ### Actions -/

theorem BuildContext.eq_ok_of_rejecting {α : Type} {context : BuildContext}
    {value : Except Error α} {a : α} (h : context.rejecting value = .ok a) : value = .ok a := by
  cases value with
  | error e => cases h
  | ok value =>
      cases h
      rfl

theorem BuildContext.eq_some_of_require {α : Type} {context : BuildContext} {value : Option α}
    {reason : String} {a : α} (h : context.require value reason = .ok a) : value = some a := by
  cases value with
  | none => cases h
  | some value =>
      cases h
      rfl

namespace Action

variable {name : String} {block : Json} {build : BuildContext} {action : Action}

/-- What is set is checked against the limit of the settings. -/
theorem exists_write_of_buildTag (hbuild : buildTag name block build = .ok action) :
    ∃ write, write.size ≤ build.settings.maxTagsPerCall ∧ action = .ofWrite name write := by
  rw [buildTag] at hbuild
  split at hbuild
  next => cases hbuild
  split at hbuild
  next => cases hbuild
  next hfits =>
    cases hbuild
    exact ⟨.create (tagsOfBlock block), Nat.not_lt.1 hfits, rfl⟩

/-- What is removed is checked against the limit of the settings, repeated keys counting each
time. -/
theorem exists_write_of_buildRemoveTag (hbuild : buildRemoveTag name block build = .ok action) :
    ∃ write, write.size ≤ build.settings.maxTagsPerCall ∧ action = .ofWrite name write := by
  rw [buildRemoveTag] at hbuild
  split at hbuild
  next => cases hbuild
  split at hbuild
  next => cases hbuild
  next hfits =>
    cases hbuild
    exact ⟨.delete (block.textsOption "tags"), Nat.not_lt.1 hfits, rfl⟩

/-- A text that a block must have is the one of its field. -/
theorem textOption?_of_require {key reason text : String}
    (h : build.require (block.someTextOption? key) reason = .ok text) :
    block.textOption? key = some text :=
  (Option.filter_eq_some_iff.1 (BuildContext.eq_some_of_require h)).1

/-- The two keys of a block that a renaming is built from are different. -/
theorem exists_keys_of_buildRename (hbuild : buildRename block build = .ok action) :
    ∃ oldKey newKey, block.textOption? "old_key" = some oldKey ∧
      block.textOption? "new_key" = some newKey ∧ oldKey ≠ newKey ∧
      action = ofPlan "rename-tag" (renamePlan oldKey newKey (block.textOption? "value")) := by
  obtain ⟨oldKey, hold, hbuild⟩ := Steps.of_bind_eq_ok hbuild
  obtain ⟨newKey, hnew, hbuild⟩ := Steps.of_bind_eq_ok hbuild
  split at hbuild
  next => cases hbuild
  next hkeys =>
    cases hbuild
    exact ⟨oldKey, newKey, textOption?_of_require hold, textOption?_of_require hnew, hkeys, rfl⟩

theorem exists_rule_of_buildNormalize (hbuild : buildNormalize block build = .ok action) :
    ∃ key rule, block.textOption? "key" = some key ∧
      Normalization.ofBlock block build = .ok rule ∧
      action = ofPlan "normalize-tag" (normalizePlan key (block.textOption? "value") rule) := by
  obtain ⟨key, hkey, hbuild⟩ := Steps.of_bind_eq_ok hbuild
  obtain ⟨rule, hrule, hbuild⟩ := Steps.of_bind_eq_ok hbuild
  cases hbuild
  exact ⟨key, rule, textOption?_of_require hkey, hrule, rfl⟩

/-- The space of a block that a trimming is built from. -/
theorem exists_space_of_buildTrim (hbuild : buildTrim block build = .ok action) :
    ∃ space, (block.field? "space").bind Json.nat? = some space ∧ space ≤ maxResourceTags ∧
      action = ofPlan "tag-trim" (trimPlan space (block.textsOption "preserve")) := by
  obtain ⟨space, hspace, hbuild⟩ := Steps.of_bind_eq_ok hbuild
  cases hbuild
  have hspace := BuildContext.eq_some_of_require hspace
  obtain ⟨hfield, hmost⟩ := Option.filter_eq_some_iff.1 hspace
  exact ⟨space, hfield, of_decide_eq_true hmost, rfl⟩

/-- Attribution is built for event-driven policies only. -/
theorem of_buildAutoTag (hbuild : buildAutoTag block build = .ok action) :
    build.mode.isEventDriven = true ∧ ∃ options, action = .autoTag options := by
  rw [buildAutoTag] at hbuild
  split at hbuild
  next => cases hbuild
  next hmode =>
    split at hbuild
    next => cases hbuild
    obtain ⟨tag, -, hbuild⟩ := Steps.of_bind_eq_ok hbuild
    cases hbuild
    exact ⟨by simpa using hmode, _, rfl⟩

end Action

namespace ActionKind

/-- The kinds that write the same tags to all resources, or delete the same keys. -/
def writers : List ActionKind := [tag, mark, removeTag, unmark, untag]

/-- The forms of the actions that a kind builds. -/
inductive Builds : ActionKind → Action → Prop where
  | write {kind : ActionKind} (write : TagWrite) (hkind : kind ∈ writers) :
      Builds kind (.ofWrite kind.name write)
  | plan {kind : ActionKind} (plan : Resource → Plan) : Builds kind (.ofPlan kind.name plan)
  | markForOp (mark : MarkOptions) : Builds markForOp (.markForOp mark)
  | autoTag (options : AttributionOptions) : Builds autoTagUser (.autoTag options)
  | deleteLoadBalancer : Builds deleteLoadBalancer .deleteLoadBalancer
  | unbind (kinds : List AddressKind) :
      Builds unbindPublicAddresses (.ofCall "unbind-publicips" (Action.unbind kinds))
  | enableLogging (group stream : LogReference) :
      Builds enableLogging (.enableLogging group stream)
  | createTransfers (info : Json) : Builds createLogTransfer (.createTransfers info)
  | deleteListener (balancers : List String) : Builds deleteListener (.deleteListener balancers)
  | setAccessControl (ids names : List String) (enabled : Bool) (group : AddressGroupKind) :
      Builds setAccessControl (.setAccessControl ids names enabled group)
  | redirectToHttps (target : RedirectTarget) : Builds redirectToHttps (.redirectToHttps target)
  | deleteFunction : Builds deleteFunction .deleteFunction
  | updateConcurrency (count : Int) : Builds updateConcurrency (.updateConcurrency count)
  | modifyGroups (groups : List String) (xrole : String) :
      Builds modifySecurityGroups (.modifyGroups groups xrole)
  | showConfig : Builds showConfig .showConfig
  | updateConfig (properties : Json) : Builds updateConfig (.updateConfig properties)
  | trimVersions (retention : Action.VersionRetention) :
      Builds trimVersions (.trimVersions retention)
  | invoke (invocation : Invocation) : Builds invoke (.invoke invocation)
  | publishing {kind : ActionKind} (topics : List String) (subject : Option String)
      (body : RunContext → List Resource → MessageBody) :
      Builds kind (.publishing kind.name topics subject body)
  | deleteTopic : Builds deleteTopic .deleteTopic
  | createLogging (group stream : String) :
      Builds createTopicLogging (.createLogging group stream)
  | deleteLogging : Builds deleteTopicLogging .deleteLogging
  | updateAccess (policy : String) : Builds updateAccess (.updateAccess policy)
  | deleteAccess : Builds deleteAccess .deleteAccess
  | deleteAllowAll : Builds deleteAllowAll .deleteAllowAll

/-- What a writing kind builds stays within the limit of the settings that it is built under. -/
theorem exists_write_of_build {kind : ActionKind} (hkind : kind ∈ writers) {block : Json}
    {build : BuildContext} {action : Action} (hbuild : kind.build block build = .ok action) :
    ∃ write, write.size ≤ build.settings.maxTagsPerCall ∧ action = .ofWrite kind.name write := by
  cases kind with
  | tag | mark => exact Action.exists_write_of_buildTag hbuild
  | removeTag | unmark | untag => exact Action.exists_write_of_buildRemoveTag hbuild
  | _ => exact absurd hkind (by decide)

theorem builds_buildAlarm {kind : ActionKind} {form : Action.AlarmForm}
    (hform : form.name = kind.name) {block : Json} {build : BuildContext} {action : Action}
    (hbuild : Action.buildAlarm form block build = .ok action) : kind.Builds action := by
  obtain ⟨topics, -, hbuild⟩ := Steps.of_bind_eq_ok hbuild
  cases hbuild
  rw [hform]
  exact .publishing _ _ _

theorem builds_of_build {kind : ActionKind} {block : Json} {build : BuildContext} {action : Action}
    (hbuild : kind.build block build = .ok action) : kind.Builds action := by
  cases kind with
  | tag | mark | removeTag | unmark | untag =>
      obtain ⟨write, -, rfl⟩ := exists_write_of_build (by decide) hbuild
      exact .write write (by decide)
  | renameTag =>
      obtain ⟨_, _, -, -, -, rfl⟩ := Action.exists_keys_of_buildRename hbuild
      exact .plan _
  | normalizeTag =>
      obtain ⟨_, _, -, -, rfl⟩ := Action.exists_rule_of_buildNormalize hbuild
      exact .plan _
  | trimTags =>
      obtain ⟨_, -, -, rfl⟩ := Action.exists_space_of_buildTrim hbuild
      exact .plan _
  | markForOp =>
      obtain ⟨mark, -, hbuild⟩ := Steps.of_bind_eq_ok hbuild
      cases hbuild
      exact .markForOp mark
  | autoTagUser =>
      obtain ⟨-, options, rfl⟩ := Action.of_buildAutoTag hbuild
      exact .autoTag options
  | deleteLoadBalancer =>
      cases hbuild
      exact .deleteLoadBalancer
  | unbindPublicAddresses =>
      cases hbuild
      exact .unbind _
  | enableLogging =>
      obtain ⟨group, -, hbuild⟩ := Steps.of_bind_eq_ok hbuild
      obtain ⟨stream, -, hbuild⟩ := Steps.of_bind_eq_ok hbuild
      cases hbuild
      exact .enableLogging group stream
  | createLogTransfer =>
      obtain ⟨bucket, -, hbuild⟩ := Steps.of_bind_eq_ok hbuild
      cases hbuild
      exact .createTransfers _
  | deleteListener =>
      cases hbuild
      exact .deleteListener _
  | setAccessControl =>
      rw [ActionKind.build, Action.buildSetAccessControl] at hbuild
      split at hbuild
      next => cases hbuild
      obtain ⟨group, -, hbuild⟩ := Steps.of_bind_eq_ok hbuild
      cases hbuild
      exact .setAccessControl _ _ _ group
  | redirectToHttps =>
      cases hbuild
      exact .redirectToHttps _
  | deleteFunction =>
      cases hbuild
      exact .deleteFunction
  | updateConcurrency =>
      obtain ⟨count, -, hbuild⟩ := Steps.of_bind_eq_ok hbuild
      cases hbuild
      exact .updateConcurrency count
  | modifySecurityGroups =>
      obtain ⟨groups, -, hbuild⟩ := Steps.of_bind_eq_ok hbuild
      obtain ⟨xrole, -, hbuild⟩ := Steps.of_bind_eq_ok hbuild
      cases hbuild
      exact .modifyGroups groups xrole
  | showConfig =>
      cases hbuild
      exact .showConfig
  | updateConfig =>
      obtain ⟨properties, -, hbuild⟩ := Steps.of_bind_eq_ok hbuild
      split at hbuild
      next => cases hbuild
      cases hbuild
      exact .updateConfig properties
  | trimVersions =>
      cases hbuild
      exact .trimVersions _
  | invoke =>
      obtain ⟨body, -, hbuild⟩ := Steps.of_bind_eq_ok hbuild
      dsimp only at hbuild
      split at hbuild
      next =>
        cases hbuild
        exact .invoke _
      next => cases hbuild
  | patchAlarm => exact builds_buildAlarm rfl hbuild
  | patchAlarmUnderscored => exact builds_buildAlarm rfl hbuild
  | scriptAlarm => exact builds_buildAlarm rfl hbuild
  | scriptAlarmUnderscored => exact builds_buildAlarm rfl hbuild
  | deleteTopic =>
      cases hbuild
      exact .deleteTopic
  | createTopicLogging =>
      obtain ⟨group, -, hbuild⟩ := Steps.of_bind_eq_ok hbuild
      obtain ⟨stream, -, hbuild⟩ := Steps.of_bind_eq_ok hbuild
      cases hbuild
      exact .createLogging group stream
  | deleteTopicLogging =>
      cases hbuild
      exact .deleteLogging
  | updateAccess =>
      obtain ⟨policy, -, hbuild⟩ := Steps.of_bind_eq_ok hbuild
      split at hbuild
      next =>
        cases hbuild
        exact .updateAccess policy
      next => cases hbuild
  | deleteAccess =>
      cases hbuild
      exact .deleteAccess
  | deleteAllowAll =>
      cases hbuild
      exact .deleteAllowAll
  | notifyMessage | notifyStructure | notifyTemplate =>
      obtain ⟨topics, -, hbuild⟩ := Steps.of_bind_eq_ok hbuild
      obtain ⟨content, -, hbuild⟩ := Steps.of_bind_eq_ok hbuild
      cases hbuild
      exact .publishing _ _ _

/-- The only type that supports a kind; tags and notices have no such type. -/
def owner? : ActionKind → Option ResourceType
  | deleteLoadBalancer | unbindPublicAddresses | enableLogging | createLogTransfer =>
    some .loadBalancer
  | deleteListener | setAccessControl | redirectToHttps => some .listener
  | deleteFunction | updateConcurrency | modifySecurityGroups | showConfig | updateConfig
  | trimVersions | invoke => some .function
  | patchAlarm | patchAlarmUnderscored => some .patch
  | scriptAlarm | scriptAlarmUnderscored => some .script
  | deleteTopic | createTopicLogging | deleteTopicLogging | updateAccess | deleteAccess
  | deleteAllowAll => some .topic
  | _ => none

theorem eq_of_mem_actions {kind : ActionKind} {type own : ResourceType}
    (hkind : kind ∈ type.actions) (hown : kind.owner? = some own) : type = own := by
  revert hkind
  cases type <;> cases kind <;> cases hown <;> decide

/-- An action has the name of its kind. -/
theorem Builds.name_eq {kind : ActionKind} {action : Action} (hbuilds : kind.Builds action) :
    action.name = kind.name := by
  cases hbuilds <;> rfl

end ActionKind

end CloudPolicy
