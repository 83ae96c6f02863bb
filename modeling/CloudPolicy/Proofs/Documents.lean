import Mathlib.Data.List.Forall2
import CloudPolicy.Proofs.Attribution
import CloudPolicy.Proofs.Marks

/-! What a policy document compiles to. It compiles as a whole or not at all: its entries have
different names and compile one by one, or the first of them that does not follow the ones before it
gives the error. The filters and actions of a compiled policy stand for the blocks of its entry, and
what filters and actions take for granted when they run was checked when they were built. -/

namespace CloudPolicy

theorem Steps.mapM_eq_ok_iff {ε α β : Type} {f : α → Except ε β} {as : List α} {bs : List β} :
    as.mapM f = .ok bs ↔ List.Forall₂ (fun a b => f a = .ok b) as bs := by
  induction as generalizing bs with
  | nil =>
      rw [List.mapM_nil, List.forall₂_nil_left_iff]
      exact ⟨fun h => by cases h; rfl, fun h => by rw [h]; rfl⟩
  | cons a as ih =>
      rw [List.mapM_cons]
      constructor
      · intro h
        obtain ⟨b, hb, h⟩ := of_bind_eq_ok h
        obtain ⟨rest, hrest, h⟩ := of_bind_eq_ok h
        cases h
        exact .cons hb (ih.1 hrest)
      · rintro (_ | ⟨hb, hrest⟩)
        rw [hb, ih.2 hrest]
        rfl

theorem FilterKind.name_injective {kind other : FilterKind} (h : kind.name = other.name) :
    kind = other := by
  revert h
  cases kind <;> cases other <;> decide

theorem ActionKind.eq_markForOp_of_name {kind : ActionKind} (h : kind.name = markForOp.name) :
    kind = markForOp := by
  cases kind with
  | markForOp => rfl
  | _ => exact absurd h (by decide)

theorem Mark.textOption?_of_operation {context : BuildContext} {kind op : String} {block : Json}
    (h : operation context kind block = .ok op) : block.textOption? "op" = some op := by
  obtain ⟨found, hfound, h⟩ := Steps.of_bind_eq_ok h
  split at h
  next =>
    cases h
    cases htext : block.someTextOption? "op" with
    | none =>
        rw [htext] at hfound
        cases hfound
    | some text =>
        rw [htext] at hfound
        cases hfound
        exact (Option.filter_eq_some_iff.1 htext).1
  next => cases h

theorem MarkOptions.operation_of_ofBlock {mark : MarkOptions} {context : BuildContext}
    {block : Json} (h : ofBlock block context = .ok mark) :
    Mark.operation context "mark-for-op" block = .ok mark.op := by
  obtain ⟨op, hop, h⟩ := Steps.of_bind_eq_ok h
  obtain ⟨zone, -, h⟩ := Steps.of_bind_eq_ok h
  dsimp only at h
  split at h
  next => cases h
  next =>
    cases h
    exact hop

theorem DueOptions.operation_of_ofBlock {due : DueOptions} {context : BuildContext}
    {block : Json} (h : ofBlock block context = .ok due) :
    Mark.operation context "marked-for-op" block = .ok due.op := by
  obtain ⟨op, hop, h⟩ := Steps.of_bind_eq_ok h
  obtain ⟨zone, -, h⟩ := Steps.of_bind_eq_ok h
  dsimp only at h
  split at h
  next => cases h
  next =>
    obtain ⟨skew, -, h⟩ := Steps.of_bind_eq_ok h
    cases h
    exact hop

/-- The actions do the same whenever there is an event. -/
def Action.AgreesOnEvents (action other : Action) : Prop :=
  ∀ context resources, context.event.isSome →
    action.process context resources = other.process context resources

namespace Policy

variable {settings : Settings} {entry : PolicyEntry} {policy : Policy}

/-! ### Whole documents -/

/-- The entries have different names and compile one by one to the policies. -/
def CompilesTo (settings : Settings) (entries : List PolicyEntry) (policies : List Policy) : Prop :=
  (entries.map (·.name)).Nodup ∧
    List.Forall₂ (fun entry policy => ofEntry settings entry = .ok policy) entries policies

/-- After entries with the given names, the entry repeats a name or does not compile. -/
def Rejects (settings : Settings) (names : List String) (entry : PolicyEntry) (e : Error) : Prop :=
  if entry.name ∈ names then e = .policyValidation ("duplicate policy name '" ++ entry.name ++ "'")
  else ofEntry settings entry = .error e

theorem rejects_or_compiles (settings : Settings) (seen : List String) (entry : PolicyEntry) :
    (∃ e, Rejects settings seen entry e) ∨
      (entry.name ∉ seen ∧ ∃ policy, ofEntry settings entry = .ok policy) := by
  by_cases hseen : entry.name ∈ seen
  · exact .inl ⟨_, by rw [Rejects, if_pos hseen]⟩
  · cases hentry : ofEntry settings entry with
    | error e => exact .inl ⟨e, by rw [Rejects, if_neg hseen, hentry]⟩
    | ok policy => exact .inr ⟨hseen, policy, rfl⟩

theorem ofEntries_of_rejects {seen : List String} {e : Error} (h : Rejects settings seen entry e)
    (entries : List PolicyEntry) : ofEntries settings seen (entry :: entries) = .error e := by
  rw [ofEntries]
  unfold Rejects at h
  split at h
  next hseen =>
    rw [if_pos hseen, h]
    rfl
  next hnew =>
    rw [if_neg hnew, h]
    rfl

theorem ofEntries_of_compiles {seen : List String} (hnew : entry.name ∉ seen)
    (h : ofEntry settings entry = .ok policy) (entries : List PolicyEntry) :
    ofEntries settings seen (entry :: entries) =
      (ofEntries settings (entry.name :: seen) entries).map (policy :: ·) := by
  rw [ofEntries, if_neg hnew, h]
  show (ofEntries settings (entry.name :: seen) entries >>= _) = _
  cases ofEntries settings (entry.name :: seen) entries <;> rfl

theorem compilesTo_cons_iff {seen : List String} {entries : List PolicyEntry}
    {policies : List Policy} :
    ((∀ other ∈ entry :: entries, other.name ∉ seen) ∧
        CompilesTo settings (entry :: entries) policies) ↔
      entry.name ∉ seen ∧ ∃ policy, ofEntry settings entry = .ok policy ∧
        ∃ rest, ((∀ other ∈ entries, other.name ∉ entry.name :: seen) ∧
          CompilesTo settings entries rest) ∧ policy :: rest = policies := by
  simp only [CompilesTo, List.map_cons, List.nodup_cons, List.mem_map, List.mem_cons,
    List.forall₂_cons_left_iff]
  grind

theorem ofEntries_eq_ok_iff {seen : List String} {entries : List PolicyEntry}
    {policies : List Policy} : ofEntries settings seen entries = .ok policies ↔
      (∀ entry ∈ entries, entry.name ∉ seen) ∧ CompilesTo settings entries policies := by
  induction entries generalizing seen policies with
  | nil =>
      rw [ofEntries, CompilesTo, List.forall₂_nil_left_iff]
      simp [eq_comm]
  | cons entry entries ih =>
      rw [compilesTo_cons_iff]
      rcases rejects_or_compiles settings seen entry with ⟨e, he⟩ | ⟨hnew, policy, hpolicy⟩
      · rw [ofEntries_of_rejects he]
        constructor
        · intro h
          cases h
        · rintro ⟨hnew, policy, hpolicy, -⟩
          rw [Rejects, if_neg hnew, hpolicy] at he
          cases he
      · have hrest (rest : List Policy) :
            ofEntries settings (entry.name :: seen) entries = .ok rest ↔
              (∀ other ∈ entries, other.name ∉ entry.name :: seen) ∧
                CompilesTo settings entries rest := ih
        rw [ofEntries_of_compiles hnew hpolicy]
        simp only [hnew, hpolicy, ← hrest, not_false_eq_true, true_and, Except.ok.injEq,
          exists_eq_left']
        cases ofEntries settings (entry.name :: seen) entries <;> simp [Except.map]

/-- What comes after entries that compile is compiled with their names known. -/
theorem ofEntries_append {seen : List String} {before : List PolicyEntry} {policies : List Policy}
    (h : ofEntries settings seen before = .ok policies) (entries : List PolicyEntry) :
    ofEntries settings seen (before ++ entries) =
      (ofEntries settings ((before.map (·.name)).reverse ++ seen) entries).map (policies ++ ·) := by
  induction before generalizing seen policies with
  | nil =>
      cases h
      cases hall : ofEntries settings seen entries <;> simp [hall, Except.map]
  | cons entry before ih =>
      rcases rejects_or_compiles settings seen entry with ⟨e, he⟩ | ⟨hnew, policy, hpolicy⟩
      · rw [ofEntries_of_rejects he] at h
        cases h
      · rw [ofEntries_of_compiles hnew hpolicy] at h
        cases hbefore : ofEntries settings (entry.name :: seen) before with
        | error e =>
            rw [hbefore] at h
            cases h
        | ok rest =>
            rw [hbefore] at h
            cases h
            rw [List.cons_append, ofEntries_of_compiles hnew hpolicy, ih hbefore, List.map_cons,
              List.reverse_cons, List.append_assoc, List.singleton_append]
            cases ofEntries settings _ entries <;> rfl

/-- Entries fail to compile exactly when one of them is rejected after all before it compiled. -/
theorem ofEntries_eq_error_iff {seen : List String} {entries : List PolicyEntry} {e : Error} :
    ofEntries settings seen entries = .error e ↔
      ∃ before entry after policies, entries = before ++ entry :: after ∧
        ofEntries settings seen before = .ok policies ∧
        Rejects settings ((before.map (·.name)).reverse ++ seen) entry e := by
  constructor
  · intro h
    induction entries generalizing seen with
    | nil => cases h
    | cons first entries ih =>
        rcases rejects_or_compiles settings seen first with ⟨cause, hcause⟩ | ⟨hnew, policy, hpolicy⟩
        · rw [ofEntries_of_rejects hcause] at h
          cases h
          exact ⟨[], first, entries, [], rfl, rfl, hcause⟩
        · rw [ofEntries_of_compiles hnew hpolicy] at h
          cases hrest : ofEntries settings (first.name :: seen) entries with
          | ok rest =>
              rw [hrest] at h
              cases h
          | error cause =>
              rw [hrest] at h
              cases h
              obtain ⟨before, entry, after, policies, rfl, hbefore, hrejects⟩ := ih hrest
              refine ⟨first :: before, entry, after, policy :: policies, rfl, ?_, ?_⟩
              · rw [ofEntries_of_compiles hnew hpolicy, hbefore]
                rfl
              · simpa using hrejects
  · rintro ⟨before, entry, after, policies, rfl, hbefore, hrejects⟩
    rw [ofEntries_append hbefore, ofEntries_of_rejects hrejects]
    rfl

theorem rejects_congr {names names' : List String} (h : ∀ name, name ∈ names ↔ name ∈ names')
    {e : Error} : Rejects settings names entry e ↔ Rejects settings names' entry e := by
  rw [Rejects, Rejects, if_congr (h entry.name) rfl rfl]

/-! ### Blocks -/

/-- The filter stands for the block: it has the name of the block's type, which is a filter of the
resource type. Placements are judged only where the filters on both kinds of attachments are
registered, and marks are asked for only for actions of the type. -/
def FilterStandsFor (type : ResourceType) (block : Json) (filter : Filter) : Prop :=
  ∃ table, normalizeBlock .filter block = .ok table ∧ filter.name = blockType table ∧
    filter.name ∈ type.filterNames ∧
    (filter.name = FilterKind.networkLocation.name →
      FilterKind.subnet.name ∈ type.filterNames ∧
        FilterKind.securityGroup.name ∈ type.filterNames) ∧
    (filter.name = FilterKind.markedForOp.name → ∃ due : DueOptions, filter = .markedForOp due ∧
      table.textOption? "op" = some due.op ∧ due.op ∈ type.actionNames)

/-- The policy calls its actions with an event only: what they would do without one makes no
difference to a run. -/
def ActsOnEvents (policy : Policy) : Prop :=
  ∀ actions, List.Forall₂ Action.AgreesOnEvents policy.actions actions →
    ∀ sink settings now runId event schedule,
      ({ policy with actions }).run sink settings now runId event schedule =
        policy.run sink settings now runId event schedule

/-- The action stands for the block: it has the name of the block's type, which is an action of the
resource type. Attribution is left to event-driven policies on taggable resources, which call it
with an event, and marks are written only for actions of the type. -/
def ActionStandsFor (policy : Policy) (block : Json) (action : Action) : Prop :=
  ∃ table, normalizeBlock .action block = .ok table ∧ action.name = blockType table ∧
    action.name ∈ policy.resourceType.actionNames ∧
    (action.name = ActionKind.autoTagUser.name →
      policy.mode.isEventDriven ∧ policy.resourceType.isTaggable ∧ policy.ActsOnEvents) ∧
    (action.name = ActionKind.markForOp.name → ∃ mark : MarkOptions, action = .markForOp mark ∧
      table.textOption? "op" = some mark.op ∧ mark.op ∈ policy.resourceType.actionNames)

/-- The policy stands for the entry, block by block. -/
structure StandsFor (policy : Policy) (entry : PolicyEntry) : Prop where
  name : policy.name = entry.name
  resourceType : ResourceType.ofName? entry.resource = some policy.resourceType
  mode : policy.mode = entry.mode
  filters : List.Forall₂ (FilterStandsFor policy.resourceType) entry.filters policy.filters
  actions : List.Forall₂ policy.ActionStandsFor entry.actions policy.actions

theorem act_congr {actions others : List Action}
    (h : List.Forall₂ Action.AgreesOnEvents actions others) {context : RunContext}
    (hevent : context.event.isSome) (sink : AuditSink) (runId : RunId) (matched : List Resource) :
    act sink runId context matched others = act sink runId context matched actions := by
  induction h with
  | nil => rfl
  | cons hagrees hrest ih => rw [act, act, ih, hagrees context matched hevent]

/-- An event-driven policy runs on an event or not at all. -/
theorem actsOnEvents (hmode : policy.mode.isEventDriven) : policy.ActsOnEvents := by
  intro actions hactions sink settings now runId event schedule
  have htrigger : ({ policy with actions } : Policy).trigger event = policy.trigger event := rfl
  rw [run, run, htrigger]
  cases hseen : policy.trigger event with
  | missing => rfl
  | ignored => rfl
  | run seen =>
      have hevent : seen.isSome := by
        cases event with
        | none =>
            cases hcase : policy.mode with
            | pull =>
                rw [hcase] at hmode
                cases hmode
            | trail events => simp [trigger, hcase] at hseen
        | some event =>
            rw [trigger_event hmode] at hseen
            split at hseen <;> cases hseen
            rfl
      have hact (context : RunContext) (hcontext : context.event = seen) (matched : List Resource) :
          act sink runId context matched
              (if context.settings.dryRun || matched.isEmpty then [] else actions) =
            act sink runId context matched
              (if context.settings.dryRun || matched.isEmpty then [] else policy.actions) := by
        split
        next => rfl
        next => exact act_congr hactions (by rw [hcontext]; exact hevent) sink runId matched
      show execute _ sink runId (policy.runContext settings now seen schedule) =
        policy.execute sink runId (policy.runContext settings now seen schedule)
      rw [execute, execute]
      exact bind_congr fun matched =>
        congrArg (· >>= _) (hact (policy.runContext settings now seen schedule) rfl matched)

theorem placement_among_filters {type : ResourceType}
    (h : FilterKind.networkLocation ∈ type.filters) :
    FilterKind.subnet ∈ type.filters ∧ FilterKind.securityGroup ∈ type.filters := by
  revert h
  cases type <;> decide

theorem filterStandsFor_of_compile {context : BuildContext} {block : Json} {filter : Filter}
    (h : compileFilter context block = .ok filter) :
    FilterStandsFor context.resourceType block filter := by
  obtain ⟨table, kind, htable, hkind, hbuild⟩ := of_compileFilter h
  have hname : filter.name = kind.name := FilterKind.name_of_build hbuild
  have htype : kind.name = blockType table := by simpa using List.find?_some hkind
  have hmem : kind ∈ context.resourceType.filters := List.mem_of_find?_eq_some hkind
  refine ⟨table, htable, hname.trans htype, hname ▸ List.mem_map_of_mem hmem, ?_, ?_⟩
  · intro hplacement
    obtain rfl := FilterKind.name_injective (hname.symm.trans hplacement)
    obtain ⟨hsubnet, hgroup⟩ := placement_among_filters hmem
    exact ⟨List.mem_map_of_mem hsubnet, List.mem_map_of_mem hgroup⟩
  · intro hmarked
    obtain rfl := FilterKind.name_injective (hname.symm.trans hmarked)
    obtain ⟨due, hdue, rfl⟩ := FilterKind.exists_due_of_build hbuild
    have hop := DueOptions.operation_of_ofBlock hdue
    exact ⟨due, rfl, Mark.textOption?_of_operation hop, Mark.mem_actionNames_of_operation hop⟩

theorem actionStandsFor_of_compile (building : Settings) {block : Json} {action : Action}
    (h : compileAction (policy.buildContext building) block = .ok action) :
    policy.ActionStandsFor block action := by
  obtain ⟨table, kind, htable, hkind, hbuild⟩ := of_compileAction h
  have hname : action.name = kind.name := (ActionKind.builds_of_build hbuild).name_eq
  have htype : kind.name = blockType table := by simpa using List.find?_some hkind
  have hmem : kind ∈ policy.resourceType.actions := List.mem_of_find?_eq_some hkind
  refine ⟨table, htable, hname.trans htype, hname ▸ List.mem_map_of_mem hmem, ?_, ?_⟩
  · intro hattribution
    obtain rfl := eq_autoTagUser_of_name (hname.symm.trans hattribution)
    obtain ⟨tagTypeName, htaggable⟩ := exists_tagServiceName_of_autoTagUser hmem
    have hmode := (Action.of_buildAutoTag hbuild).1
    exact ⟨hmode, by rw [ResourceType.isTaggable, htaggable]; rfl, actsOnEvents hmode⟩
  · intro hmarking
    obtain rfl := ActionKind.eq_markForOp_of_name (hname.symm.trans hmarking)
    obtain ⟨mark, hmark, haction⟩ := Steps.of_bind_eq_ok hbuild
    cases haction
    have hop := MarkOptions.operation_of_ofBlock hmark
    exact ⟨mark, rfl, Mark.textOption?_of_operation hop, Mark.mem_actionNames_of_operation hop⟩

theorem standsFor_of_ofEntry (h : ofEntry settings entry = .ok policy) :
    policy.StandsFor entry := by
  obtain ⟨type, htype, h⟩ := Steps.of_bind_eq_ok h
  have hknown : ResourceType.ofName? entry.resource = some type := by
    cases hname : ResourceType.ofName? entry.resource with
    | none => simp [entryType, ResourceType.ofName, hname, Except.mapError] at htype
    | some found => simpa [entryType, ResourceType.ofName, hname, Except.mapError] using htype
  obtain ⟨filters, hfilters, h⟩ := Steps.of_bind_eq_ok h
  obtain ⟨actions, hactions, h⟩ := Steps.of_bind_eq_ok h
  cases h
  constructor
  · rfl
  · exact hknown
  · rfl
  · exact (Steps.mapM_eq_ok_iff.1 hfilters).imp fun _ _ => filterStandsFor_of_compile
  · refine (Steps.mapM_eq_ok_iff.1 hactions).imp fun block action hcompile => ?_
    exact actionStandsFor_of_compile settings hcompile

/-- **A document compiles as a whole.** It compiles exactly when its entries have different names
and each compiles alone, to the policies of the entries in their order; otherwise the error is that
of the first entry that repeats a name or does not compile. The policies stand for their entries,
filter by filter and action by action. -/
theorem documents_compile_as_a_whole (settings : Settings) (document : PolicyDocument) :
    (∀ policies, ofDocument settings document = .ok policies ↔
      CompilesTo settings document.policies policies) ∧
    (∀ e, ofDocument settings document = .error e ↔
      ∃ before entry after policies, document.policies = before ++ entry :: after ∧
        CompilesTo settings before policies ∧
        Rejects settings (before.map (·.name)) entry e) ∧
    ∀ policies, ofDocument settings document = .ok policies →
      List.Forall₂ (fun entry policy => StandsFor policy entry) document.policies policies := by
  have hall (entries : List PolicyEntry) (policies : List Policy) :
      ofEntries settings [] entries = .ok policies ↔ CompilesTo settings entries policies := by
    rw [ofEntries_eq_ok_iff]
    simp
  refine ⟨hall _, fun e => ?_, fun policies hcompiled => ?_⟩
  · rw [ofDocument, ofEntries_eq_error_iff]
    simp only [hall, List.append_nil]
    simp only [rejects_congr fun name => List.mem_reverse]
  · exact ((hall _ _).1 hcompiled).2.imp fun _ _ => standsFor_of_ofEntry

/-- A policy on new functions judges their placement, marks them and records their users. A document
that gives its name a second time, in front of an entry without a known resource type, is rejected
for the name. -/
theorem placement_policy_compiles :
    let entry : PolicyEntry :=
      { name := "placement", resource := "functiongraph", mode := .trail ["CreateFunction"],
        filters := [.obj [("type", .string "network-location"), ("key", .string "vpc_id")],
          .obj [("type", .string "marked-for-op"), ("op", .string "delete-function")],
          .obj [("tag:Env", .string "prod")]],
        actions := [.obj [("type", .string "mark-for-op"), ("op", .string "delete-function")],
          .obj [("type", .string "auto-tag-user"), ("tag", .string "Owner")]] }
    (∃ policy, List.Forall₂ (fun entry policy => StandsFor policy entry) [entry] [policy] ∧
      policy.filters.map (·.name) = ["network-location", "marked-for-op", "value"] ∧
      policy.actions.map (·.name) = ["mark-for-op", "auto-tag-user"]) ∧
      ofDocument {} ⟨[entry, { entry with actions := [] }, { entry with resource := "" }]⟩ =
        .error (.policyValidation "duplicate policy name 'placement'") := by
  intro entry
  have hnames : (ofEntry {} entry).toOption.map
      (fun policy => (policy.filters.map (·.name), policy.actions.map (·.name))) =
      some (["network-location", "marked-for-op", "value"], ["mark-for-op", "auto-tag-user"]) := by
    decide +kernel
  obtain ⟨policy, hpolicy, hnames⟩ := Option.map_eq_some_iff.1 hnames
  have hcompiles : CompilesTo {} [entry] [policy] :=
    ⟨List.nodup_singleton _, .cons (Steps.eq_ok_of_toOption hpolicy) .nil⟩
  refine ⟨⟨policy, ?_, Prod.mk.inj hnames⟩, ?_⟩
  · have hdocument := documents_compile_as_a_whole {} ⟨[entry]⟩
    exact hdocument.2.2 _ ((hdocument.1 _).2 hcompiles)
  · exact ((documents_compile_as_a_whole {} _).2.1 _).2
      ⟨[entry], _, _, [policy], rfl, hcompiles, rfl⟩

end Policy

end CloudPolicy
