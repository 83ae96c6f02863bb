import Mathlib.Data.List.Nodup
import CloudPolicy.Proofs.Compiled
import CloudPolicy.Proofs.Effects
import CloudPolicy.Proofs.TagWrites

/-! What reports say. Actions work on their resources in order, one by one, in batches or all at
once, and report each of them as handled or as failed, or pass over it. Main statement: the report
of any action but attribution divides resources with different identifiers, naming each at most once
and in their order, under the action's own name. -/

namespace CloudPolicy

open Steps (Within)

/-- The report is the one of the named action, and names each of the identifiers at most once,
either as handled or as failed, in their order. -/
structure Report.Splits (report : Report) (name : String) (ids : List String) : Prop where
  action : report.action = name
  succeeded : report.succeeded.Sublist ids
  failed : (report.failed.map (·.id)).Sublist ids
  disjoint : report.succeeded.Disjoint (report.failed.map (·.id))

namespace Report.Splits

variable {report : Report} {name id : String} {ids : List String}

theorem empty (name : String) (ids : List String) : ({ action := name } : Report).Splits name ids :=
  ⟨rfl, List.nil_sublist ids, List.nil_sublist ids, List.disjoint_nil_left _⟩

theorem of_succeeded (name : String) (ids : List String) :
    ({ action := name, succeeded := ids } : Report).Splits name ids :=
  ⟨rfl, List.Sublist.refl ids, List.nil_sublist ids, List.disjoint_nil_right _⟩

/-- One more resource, whatever was done with it. -/
theorem add (h : report.Splits name ids) (hnew : id ∉ ids) (result : Step) :
    (report.add id result).Splits name (ids ++ [id]) := by
  have hkeeps {some : List String} (hsome : some.Sublist ids) : some.Sublist (ids ++ [id]) :=
    hsome.trans (List.sublist_append_left ids [id])
  have hadds {some : List String} (hsome : some.Sublist ids) :
      (some ++ [id]).Sublist (ids ++ [id]) := hsome.append_right [id]
  cases result with
  | done =>
      refine ⟨h.action, hadds h.succeeded, hkeeps h.failed, ?_⟩
      refine List.disjoint_append_left.2 ⟨h.disjoint, List.singleton_disjoint.2 fun hfailed => ?_⟩
      exact hnew (h.failed.subset hfailed)
  | skipped => exact ⟨h.action, hkeeps h.succeeded, hkeeps h.failed, h.disjoint⟩
  | refused reason =>
      have hfailed : ((report.add id (.refused reason)).failed.map (·.id)) =
          report.failed.map (·.id) ++ [id] := List.map_append
      refine ⟨h.action, hkeeps h.succeeded, by rw [hfailed]; exact hadds h.failed, ?_⟩
      rw [hfailed]
      refine List.disjoint_append_right.2 ⟨h.disjoint, List.disjoint_singleton.2 fun hdone => ?_⟩
      exact hnew (h.succeeded.subset hdone)

end Report.Splits

namespace Action

/-- Nothing is said about the cloud. -/
def AnyChange (_ _ : Cloud) : Prop := True

instance : IsPreorder Cloud AnyChange where
  refl := fun _ => trivial
  trans := fun _ _ _ _ _ => trivial

theorem within_any {α : Type} (step : CloudM α) : Within AnyChange (fun _ => True) step :=
  ⟨fun _ => trivial, fun _ _ _ => trivial⟩

/-- Whatever the step is answered, it gives a report that splits the identifiers. -/
abbrev Divides (name : String) (ids : List String) (step : CloudM Report) : Prop :=
  Within AnyChange (·.Splits name ids) step

variable {name : String} {ids : List String} {report : Report}

theorem Divides.after {α : Type} (step : CloudM α) {rest : α → CloudM Report}
    (hrest : ∀ a, Divides name ids (rest a)) : Divides name ids (step >>= rest) :=
  (within_any step).bind fun a _ => hrest a

theorem divides_nothing (name : String) (ids : List String) :
    Divides name ids (pure { action := name }) :=
  .of_pure (.empty name ids)

theorem not_mem_of_nodup {id : String} {rest : List String} (h : (ids ++ id :: rest).Nodup) :
    id ∉ ids := fun hmem =>
  (List.nodup_cons.1 (List.nodup_middle.1 h)).1 (List.mem_append_left rest hmem)

/-! ### One resource after the other -/

theorem eachWith_divides {σ : Type} (step : σ → Resource → CloudM (Step × σ)) (memory : σ)
    {resources : List Resource} (hreport : report.Splits name ids)
    (hdistinct : (ids ++ resources.map (·.id)).Nodup) :
    Divides name (ids ++ resources.map (·.id)) (eachWith step memory report resources) := by
  induction resources generalizing memory report ids with
  | nil =>
      rw [List.map_nil, List.append_nil]
      exact .of_pure hreport
  | cons r rest ih =>
      rw [List.map_cons] at hdistinct ⊢
      have hnew := not_mem_of_nodup hdistinct
      rw [List.append_cons] at hdistinct ⊢
      exact .after _ fun result => ih result.2 (hreport.add hnew result.1) hdistinct

variable {context : RunContext} {resources : List Resource}

theorem fromNothing_divides {σ : Type} (name : String) (step : σ → Resource → CloudM (Step × σ))
    (memory : σ) (hdistinct : (resources.map (·.id)).Nodup) :
    Divides name (resources.map (·.id)) (eachWith step memory { action := name } resources) := by
  have hdivides : Divides name ([] ++ resources.map (·.id)) _ :=
    eachWith_divides step memory (.empty name []) hdistinct
  exact hdivides

theorem ofStep_divides (name : String) (step : RunContext → Resource → CloudM Step)
    (hdistinct : (resources.map (·.id)).Nodup) :
    Divides name (resources.map (·.id)) ((ofStep name step).process context resources) :=
  fromNothing_divides name _ () hdistinct

theorem ofPlan_divides (name : String) (plan : Resource → Plan)
    (hdistinct : (resources.map (·.id)).Nodup) :
    Divides name (resources.map (·.id)) ((ofPlan name plan).process context resources) := by
  rw [ofPlan]
  dsimp only
  split
  next => exact divides_nothing name _
  next => exact ofStep_divides name _ hdistinct

/-! ### Batches -/

/-- A rejected resource is reported like a refused one, any other one as handled. -/
theorem reportBatch_splits (failed : List FailedResource) {batch : List String}
    (hreport : report.Splits name ids) (hdistinct : (ids ++ batch).Nodup) :
    (reportBatch report failed batch).Splits name (ids ++ batch) := by
  induction batch generalizing report ids with
  | nil =>
      rw [List.append_nil]
      exact hreport
  | cons id rest ih =>
      have hnew := not_mem_of_nodup hdistinct
      rw [List.append_cons] at hdistinct ⊢
      rw [reportBatch, List.foldl_cons]
      cases failed.find? (·.id = id) with
      | some failure => exact ih (hreport.add hnew (.refused failure.reason)) hdistinct
      | none => exact ih (hreport.add hnew .done) hdistinct

theorem writeBatches_divides (tagTypeName : String) (write : TagWrite)
    {batches : List (List String)} (hreport : report.Splits name ids)
    (hdistinct : (ids ++ batches.flatten).Nodup) :
    Divides name (ids ++ batches.flatten) (writeBatches tagTypeName write report batches) := by
  induction batches generalizing report ids with
  | nil =>
      rw [List.flatten_nil, List.append_nil]
      exact .of_pure hreport
  | cons batch batches ih =>
      rw [List.flatten_cons, ← List.append_assoc] at hdistinct ⊢
      refine .after _ fun failed => ih (reportBatch_splits failed hreport ?_) hdistinct
      exact (List.nodup_append.1 hdistinct).1

theorem writeTags_divides (context : RunContext) (name : String) (write : TagWrite)
    (hdistinct : ids.Nodup) : Divides name ids (writeTags context name ids write) := by
  rw [writeTags]
  split
  next => exact .of_throw _
  next =>
    cases context.resourceType.tagServiceName? with
    | none => exact divides_nothing name ids
    | some tagTypeName =>
        dsimp only
        split
        next => exact divides_nothing name ids
        next =>
          have hbatches : (chunks (max context.settings.tagBatchSize 1) ids.length ids).flatten =
              ids := flatten_chunks (by omega) (Nat.le_refl _)
          have hwrites : Divides name ids (writeBatches tagTypeName write { action := name }
              (chunks (max context.settings.tagBatchSize 1) ids.length ids)) := by
            have hdivides : Divides name ([] ++ _) _ :=
              writeBatches_divides tagTypeName write (.empty name []) (hbatches.symm ▸ hdistinct)
            rwa [hbatches] at hdivides
          refine hwrites.bind fun report hreport => .of_pure ?_
          split
          next => exact hreport
          next => exact ⟨hreport.action, hreport.succeeded, hreport.failed, hreport.disjoint⟩

/-! ### Other forms -/

theorem publishing_divides (name : String) (topics : List String) (subject : Option String)
    (body : RunContext → List Resource → MessageBody) :
    Divides name (resources.map (·.id))
      ((publishing name topics subject body).process context resources) := by
  rw [publishing]
  dsimp only
  split
  next => exact divides_nothing name _
  next => exact .after _ fun _ => .of_pure (.of_succeeded name _)

theorem markForOp_divides (mark : MarkOptions) (hdistinct : (resources.map (·.id)).Nodup) :
    Divides "mark-for-op" (resources.map (·.id)) ((markForOp mark).process context resources) := by
  refine .after _ fun value => ?_
  dsimp only
  split
  next => exact .of_throw _
  next => exact writeTags_divides context "mark-for-op" _ hdistinct

theorem enableLogging_divides (group stream : LogReference)
    (hdistinct : (resources.map (·.id)).Nodup) :
    Divides "enable-logging" (resources.map (·.id))
      ((enableLogging group stream).process context resources) := by
  rw [enableLogging]
  dsimp only
  split
  next => exact divides_nothing _ _
  next =>
    exact .after _ fun _ => .after _ fun _ => .after _ fun _ => .after _ fun _ =>
      ofStep_divides _ _ hdistinct

theorem setAccessControl_divides (groups names : List String) (enabled : Bool)
    (kind : AddressGroupKind) (hdistinct : (resources.map (·.id)).Nodup) :
    Divides "set-acl-ipgroup" (resources.map (·.id))
      ((setAccessControl groups names enabled kind).process context resources) := by
  rw [setAccessControl]
  dsimp only
  split
  next => exact divides_nothing _ _
  next =>
    refine .after _ fun _ => ?_
    split
    next => exact .of_throw _
    next => exact ofStep_divides _ _ hdistinct

end Action

namespace ActionKind

theorem Builds.divides {kind : ActionKind} {action : Action} (hbuilds : kind.Builds action)
    (hkind : kind ≠ autoTagUser) (context : RunContext) {resources : List Resource}
    (hdistinct : (resources.map (·.id)).Nodup) :
    Action.Divides action.name (resources.map (·.id)) (action.process context resources) := by
  cases hbuilds with
  | write write => exact Action.writeTags_divides context _ write hdistinct
  | plan plan => exact Action.ofPlan_divides _ plan hdistinct
  | markForOp mark => exact Action.markForOp_divides mark hdistinct
  | autoTag options => exact absurd rfl hkind
  | enableLogging group stream => exact Action.enableLogging_divides group stream hdistinct
  | createTransfers info => exact Action.fromNothing_divides _ _ [] hdistinct
  | setAccessControl groups names enabled kind =>
      exact Action.setAccessControl_divides groups names enabled kind hdistinct
  | redirectToHttps target => exact Action.fromNothing_divides _ _ none hdistinct
  | publishing topics subject body => exact Action.publishing_divides _ topics subject body
  | deleteLoadBalancer | unbind kinds | deleteListener balancers | deleteFunction
  | updateConcurrency count | modifyGroups groups xrole | showConfig | updateConfig properties
  | trimVersions retention | invoke invocation | deleteTopic | createLogging group stream
  | deleteLogging | updateAccess policy | deleteAccess | deleteAllowAll =>
      exact Action.ofStep_divides _ _ hdistinct

/-- **Reports divide their resources.** For every kind of action but attribution, whatever its block
and its context, whatever the cloud stores, refuses and fails at: if the action gives a report on
resources with different identifiers, the report bears the name of the action, names handled and
failed resources in the order in which they were given, each of them once, and none as both. -/
theorem report_divides_resources (kind : ActionKind) (hkind : kind ≠ autoTagUser) (block : Json)
    (build : BuildContext) (action : Action) (hbuild : kind.build block build = .ok action)
    (context : RunContext) (resources : List Resource)
    (hdistinct : (resources.map (·.id)).Nodup) (cloud after : Cloud) (report : Report)
    (hrun : (action.process context resources).run cloud = (.ok report, after)) :
    report.action = action.name ∧
      report.succeeded.Sublist (resources.map (·.id)) ∧
      (report.failed.map (·.id)).Sublist (resources.map (·.id)) ∧
      report.succeeded.Nodup ∧ (report.failed.map (·.id)).Nodup ∧
      report.succeeded.Disjoint (report.failed.map (·.id)) := by
  have hsplits : report.Splits action.name (resources.map (·.id)) :=
    ((builds_of_build hbuild).divides hkind context hdistinct).gives cloud report (by rw [hrun])
  exact ⟨hsplits.action, hsplits.succeeded, hsplits.failed, hdistinct.sublist hsplits.succeeded,
    hdistinct.sublist hsplits.failed, hsplits.disjoint⟩

/-- Of three functions that are tagged in two batches the service rejects the second one. -/
theorem rejected_function_divided :
    let settings : Settings := { tagBatchSize := 2 }
    let block : Json := .obj [("type", .string "tag"), ("key", .string "Owner"),
      ("value", .string "finance")]
    let tags : TagSet := .ofList [("Owner", "finance")]
    let action : Action := .ofWrite "tag" (.create tags)
    let context : RunContext := { (default : RunContext) with resourceType := .function, settings }
    let functions : List Resource := ["fn-1", "fn-2", "fn-3"].map fun id =>
      .ofRecord (.obj [("id", .string id)])
    let cloud : Cloud := (({} : Cloud).setResources .function functions).rejectTags "fn-2"
    let report : Report := ⟨"tag", ["fn-1", "fn-3"], [⟨"fn-2", "tag quota exceeded"⟩], tags⟩
    ActionKind.tag.build block { (default : BuildContext) with settings } = .ok action ∧
      (functions.map (·.id)).Nodup ∧
      (∃ after, (action.process context functions).run cloud = (.ok report, after)) ∧
      report.succeeded.Disjoint (report.failed.map (·.id)) := by
  intro settings block tags action context functions cloud report
  have hbuild : ActionKind.tag.build block { (default : BuildContext) with settings } =
    .ok action := rfl
  have hdistinct : (functions.map (·.id)).Nodup := by decide +kernel
  have hreport : ((action.process context functions).run cloud).1 = .ok report :=
    Steps.eq_ok_of_toOption (by decide +kernel)
  have hrun := Steps.eq_ok_of_fst hreport
  have hdivided := report_divides_resources .tag (by decide) block _ action hbuild context functions
    hdistinct cloud _ report hrun
  exact ⟨hbuild, hdistinct, ⟨_, hrun⟩, hdivided.2.2.2.2.2⟩

end ActionKind

end CloudPolicy
