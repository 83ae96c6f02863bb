import Mathlib.Data.List.Forall2
import CloudPolicy.Proofs.Effects
import CloudPolicy.Proofs.Judgement
import CloudPolicy.Run.Basic

/-! What filters may do at all, whatever calls of the services fail. Every filter keeps some of the
resources in their order, each of them the record that it was apart from cached look-ups, and
changes nothing of the cloud but its call log. -/

namespace CloudPolicy

open Cloud (LogsOnly)
open Steps (Within)

namespace Resource

/-- The fields of a record in which filters keep what they looked up. -/
def caches : List String := ["lts", "access_policy"]

/-- The first record is the second one, apart from cached look-ups and annotations. -/
def Reflects (s r : Resource) : Prop :=
  s.data.filterKeys (· ∉ caches) = r.data.filterKeys (· ∉ caches)

instance : IsPreorder Resource Reflects where
  refl := fun _ => rfl
  trans := fun _ _ _ h h' => Eq.trans h h'

theorem AgreesOff.reflects {fields annotations : List String} {r s : Resource}
    (h : r.AgreesOff fields annotations s) (hfields : fields ⊆ caches) : s.Reflects r := by
  refine StringMap.filterKeys_eq_of_imp (fun key hkey => ?_) h.1
  exact decide_eq_true fun hcached => of_decide_eq_true hkey (hfields hcached)

theorem get?_eq_of_filterKeys {fields : List String} {r s : Resource}
    (h : s.data.filterKeys (· ∉ fields) = r.data.filterKeys (· ∉ fields)) {key : String}
    (hkey : key ∉ fields) : s.get? key = r.get? key := by
  have hdata := congrArg (·.get? key) h
  rw [get?, get?]
  simpa only [StringMap.get?_filterKeys, hkey, not_false_eq_true, decide_true, if_true] using hdata

theorem Reflects.get?_eq {r s : Resource} (h : s.Reflects r) {key : String}
    (hkey : key ∉ caches) : s.get? key = r.get? key :=
  get?_eq_of_filterKeys h hkey

theorem Reflects.text?_eq {r s : Resource} (h : s.Reflects r) {key : String}
    (hkey : key ∉ caches) : s.text? key = r.text? key := by
  rw [text?, text?, h.get?_eq hkey]

theorem Reflects.id_eq {r s : Resource} (h : s.Reflects r) : s.id = r.id := by
  rw [id, id, h.text?_eq (by decide)]

theorem Reflects.tags_eq {r s : Resource} (h : s.Reflects r) : s.tags = r.tags := by
  rw [tags, tags, h.get?_eq (by decide)]

end Resource

/-- Some of the resources were kept, in their order. -/
def KeptFrom (kept resources : List Resource) : Prop :=
  List.SublistForall₂ Resource.Reflects kept resources

namespace KeptFrom

variable {resources kept : List Resource}

instance : IsPreorder (List Resource) KeptFrom where
  refl := refl_of (List.SublistForall₂ Resource.Reflects)
  trans := fun _ _ _ => trans_of (List.SublistForall₂ Resource.Reflects)

theorem of_sublist (h : kept.Sublist resources) : KeptFrom kept resources := h.sublistForall₂

theorem cons_of_reflects {r s : Resource} (hs : s.Reflects r) (h : KeptFrom kept resources) :
    KeptFrom (s :: kept) (r :: resources) := .cons hs h

theorem skip (r : Resource) (h : KeptFrom kept resources) : KeptFrom kept (r :: resources) :=
  .cons_right h

theorem of_filterMap {α : Type} {view : α → Resource} {judge : α → Option Resource}
    (hjudge : ∀ x s, judge x = some s → s.Reflects (view x)) (xs : List α) :
    KeptFrom (xs.filterMap judge) (xs.map view) := by
  induction xs with
  | nil => exact .nil
  | cons x xs ih =>
      cases hx : judge x with
      | none =>
          rw [List.filterMap_cons_none hx]
          exact ih.skip (view x)
      | some s =>
          rw [List.filterMap_cons_some hx]
          exact ih.cons_of_reflects (hjudge x s hx)

theorem exists_of_mem (h : KeptFrom kept resources) {s : Resource} (hs : s ∈ kept) :
    ∃ r ∈ resources, s.Reflects r := by
  induction h with
  | nil => exact absurd hs List.not_mem_nil
  | cons hreflects _ ih =>
      rcases List.mem_cons.1 hs with rfl | hrest
      · exact ⟨_, List.mem_cons_self, hreflects⟩
      · obtain ⟨r, hr, hsr⟩ := ih hrest
        exact ⟨r, List.mem_cons_of_mem _ hr, hsr⟩
  | cons_right _ ih =>
      obtain ⟨r, hr, hsr⟩ := ih hs
      exact ⟨r, List.mem_cons_of_mem _ hr, hsr⟩

end KeptFrom

/-! ### Filters -/

/-- Whatever fails, the filter keeps some of the resources and only looks things up. -/
def Filter.Narrows (filter : Filter) : Prop :=
  ∀ context resources,
    Within LogsOnly (KeptFrom · resources) (filter.process context resources)

namespace Filter

theorem ofTest_narrows (name : String) (test : RunContext → Resource → Bool) :
    (ofTest name test).Narrows :=
  fun _ _ => .of_pure (KeptFrom.of_sublist List.filter_sublist)

/-- An operation that reads what the services store. -/
theorem call_logs {α : Type} (service operation target : String) (answer : Cloud → α) :
    Within LogsOnly (fun _ => True)
      (do Cloud.enter service operation target; return answer (← get) : CloudM α) :=
  (Cloud.enter_logs service operation target).bind fun _ _ =>
    Within.of_get.bind fun _ _ => .of_pure trivial

/-- Of a list, the rest was narrowed and the first element was kept or left out. -/
theorem keptFrom_ite (keep : Bool) (r : Resource) {kept rest : List Resource}
    (h : KeptFrom kept rest) : KeptFrom (if keep then r :: kept else kept) (r :: rest) := by
  cases keep with
  | true => exact h.cons_of_reflects (refl_of Resource.Reflects r)
  | false => exact h.skip r

theorem keepM_narrows {test : Resource → CloudM Bool}
    (htest : ∀ r, Within LogsOnly (fun _ => True) (test r)) (resources : List Resource) :
    Within LogsOnly (KeptFrom · resources) (keepM test resources) := by
  induction resources with
  | nil => exact .of_pure (refl_of KeptFrom [])
  | cons r rest ih =>
      exact (htest r).bind fun keep _ => ih.bind fun kept hkept =>
        .of_pure (keptFrom_ite keep r hkept)

theorem backendCount_narrows (operator : Operator) (count : Binary64) :
    (backendCount operator count).Narrows :=
  fun _ resources => keepM_narrows (fun r =>
    (call_logs "elb" "member_count" r.id fun cloud => (cloud.members.get? r.id).getD 0).bind
      fun _ _ => .of_pure trivial) resources

theorem markedForOp_narrows (options : DueOptions) : (markedForOp options).Narrows :=
  fun _ resources => keepM_narrows (fun _ => Cloud.ofExcept_within _) resources

theorem keepTransferred_narrows (expected : Bool) (streams : Option (List String))
    (resources : List Resource) :
    Within LogsOnly (KeptFrom · resources) (keepTransferred expected streams resources) := by
  induction resources generalizing streams with
  | nil => exact .of_pure (refl_of KeptFrom [])
  | cons r rest ih =>
      rw [keepTransferred]
      split
      next =>
        have hrest (known : List String) : Within LogsOnly (KeptFrom · (r :: rest)) (do
            let kept ← keepTransferred expected (some known) rest
            let transferred := (r.text? "log_topic_id").any (· ∈ known)
            return if transferred == expected then r :: kept else kept) :=
          (ih (some known)).bind fun kept hkept => .of_pure (keptFrom_ite _ r hkept)
        cases streams with
        | none =>
            exact (call_logs "lts" "list_transfers" Cloud.anyTarget (·.transfers)).bind
              fun transfers _ => Within.bind (P := fun _ => True) (.of_pure trivial)
                fun known _ => hrest known
        | some known =>
            exact Within.bind (P := fun _ => True) (.of_pure trivial) fun known _ => hrest known
      next =>
        refine (ih streams).bind fun kept hkept => .of_pure ?_
        cases expected with
        | true => exact hkept.skip r
        | false => exact hkept.cons_of_reflects (refl_of Resource.Reflects r)

theorem keepRedirecting_narrows (target : RedirectTarget) (listeners : Option (List Resource))
    (resources : List Resource) :
    Within LogsOnly (KeptFrom · resources) (keepRedirecting target listeners resources) := by
  induction resources generalizing listeners with
  | nil => exact .of_pure (refl_of KeptFrom [])
  | cons r rest ih =>
      have hskip (listeners : Option (List Resource)) :
          Within LogsOnly (KeptFrom · (r :: rest)) (keepRedirecting target listeners rest) :=
        (ih listeners).mono (fun _ _ h => h) fun _ h => h.skip r
      have hrest (policies : List Json) (known : List Resource) :
          Within LogsOnly (KeptFrom · (r :: rest)) (do
            let kept ← keepRedirecting target (some known) rest
            return if redirects target policies known then r :: kept else kept) :=
        (ih (some known)).bind fun kept hkept => .of_pure (keptFrom_ite _ r hkept)
      rw [keepRedirecting]
      split
      next =>
        refine (call_logs "elb" "list_l7_policies" r.id (·.forwardingPoliciesOf r.id)).bind
          fun policies _ => ?_
        split
        next => exact hskip listeners
        next =>
          cases listeners with
          | none =>
              exact (call_logs "resources" "list" _ (·.resources .listener)).bind
                fun known _ => hrest policies known
          | some known =>
              exact Within.bind (P := fun _ => True) (.of_pure trivial)
                fun known _ => hrest policies known
      next => exact hskip listeners

/-! ### Attachments -/

theorem fetch_logs (attachment : Attachment) (type : ResourceType) (resources : List Resource) :
    Within LogsOnly (fun _ => True) (attachment.fetch type resources) := by
  rw [Attachment.fetch]
  split
  next => exact .of_pure trivial
  next =>
    cases attachment with
    | subnet =>
        exact (call_logs "vpc" "subnets" _ fun cloud => cloud.subnets.filter _).bind
          fun _ _ => .of_pure trivial
    | securityGroup =>
        exact (call_logs "vpc" "security_groups" _ fun cloud => cloud.securityGroups.filter _).bind
          fun _ _ => .of_pure trivial

theorem keptFrom_filterMap {judge : Resource → Option Resource}
    (hjudge : ∀ r s, judge r = some s → s.Reflects r) (resources : List Resource) :
    KeptFrom (resources.filterMap judge) resources := by
  have hkept : KeptFrom (resources.filterMap judge) (resources.map fun r => r) :=
    KeptFrom.of_filterMap hjudge resources
  rwa [List.map_id'] at hkept

theorem attached_narrows (attachment : Attachment) (p : Predicate) (all : Bool) :
    (attached attachment p all).Narrows :=
  fun context resources => (fetch_logs attachment context.resourceType resources).bind
    fun _ _ => .of_pure (keptFrom_filterMap
      (fun _ _ hkept => (agreesOff_keepAttached hkept).reflects (List.nil_subset _)) resources)

theorem fetchCompared_logs (compared : Bool) (attachment : Attachment) (type : ResourceType)
    (resources : List Resource) :
    Within LogsOnly (fun _ => True) (fetchCompared compared attachment type resources) := by
  cases compared with
  | true => exact fetch_logs attachment type resources
  | false => exact .of_pure trivial

theorem placement_narrows (options : PlacementOptions) : (placement options).Narrows :=
  fun context resources =>
    (fetchCompared_logs _ .subnet context.resourceType resources).bind fun _ _ =>
      (fetchCompared_logs _ .securityGroup context.resourceType resources).bind fun _ _ =>
        .of_pure (keptFrom_filterMap
          (fun _ _ hkept => (agreesOff_keepPlacement hkept).reflects (List.nil_subset _)) resources)

/-! ### Look-ups by a pool -/

/-- A look-up that fails leaves its resource in its place. -/
theorem lookUpTask_respects {α : Type} {look : Resource → CloudM α}
    (hlook : ∀ r, Within LogsOnly (fun _ => True) (look r)) (cloud : Cloud) :
    Pool.Respects (LogsOnly cloud) (·.1) (lookUpTask look) := by
  intro slot shared hshared
  have hmoves := (hlook slot.1).moves shared
  rw [lookUpTask]
  rcases hrun : (look slot.1).run shared with ⟨e | found, after⟩
  all_goals
    rw [hrun] at hmoves
    exact ⟨trans_of LogsOnly hshared hmoves, rfl⟩

theorem lookUpAll_logs {α : Type} {look : Resource → CloudM α}
    (hlook : ∀ r, Within LogsOnly (fun _ => True) (look r)) (context : RunContext) (unset : α)
    (resources : List Resource) :
    Within LogsOnly (fun slots => slots.map (·.1) = resources)
      (lookUpAll context unset look resources) := by
  have hpool (cloud : Cloud) := Pool.fanOutWith_respects (lookUpTask_respects hlook cloud)
    context.schedule (resources.map fun r => (r, unset)) context.settings.maxWorkers
    (refl_of LogsOnly cloud)
  have hslots : (resources.map fun r => (r, unset)).map (·.1) = resources := by
    rw [List.map_map]
    exact List.map_id' resources
  refine (Within.of_lift (P := fun result => result.1.map (·.1) = resources)
    (fun cloud => (hpool cloud).1) fun cloud => (hpool cloud).2.trans hslots).bind ?_
  rintro ⟨slots, failure⟩ hresult
  cases failure with
  | none => exact .of_pure hresult
  | some e => exact .of_throw e

theorem triggered_narrows (p : Predicate) : (triggered p).Narrows := by
  intro context resources
  refine (lookUpAll_logs (fun r => call_logs "functiongraph" "list_triggers" _
    fun cloud => (cloud.triggers.get? _).getD (some [])) context none resources).bind ?_
  rintro slots rfl
  have hreflects (slot : Resource × Option (List Json)) (s : Resource)
      (hkept : keepTriggered p slot.1 slot.2 = some s) : s.Reflects slot.1 :=
    (agreesOff_keepTriggered hkept).reflects (List.nil_subset _)
  exact .of_pure (KeptFrom.of_filterMap hreflects slots)

theorem reserved_narrows (p : Predicate) : (reserved p).Narrows := by
  intro context resources
  refine (lookUpAll_logs (fun r => call_logs "functiongraph" "list_reserved_instances" _
    fun cloud => (cloud.reservedInstances.get? _).getD []) context [] resources).bind ?_
  rintro slots rfl
  have hreflects (slot : Resource × List Json) (s : Resource)
      (hkept : keepReserved p slot.1 slot.2 = some s) : s.Reflects slot.1 :=
    (agreesOff_keepReserved hkept).reflects (List.nil_subset _)
  exact .of_pure (KeptFrom.of_filterMap hreflects slots)

/-! ### Topics -/

theorem keepChecked_narrows {check : Resource → CloudM (Bool × Resource)}
    (hcheck : ∀ r, Within LogsOnly (fun result => result.2.Reflects r) (check r))
    (resources : List Resource) :
    Within LogsOnly (KeptFrom · resources) (keepChecked check resources) := by
  induction resources with
  | nil => exact .of_pure (refl_of KeptFrom [])
  | cons r rest ih =>
      have hguarded := (hcheck r).catch_with
        fun _ => Within.of_pure (R := LogsOnly) (a := (false, r)) (refl_of Resource.Reflects r)
      refine hguarded.bind ?_
      rintro ⟨keep, s⟩ hs
      refine ih.bind fun kept hkept => .of_pure ?_
      cases keep with
      | true => exact hkept.cons_of_reflects hs
      | false => exact hkept.skip r

theorem reflects_set {key : String} (hkey : key ∈ Resource.caches) (r : Resource) (value : Json) :
    (r.set key value).Reflects r := by
  have hset : r.AgreesOff Resource.caches [] (r.set key value) :=
    Resource.agreesOff_set hkey r value
  exact hset.reflects (List.Subset.refl _)

theorem bindingsOf_reflects (r : Resource) :
    Within LogsOnly (fun result => result.2.Reflects r) (bindingsOf r) := by
  rw [bindingsOf]
  split
  next => exact .of_pure (refl_of Resource.Reflects r)
  next =>
    exact (call_logs "smn" "list_logtanks" _ (·.logtanksOf _)).bind fun bindings _ =>
      .of_pure (reflects_set (by decide) r _)

theorem policyOf_reflects (r : Resource) :
    Within LogsOnly (fun result => result.2.Reflects r) (policyOf r) := by
  rw [policyOf]
  split
  next => exact .of_pure (refl_of Resource.Reflects r)
  next =>
    refine (call_logs "smn" "access_policy" _ fun cloud => cloud.accessPolicies.get? _).bind
      fun policy _ => ?_
    cases policy with
    | none => exact .of_pure (refl_of Resource.Reflects r)
    | some text => exact .of_pure (reflects_set (by decide) r _)

theorem topicLogging_narrows (enabled : Bool) : (topicLogging enabled).Narrows :=
  fun _ resources => keepChecked_narrows (fun r => (bindingsOf_reflects r).bind
    fun _ hreflects => .of_pure hreflects) resources

theorem topicAccess_narrows (criteria : AccessCriteria) : (topicAccess criteria).Narrows := by
  refine fun _ resources => keepChecked_narrows (fun r => ?_) resources
  refine (policyOf_reflects r).bind ?_
  rintro ⟨policy, s⟩ hs
  show Within LogsOnly _ (topicAccess.liftExcept (grants criteria policy) >>= fun granted =>
    pure (granted, s))
  cases grants criteria policy with
  | error e => exact Within.bind (P := fun _ => True) (.of_throw e) fun _ _ => .of_pure hs
  | ok granted => exact Within.bind (P := fun _ => True) (.of_pure trivial) fun _ _ => .of_pure hs

end Filter

theorem FilterKind.Builds.narrows {kind : FilterKind} {filter : Filter}
    (hbuilds : kind.Builds filter) : filter.Narrows := by
  cases hbuilds with
  | predicate _ p => exact Filter.ofTest_narrows _ _
  | test name test _ _ => exact Filter.ofTest_narrows name test
  | marked options => exact Filter.markedForOp_narrows options
  | backendCount operator count => exact Filter.backendCount_narrows operator count
  | transferred expected =>
      exact fun _ resources => Filter.keepTransferred_narrows expected none resources
  | redirecting target =>
      exact fun _ resources => Filter.keepRedirecting_narrows target none resources
  | subnet p all | securityGroup p all => exact Filter.attached_narrows _ p all
  | placement options => exact Filter.placement_narrows options
  | triggered p => exact Filter.triggered_narrows p
  | reserved p => exact Filter.reserved_narrows p
  | topicLogging enabled => exact Filter.topicLogging_narrows enabled
  | topicAccess criteria => exact Filter.topicAccess_narrows criteria

/-! ### The selection of a run -/

namespace Policy

theorem applyFilters_narrows {filters : List Filter} (hfilters : ∀ filter ∈ filters, filter.Narrows)
    (context : RunContext) (resources : List Resource) :
    Within LogsOnly (KeptFrom · resources) (applyFilters context filters resources) := by
  induction filters generalizing resources with
  | nil => exact .of_pure (refl_of KeptFrom resources)
  | cons filter filters ih =>
      obtain ⟨hfilter, hrest⟩ := List.forall_mem_cons.1 hfilters
      rw [applyFilters]
      split
      next => exact .of_pure (refl_of KeptFrom resources)
      next =>
        refine (hfilter context resources).bind fun kept hkept => ?_
        exact (ih hrest kept).mono (fun _ _ h => h) fun _ h => trans_of KeptFrom h hkept

theorem restrict_sublist (event : Option Event) (resources : List Resource) :
    (restrict event resources).Sublist resources := by
  cases event with
  | none => exact List.Sublist.refl resources
  | some event => exact List.filter_sublist

/-- Whatever fails, a selection only looks things up, and what it gives was kept of the stored
records that the event names. -/
theorem select_keeps {policy : Policy} (hfilters : ∀ filter ∈ policy.filters, filter.Narrows)
    (context : RunContext) (cloud : Cloud) :
    LogsOnly cloud ((policy.select context).run cloud).2 ∧
      ∀ matched, ((policy.select context).run cloud).1 = .ok matched →
        KeptFrom matched (restrict context.event (cloud.resources policy.resourceType)) := by
  have hlogs := (Filter.call_logs "resources" "list" policy.resourceType.name
    (·.resources policy.resourceType)).moves cloud
  rw [select]
  rcases hlist : (Cloud.list policy.resourceType).run cloud with ⟨e | stored, after⟩
  · rw [Steps.run_bind_of_error hlist]
    rw [Cloud.list] at hlist
    rw [hlist] at hlogs
    exact ⟨hlogs, nofun⟩
  · have hstored : stored = cloud.resources policy.resourceType := by
      obtain ⟨_, middle, henter, hget⟩ := Steps.of_run_bind_eq_ok hlist
      rw [Cloud.run_enter] at henter
      cases hget
      rw [← (Prod.mk.inj henter).2]
      rfl
    have hnarrows := applyFilters_narrows hfilters context (restrict context.event stored)
    rw [Steps.run_bind_of_ok hlist]
    rw [Cloud.list] at hlist
    rw [hlist] at hlogs
    exact ⟨trans_of LogsOnly hlogs (hnarrows.moves after), hstored ▸ hnarrows.gives after⟩

end Policy

end CloudPolicy
