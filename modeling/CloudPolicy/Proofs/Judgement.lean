import Mathlib.Data.List.Basic
import CloudPolicy.Proofs.Compiled
import CloudPolicy.Proofs.DueMarks
import CloudPolicy.Proofs.Lookups
import CloudPolicy.Proofs.Maps

/-! Every filter judges each resource on its own. Look-ups for a whole batch, lists that are kept
from one resource to the next and pools of workers all come to one function of a single resource,
which changes nothing of it but what the filter caches or annotates. Only a filter for marks may
come to no judgement: when it has to compare a date that is out of range. -/

namespace CloudPolicy

/-- The second record is the first one, apart from some fields and some annotations. -/
def Resource.AgreesOff (fields annotations : List String) (r s : Resource) : Prop :=
  s.data.filterKeys (· ∉ fields) = r.data.filterKeys (· ∉ fields) ∧
    s.annotations.filterKeys (· ∉ annotations) = r.annotations.filterKeys (· ∉ annotations)

namespace Resource

variable {fields annotations : List String}

theorem AgreesOff.refl (r : Resource) : r.AgreesOff fields annotations r := ⟨rfl, rfl⟩

theorem agreesOff_set {key : String} (hkey : key ∈ fields) (r : Resource) (value : Json) :
    r.AgreesOff fields annotations (r.set key value) :=
  ⟨StringMap.filterKeys_insert (by simpa using hkey) r.data value, rfl⟩

theorem agreesOff_annotate {key : String} (hkey : key ∈ annotations) (r : Resource) (value : Json) :
    r.AgreesOff fields annotations (r.annotate key value) :=
  ⟨rfl, StringMap.filterKeys_insert (by simpa using hkey) r.annotations value⟩

theorem agreesOff_of_ite {condition : Prop} [Decidable condition] {r kept s : Resource}
    (hkept : r.AgreesOff fields annotations kept)
    (h : (if condition then some kept else none) = some s) : r.AgreesOff fields annotations s := by
  split at h
  next =>
    cases h
    exact hkept
  next => cases h

end Resource

/-- The filter keeps what `judge` keeps, in the form that it gives, for every batch and every order
of steps; what it changes of a resource lies under the given keys. -/
structure Filter.JudgesBy (filter : Filter) (context : RunContext) (cloud : Cloud)
    (fields annotations : List String) (judge : Resource → Option Resource) : Prop where
  answers : ∀ schedule resources, Answers cloud (filter.process { context with schedule } resources)
    (.ok (resources.filterMap judge))
  agrees : ∀ r s, judge r = some s → r.AgreesOff fields annotations s

/-- The filter keeps what `judge` keeps of every batch without resources at which it stops. It stops
at every other batch, since a date is out of range. -/
structure Filter.JudgesUnless (filter : Filter) (context : RunContext) (cloud : Cloud)
    (fields annotations : List String) (stops : Resource → Prop)
    (judge : Resource → Option Resource) : Prop where
  answers : ∀ schedule resources, (∀ r ∈ resources, ¬ stops r) →
    Answers cloud (filter.process { context with schedule } resources)
      (.ok (resources.filterMap judge))
  fails : ∀ schedule resources, (∃ r ∈ resources, stops r) →
    Answers cloud (filter.process { context with schedule } resources) (.error Timestamp.tooFar)
  agrees : ∀ r s, judge r = some s → r.AgreesOff fields annotations s

theorem Filter.JudgesBy.never_stops {filter : Filter} {context : RunContext} {cloud : Cloud}
    {fields annotations : List String} {judge : Resource → Option Resource}
    (h : filter.JudgesBy context cloud fields annotations judge) {stops : Resource → Prop}
    (hnever : ∀ r, ¬ stops r) :
    filter.JudgesUnless context cloud fields annotations stops judge where
  answers := fun schedule resources _ => h.answers schedule resources
  fails := fun _ _ ⟨r, _, hstops⟩ => absurd hstops (hnever r)
  agrees := h.agrees

namespace Filter

variable {context : RunContext} {cloud : Cloud} {fields annotations : List String}

/-! ### Tests -/

/-- A filter that keeps resources as they are. -/
theorem JudgesBy.of_test {filter : Filter} {test : Resource → Bool}
    (h : ∀ schedule resources, Answers cloud (filter.process { context with schedule } resources)
      (.ok (resources.filter test))) :
    filter.JudgesBy context cloud fields annotations (Option.guard test) where
  answers := by
    rw [List.filterMap_eq_filter]
    exact h
  agrees := by
    intro r s hkept
    obtain ⟨rfl, -⟩ := Option.guard_eq_some_iff.1 hkept
    exact .refl r

theorem ofTest_judges (name : String) {test : RunContext → Resource → Bool}
    (hschedule : ∀ schedule, test { context with schedule } = test context) :
    (ofTest name test).JudgesBy context cloud fields annotations (Option.guard (test context)) := by
  refine .of_test fun schedule resources => ?_
  rw [← hschedule schedule]
  exact .of_pure _

theorem answers_keepM {α : Type} {test : α → CloudM Bool} {p : α → Bool} {xs : List α}
    (htest : ∀ x ∈ xs, Answers cloud (test x) (.ok (p x))) :
    Answers cloud (keepM test xs) (.ok (xs.filter p)) := by
  induction xs with
  | nil => exact .of_pure _
  | cons x xs ih =>
      obtain ⟨hx, hxs⟩ := List.forall_mem_cons.1 htest
      rw [List.filter_cons]
      exact hx.bind ((ih hxs).bind (.of_pure _))

/-- The first test that fails ends the selection, with the one error that tests have. -/
theorem answers_keepM_error {α : Type} {test : α → CloudM Bool} {e : Error} {xs : List α}
    (htest : ∀ x ∈ xs, Answers cloud (test x) (.error e) ∨ ∃ keep, Answers cloud (test x) (.ok keep))
    {failing : α} (hmem : failing ∈ xs) (hfails : Answers cloud (test failing) (.error e)) :
    Answers cloud (keepM test xs) (.error e) := by
  induction xs with
  | nil => exact absurd hmem List.not_mem_nil
  | cons x xs ih =>
      obtain ⟨hx | ⟨keep, hx⟩, hxs⟩ := List.forall_mem_cons.1 htest
      · exact hx.bind_error
      · rcases List.mem_cons.1 hmem with rfl | hlater
        · exact hfails.bind_error
        · exact hx.bind (ih hxs hlater).bind_error

theorem keepM_within {α : Type} {R : Cloud → Cloud → Prop} [IsPreorder Cloud R]
    {test : α → CloudM Bool} (htest : ∀ x, Steps.Within R (fun _ => True) (test x)) (xs : List α) :
    Steps.Within R (fun _ => True) (keepM test xs) := by
  induction xs with
  | nil => exact .done _
  | cons x xs ih => exact (htest x).andThen fun _ => ih.andThen fun _ => .done _

/-- A filter for marks asks no service. -/
theorem snd_run_markedForOp (options : DueOptions) (context : RunContext)
    (resources : List Resource) (cloud : Cloud) :
    (((markedForOp options).process context resources).run cloud).2 = cloud :=
  ((keepM_within (R := (· = ·)) (fun _ => Cloud.ofExcept_within _) resources).moves cloud).symm

/-- A filter for marks stops at the resources whose marks it cannot compare. -/
theorem markedForOp_judges (options : DueOptions) :
    (markedForOp options).JudgesUnless context cloud fields annotations
      (fun r => ¬ options.Reaches r) (Option.guard (options.hasCome context.now)) where
  answers := by
    intro schedule resources hreach
    rw [List.filterMap_eq_filter]
    refine answers_keepM fun r hr => ?_
    rw [isDue_of_reaches (Classical.not_not.1 (hreach r hr))]
    exact .of_pure _
  fails := by
    rintro schedule resources ⟨r, hr, hstops⟩
    refine answers_keepM_error (fun s _ => ?_) hr ?_
    · by_cases hreaches : options.Reaches s
      · rw [isDue_of_reaches hreaches]
        exact .inr ⟨_, .of_pure _⟩
      · rw [isDue_of_not_reaches hreaches]
        exact .inl (.of_throw _)
    · rw [isDue_of_not_reaches hstops]
      exact .of_throw _
  agrees := by
    intro r s hkept
    obtain ⟨rfl, -⟩ := Option.guard_eq_some_iff.1 hkept
    exact .refl r

theorem backendCount_judges (hfailures : cloud.failures = []) (operator : Operator)
    (count : Binary64) :
    (backendCount operator count).JudgesBy context cloud fields annotations (Option.guard fun r =>
      operator.compareNumbers (.ofNat ((cloud.members.get? r.id).getD 0)) count) := by
  refine .of_test fun schedule resources => answers_keepM fun r _ => ?_
  exact (Cloud.answers_memberCount hfailures r.id).bind (.of_pure _)

/-! ### Lists that are kept from one resource to the next -/

/-- The stream of the load balancer's access log is among those of the transfers that there are. -/
def isTransferred (cloud : Cloud) (r : Resource) : Bool :=
  isLogging r && (r.text? "log_topic_id").any (· ∈ transferredStreams cloud.transfers)

theorem answers_keepTransferred (hfailures : cloud.failures = []) (expected : Bool)
    {streams : Option (List String)}
    (hstreams : ∀ kept, streams = some kept → kept = transferredStreams cloud.transfers)
    (resources : List Resource) :
    Answers cloud (keepTransferred expected streams resources)
      (.ok (resources.filter fun r => isTransferred cloud r == expected)) := by
  induction resources generalizing streams with
  | nil => exact .of_pure _
  | cons r rest ih =>
      rw [keepTransferred, List.filter_cons]
      split
      next hlogging =>
        have hrest : Answers cloud (do
            let kept ← keepTransferred expected (some (transferredStreams cloud.transfers)) rest
            let transferred := (r.text? "log_topic_id").any (· ∈ transferredStreams cloud.transfers)
            return if transferred == expected then r :: kept else kept)
            (.ok (if isTransferred cloud r == expected then
              r :: rest.filter fun r => isTransferred cloud r == expected
              else rest.filter fun r => isTransferred cloud r == expected)) := by
          refine (ih fun kept hkept => (Option.some.inj hkept).symm).bind ?_
          simp only [isTransferred, hlogging, Bool.true_and]
          exact .of_pure _
        cases streams with
        | none =>
            exact (Cloud.answers_listTransfers hfailures).bind ((Answers.of_pure _).bind hrest)
        | some kept =>
            rw [hstreams kept rfl]
            exact (Answers.of_pure _).bind hrest
      next hlogging =>
        refine (ih hstreams).bind ?_
        simp only [isTransferred, hlogging, Bool.false_and]
        cases expected <;> exact .of_pure _

theorem transferred_judges (hfailures : cloud.failures = []) (expected : Bool) :
    (transferred expected).JudgesBy context cloud fields annotations
      (Option.guard fun r => isTransferred cloud r == expected) :=
  .of_test fun _ => answers_keepTransferred hfailures expected nofun

/-- The listener is an HTTP listener one of whose policies redirects to an accepted listener. -/
def isRedirecting (cloud : Cloud) (target : RedirectTarget) (r : Resource) : Bool :=
  r.text? "protocol" = some "HTTP" &&
    redirects target (cloud.forwardingPoliciesOf r.id) (cloud.resources .listener)

theorem answers_keepRedirecting (hfailures : cloud.failures = []) (target : RedirectTarget)
    {listeners : Option (List Resource)}
    (hlisteners : ∀ kept, listeners = some kept → kept = cloud.resources .listener)
    (resources : List Resource) :
    Answers cloud (keepRedirecting target listeners resources)
      (.ok (resources.filter (isRedirecting cloud target))) := by
  induction resources generalizing listeners with
  | nil => exact .of_pure _
  | cons r rest ih =>
      rw [keepRedirecting, List.filter_cons]
      split
      next hprotocol =>
        refine (Cloud.answers_listForwardingPolicies hfailures r.id).bind ?_
        split
        next hempty =>
          have hnone : cloud.forwardingPoliciesOf r.id = [] := List.isEmpty_iff.1 hempty
          simp only [isRedirecting, hnone, redirects, List.any_nil, Bool.and_false,
            Bool.false_eq_true, if_false]
          exact ih hlisteners
        next =>
          have hrest : Answers cloud (do
              let kept ← keepRedirecting target (some (cloud.resources .listener)) rest
              return if redirects target (cloud.forwardingPoliciesOf r.id)
                  (cloud.resources .listener) then r :: kept else kept)
              (.ok (if isRedirecting cloud target r then
                r :: rest.filter (isRedirecting cloud target)
                else rest.filter (isRedirecting cloud target))) := by
            refine (ih fun kept hkept => (Option.some.inj hkept).symm).bind ?_
            simp only [isRedirecting, hprotocol, decide_true, Bool.true_and]
            exact .of_pure _
          cases listeners with
          | none => exact (Cloud.answers_list hfailures .listener).bind hrest
          | some kept =>
              rw [hlisteners kept rfl]
              exact (Answers.of_pure _).bind hrest
      next hprotocol =>
        simp only [isRedirecting, hprotocol, decide_false, Bool.false_and, Bool.false_eq_true,
          if_false]
        exact ih hlisteners

theorem redirecting_judges (hfailures : cloud.failures = []) (target : RedirectTarget) :
    (redirecting target).JudgesBy context cloud fields annotations
      (Option.guard (isRedirecting cloud target)) :=
  .of_test fun _ => answers_keepRedirecting hfailures target nofun

end Filter

/-! ### Attachments -/

namespace Attachment

theorem addNew_eraseDups (l new : List String) :
    addNew l.eraseDups new = (l ++ new).eraseDups := by
  rw [addNew]
  induction new generalizing l with
  | nil => rw [List.foldl_nil, List.append_nil]
  | cons id new ih =>
      have hone : (if id ∈ l.eraseDups then l.eraseDups else l.eraseDups ++ [id]) =
          (l ++ [id]).eraseDups := by
        rw [List.eraseDups_append, List.removeAll]
        by_cases hid : id ∈ l <;> simp [hid, List.eraseDups_cons]
      rw [List.foldl_cons, hone, ih, List.append_assoc, List.singleton_append]

/-- Lists that are added one after the other are kept without repetitions. -/
theorem foldl_addNew {α : Type} {f g : α → List String}
    (hg : ∀ x, (g x).eraseDups = (f x).eraseDups) (xs : List α) (l : List String) :
    xs.foldl (fun known x => addNew known (g x)) l.eraseDups = (l ++ xs.flatMap f).eraseDups := by
  induction xs generalizing l with
  | nil => rw [List.foldl_nil, List.flatMap_nil, List.append_nil]
  | cons x xs ih =>
      have hfirst : (l ++ g x).eraseDups = (l ++ f x).eraseDups := by
        rw [← eraseDups_append_eraseDups, hg, eraseDups_append_eraseDups]
      rw [List.foldl_cons, addNew_eraseDups, hfirst, ih, List.flatMap_cons, List.append_assoc]

/-- The attachments that a resource lists, as often as it lists them. -/
def references (attachment : Attachment) (type : ResourceType) (r : Resource) : List String :=
  (attachment.keys type).flatMap r.textList

theorem ids_eq (attachment : Attachment) (type : ResourceType) (r : Resource) :
    attachment.ids type r = (attachment.references type r).eraseDups :=
  foldl_addNew (fun _ => rfl) _ []

theorem batchIds_eq (attachment : Attachment) (type : ResourceType) (resources : List Resource) :
    attachment.batchIds type resources =
      (resources.flatMap (attachment.references type)).eraseDups :=
  foldl_addNew (fun r => by rw [ids_eq, eraseDups_eraseDups]) _ []

theorem mem_batchIds {attachment : Attachment} {type : ResourceType} {resources : List Resource}
    {r : Resource} {id : String} (hr : r ∈ resources) (hid : id ∈ attachment.ids type r) :
    id ∈ attachment.batchIds type resources := by
  rw [ids_eq, List.mem_eraseDups] at hid
  rw [batchIds_eq, List.mem_eraseDups]
  exact List.mem_flatMap_of_mem hr hid

/-- What the network service stores of one kind. -/
def stored (cloud : Cloud) : Attachment → List Resource
  | subnet => cloud.subnets
  | securityGroup => cloud.securityGroups

/-- All that the network service stores of one kind, by identifiers. -/
def registry (attachment : Attachment) (cloud : Cloud) : StringMap Resource :=
  .ofList ((attachment.stored cloud).map fun r => (r.id, r))

variable {cloud : Cloud}

/-- The operation of the network service that a look-up calls. -/
def operation : Attachment → String
  | subnet => "subnets"
  | securityGroup => "security_groups"

theorem lookUp_eq (ids : List String) (attachment : Attachment) :
    attachment.lookUp ids = do
      Cloud.enter "vpc" attachment.operation (Text.join "," ids)
      return (attachment.stored (← get)).filter fun r => r.id ∈ ids := by
  cases attachment <;> rfl

/-- What the network service finds of the attachments that a batch lists. -/
def found (attachment : Attachment) (cloud : Cloud) (type : ResourceType)
    (resources : List Resource) : StringMap Resource :=
  .ofList (((attachment.stored cloud).filter fun r =>
    r.id ∈ attachment.batchIds type resources).map fun r => (r.id, r))

theorem found_of_batchIds_eq_nil {attachment : Attachment} {type : ResourceType}
    {resources : List Resource} (h : attachment.batchIds type resources = []) :
    attachment.found cloud type resources = ∅ := by
  rw [found, h]
  simp only [List.not_mem_nil, decide_false, List.filter_false]
  rfl

/-- What is found for a batch agrees with the whole registry on the attachments of its
resources. -/
theorem known_found {attachment : Attachment} {type : ResourceType} {resources : List Resource}
    {r : Resource} (hr : r ∈ resources) :
    attachment.known type (attachment.found cloud type resources) r =
      attachment.known type (attachment.registry cloud) r := by
  rw [known, known]
  refine List.filterMap_congr fun id hid => ?_
  have hfilter := StringMap.get?_ofList_filter
    (fun id => id ∈ attachment.batchIds type resources) (decide_eq_true (mem_batchIds hr hid))
    ((attachment.stored cloud).map fun r => (r.id, r))
  rw [List.filter_map] at hfilter
  exact hfilter

/-- A look-up for a batch finds what there is, or it is made to fail. -/
theorem fetch_cases (cloud : Cloud) (attachment : Attachment) (type : ResourceType)
    (resources : List Resource) :
    Answers cloud (attachment.fetch type resources)
        (.ok (attachment.found cloud type resources)) ∨
      ∃ target, cloud.isFailing attachment.operation target = true ∧
        Answers cloud (attachment.fetch type resources) (.error (.serviceCall "vpc"
          attachment.operation ("injected failure for '" ++ target ++ "'"))) := by
  rw [fetch]
  by_cases hempty : (attachment.batchIds type resources).isEmpty = true
  · rw [found_of_batchIds_eq_nil (List.isEmpty_iff.1 hempty), if_pos hempty]
    exact .inl (.of_pure _)
  · rw [if_neg hempty, lookUp_eq]
    cases hfails : cloud.isFailing attachment.operation
        (Text.join "," (attachment.batchIds type resources)) with
    | true => exact .inr ⟨_, hfails, (Answers.enter_of_failing hfails _).bind_error.bind_error⟩
    | false =>
        have hread (log : List ServiceCall) :
            attachment.stored { cloud with calls := log } = attachment.stored cloud := by
          cases attachment <;> rfl
        refine .inl (((Answers.enter_of_working hfails _).bind ?_).bind (.of_pure _))
        exact Answers.of_get fun log => by rw [hread]

theorem answers_fetch (hfailures : cloud.failures = []) (attachment : Attachment)
    (type : ResourceType) (resources : List Resource) :
    Answers cloud (attachment.fetch type resources)
      (.ok (attachment.found cloud type resources)) := by
  refine (attachment.fetch_cases cloud type resources).resolve_right ?_
  rintro ⟨target, hfails, -⟩
  simp [Cloud.isFailing, hfailures] at hfails

end Attachment

namespace Filter

variable {context : RunContext} {cloud : Cloud}

theorem agreesOff_keepAttached {attachment : Attachment} {p : Predicate} {all : Bool}
    {type : ResourceType} {fetched : StringMap Resource} {r s : Resource}
    (hkept : keepAttached attachment p all type fetched r = some s) :
    r.AgreesOff [] [ attachment.annotation] s := by
  simp only [keepAttached] at hkept
  split at hkept
  next => cases hkept
  next => exact Resource.agreesOff_of_ite (Resource.agreesOff_annotate List.mem_cons_self r _) hkept

theorem attached_judges (hfailures : cloud.failures = []) (attachment : Attachment) (p : Predicate)
    (all : Bool) : (attached attachment p all).JudgesBy context cloud [] [ attachment.annotation]
      (keepAttached attachment p all context.resourceType (attachment.registry cloud)) where
  answers := by
    intro schedule resources
    have hjudge : resources.filterMap
        (keepAttached attachment p all context.resourceType (attachment.registry cloud)) =
        resources.filterMap (keepAttached attachment p all context.resourceType
          (attachment.found cloud context.resourceType resources)) := by
      refine List.filterMap_congr fun r hr => ?_
      simp only [keepAttached, Attachment.known_found hr]
    rw [hjudge]
    exact (attachment.answers_fetch hfailures _ resources).bind (.of_pure _)
  agrees := fun _ _ hkept => agreesOff_keepAttached hkept

/-- The attachments of one kind that a placement compares, out of all that there are. -/
def comparedRegistry (cloud : Cloud) (compared : Bool) (attachment : Attachment) :
    StringMap Resource :=
  if compared then attachment.registry cloud else ∅

/-- The attachments of one kind that a placement is given for a batch. -/
def comparedFound (cloud : Cloud) (compared : Bool) (attachment : Attachment) (type : ResourceType)
    (resources : List Resource) : StringMap Resource :=
  if compared then attachment.found cloud type resources else ∅

theorem known_comparedFound {compared : Bool} {attachment : Attachment} {type : ResourceType}
    {resources : List Resource} {r : Resource} (hr : r ∈ resources) :
    attachment.known type (comparedFound cloud compared attachment type resources) r =
      attachment.known type (comparedRegistry cloud compared attachment) r := by
  cases compared with
  | true => exact Attachment.known_found hr
  | false => rfl

/-- The error of a look-up of attachments that was made to fail. -/
def LookUpFails (cloud : Cloud) (e : Error) : Prop :=
  ∃ (attachment : Attachment) (target : String),
    cloud.isFailing attachment.operation target = true ∧
      e = .serviceCall "vpc" attachment.operation ("injected failure for '" ++ target ++ "'")

theorem fetchCompared_cases (cloud : Cloud) (compared : Bool) (attachment : Attachment)
    (type : ResourceType) (resources : List Resource) :
    Answers cloud (fetchCompared compared attachment type resources)
        (.ok (comparedFound cloud compared attachment type resources)) ∨
      ∃ e, LookUpFails cloud e ∧
        Answers cloud (fetchCompared compared attachment type resources) (.error e) := by
  cases compared with
  | false => exact .inl (.of_pure _)
  | true =>
      rcases attachment.fetch_cases cloud type resources with hfound | ⟨target, hfails, herror⟩
      · exact .inl hfound
      · exact .inr ⟨_, ⟨attachment, target, hfails, rfl⟩, herror⟩

/-- What a placement keeps of one resource. -/
def judgePlacement (cloud : Cloud) (options : PlacementOptions) (type : ResourceType)
    (r : Resource) : Option Resource :=
  let compared (attachment : Attachment) (isCompared : Bool) : List Resource :=
    comparedAttachments options attachment type (comparedRegistry cloud isCompared attachment) r
  keepPlacement options r (compared .subnet options.compareSubnets)
    (compared .securityGroup options.compareGroups)

theorem agreesOff_keepPlacement {options : PlacementOptions} {r s : Resource}
    {subnets groups : List Resource} (hkept : keepPlacement options r subnets groups = some s) :
    r.AgreesOff [] [ placementAnnotation] s := by
  simp only [keepPlacement] at hkept
  split at hkept
  next => exact Resource.agreesOff_of_ite (.refl r) hkept
  next => exact Resource.agreesOff_of_ite (.refl r) hkept
  next =>
    split at hkept
    next => cases hkept
    next =>
      cases hkept
      exact Resource.agreesOff_annotate List.mem_cons_self r _

/-- A placement judges every resource of a batch, or a look-up is made to fail. -/
theorem placement_cases (cloud : Cloud) (options : PlacementOptions) (context : RunContext)
    (resources : List Resource) :
    Answers cloud ((placement options).process context resources)
        (.ok (resources.filterMap (judgePlacement cloud options context.resourceType))) ∨
      ∃ e, LookUpFails cloud e ∧
        Answers cloud ((placement options).process context resources) (.error e) := by
  have hjudge : resources.filterMap (judgePlacement cloud options context.resourceType) =
      resources.filterMap fun r => keepPlacement options r
        (comparedAttachments options .subnet context.resourceType (comparedFound cloud
          options.compareSubnets .subnet context.resourceType resources) r)
        (comparedAttachments options .securityGroup context.resourceType (comparedFound cloud
          options.compareGroups .securityGroup context.resourceType resources) r) := by
    refine List.filterMap_congr fun r hr => ?_
    simp only [judgePlacement, comparedAttachments, known_comparedFound hr]
  rcases fetchCompared_cases cloud options.compareSubnets .subnet context.resourceType
    resources with hsubnets | ⟨e, hfails, herror⟩
  · rcases fetchCompared_cases cloud options.compareGroups .securityGroup context.resourceType
      resources with hgroups | ⟨e, hfails, herror⟩
    · rw [hjudge]
      exact .inl (hsubnets.bind (hgroups.bind (.of_pure _)))
    · exact .inr ⟨e, hfails, hsubnets.bind herror.bind_error⟩
  · exact .inr ⟨e, hfails, herror.bind_error⟩

theorem placement_judges (hfailures : cloud.failures = []) (options : PlacementOptions) :
    (placement options).JudgesBy context cloud [] [ placementAnnotation]
      (judgePlacement cloud options context.resourceType) where
  answers := by
    intro schedule resources
    refine (placement_cases cloud options { context with schedule } resources).resolve_right ?_
    rintro ⟨e, ⟨attachment, target, hfails, -⟩, -⟩
    simp [Cloud.isFailing, hfailures] at hfails
  agrees := fun _ _ hkept => agreesOff_keepPlacement hkept

/-! ### Pools -/

theorem agreesOff_keepTriggered {p : Predicate} {r s : Resource} {triggers : Option (List Json)}
    (hkept : keepTriggered p r triggers = some s) : r.AgreesOff [] ["triggers"] s := by
  simp only [keepTriggered] at hkept
  split at hkept
  next => cases hkept
  next => exact Resource.agreesOff_of_ite (Resource.agreesOff_annotate List.mem_cons_self r _) hkept

theorem triggered_judges (hfailures : cloud.failures = []) (p : Predicate) :
    (triggered p).JudgesBy context cloud [] ["triggers"] fun r => keepTriggered p r
      ((cloud.triggers.get? ((r.text? "func_urn").getD r.id)).getD (some [])) where
  answers := by
    intro schedule resources
    refine (answers_lookUpAll (fun r => Cloud.answers_listTriggers hfailures _) _ _
      resources).bind ?_
    rw [List.filterMap_map]
    exact .of_pure _
  agrees := fun _ _ hkept => agreesOff_keepTriggered hkept

theorem agreesOff_keepReserved {p : Predicate} {r s : Resource} {configs : List Json}
    (hkept : keepReserved p r configs = some s) : r.AgreesOff [] ["reserved_concurrency"] s := by
  simp only [keepReserved] at hkept
  split at hkept
  next => exact Resource.agreesOff_of_ite (.refl r) hkept
  next => exact Resource.agreesOff_of_ite (Resource.agreesOff_annotate List.mem_cons_self r _) hkept

theorem reserved_judges (hfailures : cloud.failures = []) (p : Predicate) :
    (reserved p).JudgesBy context cloud [] ["reserved_concurrency"] fun r => keepReserved p r
      ((cloud.reservedInstances.get? (Cloud.withoutLatest r.functionUrn)).getD []) where
  answers := by
    intro schedule resources
    refine (answers_lookUpAll (fun r => Cloud.answers_listReservedInstances hfailures _) _ _
      resources).bind ?_
    rw [List.filterMap_map]
    exact .of_pure _
  agrees := fun _ _ hkept => agreesOff_keepReserved hkept

/-! ### Topics -/

/-- What is kept of a resource by the outcome of its check. -/
def keptBy : Except Error (Bool × Resource) → Option Resource
  | .ok (true, r) => some r
  | .ok (false, _) => none
  | .error _ => none

theorem answers_keepChecked {check : Resource → CloudM (Bool × Resource)}
    {outcome : Resource → Except Error (Bool × Resource)}
    (hcheck : ∀ r, Answers cloud (check r) (outcome r)) (resources : List Resource) :
    Answers cloud (keepChecked check resources)
      (.ok (resources.filterMap fun r => keptBy (outcome r))) := by
  induction resources with
  | nil => exact .of_pure _
  | cons r rest ih =>
      rw [keepChecked, List.filterMap_cons]
      refine ((hcheck r).catch_pure (false, r)).bind (ih.bind ?_)
      rcases outcome r with e | ⟨_ | _, kept⟩ <;> exact .of_pure _

/-- The log bindings of a topic, and the topic with its bindings. -/
def bindings (cloud : Cloud) (r : Resource) : List Json × Resource :=
  match (r.get? "lts").bind Json.array? with
  | some cached => (cached, r)
  | none => (cloud.logtanksOf r.topicUrn, r.set "lts" (.array (cloud.logtanksOf r.topicUrn)))

theorem answers_bindingsOf (hfailures : cloud.failures = []) (r : Resource) :
    Answers cloud (bindingsOf r) (.ok (bindings cloud r)) := by
  cases hcached : (r.get? "lts").bind Json.array? with
  | some cached =>
      simp only [bindingsOf, bindings, hcached]
      exact .of_pure _
  | none =>
      simp only [bindingsOf, bindings, hcached]
      exact (Cloud.answers_listLogtanks hfailures _).bind (.of_pure _)

theorem agreesOff_bindings (cloud : Cloud) (r : Resource) :
    r.AgreesOff ["lts"] [] (bindings cloud r).2 := by
  rw [bindings]
  split
  next => exact .refl r
  next => exact Resource.agreesOff_set List.mem_cons_self r _

theorem topicLogging_judges (hfailures : cloud.failures = []) (enabled : Bool) :
    (topicLogging enabled).JudgesBy context cloud ["lts"] [] fun r =>
      keptBy (.ok (!(bindings cloud r).1.isEmpty == enabled, (bindings cloud r).2)) where
  answers := by
    intro schedule resources
    refine answers_keepChecked (fun r => ?_) resources
    exact (answers_bindingsOf hfailures r).bind (.of_pure _)
  agrees := by
    intro r s hkept
    generalize (!(bindings cloud r).1.isEmpty == enabled) = keep at hkept
    cases keep with
    | false => cases hkept
    | true =>
        cases hkept
        exact agreesOff_bindings cloud r

/-- The access policy of a topic, and the topic with its policy. -/
def policy (cloud : Cloud) (r : Resource) : Option String × Resource :=
  match r.text? "access_policy" with
  | some cached => (some cached, r)
  | none =>
    match cloud.accessPolicies.get? r.topicUrn with
    | some text => (some text, r.set "access_policy" (.string text))
    | none => (none, r)

theorem answers_policyOf_of_answers {r : Resource} (hlook : r.text? "access_policy" = none →
      Answers cloud (Cloud.accessPolicy r.topicUrn) (.ok (cloud.accessPolicies.get? r.topicUrn))) :
    Answers cloud (policyOf r) (.ok (policy cloud r)) := by
  cases hcached : r.text? "access_policy" with
  | some cached =>
      simp only [policyOf, policy, hcached]
      exact .of_pure _
  | none =>
      simp only [policyOf, policy, hcached]
      refine (hlook hcached).bind ?_
      cases cloud.accessPolicies.get? r.topicUrn <;> exact .of_pure _

theorem answers_policyOf (hfailures : cloud.failures = []) (r : Resource) :
    Answers cloud (policyOf r) (.ok (policy cloud r)) :=
  answers_policyOf_of_answers fun _ => Cloud.answers_accessPolicy hfailures _

/-- The check of a single topic. -/
def checkAccess (criteria : AccessCriteria) (r : Resource) : CloudM (Bool × Resource) := do
  let (policy, r) ← policyOf r
  let granted ← topicAccess.liftExcept (grants criteria policy)
  return (granted, r)

theorem answers_checkAccess (criteria : AccessCriteria) {r : Resource}
    {looked : Option String × Resource} (h : Answers cloud (policyOf r) (.ok looked)) :
    Answers cloud (checkAccess criteria r)
      ((grants criteria looked.1).map fun granted => (granted, looked.2)) := by
  refine h.bind ?_
  obtain ⟨text, s⟩ := looked
  show Answers cloud (topicAccess.liftExcept (grants criteria text) >>= fun granted =>
    pure (granted, s)) _
  cases grants criteria text with
  | error e => exact (Answers.of_throw e).bind_error
  | ok granted => exact (Answers.of_pure granted).bind (.of_pure _)

theorem agreesOff_policy (cloud : Cloud) (r : Resource) :
    r.AgreesOff ["access_policy"] [] (policy cloud r).2 := by
  rw [policy]
  split
  next => exact .refl r
  next =>
    split
    next => exact Resource.agreesOff_set List.mem_cons_self r _
    next => exact .refl r

theorem topicAccess_judges (hfailures : cloud.failures = []) (criteria : AccessCriteria) :
    (topicAccess criteria).JudgesBy context cloud ["access_policy"] [] fun r =>
      keptBy ((grants criteria (policy cloud r).1).map fun granted =>
        (granted, (policy cloud r).2)) where
  answers := by
    intro schedule resources
    exact answers_keepChecked (fun r => answers_checkAccess criteria (answers_policyOf hfailures r))
      resources
  agrees := by
    intro r s hkept
    rcases hgranted : grants criteria (policy cloud r).1 with e | _ | _
    all_goals
      rw [hgranted] at hkept
      cases hkept
    exact agreesOff_policy cloud r

end Filter

/-! ### The registry -/

namespace FilterKind

/-- The fields of a record in which filters of a kind keep what they looked up. -/
def cachedFields : FilterKind → List String
  | topicLogging => ["lts"]
  | topicAccess => ["access_policy"]
  | _ => []

/-- The annotations that filters of a kind write. -/
def annotations : FilterKind → List String
  | subnet => [ Attachment.subnet.annotation]
  | securityGroup => [ Attachment.securityGroup.annotation]
  | networkLocation => [ Filter.placementAnnotation]
  | triggerType => ["triggers"]
  | reservedConcurrency => ["reserved_concurrency"]
  | _ => []

theorem cachedFields_subset (kind : FilterKind) : kind.cachedFields ⊆ ["lts", "access_policy"] := by
  cases kind <;> simp [cachedFields]

/-- The filter that is built has no judgement on the resource: it is one for marks, and has to
compare the date of the resource's mark, less its skew, although that is out of range. -/
def Stops (kind : FilterKind) (block : Json) (build : BuildContext) (r : Resource) : Prop :=
  kind = markedForOp ∧
    ∃ options, DueOptions.ofBlock block build = .ok options ∧ ¬ options.Reaches r

theorem stops_iff {block : Json} {build : BuildContext} {options : DueOptions}
    (hoptions : DueOptions.ofBlock block build = .ok options) {r : Resource} :
    markedForOp.Stops block build r ↔ ¬ options.Reaches r := by
  refine ⟨?_, fun h => ⟨rfl, options, hoptions, h⟩⟩
  rintro ⟨-, _, hother, h⟩
  rw [hoptions] at hother
  cases hother
  exact h

/-- A filter for marks judges by the options of its block. -/
theorem marked_judges {block : Json} {build : BuildContext} {options : DueOptions}
    (hoptions : DueOptions.ofBlock block build = .ok options) (context : RunContext)
    (cloud : Cloud) :
    (Filter.markedForOp options).JudgesUnless context cloud markedForOp.cachedFields
      markedForOp.annotations (markedForOp.Stops block build)
      (Option.guard (options.hasCome context.now)) := by
  have hstops : markedForOp.Stops block build = fun r => ¬ options.Reaches r :=
    funext fun r => propext (stops_iff hoptions)
  rw [hstops]
  exact Filter.markedForOp_judges options

theorem build_of_due {block : Json} {build : BuildContext} {options : DueOptions}
    (hoptions : DueOptions.ofBlock block build = .ok options) :
    markedForOp.build block build = .ok (Filter.markedForOp options) := by
  rw [FilterKind.build, Filter.buildMarkedForOp, hoptions]
  rfl

/-- A filter for marks stops at a batch in which one date is out of its reach. -/
theorem marked_stops {options : DueOptions} {resources : List Resource} {date : Timestamp}
    (hdate : some date ∈ resources.map options.date?)
    (hfar : ¬ (date.addSeconds (-options.skew.seconds)).isInRange = true)
    (context : RunContext) (cloud : Cloud) :
    (((Filter.markedForOp options).process context resources).run cloud).1 =
      .error Timestamp.tooFar := by
  obtain ⟨r, hr, hmark⟩ := List.mem_map.1 hdate
  have hjudges : (Filter.markedForOp options).JudgesUnless context cloud [] []
      (fun r => ¬ options.Reaches r) _ := Filter.markedForOp_judges options
  obtain ⟨calls, hcalls⟩ := hjudges.fails context.schedule resources
    ⟨r, hr, DueOptions.not_reaches_iff.2 ⟨date, hmark, hfar⟩⟩ cloud.calls
  exact congrArg Prod.fst hcalls

/-- Every filter that is built, other than one for marks, judges each resource on its own. -/
theorem judges_of_build {kind : FilterKind} {block : Json} {build : BuildContext} {filter : Filter}
    (hbuild : kind.build block build = .ok filter) (hmarks : kind ≠ markedForOp)
    (context : RunContext) {cloud : Cloud} (hfailures : cloud.failures = []) :
    ∃ judge, filter.JudgesBy context cloud kind.cachedFields kind.annotations judge := by
  cases builds_of_build hbuild with
  | predicate _ p => exact ⟨_, Filter.ofTest_judges _ fun _ => rfl⟩
  | test name test hclock _ =>
      exact ⟨_, Filter.ofTest_judges name fun _ => hclock context _ rfl⟩
  | marked options => exact absurd rfl hmarks
  | backendCount operator count => exact ⟨_, Filter.backendCount_judges hfailures operator count⟩
  | transferred expected => exact ⟨_, Filter.transferred_judges hfailures expected⟩
  | redirecting target => exact ⟨_, Filter.redirecting_judges hfailures target⟩
  | subnet p all | securityGroup p all => exact ⟨_, Filter.attached_judges hfailures _ p all⟩
  | placement options => exact ⟨_, Filter.placement_judges hfailures options⟩
  | triggered p => exact ⟨_, Filter.triggered_judges hfailures p⟩
  | reserved p => exact ⟨_, Filter.reserved_judges hfailures p⟩
  | topicLogging enabled => exact ⟨_, Filter.topicLogging_judges hfailures enabled⟩
  | topicAccess criteria => exact ⟨_, Filter.topicAccess_judges hfailures criteria⟩

/-- **Filters judge resource by resource.** In a cloud without injected failures every filter that
is built does with a batch what one function does with each of its resources, whatever the clock,
the count of workers and the order of their steps. A resource that is kept is the one that was
given, apart from fields that cache a look-up and the annotations of the filter; and in the cloud
only the call log grows. The exception is a filter for marks with a resource in the batch whose
mark it cannot compare: exactly then it stops, out of range. -/
theorem filter_judges_resourcewise (kind : FilterKind) (block : Json) (build : BuildContext)
    (filter : Filter) (hbuild : kind.build block build = .ok filter) (context : RunContext)
    (cloud : Cloud) (hfailures : cloud.failures = []) :
    ∃ judge : Resource → Option Resource,
      (∀ schedule resources, (∀ r ∈ resources, ¬ kind.Stops block build r) → ∃ calls,
        (filter.process { context with schedule } resources).run cloud =
          (.ok (resources.filterMap judge), { cloud with calls := cloud.calls ++ calls })) ∧
      (∀ schedule resources, (∃ r ∈ resources, kind.Stops block build r) → ∃ calls,
        (filter.process { context with schedule } resources).run cloud =
          (.error Timestamp.tooFar, { cloud with calls := cloud.calls ++ calls })) ∧
      (∀ r s, judge r = some s →
        s.data.filterKeys (· ∉ ["lts", "access_policy"]) =
          r.data.filterKeys (· ∉ ["lts", "access_policy"]) ∧
        s.annotations.filterKeys (· ∉ kind.annotations) =
          r.annotations.filterKeys (· ∉ kind.annotations)) := by
  obtain ⟨judge, hjudge⟩ : ∃ judge, filter.JudgesUnless context cloud kind.cachedFields
      kind.annotations (kind.Stops block build) judge := by
    by_cases hmarks : kind = markedForOp
    · subst hmarks
      obtain ⟨options, hoptions, rfl⟩ := exists_due_of_build hbuild
      exact ⟨_, marked_judges hoptions context cloud⟩
    · obtain ⟨judge, hjudge⟩ := judges_of_build hbuild hmarks context hfailures
      exact ⟨judge, hjudge.never_stops fun r hstops => hmarks hstops.1⟩
  refine ⟨judge, fun schedule resources h => hjudge.answers schedule resources h cloud.calls,
    fun schedule resources h => hjudge.fails schedule resources h cloud.calls, ?_⟩
  intro r s hkept
  obtain ⟨hdata, hannotations⟩ := hjudge.agrees r s hkept
  refine ⟨StringMap.filterKeys_eq_of_imp (fun key hkey => ?_) hdata, hannotations⟩
  exact decide_eq_true fun hcached => of_decide_eq_true hkey (cachedFields_subset kind hcached)

/-- A filter on active triggers, which asks a pool of workers, in a cloud with one triggered
function. -/
theorem active_triggers_judged_resourcewise :
    let block : Json := .obj [("type", .string "trigger-type"), ("key", .string "trigger_status"),
      ("value", .string "ACTIVE")]
    let cloud : Cloud :=
      { triggers := .ofList [("urn:fss:1", some [.obj [("trigger_status", .string "ACTIVE")]])] }
    ∃ filter, triggerType.build block default = .ok filter ∧
      ∃ judge : Resource → Option Resource, ∀ schedule resources, ∃ calls,
        (filter.process { (default : RunContext) with schedule } resources).run cloud =
          (.ok (resources.filterMap judge), { cloud with calls := cloud.calls ++ calls }) := by
  intro block cloud
  refine ⟨_, rfl, ?_⟩
  obtain ⟨judge, hjudge, -⟩ :=
    filter_judges_resourcewise .triggerType block default _ rfl default cloud rfl
  exact ⟨judge, fun schedule resources => hjudge schedule resources fun _ _ h => nomatch h.1⟩

/-- A function was marked for the first day of 2025. A filter for such marks with a skew of a hundred
million days is accepted and built, and stops at the function: the date less the skew lies before
the first year of the calendar. -/
theorem far_skew_stops_filter :
    let block : Json := .obj [("type", .string "marked-for-op"),
      ("op", .string "delete-function"), ("skew", .nat 100000000)]
    let build : BuildContext := { (default : BuildContext) with resourceType := .function }
    let context : RunContext := { (default : RunContext) with resourceType := .function }
    let function : Resource := .ofRecord (.obj [("id", .string "fn-1"),
      ("tags", .obj [("mark-for-op-cirrus", .string "delete-function_2025-01-01")])])
    markedForOp ∈ ResourceType.function.filters ∧
      Validation.validate markedForOp.schema block = .ok () ∧
      ∃ filter, markedForOp.build block build = .ok filter ∧
        ((filter.process context [function]).run {}).1 = .error Timestamp.tooFar := by
  intro block build context function
  let options : DueOptions :=
    ⟨"mark-for-op-cirrus", "delete-function", ⟨8640000000000, by decide⟩, .utc⟩
  have hoptions : DueOptions.ofBlock block build = .ok options :=
    Steps.eq_ok_of_toOption (by decide +kernel)
  have hdate : some (.ofSeconds 1735689600 0) ∈ [function].map options.date? := by decide +kernel
  exact ⟨by decide, by decide +kernel, _, build_of_due hoptions,
    marked_stops hdate (by decide) context {}⟩

end FilterKind

end CloudPolicy
