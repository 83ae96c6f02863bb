import CloudPolicy.Proofs.AccessPolicies
import CloudPolicy.Proofs.ActionEffects
import CloudPolicy.Proofs.Judgement

/-! Removing the grants to everybody from stored access policies. A run of the action that comes to
its end has reduced the policy of each of its topics at least once and changed nothing else of it,
and so what a filter finds before and after the run is known from the statements that there were. -/

namespace CloudPolicy

open Steps (Within)
open Filter.AccessCriteria

/-! ### Verdicts -/

namespace Filter

/-- The filter comes to its end on every listing and judges it resource by resource; `keeps` says
whether it keeps this one. -/
def Verdict (filter : Filter) (context : RunContext) (cloud : Cloud) (r : Resource)
    (keeps : Bool) : Prop :=
  ∃ judge : Resource → Option Resource, (judge r).isSome = keeps ∧ ∀ listing, ∃ calls,
    (filter.process context listing).run cloud =
      (.ok (listing.filterMap judge), { cloud with calls := cloud.calls ++ calls })

theorem policy_of_uncached (cloud : Cloud) {r : Resource}
    (h : r.text? "access_policy" = none) :
    (policy cloud r).1 = cloud.accessPolicies.get? r.topicUrn := by
  rw [policy, h]
  cases cloud.accessPolicies.get? r.topicUrn <;> rfl

theorem answers_policyOf_of_failing {cloud : Cloud} {r : Resource}
    (huncached : r.text? "access_policy" = none)
    (hfails : cloud.isFailing "access_policy" r.topicUrn = true) :
    ∃ e, Answers cloud (policyOf r) (.error e) := by
  simp only [policyOf, huncached]
  exact ⟨_, ((Answers.enter_of_failing hfails _).bind_error).bind_error⟩

/-- A look-up that fails is an answer as well. -/
theorem exists_answers_policyOf (cloud : Cloud) (r : Resource) :
    ∃ looked, Answers cloud (policyOf r) looked ∧
      (cloud.isFailing "access_policy" r.topicUrn = false → looked = .ok (policy cloud r)) := by
  cases hfails : cloud.isFailing "access_policy" r.topicUrn with
  | false =>
      exact ⟨_, answers_policyOf_of_answers fun _ => Cloud.answers_accessPolicy_of_working hfails,
        fun _ => rfl⟩
  | true =>
      cases hcached : r.text? "access_policy" with
      | some cached =>
          refine ⟨.ok (policy cloud r), answers_policyOf_of_answers fun hnone => ?_, nofun⟩
          rw [hcached] at hnone
          cases hnone
      | none =>
          obtain ⟨e, he⟩ := answers_policyOf_of_failing hcached hfails
          exact ⟨.error e, he, nofun⟩

theorem topicAccess_verdict (criteria : AccessCriteria) (context : RunContext) {cloud : Cloud}
    {r : Resource} (huncached : r.text? "access_policy" = none)
    (hworks : cloud.isFailing "access_policy" r.topicUrn = false) {statements : List Json}
    (hstatements : statements? (cloud.accessPolicies.get? r.topicUrn) = some statements) :
    ∃ keeps, (topicAccess criteria).Verdict context cloud r keeps ∧
      (keeps = true ↔ criteria.Met statements) := by
  have hcheck (r : Resource) : ∃ outcome, Answers cloud (checkAccess criteria r) outcome ∧
      (cloud.isFailing "access_policy" r.topicUrn = false → outcome =
        (grants criteria (policy cloud r).1).map fun granted => (granted, (policy cloud r).2)) := by
    obtain ⟨looked, hlooked, hworking⟩ := exists_answers_policyOf cloud r
    cases looked with
    | error e =>
        refine ⟨_, hlooked.bind_error, fun h => ?_⟩
        cases hworking h
    | ok looked =>
        refine ⟨_, answers_checkAccess criteria hlooked, fun h => ?_⟩
        cases hworking h
        rfl
  choose outcome houtcome hworking using hcheck
  obtain ⟨granted, hgranted, hmet⟩ := criteria.grants_of_statements? hstatements
  refine ⟨granted, ⟨fun r => keptBy (outcome r), ?_, fun listing => ?_⟩, hmet⟩
  · show (keptBy (outcome r)).isSome = granted
    rw [hworking r hworks, policy_of_uncached cloud huncached, hgranted]
    cases granted <;> rfl
  · exact answers_keepChecked houtcome listing cloud.calls

end Filter

/-! ### Runs -/

/-- The records and the failures stay, and the policy of the topic moves as given. -/
structure Cloud.MovesPolicy (topic : String) (moves : Option String → Option String → Prop)
    (before after : Cloud) : Prop where
  resources : after.resources = before.resources
  failures : after.failures = before.failures
  policy : moves (before.accessPolicies.get? topic) (after.accessPolicies.get? topic)

namespace Cloud.MovesPolicy

variable {topic : String} {moves : Option String → Option String → Prop}

instance [IsPreorder (Option String) moves] : IsPreorder Cloud (MovesPolicy topic moves) where
  refl := fun _ => ⟨rfl, rfl, refl_of moves _⟩
  trans := fun _ _ _ h h' => ⟨h'.resources.trans h.resources, h'.failures.trans h.failures,
    trans_of moves h.policy h'.policy⟩

theorem mono {moves' : Option String → Option String → Prop} {before after : Cloud}
    (h : MovesPolicy topic moves before after) (himp : ∀ p q, moves p q → moves' p q) :
    MovesPolicy topic moves' before after :=
  ⟨h.resources, h.failures, himp _ _ h.policy⟩

end Cloud.MovesPolicy

namespace Action

/-- The step of another topic leaves the policy. -/
theorem deleteAllowAllStep_spares {r : Resource} {topic : String} (h : topic ≠ r.topicUrn) :
    Within (Cloud.MovesPolicy topic Eq) (fun _ => True) (deleteAllowAllStep r) := by
  have hlogs : ∀ before after, Cloud.LogsOnly before after →
      Cloud.MovesPolicy topic Eq before after := by
    rintro before after ⟨_, rfl⟩
    exact ⟨rfl, rfl, rfl⟩
  refine deleteAllowAllStep_within ((Cloud.ask_logs _).mono hlogs fun _ h => h) fun policy => ?_
  refine ((Cloud.enter_logs _ _ _).mono hlogs fun _ h => h).andThen fun _ => .of_modify fun s => ?_
  refine ⟨rfl, rfl, ?_⟩
  cases policy with
  | some text => exact (StringMap.get?_insert_of_ne _ h _).symm
  | none => exact ((StringMap.get?_erase _ _ _).trans (if_neg h)).symm

theorem updateAccessPolicy_moves {topic : String} {policy : Option String} {result : Step}
    {before after : Cloud}
    (h : (do Cloud.updateAccessPolicy topic policy; return .done : CloudM Step).run before =
      (.ok result, after)) :
    Cloud.MovesPolicy topic (fun _ stored => stored = policy) before after := by
  obtain ⟨_, _, h, hpure⟩ := Steps.of_run_bind_eq_ok h
  cases hpure
  obtain ⟨_, reached, hentered, hupdated⟩ := Steps.of_run_bind_eq_ok h
  obtain ⟨_, rfl⟩ : Cloud.LogsOnly before reached := by
    have hlogs := (Cloud.enter_logs "smn" "update_access_policy" topic).moves before
    rwa [hentered] at hlogs
  cases hupdated
  refine ⟨rfl, rfl, ?_⟩
  cases policy with
  | some text => exact StringMap.get?_insert_self _ _ _
  | none => exact (StringMap.get?_erase _ _ _).trans (if_pos rfl)

theorem policyOf_of_ok {r : Resource} (huncached : r.text? "access_policy" = none)
    {looked : Option String × Resource} {before after : Cloud}
    (hrun : (Filter.policyOf r).run before = (.ok looked, after)) :
    before.isFailing "access_policy" r.topicUrn = false ∧
      looked.1 = before.accessPolicies.get? r.topicUrn ∧ Cloud.LogsOnly before after := by
  cases hfails : before.isFailing "access_policy" r.topicUrn with
  | true =>
      obtain ⟨e, hfailed⟩ := Filter.answers_policyOf_of_failing huncached hfails
      obtain ⟨calls, hcalls⟩ := hfailed before.calls
      cases hcalls.symm.trans hrun
  | false =>
      obtain ⟨calls, hcalls⟩ := Filter.answers_policyOf_of_answers
        (fun _ => Cloud.answers_accessPolicy_of_working hfails) before.calls
      cases hcalls.symm.trans hrun
      exact ⟨rfl, Filter.policy_of_uncached before huncached, _, rfl⟩

theorem ofText_of_ok {text : String} {stripped : Stripped} {before after : Cloud}
    (hrun : (CloudM.ofExcept (Stripped.ofText text)).run before = (.ok stripped, after)) :
    after = before ∧ ∃ document, Json.read? text = some document ∧
      stripped = Stripped.ofDocument document := by
  rw [Stripped.ofText, Filter.policyDocument] at hrun
  cases hdocument : Json.read? text with
  | none =>
      rw [hdocument] at hrun
      cases hrun
  | some document =>
      rw [hdocument] at hrun
      cases hrun
      exact ⟨rfl, document, rfl, rfl⟩

/-- A step that comes to its end has read the policy and has reduced it. -/
theorem deleteAllowAllStep_reduces {r : Resource} (huncached : r.text? "access_policy" = none)
    {result : Step} {before after : Cloud}
    (hrun : (deleteAllowAllStep r).run before = (.ok result, after)) :
    before.isFailing "access_policy" r.topicUrn = false ∧
      Cloud.MovesPolicy r.topicUrn Stripped.Reduces before after := by
  obtain ⟨looked, reached, hlooked, hrest⟩ := Steps.of_run_bind_eq_ok hrun
  obtain ⟨hworks, hpolicy, _, rfl⟩ := policyOf_of_ok huncached hlooked
  refine ⟨hworks, ?_⟩
  dsimp only at hrest
  rw [hpolicy] at hrest
  split at hrest
  next hnone =>
    cases hrest
    have hstatements : statements? (before.accessPolicies.get? r.topicUrn) = some [] := by
      rw [statements?, hnone]
    exact ⟨rfl, rfl, [], [], hstatements, hstatements, rfl⟩
  next text htext =>
    obtain ⟨hstored, -⟩ := Option.filter_eq_some_iff.1 htext
    obtain ⟨stripped, middle, hstripped, hrest⟩ := Steps.of_run_bind_eq_ok hrest
    obtain ⟨rfl, document, hdocument, rfl⟩ := ofText_of_ok hstripped
    have hmoves : Cloud.MovesPolicy r.topicUrn
        (fun _ stored => stored = (Stripped.ofDocument document).stored text) before after := by
      generalize Stripped.ofDocument document = stripped at hrest
      cases stripped with
      | unchanged =>
          cases hrest
          exact ⟨rfl, rfl, hstored⟩
      | narrowed text =>
          obtain ⟨hresources, hfailures, hreplaced⟩ := updateAccessPolicy_moves hrest
          exact ⟨hresources, hfailures, hreplaced⟩
      | cleared =>
          obtain ⟨hresources, hfailures, hreplaced⟩ := updateAccessPolicy_moves hrest
          exact ⟨hresources, hfailures, hreplaced⟩
    refine ⟨hmoves.resources, hmoves.failures, ?_⟩
    obtain ⟨left, hleft, hstripped⟩ := Stripped.left_ofDocument hdocument
    rw [hstored, hmoves.policy]
    exact ⟨_, left, statements?_of_read? hdocument, hleft, hstripped⟩

theorem deleteAllowAll_reduces {context : RunContext} {batch : List Resource}
    {cloud after : Cloud} {report : Report}
    (hrun : (deleteAllowAll.process context batch).run cloud = (.ok report, after))
    {r : Resource} (hr : r ∈ batch)
    (huncached : ∀ b ∈ batch, b.topicUrn = r.topicUrn → b.text? "access_policy" = none) :
    cloud.isFailing "access_policy" r.topicUrn = false ∧
      Cloud.MovesPolicy r.topicUrn (Relation.TransGen Stripped.Reduces) cloud after := by
  have hstep : ∀ b ∈ batch, ∀ before result after,
      (deleteAllowAllStep b).run before = (.ok result, after) →
      Cloud.MovesPolicy r.topicUrn (Relation.ReflTransGen Stripped.Reduces) before after := by
    intro b hb before result after hresult
    by_cases htopic : b.topicUrn = r.topicUrn
    · obtain ⟨-, hmoves⟩ := deleteAllowAllStep_reduces (huncached b hb htopic) hresult
      rw [htopic] at hmoves
      exact hmoves.mono fun _ _ => .single
    · have hspared := (deleteAllowAllStep_spares fun h => htopic h.symm).moves before
      rw [hresult] at hspared
      exact hspared.mono fun _ _ h => h ▸ .refl
  obtain ⟨reached, result, left, hreached, hresult, hleft⟩ := ofStep_passes hstep hrun hr
  obtain ⟨hworks, hmoves⟩ := deleteAllowAllStep_reduces (huncached r hr rfl) hresult
  refine ⟨?_, hleft.resources.trans (hmoves.resources.trans hreached.resources),
    hleft.failures.trans (hmoves.failures.trans hreached.failures), ?_⟩
  · rwa [Cloud.isFailing, hreached.failures] at hworks
  · exact (Relation.TransGen.trans_right hreached.policy (.single hmoves.policy)).trans_left
      hleft.policy

/-! ### What is found before and after -/

/-- The action comes to its end on a batch with the topic, whose policy is a document and is not kept
in the records of the batch. -/
structure Removes (context : RunContext) (batch : List Resource) (cloud after : Cloud) (r : Resource)
    (document : Json) : Prop where
  ended : ∃ report, (deleteAllowAll.process context batch).run cloud = (.ok report, after)
  among : r ∈ batch
  uncached : ∀ b ∈ batch, b.topicUrn = r.topicUrn → b.text? "access_policy" = none
  stored : (cloud.accessPolicies.get? r.topicUrn).bind Json.read? = some document

namespace Removes

variable {context : RunContext} {batch : List Resource} {cloud after : Cloud} {r : Resource}
  {document : Json}

/-- Every filter for grants has a verdict on the topic before and after, by the statements that
there were and by those that the reduced policy has. -/
theorem exists_verdicts (h : Removes context batch cloud after r document) :
    after.resources = cloud.resources ∧ ∃ left,
      Relation.TransGen Stripped.Reduces (cloud.accessPolicies.get? r.topicUrn)
        (after.accessPolicies.get? r.topicUrn) ∧
      statements? (cloud.accessPolicies.get? r.topicUrn) = some (listed document) ∧
      statements? (after.accessPolicies.get? r.topicUrn) = some left ∧
      ∀ criteria later, ∃ found kept, (Filter.topicAccess criteria).Verdict later cloud r found ∧
        (Filter.topicAccess criteria).Verdict later after r kept ∧
        (found = true ↔ criteria.Met (listed document)) ∧ (kept = true ↔ criteria.Met left) := by
  obtain ⟨report, hrun⟩ := h.ended
  obtain ⟨hworks, hmoves⟩ := deleteAllowAll_reduces hrun h.among h.uncached
  have hworks' : after.isFailing "access_policy" r.topicUrn = false := by
    rwa [Cloud.isFailing, hmoves.failures]
  obtain ⟨text, htext, hdocument⟩ := Option.bind_eq_some_iff.1 h.stored
  have hbefore : statements? (cloud.accessPolicies.get? r.topicUrn) = some (listed document) := by
    rw [htext]
    exact statements?_of_read? hdocument
  obtain ⟨left, hleft⟩ := Stripped.exists_statements?_of_reduces hmoves.policy
  refine ⟨hmoves.resources, left, hmoves.policy, hbefore, hleft, fun criteria later => ?_⟩
  have huncached := h.uncached r h.among rfl
  obtain ⟨found, hfound, hfoundMet⟩ :=
    Filter.topicAccess_verdict criteria later huncached hworks hbefore
  obtain ⟨kept, hkept, hkeptMet⟩ :=
    Filter.topicAccess_verdict criteria later huncached hworks' hleft
  exact ⟨found, kept, hfound, hkept, hfoundMet, hkeptMet⟩

/-! ### One topic -/

/-- A topic without attributes. -/
def exposedTopic : Resource := .ofRecord (.obj [("id", .string "t-1")])

/-- The topic is stored with an access policy. -/
def exposure (policy : Json) : Cloud :=
  { ({} : Cloud).setResources .topic [exposedTopic] with
    accessPolicies := .ofList [("t-1", policy.text)] }

def exposureContext : RunContext where
  policy := "exposure"
  resourceType := .topic
  settings := {}
  event := none
  now := default

theorem removes_exposure {policy : Json} (hread : Json.read? policy.text = some policy)
    (hended : ((deleteAllowAll.process exposureContext [exposedTopic]).run
      (exposure policy)).1.toOption.isSome) :
    ∃ after, Removes exposureContext [exposedTopic] (exposure policy) after exposedTopic policy := by
  obtain ⟨report, hreport⟩ := Option.isSome_iff_exists.1 hended
  have hurn : exposedTopic.topicUrn = "t-1" := by decide
  have hstored : (exposure policy).accessPolicies.get? "t-1" = some policy.text :=
    StringMap.get?_insert_self _ _ _
  refine ⟨_, ⟨report, Steps.eq_ok_of_fst (Steps.eq_ok_of_toOption hreport)⟩, List.mem_cons_self,
    by decide, ?_⟩
  rw [hurn, hstored]
  exact hread

/-! ### Everybody and others -/

/-- **Grants to everybody are removed.** After the action has come to its end, the filter for
everybody keeps a topic only if the topic had an Allow statement whose accounts are one text with
a `*` in it that is not `*`: the filter looks for `*` in a text, and the action compares with it. -/
theorem leaves_hidden_wildcards (h : Removes context batch cloud after r document)
    (later : RunContext) :
    after.resources = cloud.resources ∧
      ∃ keeps, (Filter.topicAccess { user := some "*" }).Verdict later after r keeps ∧
        (keeps = true ↔ ∃ statement ∈ listed document, Stripped.HidesWildcard statement) := by
  obtain ⟨hresources, left, hchain, hbefore, hleft, hverdicts⟩ := h.exists_verdicts
  obtain ⟨-, keeps, -, hkeeps, -, hmet⟩ := hverdicts { user := some "*" } later
  exact ⟨hresources, keeps, hkeeps,
    hmet.trans (Stripped.met_everybody_iff hchain hbefore hleft)⟩

/-- Of a list of accounts with `*` among them, the others are left and everybody is not found. -/
theorem everybody_not_found :
    let policy := Json.obj [("Statement", .array [.obj [("Effect", .string "Allow"),
      ("Principal", .obj [("CSP", .strings ["*", "urn:csp:iam::acct-1:root"])])]])]
    ∃ after, Removes exposureContext [exposedTopic] (exposure policy) after exposedTopic policy ∧
      (Filter.topicAccess { user := some "*" }).Verdict exposureContext after exposedTopic
        false := by
  intro policy
  have hread : Json.read? policy.text = some policy :=
    Json.read?_text_of_numberFree (by decide) (by decide +kernel)
  obtain ⟨after, hremoves⟩ := removes_exposure hread (by decide +kernel)
  obtain ⟨-, keeps, hverdict, hkeeps⟩ := leaves_hidden_wildcards hremoves exposureContext
  have hnone : ¬ ∃ statement ∈ listed policy, Stripped.HidesWildcard statement := by
    rintro ⟨statement, hstatement, -, account, haccount, -⟩
    cases List.mem_singleton.1 hstatement
    cases haccount
  rw [← hkeeps, Bool.not_eq_true] at hnone
  exact ⟨after, hremoves, hnone ▸ hverdict⟩

/-- An account that is one text with a `*` in it is not removed, but found as everybody. -/
theorem hidden_wildcard_found :
    let policy := Json.obj [("Statement", .array [.obj [("Effect", .string "Allow"),
      ("Principal", .obj [("CSP", .string "urn:csp:iam::*:root")])]])]
    let run := (deleteAllowAll.process exposureContext [exposedTopic]).run (exposure policy)
    (Json.read? policy.text).isSome ∧ exposedTopic.text? "access_policy" = none ∧
      run.1.toOption = some { action := "delete-allow-all-user-access" } ∧
      ((((Filter.topicAccess { user := some "*" }).process exposureContext
        (run.2.resources .topic)).run run.2).1.toOption.map fun kept => kept.map Resource.id) =
          some ["t-1"] := by
  decide +kernel

/-- **Other grants are left, apart from those of emptied statements.** The filter has the same
verdict on a topic before and after the action for every account, and for all criteria on Deny
statements. An organization or a service that was found is still found exactly if it is named by an
Allow statement that is not left without accounts. -/
theorem leaves_other_grants (h : Removes context batch cloud after r document)
    (later : RunContext) :
    after.resources = cloud.resources ∧
      (∀ user, user ≠ "*" → ∃ found,
        (Filter.topicAccess { user := some user }).Verdict later cloud r found ∧
        (Filter.topicAccess { user := some user }).Verdict later after r found) ∧
      (∀ criteria : Filter.AccessCriteria, criteria.effect = "Deny" → ∃ found,
        (Filter.topicAccess criteria).Verdict later cloud r found ∧
        (Filter.topicAccess criteria).Verdict later after r found) ∧
      ∀ (criteria : Filter.AccessCriteria) (kind needle : String),
        (kind = "OrgPath" ∧ criteria = { organization := some needle } ∨
          kind = "Service" ∧ criteria = { service := some needle }) → ∃ found kept,
        (Filter.topicAccess criteria).Verdict later cloud r found ∧
        (Filter.topicAccess criteria).Verdict later after r kept ∧
        (found = true ↔ ∃ statement ∈ listed document, Grants "Allow" kind needle statement) ∧
        (kept = true ↔ ∃ statement ∈ listed document, Grants "Allow" kind needle statement ∧
          ¬ Stripped.LosesAccounts statement) := by
  obtain ⟨hresources, left, hchain, hbefore, hleft, hverdicts⟩ := h.exists_verdicts
  have hagree {criteria : Filter.AccessCriteria}
      (hmet : criteria.Met left ↔ criteria.Met (listed document)) : ∃ found,
        (Filter.topicAccess criteria).Verdict later cloud r found ∧
        (Filter.topicAccess criteria).Verdict later after r found := by
    obtain ⟨found, kept, hfound, hkept, hfoundMet, hkeptMet⟩ := hverdicts criteria later
    have hsame : found = kept := Bool.eq_iff_iff.2 (hfoundMet.trans (hmet.symm.trans hkeptMet.symm))
    exact ⟨found, hfound, hsame ▸ hkept⟩
  refine ⟨hresources, fun user huser => hagree ?_, fun criteria hdeny => hagree ?_,
    fun criteria kind needle hset => ?_⟩
  · exact Stripped.met_user_iff_of_reduces hchain hbefore hleft huser
  · exact Stripped.met_iff_of_ne_allow hchain hbefore hleft (by rw [hdeny]; decide)
  · obtain ⟨found, kept, hfound, hkept, hfoundMet, hkeptMet⟩ := hverdicts criteria later
    rcases hset with ⟨rfl, rfl⟩ | ⟨rfl, rfl⟩
    · rw [met_organization_iff] at hfoundMet hkeptMet
      exact ⟨found, kept, hfound, hkept, hfoundMet,
        hkeptMet.trans (Stripped.exists_grants_iff_of_ne_csp hchain hbefore hleft (by decide))⟩
    · rw [met_service_iff] at hfoundMet hkeptMet
      exact ⟨found, kept, hfound, hkept, hfoundMet,
        hkeptMet.trans (Stripped.exists_grants_iff_of_ne_csp hchain hbefore hleft (by decide))⟩

/-- The service of a statement that keeps an account is still found. -/
theorem shared_grants_found :
    let policy := Json.obj [("Statement", .array [.obj [("Effect", .string "Allow"),
      ("Principal", .obj [("CSP", .strings ["*", "urn:csp:iam::acct-1:root"]),
        ("Service", .strings ["obs"])])]])]
    let obs := Filter.topicAccess { service := some "obs" }
    ∃ after, Removes exposureContext [exposedTopic] (exposure policy) after exposedTopic policy ∧
      obs.Verdict exposureContext (exposure policy) exposedTopic true ∧
      obs.Verdict exposureContext after exposedTopic true := by
  intro policy obs
  have hread : Json.read? policy.text = some policy :=
    Json.read?_text_of_numberFree (by decide) (by decide +kernel)
  obtain ⟨after, hremoves⟩ := removes_exposure hread (by decide +kernel)
  obtain ⟨-, -, -, hothers⟩ := leaves_other_grants hremoves exposureContext
  obtain ⟨found, kept, hfound, hkept, hfoundIff, hkeptIff⟩ :=
    hothers { service := some "obs" } "Service" "obs" (.inr ⟨rfl, rfl⟩)
  have hnamed : ∃ statement ∈ listed policy,
      Grants "Allow" "Service" "obs" statement ∧ ¬ Stripped.LosesAccounts statement := by
    refine ⟨_, List.mem_singleton.2 rfl, ⟨by decide, by decide⟩, fun hloses => ?_⟩
    have haccount := hloses (.string "urn:csp:iam::acct-1:root")
      (List.mem_cons_of_mem _ List.mem_cons_self)
    exact absurd haccount (by decide)
  obtain ⟨statement, hstatement, hgrants, -⟩ := id hnamed
  obtain rfl : found = true := hfoundIff.2 ⟨statement, hstatement, hgrants⟩
  obtain rfl : kept = true := hkeptIff.2 hnamed
  exact ⟨after, hremoves, hfound, hkept⟩

/-- The service of a statement whose only account was `*` is not found any more. -/
theorem service_of_emptied_statement_lost :
    let policy := Json.obj [("Statement", .array [.obj [("Effect", .string "Allow"),
      ("Principal", .obj [("CSP", .strings ["*"]), ("Service", .strings ["obs"])])]])]
    let run := (deleteAllowAll.process exposureContext [exposedTopic]).run (exposure policy)
    let found (cloud : Cloud) :=
      ((((Filter.topicAccess { service := some "obs" }).process exposureContext
        (cloud.resources .topic)).run cloud).1.toOption.map fun kept => kept.map Resource.id)
    (Json.read? policy.text).isSome ∧ exposedTopic.text? "access_policy" = none ∧
      run.1.toOption = some { action := "delete-allow-all-user-access", succeeded := ["t-1"] } ∧
      found (exposure policy) = some ["t-1"] ∧ found run.2 = some [] := by
  decide +kernel

end Removes

end Action

end CloudPolicy
