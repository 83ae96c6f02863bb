import Mathlib.Data.List.Nodup
import CloudPolicy.Proofs.ActionEffects
import CloudPolicy.Proofs.Selection

/-! Actions against the findings of filters. For three pairs of an action and a filter that look at
different parts of what the services store, a run of the action that comes to its end leaves a cloud
in which the filter finds each resource that was reported as done in its new state. -/

namespace CloudPolicy

open Cloud (updateFirst updateFirst_eq_map map_updateFirst)

/-! ### Runs over a batch -/

namespace Action

/-- What the steps for a batch keep holds at its end, and what a step that is done brings about for
its resource, and later steps leave alone, holds there of all that is reported as done. -/
theorem eachWith_settles {σ : Type} {step : σ → Resource → CloudM (Step × σ)}
    {keeps : σ → Cloud → Prop} {settled : String → Cloud → Prop} {resources : List Resource}
    (hstep : ∀ r ∈ resources, ∀ memory before result later after, keeps memory before →
      (step memory r).run before = (.ok (result, later), after) →
      keeps later after ∧ (∀ id, settled id before → settled id after) ∧
        (result = .done → settled r.id after))
    {memory : σ} {start report : Report} {before after : Cloud} (hkeeps : keeps memory before)
    (hstart : ∀ id ∈ start.succeeded, settled id before)
    (hrun : (eachWith step memory start resources).run before = (.ok report, after)) :
    (∃ later, keeps later after) ∧ ∀ id ∈ report.succeeded, settled id after := by
  induction resources generalizing memory start before with
  | nil =>
      cases hrun
      exact ⟨⟨memory, hkeeps⟩, hstart⟩
  | cons r rest ih =>
      obtain ⟨hr, hrest⟩ := List.forall_mem_cons.1 hstep
      obtain ⟨⟨result, later⟩, middle, hfirst, hothers⟩ := Steps.of_run_bind_eq_ok hrun
      obtain ⟨hlater, hstays, hdone⟩ := hr memory before result later middle hkeeps hfirst
      refine ih hrest hlater (fun id hid => ?_) hothers
      cases result with
      | done =>
          rcases List.mem_append.1 hid with hid | hid
          · exact hstays id (hstart id hid)
          · cases List.mem_singleton.1 hid
            exact hdone rfl
      | skipped => exact hstays id (hstart id hid)
      | refused reason => exact hstays id (hstart id hid)

theorem ofCall_settles {name : String} {call : Resource → CloudM Unit}
    {keeps : Cloud → Prop} {settled : String → Cloud → Prop} {resources : List Resource}
    (hcall : ∀ r ∈ resources, ∀ before after, keeps before →
      (call r).run before = (.ok (), after) →
      keeps after ∧ (∀ id, settled id before → settled id after) ∧ settled r.id after)
    {context : RunContext} {report : Report} {before after : Cloud} (hkeeps : keeps before)
    (hrun : ((ofCall name call).process context resources).run before = (.ok report, after)) :
    keeps after ∧ ∀ id ∈ report.succeeded, settled id after := by
  let always (_ : Unit) (cloud : Cloud) : Prop := keeps cloud
  have hstep : ∀ r ∈ resources, ∀ memory before result later after, always memory before →
      (do return (← (do call r; return .done : CloudM Step), ()) : CloudM (Step × Unit)).run before
        = (.ok (result, later), after) →
      always later after ∧ (∀ id, settled id before → settled id after) ∧
        (result = .done → settled r.id after) := by
    intro r hr _ before result _ after hkeeps hrun
    obtain ⟨_, _, hdone, hpure⟩ := Steps.of_run_bind_eq_ok hrun
    cases hpure
    obtain ⟨_, _, hcalled, hpure⟩ := Steps.of_run_bind_eq_ok hdone
    cases hpure
    obtain ⟨hlater, hstays, hsettled⟩ := hcall r hr before after hkeeps hcalled
    exact ⟨hlater, hstays, fun _ => hsettled⟩
  have hstart : always () before := hkeeps
  obtain ⟨⟨_, hlater⟩, hsettled⟩ := eachWith_settles hstep hstart
    (fun id hid => absurd hid List.not_mem_nil) hrun
  exact ⟨hlater, hsettled⟩

end Action

/-- The resources were taken from the listing of a type; filters may have annotated them since. -/
def Cloud.Lists (cloud : Cloud) (type : ResourceType) (batch : List Resource) : Prop :=
  ∀ s ∈ batch, ∃ r ∈ cloud.resources type, s.Reflects r

/-- What a filter keeps of a new listing. -/
def Filter.onListing (filter : Filter) (context : RunContext) (type : ResourceType) :
    CloudM (List Resource) :=
  Cloud.list type >>= filter.process context

theorem Filter.JudgesBy.answers_onListing {filter : Filter} {context : RunContext} {cloud : Cloud}
    {fields annotations : List String} {judge : Resource → Option Resource}
    (hjudge : filter.JudgesBy context cloud fields annotations judge)
    (hfailures : cloud.failures = []) (type : ResourceType) :
    Answers cloud (filter.onListing context type) (.ok ((cloud.resources type).filterMap judge)) :=
  (Cloud.answers_list hfailures type).bind (hjudge.answers context.schedule _)

/-! ### Operations that succeed -/

namespace Cloud

variable {service operation target : String} {before after : Cloud}

theorem of_run_ask {α : Type} {answer : Cloud → α} {a : α}
    (h : (do enter service operation target; return answer (← get) : CloudM α).run before =
      (.ok a, after)) :
    after = before.record service operation target ∧ a = answer after := by
  have hasked := of_run_enter_bind h
  cases hasked
  exact ⟨rfl, rfl⟩

theorem of_run_updateRecord {type : ResourceType} {f : Resource → Resource} {u : Unit}
    (h : (updateRecord service operation type target f).run before = (.ok u, after)) :
    after = (before.record service operation target).setResources type
      (updateFirst (·.id = target) f (before.resources type)) := by
  obtain ⟨_, _, hget, hchange⟩ := Steps.of_run_bind_eq_ok (of_run_enter_bind h)
  cases hget
  dsimp only at hchange
  split at hchange
  next =>
    cases hchange
    rfl
  next => cases hchange

end Cloud

/-! ### Access logs -/

namespace Action

theorem isLogging_bound (r : Resource) {group stream : String}
    (hgroup : Text.trim group.toList ≠ []) (hstream : Text.trim stream.toList ≠ []) :
    Filter.isLogging ((r.set "log_group_id" (.string group)).set "log_topic_id" (.string stream))
      = true := by
  have hset {s : Resource} {key text : String} (htext : s.text? key = some text)
      (hsome : Text.trim text.toList ≠ []) : Filter.isSet s key = true := by
    simpa [Filter.isSet, htext] using hsome
  rw [Filter.isLogging, Bool.and_eq_true]
  refine ⟨hset ?_ hgroup, hset ?_ hstream⟩
  · rw [Resource.text?, Resource.get?_set_of_ne _ (by decide), Resource.get?_set_self]
    rfl
  · rw [Resource.text?, Resource.get?_set_self]
    rfl

/-- What it means that logging was enabled: log group and log stream were resolved first, and then
bound to one load balancer after the other. -/
theorem of_run_enableLogging {group stream : LogReference} {groupId streamId : String}
    {context : RunContext} {batch : List Resource} {cloud after : Cloud} {report : Report}
    (hgroup : group.resolve "log group" cloud.logGroups "log_group_id" "log_group_name" =
      .ok groupId)
    (hstream : stream.resolve "log stream" ((cloud.logStreams.get? groupId).getD [])
      "log_stream_id" "log_stream_name" = .ok streamId)
    (hbatch : batch ≠ [])
    (hrun : ((enableLogging group stream).process context batch).run cloud = (.ok report, after)) :
    ∃ looked, Cloud.LogsOnly cloud looked ∧ ((ofCall "enable-logging" fun r =>
      Cloud.bindAccessLog r.id groupId streamId).process context batch).run looked =
        (.ok report, after) := by
  rw [enableLogging] at hrun
  dsimp only at hrun
  rw [if_neg fun hempty => hbatch (List.isEmpty_iff.1 hempty)] at hrun
  obtain ⟨groups, afterGroups, hgroups, hrun⟩ := Steps.of_run_bind_eq_ok hrun
  obtain ⟨rfl, rfl⟩ := Cloud.of_run_ask hgroups
  obtain ⟨foundGroup, _, hfound, hrun⟩ := Steps.of_run_bind_eq_ok hrun
  obtain ⟨hfoundGroup, rfl⟩ := Cloud.of_run_ofExcept hfound
  cases hgroup.symm.trans hfoundGroup
  obtain ⟨streams, afterStreams, hstreams, hrun⟩ := Steps.of_run_bind_eq_ok hrun
  obtain ⟨rfl, rfl⟩ := Cloud.of_run_ask hstreams
  obtain ⟨foundStream, _, hfound, hrun⟩ := Steps.of_run_bind_eq_ok hrun
  obtain ⟨hfoundStream, rfl⟩ := Cloud.of_run_ofExcept hfound
  cases hstream.symm.trans hfoundStream
  exact ⟨_, trans_of Cloud.LogsOnly (cloud.logsOnly_record "lts" "list_log_groups" _)
    (Cloud.logsOnly_record _ "lts" "list_log_streams" groupId), hrun⟩

theorem bindAccessLog_settles {groupId streamId : String} {context : RunContext}
    {batch : List Resource} {cloud after : Cloud} {report : Report}
    (hgroupId : Text.trim groupId.toList ≠ []) (hstreamId : Text.trim streamId.toList ≠ [])
    (hfailures : cloud.failures = [])
    (hdistinct : ((cloud.resources .loadBalancer).map (·.id)).Nodup)
    (hrun : ((ofCall "enable-logging" fun r =>
      Cloud.bindAccessLog r.id groupId streamId).process context batch).run cloud =
        (.ok report, after)) :
    after.failures = [] ∧ ∀ id ∈ report.succeeded, ∀ r ∈ after.resources .loadBalancer,
      r.id = id → Filter.isLogging r = true := by
  let bind (r : Resource) : Resource :=
    (r.set "log_group_id" (.string groupId)).set "log_topic_id" (.string streamId)
  have hbind (r : Resource) : (bind r).id = r.id := by
    rw [Resource.id_set_of_ne _ (by decide), Resource.id_set_of_ne _ (by decide)]
  let keeps (cloud : Cloud) : Prop :=
    cloud.failures = [] ∧ ((cloud.resources .loadBalancer).map (·.id)).Nodup
  let settled (id : String) (cloud : Cloud) : Prop :=
    ∀ r ∈ cloud.resources .loadBalancer, r.id = id → Filter.isLogging r = true
  have hcall : ∀ r ∈ batch, ∀ before after, keeps before →
      (Cloud.bindAccessLog r.id groupId streamId).run before = (.ok (), after) →
      keeps after ∧ (∀ id, settled id before → settled id after) ∧ settled r.id after := by
    rintro r - before after ⟨hfailures, hdistinct⟩ hrun
    have hafter := Cloud.of_run_updateRecord hrun
    have hstored : after.resources .loadBalancer =
        updateFirst (·.id = r.id) bind (before.resources .loadBalancer) := by
      rw [hafter, Cloud.resources_setResources_self]
    have hlogging (s : Resource) (hs : s ∈ after.resources .loadBalancer) :
        Filter.isLogging s = true ∨ s ∈ before.resources .loadBalancer ∧ s.id ≠ r.id := by
      rw [hstored, updateFirst_eq_map r.id hdistinct] at hs
      obtain ⟨old, hold, rfl⟩ := List.mem_map.1 hs
      by_cases hid : old.id = r.id
      · rw [if_pos hid]
        exact .inl (isLogging_bound old hgroupId hstreamId)
      · rw [if_neg hid]
        exact .inr ⟨hold, hid⟩
    refine ⟨⟨?_, ?_⟩, ?_, ?_⟩
    · rw [hafter]
      exact hfailures
    · rw [hstored, map_updateFirst fun r _ => hbind r]
      exact hdistinct
    · intro id hsettled s hs hid
      rcases hlogging s hs with hlogs | ⟨hold, -⟩
      · exact hlogs
      · exact hsettled s hold hid
    · intro s hs hid
      rcases hlogging s hs with hlogs | ⟨-, hne⟩
      · exact hlogs
      · exact absurd hid hne
  obtain ⟨⟨hlater, -⟩, hsettled⟩ := ofCall_settles hcall ⟨hfailures, hdistinct⟩ hrun
  exact ⟨hlater, hsettled⟩

/-- Every load balancer that is reported as done logs its accesses. -/
theorem enableLogging_settles {group stream : LogReference} {groupId streamId : String}
    {context : RunContext} {batch : List Resource} {cloud after : Cloud} {report : Report}
    (hgroup : group.resolve "log group" cloud.logGroups "log_group_id" "log_group_name" =
      .ok groupId)
    (hstream : stream.resolve "log stream" ((cloud.logStreams.get? groupId).getD [])
      "log_stream_id" "log_stream_name" = .ok streamId)
    (hgroupId : Text.trim groupId.toList ≠ []) (hstreamId : Text.trim streamId.toList ≠ [])
    (hfailures : cloud.failures = [])
    (hdistinct : ((cloud.resources .loadBalancer).map (·.id)).Nodup)
    (hrun : ((enableLogging group stream).process context batch).run cloud = (.ok report, after)) :
    after.failures = [] ∧ ∀ id ∈ report.succeeded, ∀ r ∈ after.resources .loadBalancer,
      r.id = id → Filter.isLogging r = true := by
  by_cases hbatch : batch = []
  · subst hbatch
    cases hrun
    exact ⟨hfailures, fun id hid => absurd hid List.not_mem_nil⟩
  · obtain ⟨looked, hlogs, hcalls⟩ := of_run_enableLogging hgroup hstream hbatch hrun
    have hworks : looked.failures = [] := by
      obtain ⟨_, rfl⟩ := hlogs
      exact hfailures
    have hids : ((looked.resources .loadBalancer).map (·.id)).Nodup := by
      rw [hlogs.sameRecords]
      exact hdistinct
    exact bindAccessLog_settles hgroupId hstreamId hworks hids hcalls

/-! ### Transfer of access logs -/

theorem transferredStreams_append (transfers later : List Json) :
    Filter.transferredStreams (transfers ++ later) =
      Filter.transferredStreams transfers ++ Filter.transferredStreams later :=
  List.flatMap_append

theorem transferredStreams_transferJob (info : Json) (group stream : String) :
    Filter.transferredStreams [transferJob info group stream] = [stream] := by
  have hstreams : (transferJob info group stream).field? "log_streams" =
      some (.array [.obj [("log_stream_id", .string stream)]]) := by
    simp [transferJob, Json.field?_obj, StringMap.lookup]
  simp [Filter.transferredStreams, hstreams, Json.array?, Json.stringField?, Json.field?_obj,
    StringMap.lookup, Json.string?]

/-- What one step adds: at most one job, for the stream of a load balancer that logs. -/
theorem of_run_transferStep {info : Json} {created later : List String} {r : Resource}
    {result : Step} {before after : Cloud}
    (h : (transferStep info created r).run before = (.ok (result, later), after)) :
    after.failures = before.failures ∧ after.resources = before.resources ∧
      (∃ jobs, after.transfers = before.transfers ++ jobs ∧
        ∀ stream ∈ later, stream ∈ created ∨ stream ∈ Filter.transferredStreams jobs) ∧
      (result = .done → Filter.isLogging r = true ∧
        ∀ stream, r.text? "log_topic_id" = some stream → stream ∈ later) := by
  have hsame : ∃ jobs, before.transfers = before.transfers ++ jobs ∧
      ∀ stream ∈ created, stream ∈ created ∨ stream ∈ Filter.transferredStreams jobs :=
    ⟨[], (List.append_nil _).symm, fun _ => .inl⟩
  rw [transferStep] at h
  split at h
  next =>
    cases h
    refine ⟨rfl, rfl, hsame, fun hdone => ?_⟩
    cases hdone
  next hlogging =>
    have hlogging : Filter.isLogging r = true := by simpa using hlogging
    dsimp only at h
    split at h
    next hcreated =>
      cases h
      refine ⟨rfl, rfl, hsame, fun _ => ⟨hlogging, fun stream hstream => ?_⟩⟩
      rwa [hstream] at hcreated
    next =>
      obtain ⟨_, _, hcreate, hpure⟩ := Steps.of_run_bind_eq_ok h
      cases hpure
      have hafter := Cloud.of_run_enter_bind hcreate
      cases hafter
      refine ⟨rfl, rfl, ⟨_, rfl, fun stream hstream => ?_⟩, fun _ => ⟨hlogging, ?_⟩⟩
      · rw [transferredStreams_transferJob]
        exact (List.mem_cons.1 hstream).symm.imp_right List.mem_singleton.2
      · intro stream hstream
        rw [hstream]
        exact List.mem_cons_self

/-- The stream of every load balancer that is reported as done is transferred. -/
theorem createTransfers_settles {info : Json} {context : RunContext} {batch : List Resource}
    {cloud after : Cloud} {report : Report} (hbatch : cloud.Lists .loadBalancer batch)
    (hfailures : cloud.failures = [])
    (hrun : ((createTransfers info).process context batch).run cloud = (.ok report, after)) :
    after.failures = [] ∧ ∀ id ∈ report.succeeded, ∃ r ∈ after.resources .loadBalancer,
      r.id = id ∧ Filter.isTransferred after r = true := by
  let keeps (created : List String) (now : Cloud) : Prop :=
    now.failures = [] ∧ now.resources = cloud.resources ∧
      ∀ stream ∈ created, stream ∈ Filter.transferredStreams now.transfers
  let settled (id : String) (now : Cloud) : Prop :=
    ∃ r ∈ cloud.resources .loadBalancer, r.id = id ∧ Filter.isTransferred now r = true
  have hstep : ∀ s ∈ batch, ∀ created before result later after, keeps created before →
      (transferStep info created s).run before = (.ok (result, later), after) →
      keeps later after ∧ (∀ id, settled id before → settled id after) ∧
        (result = .done → settled s.id after) := by
    rintro s hs created before result later after ⟨hfailures, hrecords, hcreated⟩ hrun
    obtain ⟨hworks, hstored, ⟨jobs, htransfers, hadded⟩, hdone⟩ := of_run_transferStep hrun
    have hstreams : Filter.transferredStreams after.transfers =
        Filter.transferredStreams before.transfers ++ Filter.transferredStreams jobs := by
      rw [htransfers, transferredStreams_append]
    have hlater : ∀ stream ∈ later, stream ∈ Filter.transferredStreams after.transfers := by
      intro stream hstream
      rw [hstreams, List.mem_append]
      exact (hadded stream hstream).imp_left (hcreated stream)
    refine ⟨⟨hworks.trans hfailures, hstored.trans hrecords, hlater⟩, ?_, fun hresult => ?_⟩
    · rintro id ⟨r, hr, hid, htransferred⟩
      refine ⟨r, hr, hid, ?_⟩
      rw [Filter.isTransferred, Bool.and_eq_true, Option.any_eq_true] at htransferred ⊢
      obtain ⟨hlogging, stream, htext, hstream⟩ := htransferred
      refine ⟨hlogging, stream, htext, decide_eq_true ?_⟩
      rw [hstreams]
      exact List.mem_append_left _ (of_decide_eq_true hstream)
    · obtain ⟨hlogging, hstream⟩ := hdone hresult
      obtain ⟨r, hr, hreflects⟩ := hbatch s hs
      have hgroup : s.text? "log_group_id" = r.text? "log_group_id" :=
        hreflects.text?_eq (by decide)
      have htopic : s.text? "log_topic_id" = r.text? "log_topic_id" :=
        hreflects.text?_eq (by decide)
      refine ⟨r, hr, hreflects.id_eq.symm, ?_⟩
      rw [Filter.isLogging, Filter.isSet, Filter.isSet, hgroup, htopic] at hlogging
      rw [Filter.isTransferred, Bool.and_eq_true, Option.any_eq_true]
      refine ⟨hlogging, ?_⟩
      obtain ⟨stream, htext, -⟩ := (Option.any_eq_true ..).1 (Bool.and_eq_true_iff.1 hlogging).2
      exact ⟨stream, htext, decide_eq_true (hlater stream (hstream stream (htopic.trans htext)))⟩
  have hstart : keeps [] cloud := ⟨hfailures, rfl, fun _ h => absurd h List.not_mem_nil⟩
  obtain ⟨⟨_, hworks, hrecords, -⟩, hsettled⟩ := eachWith_settles hstep hstart
    (fun id hid => absurd hid List.not_mem_nil) hrun
  rw [hrecords]
  exact ⟨hworks, hsettled⟩

/-! ### Redirection to HTTPS -/

theorem redirects_append_left {target : RedirectTarget} {policies : List Json}
    {listeners : List Resource} (h : Filter.redirects target policies listeners = true)
    (later : List Json) : Filter.redirects target (policies ++ later) listeners = true := by
  rw [Filter.redirects] at h ⊢
  rw [List.any_append, h, Bool.true_or]

/-- What the creation of a policy adds: it redirects the listener to the other one, and no other
listener has a new policy. -/
theorem of_run_createRedirectPolicy {listener redirect : String} {before after : Cloud} {u : Unit}
    (h : (Cloud.createRedirectPolicy listener redirect).run before = (.ok u, after)) :
    after.failures = before.failures ∧ after.resources = before.resources ∧
      (∀ other, ∃ policies, after.forwardingPoliciesOf other =
        before.forwardingPoliciesOf other ++ policies) ∧
      ∃ policy ∈ after.forwardingPoliciesOf listener,
        policy.stringField? "action" = some Filter.redirectAction ∧
        policy.stringField? "redirect_listener_id" = some redirect := by
  have hafter := Cloud.of_run_enter_bind h
  cases hafter
  refine ⟨rfl, rfl, fun other => ?_, ?_⟩
  · rw [Cloud.forwardingPoliciesOf, StringMap.get?_insert]
    by_cases hother : other = listener
    · rw [if_pos hother, hother]
      exact ⟨_, rfl⟩
    · rw [if_neg hother]
      exact ⟨[], (List.append_nil _).symm⟩
  · rw [Cloud.forwardingPoliciesOf, StringMap.get?_insert_self]
    refine ⟨_, List.mem_append_right _ List.mem_cons_self, ?_, ?_⟩
    all_goals
      simp [Json.stringField?, Json.field?_obj, StringMap.lookup, Json.string?,
        Filter.redirectAction]

/-- A step looks listeners up at most, or redirects an HTTP listener to one that the target
accepts. -/
theorem of_run_redirectStep {target : RedirectTarget} {listeners later : Option (List Resource)}
    {r : Resource} {result : Step} {before after : Cloud}
    (hlisteners : ∀ known, listeners = some known → known = before.resources .listener)
    (h : (redirectStep target listeners r).run before = (.ok (result, later), after)) :
    (∀ known, later = some known → known = before.resources .listener) ∧
      (result ≠ .done ∧ Cloud.LogsOnly before after ∨
        r.text? "protocol" = some "HTTP" ∧ ∃ redirect ∈ before.resources .listener,
          target.accepts redirect = true ∧ ∃ reached, Cloud.LogsOnly before reached ∧
            (Cloud.createRedirectPolicy r.id redirect.id).run reached = (.ok (), after)) := by
  unfold redirectStep at h
  extract_lets redirectAmong at h
  split at h
  next =>
    cases h
    exact ⟨hlisteners, .inl ⟨nofun, refl_of Cloud.LogsOnly _⟩⟩
  next hprotocol =>
    obtain ⟨reached, hlogs, hredirect⟩ : ∃ reached, Cloud.LogsOnly before reached ∧
        (redirectAmong (before.resources .listener)).run reached =
          (.ok (result, later), after) := by
      cases listeners with
      | some known =>
          rw [← hlisteners known rfl]
          exact ⟨before, refl_of Cloud.LogsOnly before, h⟩
      | none =>
          obtain ⟨known, reached, hknown, hredirect⟩ := Steps.of_run_bind_eq_ok h
          obtain ⟨rfl, rfl⟩ := Cloud.of_run_ask hknown
          exact ⟨_, Cloud.logsOnly_record .., hredirect⟩
    dsimp only [redirectAmong] at hredirect
    split at hredirect
    next =>
      cases hredirect
      exact ⟨fun _ h => (Option.some.inj h).symm, .inl ⟨nofun, hlogs⟩⟩
    next redirect hfound =>
      obtain ⟨_, _, hcreate, hpure⟩ := Steps.of_run_bind_eq_ok hredirect
      cases hpure
      exact ⟨fun _ h => (Option.some.inj h).symm, .inr ⟨not_not.1 hprotocol, redirect,
        List.mem_of_find?_eq_some hfound, List.find?_some hfound, reached, hlogs, hcreate⟩⟩

/-- Every listener that is reported as done redirects to one that the target accepts. -/
theorem redirectToHttps_settles {target : RedirectTarget} {context : RunContext}
    {batch : List Resource} {cloud after : Cloud} {report : Report}
    (hbatch : cloud.Lists .listener batch) (hfailures : cloud.failures = [])
    (hdistinct : ((cloud.resources .listener).map (·.id)).Nodup)
    (hrun : ((redirectToHttps target).process context batch).run cloud = (.ok report, after)) :
    after.failures = [] ∧ ∀ id ∈ report.succeeded, ∃ r ∈ after.resources .listener,
      r.id = id ∧ Filter.isRedirecting after target r = true := by
  let keeps (listeners : Option (List Resource)) (now : Cloud) : Prop :=
    now.failures = [] ∧ now.resources = cloud.resources ∧
      ∀ known, listeners = some known → known = now.resources .listener
  let settled (id : String) (now : Cloud) : Prop :=
    ∃ r ∈ cloud.resources .listener, r.id = id ∧ r.text? "protocol" = some "HTTP" ∧
      Filter.redirects target (now.forwardingPoliciesOf id) (cloud.resources .listener) = true
  have hstep : ∀ s ∈ batch, ∀ listeners before result later after, keeps listeners before →
      (redirectStep target listeners s).run before = (.ok (result, later), after) →
      keeps later after ∧ (∀ id, settled id before → settled id after) ∧
        (result = .done → settled s.id after) := by
    rintro s hs listeners before result later after ⟨hfailures, hrecords, hlisteners⟩ hrun
    obtain ⟨hlater, ⟨hresult, _, rfl⟩ | ⟨hprotocol, redirect, hredirect, haccepts, hcreate⟩⟩ :=
      of_run_redirectStep hlisteners hrun
    · exact ⟨⟨hfailures, hrecords, hlater⟩, fun _ h => h, fun hdone => absurd hdone hresult⟩
    · obtain ⟨reached, ⟨_, rfl⟩, hcreate⟩ := hcreate
      obtain ⟨hworks, hstored, hpolicies, policy, hpolicy, haction, hpoints⟩ :=
        of_run_createRedirectPolicy hcreate
      have hlater' : ∀ known, later = some known → known = after.resources .listener := by
        rw [hstored]
        exact hlater
      refine ⟨⟨hworks.trans hfailures, hstored.trans hrecords, hlater'⟩, ?_, fun _ => ?_⟩
      · rintro id ⟨r, hr, hid, hhttp, hredirects⟩
        obtain ⟨policies, hadded⟩ := hpolicies id
        refine ⟨r, hr, hid, hhttp, ?_⟩
        rw [hadded]
        exact redirects_append_left hredirects policies
      · obtain ⟨r, hr, hreflects⟩ := hbatch s hs
        rw [hrecords] at hredirect
        refine ⟨r, hr, hreflects.id_eq.symm, ?_, List.any_eq_true.2 ⟨policy, hpolicy, ?_⟩⟩
        · rw [← hreflects.text?_eq (by decide)]
          exact hprotocol
        · rw [haction, hpoints, Option.bind_some, Cloud.find?_id hdistinct hredirect, Option.any_some,
            haccepts]
          rfl
  have hstart : keeps none cloud := ⟨hfailures, rfl, nofun⟩
  obtain ⟨⟨_, hworks, hrecords, -⟩, hsettled⟩ := eachWith_settles hstep hstart
    (fun id hid => absurd hid List.not_mem_nil) hrun
  refine ⟨hworks, fun id hid => ?_⟩
  obtain ⟨r, hr, rfl, hhttp, hredirects⟩ := hsettled id hid
  rw [hrecords]
  refine ⟨r, hr, rfl, ?_⟩
  rw [Filter.isRedirecting, hrecords, hhttp, hredirects]
  rfl

end Action

/-! ### Actions and filters from blocks -/

theorem RedirectTarget.ofBlock_congr {block other : Json}
    (h : ∀ key ∈ ["id", "name", "port"], other.field? key = block.field? key) :
    ofBlock other = ofBlock block := by
  have hid := h "id" (by decide)
  have hname := h "name" (by decide)
  have hport := h "port" (by decide)
  simp only [ofBlock, Json.someTextOption?, Json.stringField?, Json.numberOption?, hid, hname,
    hport]

/-- The options of the block resolve to the log group and the log stream. -/
structure Cloud.Resolves (cloud : Cloud) (block : Json) (group stream : String) : Prop where
  groupFound : ∃ reference, LogReference.ofBlock? block "log_group_id" "log_group_name" = some reference
    ∧ reference.resolve "log group" cloud.logGroups "log_group_id" "log_group_name" = .ok group
  streamFound : ∃ reference,
    LogReference.ofBlock? block "log_topic_id" "log_topic_name" = some reference ∧
      reference.resolve "log stream" ((cloud.logStreams.get? group).getD [])
        "log_stream_id" "log_stream_name" = .ok stream

theorem ActionKind.eq_of_build_enableLogging {block : Json} {build : BuildContext} {action : Action}
    (hbuild : enableLogging.build block build = .ok action) {group stream : LogReference}
    (hgroup : LogReference.ofBlock? block "log_group_id" "log_group_name" = some group)
    (hstream : LogReference.ofBlock? block "log_topic_id" "log_topic_name" = some stream) :
    action = .enableLogging group stream := by
  obtain ⟨_, hrequired, hbuild⟩ := Steps.of_bind_eq_ok hbuild
  rw [hgroup] at hrequired
  cases hrequired
  obtain ⟨_, hrequired, hbuild⟩ := Steps.of_bind_eq_ok hbuild
  rw [hstream] at hrequired
  cases hrequired
  cases hbuild
  rfl

/-- Run on resources that were listed, the action leaves a cloud in which the filter, run on a new
listing, keeps all that was reported as done, or none of it. -/
def Action.Shows (action : Action) (filter : Filter) (type : ResourceType) (cloud : Cloud)
    (expected : Bool) : Prop :=
  ∀ (context later : RunContext) (batch : List Resource) (report : Report) (after : Cloud),
    cloud.Lists type batch → (action.process context batch).run cloud = (.ok report, after) →
    ∃ kept, Answers after (filter.onListing later type) (.ok kept) ∧
      ∀ id ∈ report.succeeded, (id ∈ kept.map (·.id) ↔ expected = true)

theorem Filter.JudgesBy.exists_kept {filter : Filter} {later : RunContext} {after : Cloud}
    {test : Resource → Bool} (hjudge : filter.JudgesBy later after [] [] (Option.guard test))
    (hworks : after.failures = []) (type : ResourceType) :
    ∃ kept, Answers after (filter.onListing later type) (.ok kept) ∧
      ∀ id, id ∈ kept.map (·.id) ↔ ∃ r ∈ after.resources type, r.id = id ∧ test r = true := by
  refine ⟨_, hjudge.answers_onListing hworks type, fun id => ?_⟩
  rw [List.filterMap_eq_filter, List.mem_map]
  refine exists_congr fun r => ?_
  rw [List.mem_filter, and_assoc, and_comm (a := test r = true)]

theorem Action.Shows.of_listing {action : Action} {filter : Filter} {type : ResourceType}
    {cloud : Cloud} {expected : Bool} (hshows : action.Shows filter type cloud expected)
    (context : RunContext) (ids : List String)
    (hids : ((action.process context (cloud.resources type)).run cloud).1.toOption.map
      (·.succeeded) = some ids) :
    ∃ kept, Answers ((action.process context (cloud.resources type)).run cloud).2
      (filter.onListing context type) (.ok kept) ∧
      ∀ id ∈ ids, (id ∈ kept.map (·.id) ↔ expected = true) := by
  obtain ⟨report, hreport, rfl⟩ := Option.map_eq_some_iff.1 hids
  exact hshows context context _ report _ (fun r hr => ⟨r, hr, refl_of Resource.Reflects r⟩)
    (Steps.eq_ok_of_fst (Steps.eq_ok_of_toOption hreport))

/-- **Remediations clear their findings.** In a cloud with distinct records and without injected
failures: what enabling access logs reports as done, with a log group and a log stream that are not
blank, is not among the load balancers without logging; what a transfer of log streams reports as
done is among those whose stream is transferred; and what a redirection reports as done is among the
listeners that redirect to a listener with the same identifier, name and port. -/
theorem remediations_clear_findings (cloud : Cloud) (hfailures : cloud.failures = [])
    (hdistinct : ∀ type, ((cloud.resources type).map (·.id)).Nodup)
    (actionBlock filterBlock : Json) (actionBuild filterBuild : BuildContext) (action : Action)
    (filter : Filter) :
    (ActionKind.enableLogging.build actionBlock actionBuild = .ok action →
      FilterKind.isNotLogging.build filterBlock filterBuild = .ok filter →
      (∃ group stream, cloud.Resolves actionBlock group stream ∧
        Text.trim group.toList ≠ [] ∧ Text.trim stream.toList ≠ []) →
      action.Shows filter .loadBalancer cloud false) ∧
    (ActionKind.createLogTransfer.build actionBlock actionBuild = .ok action →
      FilterKind.isTransferred.build filterBlock filterBuild = .ok filter →
      action.Shows filter .loadBalancer cloud true) ∧
    (ActionKind.redirectToHttps.build actionBlock actionBuild = .ok action →
      FilterKind.redirectsToHttps.build filterBlock filterBuild = .ok filter →
      (∀ key ∈ ["id", "name", "port"], filterBlock.field? key = actionBlock.field? key) →
      action.Shows filter .listener cloud true) := by
  refine ⟨?_, ?_, ?_⟩
  · rintro hbuild hfilter ⟨groupId, streamId, ⟨⟨group, hgroup, hgroupId⟩, stream, hstream,
      hstreamId⟩, hgroupSet, hstreamSet⟩ context later batch report after - hrun
    cases hfilter
    cases ActionKind.eq_of_build_enableLogging hbuild hgroup hstream
    obtain ⟨hworks, hlogging⟩ := Action.enableLogging_settles hgroupId hstreamId hgroupSet
      hstreamSet hfailures (hdistinct _) hrun
    have hjudge : (Filter.logging "is-not-logging" false).JudgesBy later after [] []
        (Option.guard fun r => Filter.isLogging r == false) :=
      Filter.ofTest_judges _ fun _ => rfl
    obtain ⟨kept, hkept, hids⟩ := hjudge.exists_kept hworks .loadBalancer
    refine ⟨kept, hkept, fun id hid => iff_of_false (fun hmem => ?_) nofun⟩
    obtain ⟨r, hr, hrid, hnot⟩ := (hids id).1 hmem
    rw [hlogging id hid r hr hrid] at hnot
    cases hnot
  · intro hbuild hfilter context later batch report after hbatch hrun
    cases hfilter
    obtain ⟨bucket, -, hbuild⟩ := Steps.of_bind_eq_ok hbuild
    cases hbuild
    obtain ⟨hworks, htransferred⟩ := Action.createTransfers_settles hbatch hfailures hrun
    obtain ⟨kept, hkept, hids⟩ :=
      (Filter.transferred_judges hworks true).exists_kept hworks .loadBalancer
    refine ⟨kept, hkept, fun id hid => iff_of_true ((hids id).2 ?_) rfl⟩
    obtain ⟨r, hr, hrid, hfound⟩ := htransferred id hid
    exact ⟨r, hr, hrid, beq_iff_eq.2 hfound⟩
  · intro hbuild hfilter hoptions context later batch report after hbatch hrun
    cases hfilter
    cases hbuild
    rw [RedirectTarget.ofBlock_congr hoptions]
    obtain ⟨hworks, hredirecting⟩ :=
      Action.redirectToHttps_settles hbatch hfailures (hdistinct _) hrun
    obtain ⟨kept, hkept, hids⟩ := (Filter.redirecting_judges hworks _).exists_kept hworks .listener
    exact ⟨kept, hkept, fun id hid => iff_of_true ((hids id).2 (hredirecting id hid)) rfl⟩

/-- Logging is enabled for two load balancers, the stream of one that logs is transferred, and a
listener is redirected. -/
theorem three_remediations_clear_findings :
    let record (fields : List (String × Json)) : Resource := .ofRecord (.obj fields)
    let balancers := [record [("id", .string "lb-1")], record [("id", .string "lb-2"),
      ("log_group_id", .string "g-1"), ("log_topic_id", .string "s-1")]]
    let listeners := [record [("id", .string "l-1"), ("protocol", .string "HTTP")],
      record [("id", .string "l-2"), ("protocol", .string "HTTPS")]]
    let cloud : Cloud :=
      { (({} : Cloud).setResources .loadBalancer balancers).setResources .listener listeners with
        logGroups := [.obj [("log_group_id", .string "g-1"), ("log_group_name", .string "audit")]]
        logStreams := .ofList [("g-1", [.obj [("log_stream_id", .string "s-1"),
          ("log_stream_name", .string "access")]])] }
    let logging : Json := .obj [("type", .string "enable-logging"),
      ("log_group_name", .string "audit"), ("log_topic_name", .string "access")]
    let transfer : Json := .obj [("type", .string "create-lts-log-transfer"),
      ("obs_bucket_name", .string "logs")]
    let redirect : Json := .obj [("type", .string "redirect-to-https-listener"),
      ("id", .string "l-2")]
    let asked : Json := .obj [("type", .string "is-redirect-to-https-listener"),
      ("id", .string "l-2")]
    let ends (action : Action) (type : ResourceType) : Cloud :=
      ((action.process default (cloud.resources type)).run cloud).2
    ∃ enabling transferring redirecting silent transferred redirected,
      ActionKind.enableLogging.build logging default = .ok enabling ∧
      ActionKind.createLogTransfer.build transfer default = .ok transferring ∧
      ActionKind.redirectToHttps.build redirect default = .ok redirecting ∧
      FilterKind.isNotLogging.build .null default = .ok silent ∧
      FilterKind.isTransferred.build .null default = .ok transferred ∧
      FilterKind.redirectsToHttps.build asked default = .ok redirected ∧
      (∃ kept, Answers (ends enabling .loadBalancer) (silent.onListing default .loadBalancer)
        (.ok kept) ∧ "lb-1" ∉ kept.map (·.id)) ∧
      (∃ kept, Answers (ends transferring .loadBalancer)
        (transferred.onListing default .loadBalancer) (.ok kept) ∧ "lb-2" ∈ kept.map (·.id)) ∧
      ∃ kept, Answers (ends redirecting .listener) (redirected.onListing default .listener)
        (.ok kept) ∧ "l-1" ∈ kept.map (·.id) := by
  intro record balancers listeners cloud logging transfer redirect asked ends
  have hdistinct (type : ResourceType) : ((cloud.resources type).map (·.id)).Nodup := by
    cases type <;> decide +kernel
  have hresolves : cloud.Resolves logging "g-1" "s-1" :=
    ⟨⟨⟨none, some "audit"⟩, by decide +kernel, Steps.eq_ok_of_toOption (by decide +kernel)⟩,
      ⟨none, some "access"⟩, by decide +kernel, Steps.eq_ok_of_toOption (by decide +kernel)⟩
  have hoptions : ∀ key ∈ ["id", "name", "port"], asked.field? key = redirect.field? key := by
    simp [asked, redirect, Json.field?_obj, StringMap.lookup]
  have hclears := remediations_clear_findings cloud rfl hdistinct
  have henabled := (hclears logging .null default default _ _).1 rfl rfl
    ⟨"g-1", "s-1", hresolves, by decide, by decide⟩
  have htransferred := (hclears transfer .null default default _ _).2.1 rfl rfl
  have hredirected := (hclears redirect asked default default _ _).2.2 rfl rfl hoptions
  obtain ⟨silent, hsilent, hnone⟩ :=
    henabled.of_listing default ["lb-1", "lb-2"] (by decide +kernel)
  obtain ⟨transferred, htransferred, hsome⟩ :=
    htransferred.of_listing default ["lb-2"] (by decide +kernel)
  obtain ⟨redirected, hredirected, hother⟩ :=
    hredirected.of_listing default ["l-1"] (by decide +kernel)
  refine ⟨_, _, _, _, _, _, rfl, rfl, rfl, rfl, rfl, rfl, ⟨silent, hsilent, ?_⟩,
    ⟨transferred, htransferred, ?_⟩, redirected, hredirected, ?_⟩
  · intro hmem
    have hfound := (hnone "lb-1" (by decide)).1 hmem
    cases hfound
  · exact (hsome "lb-2" (by decide)).2 rfl
  · exact (hother "l-1" (by decide)).2 rfl

end CloudPolicy
