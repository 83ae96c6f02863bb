import Mathlib.Data.List.Forall2
import CloudPolicy.Policy.Registry
import CloudPolicy.Proofs.Compiled
import CloudPolicy.Proofs.Maps
import CloudPolicy.Proofs.PlannedChanges

/-! The transfer jobs for the access logs of load balancers. The loop over a batch remembers the log
streams that it has created a job for, so that load balancers which log to the same stream share the
job that was created for the first of them. -/

namespace CloudPolicy

/-- The cloud with new jobs. Each is created by a call that names its log group. -/
def Cloud.addTransfers (cloud : Cloud) (jobs : List Json) : Cloud :=
  { cloud with
    transfers := cloud.transfers ++ jobs
    calls := cloud.calls ++ jobs.map fun job =>
      ⟨"lts", "create_transfer", (job.stringField? "log_group_id").getD ""⟩ }

namespace Cloud

theorem addTransfers_nil (cloud : Cloud) : cloud.addTransfers [] = cloud := by
  rw [addTransfers, List.map_nil, List.append_nil, List.append_nil]

theorem addTransfers_addTransfers (cloud : Cloud) (jobs later : List Json) :
    (cloud.addTransfers jobs).addTransfers later = cloud.addTransfers (jobs ++ later) := by
  simp only [addTransfers, List.map_append, List.append_assoc]

theorem run_createTransfer {cloud : Cloud} (hfailures : cloud.failures = []) (job : Json) :
    (createTransfer job).run cloud = (.ok (), cloud.addTransfers [job]) := by
  rw [createTransfer, run_enter_bind_of_works hfailures]
  rfl

end Cloud

namespace Action

/-! ### The jobs of a batch -/

/-- The log streams of load balancers, each where it occurs first. -/
def streamsOf (balancers : List Resource) : List String :=
  (balancers.filterMap (·.text? "log_topic_id")).eraseDups

/-- The first load balancer that logs to a stream. -/
def firstOf? (balancers : List Resource) (stream : String) : Option Resource :=
  balancers.find? (·.text? "log_topic_id" = some stream)

/-- The job for a stream. -/
def jobFor (info : Json) (balancers : List Resource) (stream : String) : Json :=
  transferJob info (((firstOf? balancers stream).bind (·.text? "log_group_id")).getD "") stream

/-- The jobs for the streams that have none yet. -/
def missingJobs (info : Json) (created : List String) (balancers : List Resource) : List Json :=
  ((streamsOf balancers).filter (· ∉ created)).map (jobFor info balancers)

variable {info : Json} {r : Resource} {rest : List Resource} {stream group : String}
  {created : List String}

theorem streamsOf_cons (hstream : r.text? "log_topic_id" = some stream) (rest : List Resource) :
    streamsOf (r :: rest) = stream :: (streamsOf rest).filter (fun other => !other == stream) := by
  have hstreams : (r :: rest).filterMap (fun s => s.text? "log_topic_id") =
      stream :: rest.filterMap (fun s => s.text? "log_topic_id") :=
    List.filterMap_cons_some hstream
  rw [streamsOf, hstreams, List.eraseDups_cons, eraseDups_filter]
  rfl

theorem jobFor_cons_self (hstream : r.text? "log_topic_id" = some stream)
    (hgroup : r.text? "log_group_id" = some group) :
    jobFor info (r :: rest) stream = transferJob info group stream := by
  have hfirst : firstOf? (r :: rest) stream = some r :=
    List.find?_cons_of_pos (decide_eq_true hstream)
  rw [jobFor, hfirst, Option.bind_some, hgroup]
  rfl

theorem jobFor_cons_of_ne (hstream : r.text? "log_topic_id" ≠ some stream) :
    jobFor info (r :: rest) stream = jobFor info rest stream := by
  have hfirst : firstOf? (r :: rest) stream = firstOf? rest stream :=
    List.find?_cons_of_neg (by simpa using hstream)
  rw [jobFor, hfirst]
  rfl

/-- The jobs for further streams are those of the load balancers that follow. -/
theorem map_jobFor_cons (hstream : r.text? "log_topic_id" = some stream)
    {streams : List String} (hother : stream ∉ streams) :
    streams.map (jobFor info (r :: rest)) = streams.map (jobFor info rest) := by
  refine List.map_congr_left fun other hmem => jobFor_cons_of_ne fun hsame => hother ?_
  rwa [Option.some.inj (hstream.symm.trans hsame)]

theorem missingJobs_cons_of_mem (hstream : r.text? "log_topic_id" = some stream)
    (hcreated : stream ∈ created) :
    missingJobs info created (r :: rest) = missingJobs info created rest := by
  have hstreams : (streamsOf (r :: rest)).filter (· ∉ created) =
      (streamsOf rest).filter (· ∉ created) := by
    rw [streamsOf_cons hstream, List.filter_cons_of_neg (by simpa using hcreated),
      List.filter_filter]
    refine List.filter_congr fun other _ => ?_
    by_cases hother : other = stream
    · simp [hother, hcreated]
    · simp [hother]
  have hnone : stream ∉ (streamsOf rest).filter (· ∉ created) := by simp [hcreated]
  rw [missingJobs, hstreams, map_jobFor_cons hstream hnone, missingJobs]

theorem missingJobs_cons_of_not_mem (hstream : r.text? "log_topic_id" = some stream)
    (hgroup : r.text? "log_group_id" = some group) (hcreated : stream ∉ created) :
    missingJobs info created (r :: rest) =
      transferJob info group stream :: missingJobs info (stream :: created) rest := by
  have hstreams : (streamsOf (r :: rest)).filter (· ∉ created) =
      stream :: (streamsOf rest).filter (· ∉ stream :: created) := by
    rw [streamsOf_cons hstream, List.filter_cons_of_pos (by simpa using hcreated),
      List.filter_filter]
    refine congrArg (stream :: ·) (List.filter_congr fun other _ => ?_)
    by_cases hother : other = stream <;> simp [hother]
  have hnone : stream ∉ (streamsOf rest).filter (· ∉ stream :: created) := by simp
  rw [missingJobs, hstreams, List.map_cons, jobFor_cons_self hstream hgroup,
    map_jobFor_cons hstream hnone, missingJobs]

/-- A load balancer that logs has a log group and a log stream. -/
theorem exists_of_isLogging (h : Filter.isLogging r = true) :
    (∃ group, r.text? "log_group_id" = some group) ∧
      ∃ stream, r.text? "log_topic_id" = some stream := by
  rw [Filter.isLogging, Bool.and_eq_true, Filter.isSet, Filter.isSet, Option.any_eq_true,
    Option.any_eq_true] at h
  obtain ⟨⟨group, hgroup, -⟩, stream, hstream, -⟩ := h
  exact ⟨⟨group, hgroup⟩, stream, hstream⟩

/-! ### The loop -/

/-- What is reported of a load balancer. -/
def transferVerdict (r : Resource) : Step :=
  if Filter.isLogging r then .done else .refused "access logging is not enabled"

variable {cloud : Cloud} (hfailures : cloud.failures = [])

include hfailures

theorem run_transferStep (info : Json) (created : List String) (hlogging : Filter.isLogging r = true)
    (hstream : r.text? "log_topic_id" = some stream)
    (hgroup : r.text? "log_group_id" = some group) :
    (transferStep info created r).run cloud =
      if stream ∈ created then (.ok (.done, created), cloud)
      else (.ok (.done, stream :: created), cloud.addTransfers [transferJob info group stream]) := by
  rw [transferStep, hlogging, hstream, hgroup]
  simp only [Bool.not_true, Bool.false_eq_true, if_false, Option.getD_some]
  split
  next => rfl
  next => exact Steps.run_bind_of_ok (Cloud.run_createTransfer hfailures _)

/-- Of the load balancers in a batch that log, those whose stream has no job yet get one. -/
theorem run_createTransfers (info : Json) (created : List String) (report : Report)
    (batch : List Resource) :
    (eachWith (transferStep info) created report batch).run cloud =
      (.ok (report.addAll transferVerdict batch), cloud.addTransfers
        (missingJobs info created (batch.filter Filter.isLogging))) := by
  induction batch generalizing cloud created report with
  | nil =>
      show (Except.ok report, cloud) = (Except.ok report, cloud.addTransfers [])
      rw [Cloud.addTransfers_nil]
  | cons r rest ih =>
      rw [eachWith, Report.addAll, List.foldl_cons, ← Report.addAll, List.filter_cons]
      -- The first one is refused, shares the job of a load balancer before it, or gets its own.
      by_cases hlogging : Filter.isLogging r = true
      · obtain ⟨⟨group, hgroup⟩, stream, hstream⟩ := exists_of_isLogging hlogging
        have hstep := run_transferStep hfailures info created hlogging hstream hgroup
        rw [if_pos hlogging, transferVerdict, if_pos hlogging]
        split at hstep
        next hcreated =>
          rw [Steps.run_bind_of_ok hstep, missingJobs_cons_of_mem hstream hcreated]
          exact ih hfailures created _
        next hcreated =>
          have hjobs : cloud.addTransfers
              (missingJobs info created (r :: rest.filter Filter.isLogging)) =
              (cloud.addTransfers [transferJob info group stream]).addTransfers
                (missingJobs info (stream :: created) (rest.filter Filter.isLogging)) := by
            rw [missingJobs_cons_of_not_mem hstream hgroup hcreated,
              Cloud.addTransfers_addTransfers, List.singleton_append]
          have hworks : (cloud.addTransfers [transferJob info group stream]).failures = [] :=
            hfailures
          rw [Steps.run_bind_of_ok hstep, hjobs]
          exact ih hworks (stream :: created) _
      · have hstep : (transferStep info created r).run cloud =
            (.ok (.refused "access logging is not enabled", created), cloud) := by
          rw [transferStep, if_pos (by simpa using hlogging)]
          rfl
        rw [if_neg hlogging, transferVerdict, if_neg hlogging, Steps.run_bind_of_ok hstep]
        exact ih hfailures created _

omit hfailures

/-! ### The action -/

/-- **One job per log stream.** Where no call fails the action comes to its end. It adds one job for
each log stream of the load balancers that log, in the order in which the streams occur first, and
with the log group of the load balancer that a stream occurs first on; nothing else of the cloud
changes but for the calls. The load balancers that do not log are reported as failed, all others as
handled. -/
theorem one_transfer_per_stream {block : Json} {build : BuildContext} {action : Action}
    (hbuild : ActionKind.createLogTransfer.build block build = .ok action)
    (hfailures : cloud.failures = []) (context : RunContext) (batch : List Resource) :
    let loggers := batch.filter Filter.isLogging
    ∃ bucket jobs report, block.someTextOption? "obs_bucket_name" = some bucket ∧
      (action.process context batch).run cloud = (.ok report, cloud.addTransfers jobs) ∧
      List.Forall₂ (fun stream job => ∃ r group, firstOf? loggers stream = some r ∧
        r.text? "log_group_id" = some group ∧
        job = transferJob (transferInfo block bucket) group stream) (streamsOf loggers) jobs ∧
      report.succeeded = loggers.map (·.id) ∧
      report.failed = (batch.filter (!Filter.isLogging ·)).map fun r =>
        ⟨r.id, "access logging is not enabled"⟩ := by
  intro loggers
  obtain ⟨bucket, hbucket, haction⟩ := Steps.of_bind_eq_ok hbuild
  cases haction
  have hstreams : (streamsOf loggers).filter (· ∉ []) = streamsOf loggers :=
    List.filter_eq_self.2 fun _ _ => decide_eq_true List.not_mem_nil
  refine ⟨bucket, _, _, BuildContext.eq_some_of_require hbucket,
    run_createTransfers hfailures _ [] _ batch, ?_, ?_, ?_⟩
  · rw [missingJobs, hstreams, List.forall₂_map_right_iff, List.forall₂_same]
    intro stream hstream
    rw [streamsOf, List.mem_eraseDups, List.mem_filterMap] at hstream
    obtain ⟨s, hs, htext⟩ := hstream
    have hfirst : (firstOf? loggers stream).isSome = true :=
      List.find?_isSome.2 ⟨s, hs, decide_eq_true htext⟩
    obtain ⟨r, hr⟩ := Option.isSome_iff_exists.1 hfirst
    have hlogging : Filter.isLogging r = true :=
      (List.mem_filter.1 (List.mem_of_find?_eq_some hr)).2
    obtain ⟨⟨group, hgroup⟩, -⟩ := exists_of_isLogging hlogging
    refine ⟨r, group, hr, hgroup, ?_⟩
    rw [jobFor, hr, Option.bind_some, hgroup]
    rfl
  · rw [Report.succeeded_addAll]
    refine congrArg (List.map _) (List.filter_congr fun r _ => ?_)
    cases hlogging : Filter.isLogging r <;> simp [transferVerdict, hlogging]
  · rw [Report.failed_addAll, ← List.filterMap_eq_map, List.filterMap_filter]
    refine congrArg (List.filterMap · batch) (funext fun r => ?_)
    cases hlogging : Filter.isLogging r <;> simp [transferVerdict, hlogging, Step.reason?]

/-- Two of the four load balancers log to one stream, under different log groups; the one that does
not log is refused. -/
theorem shared_stream_transferred_once :
    let balancer (id group stream : String) := Resource.ofRecord (.obj [("id", .string id),
      ("log_group_id", .string group), ("log_topic_id", .string stream)])
    let batch := [balancer "lb-1" "lg-1" "ls-1", balancer "lb-2" "" "ls-2",
      balancer "lb-3" "lg-2" "ls-1", balancer "lb-4" "lg-2" "ls-2"]
    let block := Json.obj [("type", .string "create-lts-log-transfer"),
      ("obs_bucket_name", .string "logs")]
    let info := transferInfo block "logs"
    ∃ action report after, ActionKind.createLogTransfer.build block default = .ok action ∧
      (action.process default batch).run {} = (.ok report, after) ∧
      after.transfers = [transferJob info "lg-1" "ls-1", transferJob info "lg-2" "ls-2"] ∧
      report.succeeded = ["lb-1", "lb-3", "lb-4"] ∧ report.failed.map (·.id) = ["lb-2"] := by
  intro balancer batch block info
  have hbuild : ActionKind.createLogTransfer.build block default = .ok (createTransfers info) := rfl
  obtain ⟨bucket, jobs, report, hbucket, hrun, hjobs, hsucceeded, hfailed⟩ :=
    one_transfer_per_stream hbuild (rfl : ({} : Cloud).failures = []) default batch
  cases (show block.someTextOption? "obs_bucket_name" = some "logs" by decide).symm.trans hbucket
  have hstreams : streamsOf (batch.filter Filter.isLogging) = ["ls-1", "ls-2"] := by decide +kernel
  have hgroup : ∀ stream r group, firstOf? (batch.filter Filter.isLogging) stream = some r →
      r.text? "log_group_id" = some group → (firstOf? (batch.filter Filter.isLogging) stream).bind
        (·.text? "log_group_id") = some group := fun stream r group hr hgroup => by
    rw [hr, Option.bind_some, hgroup]
  rw [hstreams] at hjobs
  obtain _ | ⟨⟨r, group, hr, htext, rfl⟩, _ | ⟨⟨s, other, hs, hother, rfl⟩, _ | _⟩⟩ := hjobs
  cases (hgroup _ _ _ hr htext).symm.trans (by decide +kernel : _ = some "lg-1")
  cases (hgroup _ _ _ hs hother).symm.trans (by decide +kernel : _ = some "lg-2")
  refine ⟨_, report, _, hbuild, hrun, rfl, ?_, ?_⟩
  · rw [hsucceeded]
    decide +kernel
  · rw [hfailed]
    decide +kernel

end Action

end CloudPolicy
