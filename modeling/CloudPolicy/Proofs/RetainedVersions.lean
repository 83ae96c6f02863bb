import CloudPolicy.Policy.Registry
import CloudPolicy.Proofs.Calendar
import CloudPolicy.Proofs.Effects
import CloudPolicy.Proofs.Lookups
import CloudPolicy.Proofs.Maps
import Mathlib.Data.List.Nodup
import Mathlib.Data.List.Pairwise

/-! Which versions of a function are left when its versions are trimmed. The action deletes the
versions one by one, and each deletion goes through the versions of all functions; where the
resource names of versions are distinct, it takes exactly the one version. -/

namespace CloudPolicy

namespace Binary64

/-- The seconds of so many days, a fraction of a second cut off. -/
def daySeconds (days : Binary64) : Int := (days.mul (.ofNat 86400)).toInt64

/-- The second instant is less than so many days before the first one, to the nanosecond. -/
def IsWithin (days : Binary64) (now earlier : Timestamp) : Prop :=
  ∃ units, days = finite false units ∧
    (now.sinceEpoch - earlier.sinceEpoch) * one < units * (86400 * Timestamp.second)

end Binary64

/-! ### Deleting versions -/

namespace Cloud

/-- The resource names of all versions of all functions. -/
def versionUrns (cloud : Cloud) : List String :=
  cloud.versions.values.flatMap fun records =>
    records.filterMap fun version => version.stringField? "func_urn"

/-- The version is addressed by one of the resource names. -/
def isNamedIn (urns : List String) (version : Json) : Bool :=
  urns.any fun urn => isVersion urn version

variable {cloud : Cloud}

theorem run_deleteFunction (hfailures : cloud.failures = []) (urn : String) :
    ∃ after, (deleteFunction urn).run cloud = (.ok (), after) ∧ after.failures = [] ∧
      after.versions =
        cloud.versions.map (·.filter fun version => !isVersion urn version) ∧
      after.resources = (cloud.setResources .function
        ((cloud.resources .function).filter fun r => !isFunction urn r)).resources := by
  unfold deleteFunction
  rw [run_enter_bind_of_works hfailures]
  exact ⟨_, rfl, hfailures, rfl, rfl⟩

/-- After some deletions, the versions are left that none of them addressed. -/
theorem run_forEach_deleteFunction (hfailures : cloud.failures = []) (urns : List String) :
    ∃ after, (Action.forEach deleteFunction urns).run cloud = (.ok (), after) ∧
      after.failures = [] ∧
      after.versions = cloud.versions.map (·.filter fun version => !isNamedIn urns version) := by
  induction urns generalizing cloud with
  | nil =>
      have hall (records : List Json) :
          records.filter (fun version => !isNamedIn [] version) = records :=
        List.filter_eq_self.2 (by simp [isNamedIn])
      refine ⟨cloud, rfl, hfailures, ?_⟩
      simp only [hall, StringMap.map, List.map_id']
  | cons urn urns ih =>
      obtain ⟨middle, hfirst, hmiddle, hversions, -⟩ := run_deleteFunction hfailures urn
      obtain ⟨after, hrest, hafter, hleft⟩ := ih hmiddle
      refine ⟨after, ?_, hafter, ?_⟩
      · rw [Action.forEach, Steps.run_bind_of_ok hfirst, hrest]
      · rw [hleft, hversions]
        unfold StringMap.map
        simp only [List.map_map, StringMap.mk.injEq]
        refine List.map_congr_left fun entry _ => congrArg (Prod.mk entry.1) ?_
        rw [List.filter_filter]
        refine List.filter_congr fun version _ => ?_
        have hboth : isNamedIn (urn :: urns) version =
            (isVersion urn version || isNamedIn urns version) := List.any_cons
        rw [hboth, Bool.not_or, Bool.and_comm]

/-- A version has its resource name to itself, in the list of its function and among the lists. -/
theorem eq_of_versionUrns_nodup (hdistinct : cloud.versionUrns.Nodup)
    {entry other : String × List Json} (hentry : entry ∈ cloud.versions.entries)
    (hother : other ∈ cloud.versions.entries) {version same : Json} (hversion : version ∈ entry.2)
    (hsame : same ∈ other.2) {urn : String} (hurn : version.stringField? "func_urn" = some urn)
    (hsameUrn : same.stringField? "func_urn" = some urn) : entry = other ∧ version = same := by
  unfold versionUrns StringMap.values at hdistinct
  rw [List.flatMap_map, List.nodup_flatMap] at hdistinct
  obtain ⟨hwithin, hbetween⟩ := hdistinct
  have hlists : entry = other := by
    by_contra hne
    have : Std.Symm (Function.onFun List.Disjoint fun entry : String × List Json =>
        entry.2.filterMap fun version => version.stringField? "func_urn") :=
      ⟨fun _ _ h _ hleft hright => h hright hleft⟩
    have hdisjoint := hbetween.forall hentry hother hne
    exact hdisjoint (List.mem_filterMap.2 ⟨version, hversion, hurn⟩)
      (List.mem_filterMap.2 ⟨same, hsame, hsameUrn⟩)
  subst hlists
  refine ⟨rfl, ?_⟩
  by_contra hne
  have hpairwise := List.pairwise_filterMap.1 (hwithin entry hentry)
  have : Std.Symm fun a b : Json => ∀ urn, a.stringField? "func_urn" = some urn →
      ∀ urn', b.stringField? "func_urn" = some urn' → urn ≠ urn' :=
    ⟨fun _ _ h urn hurn urn' hurn' => (h urn' hurn' urn hurn).symm⟩
  exact hpairwise.forall hversion hsame hne urn hurn urn hsameUrn rfl

section

variable {records : List Json} {function : String} {stays : Json → Bool}

/-- The resource names of the versions for which a test fails. -/
def doomed (stays : Json → Bool) (records : List Json) : List String :=
  (records.filter fun version => !stays version).filterMap fun version =>
    version.stringField? "func_urn"

theorem doomed_eq_nil_iff :
    doomed stays records = [] ↔ ∀ version ∈ records,
      (stays version || (version.stringField? "func_urn").isNone) = true := by
  unfold doomed
  rw [List.filterMap_eq_nil_iff]
  refine forall_congr' fun version => ?_
  rw [List.mem_filter, Bool.or_eq_true, Option.isNone_iff_eq_none, Bool.not_eq_true']
  grind

theorem isNamedIn_doomed_iff (hdistinct : cloud.versionUrns.Nodup)
    (hrecords : cloud.versions.get? function = some records) {other : String} {others : List Json}
    (hothers : cloud.versions.get? other = some others) {version : Json}
    (hversion : version ∈ others) :
    isNamedIn (doomed stays records) version = true ↔
      other = function ∧ stays version = false ∧ version.stringField? "func_urn" ≠ none := by
  have hentry := StringMap.mem_entries_of_get? hrecords
  have hother := StringMap.mem_entries_of_get? hothers
  unfold isNamedIn isVersion
  rw [List.any_eq_true]
  simp only [decide_eq_true_eq]
  constructor
  · rintro ⟨urn, hurn, hnamed⟩
    obtain ⟨same, hsame, hsameUrn⟩ := List.mem_filterMap.1 hurn
    obtain ⟨hsame, hstays⟩ := List.mem_filter.1 hsame
    obtain ⟨hlists, rfl⟩ :=
      eq_of_versionUrns_nodup hdistinct hother hentry hversion hsame hnamed hsameUrn
    exact ⟨congrArg Prod.fst hlists, by simpa using hstays, by simp [hnamed]⟩
  · rintro ⟨rfl, hstays, hnamed⟩
    cases hrecords.symm.trans hothers
    obtain ⟨urn, hurn⟩ := Option.ne_none_iff_exists'.1 hnamed
    refine ⟨urn, List.mem_filterMap.2 ⟨version, List.mem_filter.2 ⟨hversion, ?_⟩, hurn⟩, hurn⟩
    rw [hstays]
    rfl

/-- Deleting the versions of one function for which a test fails leaves the others of the function,
and all versions of other functions. -/
theorem get?_versions_without_doomed (hdistinct : cloud.versionUrns.Nodup) (function : String)
    (stays : Json → Bool) (other : String) :
    (cloud.versions.map (·.filter fun version => !isNamedIn
        (doomed stays ((cloud.versions.get? function).getD [])) version)).get? other =
      if other = function then (cloud.versions.get? function).map (·.filter fun version =>
        stays version || (version.stringField? "func_urn").isNone)
      else cloud.versions.get? other := by
  rw [StringMap.get?_map]
  cases hothers : cloud.versions.get? other with
  | none =>
      split
      next hsame => rw [← hsame, hothers]; rfl
      next => rfl
  | some others =>
      cases hrecords : cloud.versions.get? function with
      | none =>
          have hother : other ≠ function := by
            rintro rfl
            cases hrecords.symm.trans hothers
          rw [if_neg hother, Option.map_some, List.filter_eq_self.2]
          simp [doomed, isNamedIn]
      | some records =>
          have hnamed (version : Json) (hversion : version ∈ others) :
              isNamedIn (doomed stays records) version = true ↔ other = function ∧
                stays version = false ∧ version.stringField? "func_urn" ≠ none :=
            isNamedIn_doomed_iff hdistinct hrecords hothers hversion
          rw [Option.getD_some, Option.map_some]
          split
          next hsame =>
            obtain rfl : others = records := by
              rw [hsame, hrecords] at hothers
              exact (Option.some.inj hothers).symm
            refine congrArg some (List.filter_congr fun version hversion => ?_)
            rw [Bool.eq_iff_iff, Bool.not_eq_true', ← Bool.not_eq_true, hnamed version hversion,
              Bool.or_eq_true, Option.isNone_iff_eq_none]
            grind
          next hother =>
            refine congrArg some (List.filter_eq_self.2 fun version hversion => ?_)
            rw [Bool.not_eq_true', ← Bool.not_eq_true, hnamed version hversion]
            exact fun h => hother h.1

end

end Cloud

/-! ### Versions that stay -/

namespace Action

/-- When a version was last modified, if that can be read. -/
def lastModified? (version : Json) : Option Timestamp :=
  (version.stringField? "last_modified").bind Timestamp.ofRecord?

/-- A version is left by the action with the options of a block. Its name is empty if the record has
none. -/
inductive Stays (block : Json) (now : Timestamp) (aliases : List Json) (version : Json) : Prop where
  | unaddressed (h : version.stringField? "func_urn" = none)
  | latest (h : version.stringField? "version" = some "latest")
  | aliased {other : Json} (hexclude : block.boolOption "exclude-aliases" true = true)
      (hother : other ∈ aliases) (h : other.stringField? "version" = some (versionName version))
  | recent {days : Binary64} (hdays : block.numberOption? "older-than" = some days)
      (hpositive : Binary64.zero.less days = true)
      (h : ∀ modified, lastModified? version = some modified →
        modified.notAfter (now.addSeconds (-days.daySeconds)) = false)

variable {block : Json} {now : Timestamp} {aliases : List Json} {version : Json}

/-- What the options of a block say about versions that stay. -/
def retentionOf (block : Json) : VersionRetention where
  excludeAliases := block.boolOption "exclude-aliases" true
  days := (block.numberOption? "older-than").filter Binary64.zero.less

theorem versionName_eq_latest_iff :
    versionName version = "latest" ↔ version.stringField? "version" = some "latest" := by
  unfold versionName
  cases version.stringField? "version" with
  | none => decide
  | some name => simp

/-- The test of the options, with a threshold that need not be in range. -/
def VersionRetention.keeps (retention : VersionRetention) (now : Timestamp) (aliases : List Json)
    (version : Json) : Bool :=
  retention.protects aliases version || retention.days.any fun days =>
    (lastModified? version).all fun modified =>
      !modified.notAfter (now.addSeconds (-days.daySeconds))

theorem stays_iff :
    Stays block now aliases version ↔ ((retentionOf block).keeps now aliases version ||
      (version.stringField? "func_urn").isNone) = true := by
  rw [VersionRetention.keeps, VersionRetention.protects, retentionOf]
  simp only [Bool.or_eq_true, decide_eq_true_eq, Bool.and_eq_true, versionName_eq_latest_iff,
    List.any_eq_true, Option.isNone_iff_eq_none, Option.any_eq_true, Option.filter_eq_some_iff,
    Option.all_eq_true, Bool.not_eq_true']
  constructor
  · intro h
    cases h with
    | unaddressed h => exact .inr h
    | latest h => exact .inl (.inl (.inl h))
    | aliased hexclude hother h => exact .inl (.inl (.inr ⟨hexclude, _, hother, h⟩))
    | recent hdays hpositive h => exact .inl (.inr ⟨_, ⟨hdays, hpositive⟩, h⟩)
  · rintro (((h | ⟨hexclude, other, hother, h⟩) | ⟨days, ⟨hdays, hpositive⟩, h⟩) | h)
    · exact .latest h
    · exact .aliased hexclude hother h
    · exact .recent hdays hpositive h
    · exact .unaddressed h

/-! ### Thresholds in range -/

namespace VersionRetention

variable {retention : VersionRetention} {records : List Json}

theorem eq_of_daysBefore {days : Binary64} {threshold : Timestamp}
    (h : daysBefore days now = .ok threshold) :
    threshold = now.addSeconds (-days.daySeconds) := by
  obtain ⟨span, hspan, hmoved⟩ := Steps.of_bind_eq_ok h
  rw [Binary64.daySeconds, ← TimeSpan.seconds_of_ofSeconds hspan]
  exact (Timestamp.checked_eq_ok_iff.1 hmoved).2

/-- There is a threshold for the dates of versions, if the options ask for one and a version depends
on it. -/
def Dates (retention : VersionRetention) (now : Timestamp) (aliases records : List Json) : Prop :=
  ∀ days, retention.days = some days →
    (∃ version ∈ records, ¬ retention.protects aliases version = true) →
      ∃ threshold, daysBefore days now = .ok threshold

theorem retains_of_dated {days : Binary64} {threshold : Timestamp}
    (hprotected : retention.protects aliases version = false) (hdays : retention.days = some days)
    (hthreshold : daysBefore days now = .ok threshold) :
    retention.retains now aliases version = .ok (retention.keeps now aliases version) := by
  rw [retains, keeps, hprotected, hdays]
  dsimp only
  rw [Bool.false_or, Option.any_some, hthreshold, ← eq_of_daysBefore hthreshold, lastModified?]
  cases (version.stringField? "last_modified").bind Timestamp.ofRecord? <;> rfl

theorem retains_eq_ok_iff {stays : Bool} :
    retention.retains now aliases version = .ok stays ↔
      retention.Dates now aliases [version] ∧ stays = retention.keeps now aliases version := by
  have heq {result : Bool} (h : retention.retains now aliases version = .ok result) :
      retention.retains now aliases version = .ok stays ↔ stays = result := by
    rw [h, Except.ok.injEq, eq_comm]
  simp only [Dates, List.mem_singleton, exists_eq_left]
  cases hprotected : retention.protects aliases version with
  | true =>
      rw [heq (by rw [retains, hprotected]; rfl), keeps, hprotected, Bool.true_or]
      exact (and_iff_right fun _ _ hneeded => absurd rfl hneeded).symm
  | false =>
      cases hdays : retention.days with
      | none =>
          rw [heq (by rw [retains, hprotected, hdays]; rfl), keeps, hprotected, hdays]
          exact (and_iff_right nofun).symm
      | some days =>
          rcases hthreshold : daysBefore days now with e | threshold
          · refine iff_of_false (fun h => ?_) fun h => ?_
            · rw [retains, hprotected, hdays] at h
              dsimp only at h
              rw [hthreshold] at h
              cases h
            · obtain ⟨threshold, hother⟩ := h.1 days rfl Bool.false_ne_true
              cases hthreshold.symm.trans hother
          · rw [heq (retains_of_dated hprotected hdays hthreshold)]
            refine (and_iff_right fun other hsome _ => ?_).symm
            cases hsome
            exact ⟨threshold, hthreshold⟩

theorem dates_cons_iff :
    retention.Dates now aliases (version :: records) ↔
      retention.Dates now aliases [version] ∧ retention.Dates now aliases records := by
  simp only [Dates, List.mem_cons, List.not_mem_nil, or_false]
  grind

theorem doomed_keeps_cons (version : Json) (records : List Json) :
    Cloud.doomed (retention.keeps now aliases) (version :: records) =
      if retention.keeps now aliases version then
        Cloud.doomed (retention.keeps now aliases) records
      else (version.stringField? "func_urn").toList ++
        Cloud.doomed (retention.keeps now aliases) records := by
  rw [Cloud.doomed, List.filter_cons]
  cases retention.keeps now aliases version with
  | true => rfl
  | false => cases hurn : version.stringField? "func_urn" <;> simp [hurn, Cloud.doomed]

/-- Which versions are to be deleted is known exactly when there is a threshold for them: those that
fail the test. -/
theorem doomed_eq_ok_iff {urns : List String} :
    retention.doomed now aliases records = .ok urns ↔
      retention.Dates now aliases records ∧
        urns = Cloud.doomed (retention.keeps now aliases) records := by
  induction records generalizing urns with
  | nil =>
      have hnone : retention.Dates now aliases [] := by simp [Dates]
      exact ⟨fun h => ⟨hnone, (Except.ok.inj h).symm⟩, fun h => by rw [h.2]; rfl⟩
  | cons version records ih =>
      rw [dates_cons_iff, doomed_keeps_cons]
      constructor
      · intro h
        obtain ⟨stays, hversion, h⟩ := Steps.of_bind_eq_ok h
        obtain ⟨rest, hrecords, h⟩ := Steps.of_bind_eq_ok h
        obtain ⟨hdates, rfl⟩ := retains_eq_ok_iff.1 hversion
        obtain ⟨hlater, rfl⟩ := ih.1 hrecords
        exact ⟨⟨hdates, hlater⟩, (Except.ok.inj h).symm⟩
      · rintro ⟨⟨hdates, hlater⟩, rfl⟩
        rw [doomed, retains_eq_ok_iff.2 ⟨hdates, rfl⟩, ih.2 ⟨hlater, rfl⟩]
        rfl

end VersionRetention

/-! ### Trimming -/

section

variable {cloud after : Cloud} {retention : VersionRetention} {r : Resource}

/-- The versions and the aliases are listed before any version is deleted. -/
theorem run_trimStep (hfailures : cloud.failures = []) (retention : VersionRetention)
    (now : Timestamp) (r : Resource) :
    let function := Cloud.withoutLatest r.functionUrn
    ∃ looked : Cloud, looked.failures = [] ∧ looked.versions = cloud.versions ∧
      (trimStep retention now r).run cloud =
        (do
          let doomed ← CloudM.ofExcept (retention.doomed now
            ((cloud.aliases.get? function).getD []) ((cloud.versions.get? function).getD []))
          forEach Cloud.deleteFunction doomed
          return if doomed.isEmpty then Step.skipped else .done : CloudM Step).run looked := by
  intro function
  obtain ⟨listing, hversions⟩ := Cloud.answers_listVersions hfailures function cloud.calls
  obtain ⟨naming, haliases⟩ :=
    Cloud.answers_listAliases hfailures function (cloud.calls ++ listing)
  refine ⟨{ cloud with calls := cloud.calls ++ listing ++ naming }, hfailures, rfl, ?_⟩
  rw [trimStep, Steps.run_bind_of_ok hversions, Steps.run_bind_of_ok haliases]

/-- Where no call fails, the step comes to its end exactly when there is a threshold for the
versions of the function. -/
theorem trimStep_ends_iff (hfailures : cloud.failures = []) :
    (∃ result after, (trimStep retention now r).run cloud = (.ok result, after)) ↔
      retention.Dates now ((cloud.aliases.get? (Cloud.withoutLatest r.functionUrn)).getD [])
        ((cloud.versions.get? (Cloud.withoutLatest r.functionUrn)).getD []) := by
  obtain ⟨looked, hlooked, -, hrun⟩ := run_trimStep hfailures retention now r
  rw [hrun]
  constructor
  · rintro ⟨result, after, h⟩
    obtain ⟨urns, middle, hdoomed, -⟩ := Steps.of_run_bind_eq_ok h
    exact (VersionRetention.doomed_eq_ok_iff.1 (Cloud.of_run_ofExcept hdoomed).1).1
  · intro hdates
    obtain ⟨after, hdelete, -, -⟩ := Cloud.run_forEach_deleteFunction hlooked _
    rw [VersionRetention.doomed_eq_ok_iff.2 ⟨hdates, rfl⟩]
    exact ⟨_, after, Steps.run_bind_of_ok hdelete⟩

/-- What the step has done when it comes to its end. -/
theorem of_run_trimStep {result : Step} (hfailures : cloud.failures = [])
    (hdistinct : cloud.versionUrns.Nodup)
    (h : (trimStep retention now r).run cloud = (.ok result, after)) :
    let function := Cloud.withoutLatest r.functionUrn
    let records := (cloud.versions.get? function).getD []
    let stays (version : Json) :=
      retention.keeps now ((cloud.aliases.get? function).getD []) version ||
        (version.stringField? "func_urn").isNone
    (result = .skipped ∧ (∀ version ∈ records, stays version = true) ∨
      result = .done ∧ ∃ version ∈ records, ¬ stays version = true) ∧
    ∀ other, after.versions.get? other =
      if other = function then (cloud.versions.get? function).map (·.filter stays)
      else cloud.versions.get? other := by
  intro function records stays
  obtain ⟨looked, hlooked, hsame, hrun⟩ := run_trimStep hfailures retention now r
  rw [hrun] at h
  obtain ⟨urns, middle, hfound, hlast⟩ := Steps.of_run_bind_eq_ok h
  obtain ⟨hdoomed, rfl⟩ := Cloud.of_run_ofExcept hfound
  obtain ⟨-, rfl⟩ := VersionRetention.doomed_eq_ok_iff.1 hdoomed
  obtain ⟨last, hdelete, -, hleft⟩ := Cloud.run_forEach_deleteFunction hlooked
    (Cloud.doomed (retention.keeps now ((cloud.aliases.get? function).getD [])) records)
  rw [Steps.run_bind_of_ok hdelete] at hlast
  cases hlast
  refine ⟨?_, fun other => ?_⟩
  · split
    next hnone => exact .inl ⟨rfl, Cloud.doomed_eq_nil_iff.1 (List.isEmpty_iff.1 hnone)⟩
    next hsome =>
      rw [List.isEmpty_iff, Cloud.doomed_eq_nil_iff] at hsome
      push Not at hsome
      exact .inr ⟨rfl, hsome⟩
  · rw [hleft, hsame]
    exact Cloud.get?_versions_without_doomed hdistinct function _ other

end

/-- An action on one resource takes one step. -/
theorem run_ofStep_singleton (name : String) (step : RunContext → Resource → CloudM Step)
    (context : RunContext) (r : Resource) (cloud : Cloud) :
    ((ofStep name step).process context [r]).run cloud =
      (((step context r).run cloud).1.map fun result =>
        ({ action := name } : Report).add r.id result, ((step context r).run cloud).2) := by
  show (eachWith _ () _ [r]).run cloud = _
  rcases hstep : (step context r).run cloud with ⟨e | result, after⟩
  · have herror : (do return (← step context r, ()) : CloudM (Step × Unit)).run cloud =
        (.error e, after) := Steps.run_bind_of_error hstep
    rw [eachWith, Steps.run_bind_of_error herror]
    rfl
  · have hok : (do return (← step context r, ()) : CloudM (Step × Unit)).run cloud =
        (.ok (result, ()), after) := Steps.run_bind_of_ok hstep
    rw [eachWith, Steps.run_bind_of_ok hok]
    rfl

/-- **Trimming keeps exactly the versions that stay.** Let no call fail and no two versions of any
functions share a resource name. When the action on a function comes to its end, the versions that
the function then has are those that stay, in their order; all other functions have the versions
that they had. The function is reported as handled if and only if a version of it did not stay. -/
theorem versions_trimmed_exactly (block : Json) (build : BuildContext) (context : RunContext)
    (cloud : Cloud) (hfailures : cloud.failures = []) (hdistinct : cloud.versionUrns.Nodup)
    (r : Resource) {action : Action} (hbuild : ActionKind.trimVersions.build block build = .ok action)
    {report : Report} {after : Cloud}
    (hrun : (action.process context [r]).run cloud = (.ok report, after)) :
    let function := Cloud.withoutLatest r.functionUrn
    let aliases := (cloud.aliases.get? function).getD []
    (∃ stays : Json → Bool,
      (∀ version, stays version = true ↔ Stays block context.now aliases version) ∧
      after.versions.get? function = (cloud.versions.get? function).map (·.filter stays)) ∧
    (∀ other, other ≠ function → after.versions.get? other = cloud.versions.get? other) ∧
    (r.id ∈ report.succeeded ↔ ∃ version ∈ (cloud.versions.get? function).getD [],
      ¬ Stays block context.now aliases version) := by
  intro function aliases
  obtain rfl : trimVersions (retentionOf block) = action := Except.ok.inj hbuild
  rw [trimVersions, run_ofStep_singleton] at hrun
  rcases hstep : (trimStep (retentionOf block) context.now r).run cloud with ⟨e | result, last⟩
  · rw [hstep] at hrun
    cases hrun
  · rw [hstep] at hrun
    cases hrun
    obtain ⟨hresult, hafter⟩ := of_run_trimStep hfailures hdistinct hstep
    refine ⟨⟨_, fun version => stays_iff.symm, ?_⟩, fun other hother => ?_, ?_⟩
    · rw [hafter, if_pos rfl]
    · rw [hafter, if_neg hother]
    · simp only [← stays_iff] at hresult
      rcases hresult with ⟨rfl, hall⟩ | ⟨rfl, hsome⟩
      · refine iff_of_false (by simp [Report.add]) ?_
        rintro ⟨version, hversion, hdeleted⟩
        exact hdeleted (hall version hversion)
      · exact iff_of_true (by simp [Report.add, Report.success]) hsome

/-- Of five versions of a function the one is deleted that is old and that no alias names. The
version of another function stays, as old as it is. -/
theorem old_version_deleted :
    let version (name urn modified : String) := Json.obj [("version", .string name),
      ("func_urn", .string urn), ("last_modified", .string modified)]
    let block := Json.obj [("type", .string "trim-versions"), ("older-than", .int 30)]
    let cloud : Cloud := { ({} : Cloud) with
      versions := .ofList [
        ("urn:fn-1", [version "latest" "urn:fn-1:latest" "2024-01-01T00:00:00Z",
          version "v1" "urn:fn-1:v1" "2024-01-01T00:00:00Z",
          version "v2" "urn:fn-1:v2" "2024-01-01T00:00:00Z",
          version "v3" "urn:fn-1:v3" "2025-03-01T00:00:00Z", .obj [("version", .string "v4")]]),
        ("urn:fn-2", [version "v2" "urn:fn-2:v2" "2024-01-01T00:00:00Z"])]
      aliases := .ofList [("urn:fn-1", [.obj [("version", .string "v1")]])] }
    let context : RunContext := { (default : RunContext) with now := .ofSeconds 1741608000 0 }
    let r := Resource.ofRecord (.obj [("id", .string "fn-1"), ("func_urn", .string "urn:fn-1")])
    ∃ action report after, ActionKind.trimVersions.build block default = .ok action ∧
      (action.process context [r]).run cloud = (.ok report, after) ∧
      (after.versions.get? "urn:fn-1").map (·.map versionName) =
        some ["latest", "v1", "v3", "v4"] ∧
      after.versions.get? "urn:fn-2" = cloud.versions.get? "urn:fn-2" ∧
      r.id ∈ report.succeeded := by
  intro version block cloud context r
  have hdistinct : cloud.versionUrns.Nodup := by decide
  have hfunction : Cloud.withoutLatest r.functionUrn = "urn:fn-1" := by decide
  have hrecords : cloud.versions.get? "urn:fn-1" = some _ := StringMap.get?_ofList _ _
  have hdays : (retentionOf block).days = some (.ofNat 30) := by decide +kernel
  have hthreshold : daysBefore (.ofNat 30) context.now = .ok (.ofSeconds 1739016000 0) :=
    Steps.eq_ok_of_toOption (by decide +kernel)
  obtain ⟨result, after, hstep⟩ := (trimStep_ends_iff (r := r) (rfl : cloud.failures = [])).2
    fun days hsome _ => ⟨_, Option.some.inj (hdays.symm.trans hsome) ▸ hthreshold⟩
  have hrun := run_ofStep_singleton "trim-versions"
    (fun context r => trimStep (retentionOf block) context.now r) context r cloud
  rw [hstep] at hrun
  obtain ⟨⟨stays, hstays, hleft⟩, hothers, hreported⟩ :=
    versions_trimmed_exactly block default context cloud rfl hdistinct r rfl hrun
  rw [hfunction] at hstays hleft hothers hreported
  have hdecided : stays = fun version => (retentionOf block).keeps context.now
      ((cloud.aliases.get? "urn:fn-1").getD []) version ||
        (version.stringField? "func_urn").isNone :=
    funext fun version => Bool.eq_iff_iff.2 ((hstays version).trans stays_iff)
  refine ⟨_, _, after, rfl, hrun, ?_, hothers _ (by decide), hreported.2 ?_⟩
  · rw [hleft, hdecided]
    decide +kernel
  · refine ⟨version "v2" "urn:fn-1:v2" "2024-01-01T00:00:00Z", ?_, ?_⟩
    · rw [hrecords]
      exact List.mem_cons_of_mem _ (List.mem_cons_of_mem _ List.mem_cons_self)
    · rw [stays_iff]
      decide +kernel

/-- A version is deleted that was modified three quarters of a second too late for it, as the
threshold of 337.5 seconds is taken for 337. -/
theorem fraction_of_second_cut_off :
    let version := Json.obj [("version", .string "v1"), ("func_urn", .string "urn:fn-1:v1"),
      ("last_modified", .string "2025-03-10T11:54:22.75Z")]
    let days := Binary64.finite false (Binary64.one / 256)
    let block := Json.obj [("type", .string "trim-versions"), ("older-than", .number (.float days))]
    let cloud : Cloud := { ({} : Cloud) with versions := .ofList [("urn:fn-1", [version])] }
    let context : RunContext := { (default : RunContext) with now := .ofSeconds 1741608000 0 }
    let r := Resource.ofRecord (.obj [("id", .string "fn-1"), ("func_urn", .string "urn:fn-1")])
    ∃ action modified, ActionKind.trimVersions.build block default = .ok action ∧
      cloud.failures = [] ∧ cloud.versionUrns.Nodup ∧
      lastModified? version = some modified ∧ days.IsWithin context.now modified ∧
      let run := (action.process context [r]).run cloud
      run.1.toOption.map Report.succeeded = some [r.id] ∧
        (run.2.versions.get? "urn:fn-1").map List.length = some 0 := by
  refine ⟨_, .ofSeconds 1741607662 750000000, rfl, rfl, by decide, by decide +kernel,
    ⟨_, rfl, by decide +kernel⟩, by decide +kernel, by decide +kernel⟩

end Action

end CloudPolicy
