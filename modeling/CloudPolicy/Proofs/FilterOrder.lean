import CloudPolicy.Proofs.Selection

/-! The order of filters and their repetition. What one filter keeps beside a record or in it is
nothing that another filter judges by, or it is what the other one would have looked up. So any two
filters of a resource type keep the same resources in either order, and a filter that is run on what
it has kept keeps all of it as it is. This holds where neither filter stops: a resource at which one
of them would stop may be dropped by the other one before. -/

namespace CloudPolicy

/-! ### Records that filters do not tell apart -/

namespace Resource

/-- A predicate on another field gives the same answer when look-ups are kept in the record. -/
theorem Reflects.resolve?_eq {r s : Resource} (h : s.Reflects r) {key : String}
    (hkey : ∀ field ∈ caches, (segments key).head? ≠ some field) :
    s.resolve? key = r.resolve? key := by
  rw [resolve?, resolve?]
  split
  next tag _ => rw [h.tags_eq]
  next =>
    cases hsegments : segments key with
    | nil => rfl
    | cons first rest =>
        have hfirst : first ∉ caches := fun hcached =>
          hkey first hcached (congrArg List.head? hsegments)
        rw [walk?, walk?, h.get?_eq hfirst]

theorem Reflects.topicUrn_eq {r s : Resource} (h : s.Reflects r) : s.topicUrn = r.topicUrn := by
  rw [topicUrn, topicUrn, h.text?_eq (by decide), h.id_eq]

end Resource

namespace Filter

variable {cloud : Cloud} {r s : Resource}

theorem bindings_fst (cloud : Cloud) (r : Resource) : (bindings cloud r).1 =
    ((r.get? "lts").bind Json.array?).getD (cloud.logtanksOf r.topicUrn) := by
  rw [bindings]
  cases (r.get? "lts").bind Json.array? <;> rfl

theorem policy_fst (cloud : Cloud) (r : Resource) : (policy cloud r).1 =
    (r.text? "access_policy").or (cloud.accessPolicies.get? r.topicUrn) := by
  rw [policy]
  cases r.text? "access_policy" with
  | some cached => rfl
  | none => cases cloud.accessPolicies.get? r.topicUrn <;> rfl

/-- A topic that has its bindings in its record is left as it is. -/
theorem bindings_settled (cloud : Cloud) (r : Resource) :
    bindings cloud (bindings cloud r).2 = bindings cloud r := by
  cases hcached : (r.get? "lts").bind Json.array? with
  | some cached => simp only [bindings, hcached]
  | none =>
      have hset (value : Json) : (r.set "lts" value).get? "lts" = some value :=
        Resource.get?_set_self r "lts" value
      simp only [bindings, hcached, hset, Option.bind_some, Json.array?]

theorem policy_settled (cloud : Cloud) (r : Resource) :
    policy cloud (policy cloud r).2 = policy cloud r := by
  cases hcached : r.text? "access_policy" with
  | some cached => simp only [policy, hcached]
  | none =>
      cases hstored : cloud.accessPolicies.get? r.topicUrn with
      | none => simp only [policy, hcached, hstored]
      | some text =>
          have hset : (r.set "access_policy" (.string text)).text? "access_policy" = some text := by
            rw [Resource.text?, Resource.get?_set_self]
            rfl
          simp only [policy, hcached, hstored, hset]

end Filter

/-- The records differ in nothing that a filter of the type judges by: in look-ups that are kept in
the record of a topic, and in annotations. -/
structure Resource.Alike (cloud : Cloud) (type : ResourceType) (r s : Resource) : Prop where
  reflects : s.Reflects r
  bindings : (Filter.bindings cloud s).1 = (Filter.bindings cloud r).1
  policy : (Filter.policy cloud s).1 = (Filter.policy cloud r).1
  data : type ≠ .topic → s.data = r.data

namespace Resource

variable {cloud : Cloud} {type : ResourceType} {r s : Resource}

theorem alike_of_data (cloud : Cloud) (type : ResourceType) (h : s.data = r.data) :
    r.Alike cloud type s := by
  have hget (key : String) : s.get? key = r.get? key := by rw [get?, get?, h]
  have hreflects : s.Reflects r := by rw [Reflects, h]
  refine ⟨hreflects, ?_, ?_, fun _ => h⟩
  · rw [Filter.bindings_fst, Filter.bindings_fst, hget, hreflects.topicUrn_eq]
  · rw [Filter.policy_fst, Filter.policy_fst, text?, text?, hget, hreflects.topicUrn_eq]

theorem alike_bindings (cloud : Cloud) (r : Resource) :
    r.Alike cloud .topic (Filter.bindings cloud r).2 := by
  have hagrees := Filter.agreesOff_bindings cloud r
  have hreflects := hagrees.reflects (by decide)
  have hcached : (Filter.bindings cloud r).2.get? "access_policy" = r.get? "access_policy" :=
    get?_eq_of_filterKeys hagrees.1 (by decide)
  refine ⟨hreflects, by rw [Filter.bindings_settled], ?_, fun hne => absurd rfl hne⟩
  rw [Filter.policy_fst, Filter.policy_fst, text?, text?, hcached, hreflects.topicUrn_eq]

theorem alike_policy (cloud : Cloud) (r : Resource) :
    r.Alike cloud .topic (Filter.policy cloud r).2 := by
  have hagrees := Filter.agreesOff_policy cloud r
  have hreflects := hagrees.reflects (by decide)
  have hcached : (Filter.policy cloud r).2.get? "lts" = r.get? "lts" :=
    get?_eq_of_filterKeys hagrees.1 (by decide)
  refine ⟨hreflects, ?_, by rw [Filter.policy_settled], fun hne => absurd rfl hne⟩
  rw [Filter.bindings_fst, Filter.bindings_fst, hcached, hreflects.topicUrn_eq]

end Resource

/-! ### Judges that are stable -/

namespace Filter

/-- The judge keeps records that filters do not tell from those it was given, keeps them as they are
when it is asked again, and does not tell such records apart itself. -/
structure Stable (cloud : Cloud) (type : ResourceType) (judge : Resource → Option Resource) :
    Prop where
  alike : ∀ r s, judge r = some s → r.Alike cloud type s
  again : ∀ r s, judge r = some s → judge s = some s
  verdict : ∀ r s, r.Alike cloud type s → (judge s).isSome = (judge r).isSome

variable {cloud : Cloud} {type : ResourceType}

theorem Stable.of_test {test : Resource → Bool}
    (htest : ∀ r s, r.Alike cloud type s → test s = test r) :
    Stable cloud type (Option.guard test) where
  alike := by
    intro r s hkept
    obtain ⟨rfl, -⟩ := Option.guard_eq_some_iff.1 hkept
    exact r.alike_of_data cloud type rfl
  again := by
    intro r s hkept
    obtain ⟨rfl, -⟩ := Option.guard_eq_some_iff.1 hkept
    exact hkept
  verdict := by
    intro r s hsame
    rw [Option.isSome_guard, Option.isSome_guard, htest r s hsame]

/-- Of records with the same data the judge says the same: it drops them, keeps them, or keeps them
with one note. -/
def Notes (key : String) (judge : Resource → Option Resource) : Prop :=
  ∀ data, ∃ verdict : Option (Option Json), ∀ annotations,
    judge ⟨data, annotations⟩ = verdict.map fun note =>
      (note.map (Resource.annotate ⟨data, annotations⟩ key)).getD ⟨data, annotations⟩

theorem annotate_annotate (r : Resource) (key : String) (value : Json) :
    (r.annotate key value).annotate key value = r.annotate key value := by
  rw [Resource.annotate, Resource.annotate, StringMap.insert_insert]

theorem Stable.of_notes {key : String} {judge : Resource → Option Resource}
    (htype : type ≠ .topic) (hnotes : Notes key judge) : Stable cloud type judge := by
  have hdata (note : Option Json) (r : Resource) :
      ((note.map (r.annotate key)).getD r).data = r.data := by cases note <;> rfl
  refine ⟨?_, ?_, ?_⟩
  · intro r s hkept
    obtain ⟨verdict, hverdict⟩ := hnotes r.data
    rw [hverdict r.annotations] at hkept
    obtain ⟨note, -, rfl⟩ := Option.map_eq_some_iff.1 hkept
    exact r.alike_of_data cloud type (hdata note r)
  · intro r s hkept
    obtain ⟨verdict, hverdict⟩ := hnotes r.data
    rw [hverdict r.annotations] at hkept
    obtain ⟨note, rfl, rfl⟩ := Option.map_eq_some_iff.1 hkept
    cases note with
    | none => exact hverdict r.annotations
    | some value =>
        refine (hverdict (r.annotate key value).annotations).trans ?_
        exact congrArg some (annotate_annotate r key value)
  · rintro r ⟨_, annotations⟩ hsame
    cases hsame.data htype
    obtain ⟨verdict, hverdict⟩ := hnotes r.data
    rw [hverdict annotations, hverdict r.annotations]
    cases verdict <;> rfl

/-! ### The judges of the filters -/

theorem notes_keepAttached (attachment : Attachment) (p : Predicate) (all : Bool)
    (type : ResourceType) (fetched : StringMap Resource) :
    Notes attachment.annotation (keepAttached attachment p all type fetched) := by
  intro data
  have hknown (annotations : StringMap Json) :
      attachment.known type fetched ⟨data, annotations⟩ =
        attachment.known type fetched ⟨data, ∅⟩ := rfl
  simp only [keepAttached, hknown]
  generalize attachment.known type fetched ⟨data, ∅⟩ = known
  by_cases hempty : known.isEmpty = true
  · exact ⟨none, fun annotations => if_pos hempty⟩
  simp only [if_neg hempty]
  by_cases hkeeps : if all then (known.filter p.holds).length = known.length
      else !(known.filter p.holds).isEmpty
  · simp only [if_pos hkeeps]
    exact ⟨some (some _), fun annotations => rfl⟩
  · simp only [if_neg hkeeps]
    exact ⟨none, fun annotations => rfl⟩

theorem notes_judgePlacement (cloud : Cloud) (options : PlacementOptions) (type : ResourceType) :
    Notes placementAnnotation (judgePlacement cloud options type) := by
  intro data
  let compared (attachment : Attachment) (isCompared : Bool) : List Resource :=
    comparedAttachments options attachment type (comparedRegistry cloud isCompared attachment)
      ⟨data, ∅⟩
  let subnets := compared .subnet options.compareSubnets
  let groups := compared .securityGroup options.compareGroups
  have hjudge (annotations : StringMap Json) :
      judgePlacement cloud options type ⟨data, annotations⟩ =
        keepPlacement options ⟨data, annotations⟩ subnets groups := rfl
  have hfindings (annotations : StringMap Json) :
      options.evaluate ⟨data, annotations⟩ subnets groups =
        options.evaluate ⟨data, ∅⟩ subnets groups := rfl
  simp only [hjudge, keepPlacement]
  cases options.mode with
  | within =>
      by_cases hwithin : options.isWithinAllowed ⟨data, ∅⟩ subnets groups = true
      · exact ⟨some none, fun annotations => if_pos hwithin⟩
      · exact ⟨none, fun annotations => if_neg hwithin⟩
  | equal =>
      by_cases hequal : (options.evaluate ⟨data, ∅⟩ subnets groups).isEmpty = true
      · exact ⟨some none, fun annotations => if_pos hequal⟩
      · exact ⟨none, fun annotations => if_neg hequal⟩
  | notEqual =>
      simp only [hfindings]
      cases options.evaluate ⟨data, ∅⟩ subnets groups with
      | nil => exact ⟨none, fun annotations => rfl⟩
      | cons finding findings => exact ⟨some (some _), fun annotations => rfl⟩

theorem notes_keepTriggered (cloud : Cloud) (p : Predicate) :
    Notes "triggers" fun r => keepTriggered p r
      ((cloud.triggers.get? ((r.text? "func_urn").getD r.id)).getD (some [])) := by
  intro data
  let urn := ((Resource.mk data ∅).text? "func_urn").getD (Resource.mk data ∅).id
  have hurn (annotations : StringMap Json) :
      ((Resource.mk data annotations).text? "func_urn").getD (Resource.mk data annotations).id =
        urn := rfl
  simp only [hurn, keepTriggered]
  cases (cloud.triggers.get? urn).getD (some []) with
  | none => exact ⟨none, fun annotations => rfl⟩
  | some triggers =>
      by_cases hany : (triggers.any fun trigger => p.holds (.ofRecord trigger)) = true
      · exact ⟨some (some (.array triggers)), fun annotations => if_pos hany⟩
      · exact ⟨none, fun annotations => if_neg hany⟩

theorem notes_keepReserved (cloud : Cloud) (p : Predicate) :
    Notes "reserved_concurrency" fun r => keepReserved p r
      ((cloud.reservedInstances.get? (Cloud.withoutLatest r.functionUrn)).getD []) := by
  intro data
  let r : Resource := ⟨data, ∅⟩
  let configs := (cloud.reservedInstances.get? (Cloud.withoutLatest r.functionUrn)).getD []
  have hown (annotations : StringMap Json) : ownConfig ⟨data, annotations⟩
      ((cloud.reservedInstances.get?
        (Cloud.withoutLatest (Resource.functionUrn ⟨data, annotations⟩))).getD []) =
      ownConfig r configs := rfl
  simp only [keepReserved, hown]
  cases ownConfig r configs with
  | none =>
      by_cases hholds : p.holds ⟨∅, ∅⟩ = true
      · exact ⟨some none, fun annotations => if_pos hholds⟩
      · exact ⟨none, fun annotations => if_neg hholds⟩
  | some config =>
      by_cases hholds : p.holds (.ofRecord config) = true
      · exact ⟨some (some config), fun annotations => if_pos hholds⟩
      · exact ⟨none, fun annotations => if_neg hholds⟩

/-- A judge that looks something up, keeps it in the record and decides by it. -/
theorem Stable.of_outcome {look : Resource → Resource} {outcome : Resource → Except Error Bool}
    (halike : ∀ r : Resource, r.Alike cloud type (look r)) (hsettled : ∀ r, look (look r) = look r)
    (houtcome : ∀ r s : Resource, r.Alike cloud type s → outcome s = outcome r) :
    Stable cloud type fun r => keptBy ((outcome r).map fun keep => (keep, look r)) := by
  have hlook {r s : Resource}
      (hkept : keptBy ((outcome r).map fun keep => (keep, look r)) = some s) : look r = s := by
    rcases houtcome : outcome r with e | _ | _
    all_goals
      rw [houtcome] at hkept
      cases hkept
    rfl
  refine ⟨?_, ?_, ?_⟩
  · intro r s hkept
    exact hlook hkept ▸ halike r
  · intro r s hkept
    have hs := hlook hkept
    subst hs
    rw [houtcome r (look r) (halike r), hsettled]
    exact hkept
  · intro r s hsame
    rw [houtcome r s hsame]
    rcases outcome r with e | _ | _ <;> rfl

theorem stable_topicLogging (cloud : Cloud) (enabled : Bool) : Stable cloud .topic fun r =>
    keptBy (.ok (!(bindings cloud r).1.isEmpty == enabled, (bindings cloud r).2)) := by
  have houtcome (r s : Resource) (hsame : r.Alike cloud .topic s) :
      (.ok (!(bindings cloud s).1.isEmpty == enabled) : Except Error Bool) =
        .ok (!(bindings cloud r).1.isEmpty == enabled) := by
    rw [hsame.bindings]
  exact .of_outcome (Resource.alike_bindings cloud) (fun r => by rw [bindings_settled]) houtcome

theorem stable_topicAccess (cloud : Cloud) (criteria : AccessCriteria) : Stable cloud .topic
    fun r => keptBy ((grants criteria (policy cloud r).1).map fun granted =>
      (granted, (policy cloud r).2)) :=
  .of_outcome (Resource.alike_policy cloud) (fun r => by rw [policy_settled])
    fun r s hsame => by rw [hsame.policy]

end Filter

/-! ### The registry -/

namespace FilterKind

/-- A filter on values whose path starts at a field in which filters keep what they looked up. -/
def TestsCache (kind : FilterKind) (block : Json) : Prop :=
  (kind = value ∨ kind = attributes) ∧ ∃ p, Predicate.ofBlock block = .ok p ∧
    ∃ field ∈ Resource.caches, (Resource.segments p.key).head? = some field

theorem type_eq_topic {kind : FilterKind} {type : ResourceType} (hkind : kind ∈ type.filters)
    (howned : kind = topicLogging ∨ kind = topicAccess) : type = .topic := by
  rcases howned with rfl | rfl
  all_goals
    revert hkind
    cases type <;> decide

/-- Filters that annotate are not for topics. -/
theorem type_ne_topic {kind : FilterKind} {type : ResourceType} (hkind : kind ∈ type.filters)
    (hannotates : kind.annotations ≠ []) : type ≠ .topic := by
  rintro rfl
  revert hkind hannotates
  cases kind <;> decide

/-- A filter stops at a record whatever filters have kept in it. -/
theorem stops_of_alike {kind : FilterKind} {block : Json} {build : BuildContext} {cloud : Cloud}
    {type : ResourceType} {r s : Resource} (hsame : r.Alike cloud type s)
    (hstops : kind.Stops block build s) : kind.Stops block build r := by
  obtain ⟨rfl, options, hoptions, hfar⟩ := hstops
  exact ⟨rfl, options, hoptions, mt (DueOptions.reaches_congr hsame.reflects.tags_eq).2 hfar⟩

/-- Every filter of a type has a stable judge, unless it tests what filters keep in records or looks
for marks. -/
theorem stable_of_build {kind : FilterKind} {block : Json} {build : BuildContext} {filter : Filter}
    (hbuild : kind.build block build = .ok filter) (htests : ¬ kind.TestsCache block)
    (hmarks : kind ≠ markedForOp) {context : RunContext}
    (hkind : kind ∈ context.resourceType.filters) {cloud : Cloud}
    (hfailures : cloud.failures = []) :
    ∃ judge, filter.JudgesBy context cloud kind.cachedFields kind.annotations judge ∧
      Filter.Stable cloud context.resourceType judge := by
  by_cases hvalue : kind = value ∨ kind = attributes
  · obtain ⟨p, hp, rfl⟩ := predicate_of_build hvalue hbuild
    refine ⟨_, Filter.ofTest_judges _ fun _ => rfl, .of_test fun r s hsame => ?_⟩
    rw [Predicate.holds, Predicate.holds, hsame.reflects.resolve?_eq fun field hfield hfirst =>
      htests ⟨hvalue, p, hp, field, hfield, hfirst⟩]
  cases builds_of_build hbuild with
  | predicate hvalue' p => exact absurd hvalue' hvalue
  | test name test hclock hfields =>
      refine ⟨_, Filter.ofTest_judges name fun _ => hclock context _ rfl, .of_test ?_⟩
      intro r s hsame
      exact hfields context r s fun key hkey => hsame.reflects.get?_eq hkey
  | marked options => exact absurd rfl hmarks
  | backendCount operator count =>
      refine ⟨_, Filter.backendCount_judges hfailures operator count, .of_test ?_⟩
      intro r s hsame
      rw [hsame.reflects.id_eq]
  | transferred expected =>
      refine ⟨_, Filter.transferred_judges hfailures expected, .of_test ?_⟩
      intro r s hsame
      have hgroup : s.text? "log_group_id" = r.text? "log_group_id" :=
        hsame.reflects.text?_eq (by decide)
      have hstream : s.text? "log_topic_id" = r.text? "log_topic_id" :=
        hsame.reflects.text?_eq (by decide)
      simp only [Filter.isTransferred, Filter.isLogging, Filter.isSet, hgroup, hstream]
  | redirecting target =>
      refine ⟨_, Filter.redirecting_judges hfailures target, .of_test ?_⟩
      intro r s hsame
      have hprotocol : s.text? "protocol" = r.text? "protocol" :=
        hsame.reflects.text?_eq (by decide)
      rw [Filter.isRedirecting, Filter.isRedirecting, hsame.reflects.id_eq, hprotocol]
  | subnet p all | securityGroup p all =>
      exact ⟨_, Filter.attached_judges hfailures _ p all, .of_notes
        (type_ne_topic hkind (List.cons_ne_nil _ _)) (Filter.notes_keepAttached _ _ _ _ _)⟩
  | placement options =>
      exact ⟨_, Filter.placement_judges hfailures options, .of_notes
        (type_ne_topic hkind (List.cons_ne_nil _ _)) (Filter.notes_judgePlacement _ _ _)⟩
  | triggered p =>
      exact ⟨_, Filter.triggered_judges hfailures p, .of_notes
        (type_ne_topic hkind (List.cons_ne_nil _ _)) (Filter.notes_keepTriggered _ _)⟩
  | reserved p =>
      exact ⟨_, Filter.reserved_judges hfailures p, .of_notes
        (type_ne_topic hkind (List.cons_ne_nil _ _)) (Filter.notes_keepReserved _ _)⟩
  | topicLogging enabled =>
      rw [type_eq_topic hkind (.inl rfl)]
      exact ⟨_, Filter.topicLogging_judges hfailures enabled,
        Filter.stable_topicLogging cloud enabled⟩
  | topicAccess criteria =>
      rw [type_eq_topic hkind (.inr rfl)]
      exact ⟨_, Filter.topicAccess_judges hfailures criteria,
        Filter.stable_topicAccess cloud criteria⟩

/-- A filter for marks judges by the tags, which no filter changes. -/
theorem stable_unless_stops {kind : FilterKind} {block : Json} {build : BuildContext}
    {filter : Filter} (hbuild : kind.build block build = .ok filter)
    (htests : ¬ kind.TestsCache block) {context : RunContext}
    (hkind : kind ∈ context.resourceType.filters) {cloud : Cloud}
    (hfailures : cloud.failures = []) :
    ∃ judge, filter.JudgesUnless context cloud kind.cachedFields kind.annotations
        (kind.Stops block build) judge ∧
      Filter.Stable cloud context.resourceType judge := by
  by_cases hmarks : kind = markedForOp
  · subst hmarks
    obtain ⟨options, hoptions, rfl⟩ := exists_due_of_build hbuild
    refine ⟨_, marked_judges hoptions context cloud, .of_test fun r s hsame => ?_⟩
    exact DueOptions.hasCome_congr hsame.reflects.tags_eq context.now
  · obtain ⟨judge, hjudge, hstable⟩ := stable_of_build hbuild htests hmarks hkind hfailures
    exact ⟨judge, hjudge.never_stops fun r hstops => hmarks hstops.1, hstable⟩

/-- A filter that stops at no resource of a batch stops at none that another one has kept. -/
theorem not_stops_of_mem_filterMap {kind : FilterKind} {block : Json} {build : BuildContext}
    {cloud : Cloud} {type : ResourceType} {judge : Resource → Option Resource}
    (hstable : Filter.Stable cloud type judge) {resources : List Resource}
    (hgoes : ∀ r ∈ resources, ¬ kind.Stops block build r) :
    ∀ s ∈ resources.filterMap judge, ¬ kind.Stops block build s := by
  intro s hs hstops
  obtain ⟨r, hr, hkept⟩ := List.mem_filterMap.1 hs
  exact hgoes r hr (stops_of_alike (hstable.alike r s hkept) hstops)

end FilterKind

/-! ### Two filters -/

namespace Filter.Stable

variable {cloud : Cloud} {type : ResourceType} {first second : Resource → Option Resource}

theorem filterMap_twice (hfirst : Stable cloud type first) (resources : List Resource) :
    (resources.filterMap first).filterMap first = resources.filterMap first := by
  rw [List.filterMap_filterMap]
  refine List.filterMap_congr fun r _ => ?_
  cases hkept : first r with
  | none => rfl
  | some s => exact hfirst.again r s hkept

/-- What two judges keep one after the other are the records that each of them keeps. -/
theorem ids_filterMap (hfirst : Stable cloud type first) (hsecond : Stable cloud type second)
    (resources : List Resource) : ((resources.filterMap first).filterMap second).map (·.id) =
      (resources.filter fun r => (first r).isSome && (second r).isSome).map (·.id) := by
  induction resources with
  | nil => rfl
  | cons r rest ih =>
      rw [List.filterMap_cons, List.filter_cons]
      cases hfirstKept : first r with
      | none => exact ih
      | some s =>
          have hsame := hfirst.alike r s hfirstKept
          have hverdict := hsecond.verdict r s hsame
          rw [List.filterMap_cons]
          cases hsecondKept : second s with
          | none =>
              rw [hsecondKept] at hverdict
              rw [← hverdict]
              exact ih
          | some t =>
              have hid : t.id = r.id :=
                (hsecond.alike s t hsecondKept).reflects.id_eq.trans hsame.reflects.id_eq
              rw [hsecondKept] at hverdict
              rw [← hverdict]
              exact congrArg₂ List.cons hid ih

theorem ids_swap (hfirst : Stable cloud type first) (hsecond : Stable cloud type second)
    (resources : List Resource) : ((resources.filterMap first).filterMap second).map (·.id) =
      ((resources.filterMap second).filterMap first).map (·.id) := by
  rw [hfirst.ids_filterMap hsecond, hsecond.ids_filterMap hfirst]
  simp only [Bool.and_comm]

end Filter.Stable

namespace FilterKind

/-- **Order and repetition of filters do not matter.** Take any two filters that are built for a
resource type, neither of them one on values under a field that caches a look-up, and a batch in
which neither of them stops at a resource. In a cloud without injected failures both orders keep the
same resources, and a filter that is run on what it has kept gives it back as it is, whatever the
calls made before and the order of the workers' steps. With a resource at which a filter stops, the
order that begins with that filter has no outcome. -/
theorem filters_commute_and_settle (firstKind secondKind : FilterKind)
    (firstBlock secondBlock : Json) (firstBuild secondBuild : BuildContext) (first second : Filter)
    (hfirst : firstKind.build firstBlock firstBuild = .ok first)
    (hsecond : secondKind.build secondBlock secondBuild = .ok second)
    (hfirstTests : ¬ firstKind.TestsCache firstBlock)
    (hsecondTests : ¬ secondKind.TestsCache secondBlock) (context : RunContext)
    (hfirstKind : firstKind ∈ context.resourceType.filters)
    (hsecondKind : secondKind ∈ context.resourceType.filters) (cloud : Cloud)
    (hfailures : cloud.failures = []) (resources : List Resource) :
    ((∀ r ∈ resources, ¬ firstKind.Stops firstBlock firstBuild r) →
      (∀ r ∈ resources, ¬ secondKind.Stops secondBlock secondBuild r) →
      ∃ once firstThenSecond secondThenFirst : List Resource,
        firstThenSecond.map (·.id) = secondThenFirst.map (·.id) ∧
        ∀ schedule later : List Nat,
          let now := { context with schedule := schedule }
          let afterwards := { context with schedule := later }
          Answers cloud (first.process now resources) (.ok once) ∧
          Answers cloud (first.process now resources >>= first.process afterwards) (.ok once) ∧
          Answers cloud (first.process now resources >>= second.process afterwards)
            (.ok firstThenSecond) ∧
          Answers cloud (second.process now resources >>= first.process afterwards)
            (.ok secondThenFirst)) ∧
    ((∃ r ∈ resources, firstKind.Stops firstBlock firstBuild r) → ∀ schedule later : List Nat,
      Answers cloud (first.process { context with schedule := schedule } resources >>=
        second.process { context with schedule := later }) (.error Timestamp.tooFar)) := by
  obtain ⟨judge, hjudge, hstable⟩ :=
    stable_unless_stops hfirst hfirstTests hfirstKind hfailures
  obtain ⟨other, hother, hotherStable⟩ :=
    stable_unless_stops hsecond hsecondTests hsecondKind hfailures
  refine ⟨fun hfirstGoes hsecondGoes => ?_, fun hstops schedule later =>
    (hjudge.fails schedule resources hstops).bind_error⟩
  refine ⟨resources.filterMap judge, (resources.filterMap judge).filterMap other,
    (resources.filterMap other).filterMap judge, hstable.ids_swap hotherStable resources,
    fun schedule later => ⟨hjudge.answers _ _ hfirstGoes, ?_, ?_, ?_⟩⟩
  · have htwice := (hjudge.answers schedule resources hfirstGoes).bind
      (hjudge.answers later _ (not_stops_of_mem_filterMap hstable hfirstGoes))
    rwa [hstable.filterMap_twice] at htwice
  · exact (hjudge.answers schedule resources hfirstGoes).bind
      (hother.answers later _ (not_stops_of_mem_filterMap hstable hsecondGoes))
  · exact (hother.answers schedule resources hsecondGoes).bind
      (hjudge.answers later _ (not_stops_of_mem_filterMap hotherStable hfirstGoes))

/-- A filter that keeps log bindings in the records of topics, and one on the names of topics. -/
theorem logging_and_names_commute :
    let logging : Json := .obj [("type", .string "topic-lts")]
    let named : Json := .obj [("type", .string "value"), ("key", .string "name"),
      ("value", .string "audit")]
    let context : RunContext := { (default : RunContext) with resourceType := .topic }
    let cloud : Cloud := { logtanks := .ofList [("urn:smn:1", [.obj [("id", .string "tank")]])] }
    ∃ first second, topicLogging.build logging default = .ok first ∧
      value.build named default = .ok second ∧
      ∀ resources : List Resource, ∃ once firstThenSecond secondThenFirst : List Resource,
        firstThenSecond.map (·.id) = secondThenFirst.map (·.id) ∧
        ∀ schedule later : List Nat,
          let now := { context with schedule := schedule }
          let afterwards := { context with schedule := later }
          Answers cloud (first.process now resources) (.ok once) ∧
          Answers cloud (first.process now resources >>= first.process afterwards) (.ok once) ∧
          Answers cloud (first.process now resources >>= second.process afterwards)
            (.ok firstThenSecond) ∧
          Answers cloud (second.process now resources >>= first.process afterwards)
            (.ok secondThenFirst) := by
  intro logging named context cloud
  have hlogging : ¬ topicLogging.TestsCache logging := by
    rintro ⟨hvalue, -⟩
    revert hvalue
    decide
  have hnamed : ¬ value.TestsCache named := by
    rintro ⟨-, p, hp, field, hfield, hfirst⟩
    cases hp
    revert field
    decide
  refine ⟨_, _, rfl, rfl, fun resources => ?_⟩
  exact (filters_commute_and_settle .topicLogging .value logging named default default _ _ rfl rfl
    hlogging hnamed context (by decide) (by decide) cloud rfl resources).1
    (fun _ _ h => nomatch h.1) fun _ _ h => nomatch h.1

/-- A function without a name was marked for the first day of 2025. A filter on another name drops
it, and then a filter for marks with a skew of a hundred million days has nothing to compare; the
other way round that filter stops at the function. -/
theorem one_order_stops :
    let named : Json := .obj [("type", .string "value"), ("key", .string "func_name"),
      ("value", .string "billing")]
    let marked : Json := .obj [("type", .string "marked-for-op"),
      ("op", .string "delete-function"), ("skew", .nat 100000000)]
    let build : BuildContext := { (default : BuildContext) with resourceType := .function }
    let context : RunContext := { (default : RunContext) with resourceType := .function }
    let function : Resource := .ofRecord (.obj [("id", .string "fn-1"),
      ("tags", .obj [("mark-for-op-cirrus", .string "delete-function_2025-01-01")])])
    Validation.validate value.schema named = .ok () ∧
      Validation.validate markedForOp.schema marked = .ok () ∧ ¬ value.TestsCache named ∧
      ∃ first second, value.build named build = .ok first ∧
        markedForOp.build marked build = .ok second ∧
        ((first.process context [function] >>= second.process context).run {}).1 = .ok [] ∧
        ((second.process context [function] >>= first.process context).run {}).1 =
          .error Timestamp.tooFar := by
  intro named marked build context function
  have hnamed : ¬ value.TestsCache named := by
    rintro ⟨-, p, hp, field, hfield, hfirst⟩
    cases hp
    revert field
    decide
  let options : DueOptions :=
    ⟨"mark-for-op-cirrus", "delete-function", ⟨8640000000000, by decide⟩, .utc⟩
  have hoptions : DueOptions.ofBlock marked build = .ok options :=
    Steps.eq_ok_of_toOption (by decide +kernel)
  have hdate : some (.ofSeconds 1735689600 0) ∈ [function].map options.date? := by decide +kernel
  have hstops : (((Filter.markedForOp options).process context [function]).run {}).1 =
      .error Timestamp.tooFar := marked_stops hdate (by decide) context {}
  let p : Predicate := ⟨"func_name", .ofJson (.string "billing"), .eq⟩
  have hdropped : [function].filter p.holds = [] := List.filter_eq_nil_iff.2 (by decide +kernel)
  refine ⟨by decide +kernel, by decide +kernel, hnamed, Filter.ofPredicate "value" p, _, rfl,
    build_of_due hoptions, ?_,
    congrArg Prod.fst (Steps.run_bind_of_error (Prod.ext hstops rfl))⟩
  rw [Filter.ofPredicate, Filter.ofTest, pure_bind, hdropped]
  rfl

end FilterKind

end CloudPolicy
