import CloudPolicy.Proofs.Judgement
import CloudPolicy.Proofs.Selection

/-! Filters in pairs of which one keeps what the other one leaves out. Each pair comes down to one
test of a single record, so that a batch is divided between the two, whatever is missing in its
records, kept in them or looked up for them. -/

namespace CloudPolicy

/-! ### Predicates -/

/-- Of the predicates one asks for what the other one excludes. The words for presence and for
truthiness take no notice of the operators. -/
inductive Predicate.Opposite : Predicate → Predicate → Prop where
  | equality (key : String) (value : Json) :
      Opposite ⟨key, .value value, .eq⟩ ⟨key, .value value, .ne⟩
  | membership (key : String) (value : Json) :
      Opposite ⟨key, .value value, .isIn⟩ ⟨key, .value value, .notIn⟩
  | presence (key : String) (operator other : Operator) :
      Opposite ⟨key, .absent, operator⟩ ⟨key, .present, other⟩
  | truthiness (key : String) (operator other : Operator) :
      Opposite ⟨key, .empty, operator⟩ ⟨key, .notNull, other⟩

theorem Predicate.Opposite.holds_eq_not {p q : Predicate} (h : p.Opposite q) (r : Resource) :
    q.holds r = !p.holds r := by
  rw [holds, holds]
  cases h with
  | equality key value =>
      cases r.resolve? key with
      | none => rfl
      | some actual => rfl
  | membership key value =>
      cases r.resolve? key with
      | none => rfl
      | some actual => rfl
  | presence key operator other =>
      cases r.resolve? key with
      | none => rfl
      | some actual => rfl
  | truthiness key operator other => exact (Bool.not_not _).symm

/-! ### Placements -/

namespace Filter

/-- A placement is matched as its block asks for. -/
theorem mode_of_placementOptions {block : Json} {build : BuildContext} {options : PlacementOptions}
    (h : placementOptions block build = .ok options) :
    placementMatch block build = .ok options.mode := by
  obtain ⟨key, -, h⟩ := Steps.of_bind_eq_ok h
  obtain ⟨mode, hmode, h⟩ := Steps.of_bind_eq_ok h
  cases h
  exact hmode

/-- Blocks that differ in nothing but how placements are matched give options that differ in nothing
else. -/
theorem placementOptions_eq {block other : Json} {build build' : BuildContext}
    {options options' : PlacementOptions}
    (hsame : ∀ key, key ≠ "match" → other.field? key = block.field? key)
    (h : placementOptions block build = .ok options)
    (h' : placementOptions other build' = .ok options') :
    options' = { options with mode := options'.mode } := by
  obtain ⟨key, hkey, h⟩ := Steps.of_bind_eq_ok h
  obtain ⟨mode, -, h⟩ := Steps.of_bind_eq_ok h
  obtain ⟨key', hkey', h'⟩ := Steps.of_bind_eq_ok h'
  obtain ⟨mode', -, h'⟩ := Steps.of_bind_eq_ok h'
  cases h
  cases h'
  have hkeys : key' = key := by
    have htext := BuildContext.eq_some_of_require hkey
    have htext' := BuildContext.eq_some_of_require hkey'
    rw [Json.textOption?, Json.stringField?] at htext htext'
    rw [hsame "key" (by decide), htext] at htext'
    exact (Option.some.inj htext').symm
  simp only [hkeys, Json.stringsField?, Json.boolOption, Json.textsOption,
    hsame "compare" (by decide), hsame "max-cardinality" (by decide),
    hsame "missing-ok" (by decide), hsame "ignore" (by decide), hsame "value" (by decide)]

theorem isSome_keepPlacement (options : PlacementOptions) (r : Resource)
    (subnets groups : List Resource) :
    (keepPlacement { options with mode := .notEqual } r subnets groups).isSome =
      !(keepPlacement { options with mode := .equal } r subnets groups).isSome := by
  have hfindings (mode : PlacementMatch) :
      PlacementOptions.evaluate { options with mode } r subnets groups =
        options.evaluate r subnets groups := rfl
  simp only [keepPlacement, hfindings]
  cases options.evaluate r subnets groups with
  | nil => rfl
  | cons finding findings => rfl

/-! ### Two judges -/

variable {context : RunContext} {cloud : Cloud} {fields annotations : List String}

/-- A judge keeps the resources for which it gives something, apart from cached look-ups and
annotations. -/
theorem JudgesBy.forall₂_reflects {filter : Filter} {judge : Resource → Option Resource}
    (hjudges : filter.JudgesBy context cloud fields annotations judge)
    (hfields : fields ⊆ Resource.caches) (resources : List Resource) :
    List.Forall₂ Resource.Reflects (resources.filterMap judge)
      (resources.filter fun r => (judge r).isSome) := by
  induction resources with
  | nil => exact .nil
  | cons r rest ih =>
      cases hkept : judge r with
      | none =>
          rw [List.filterMap_cons_none hkept, List.filter_cons_of_neg (by simp [hkept])]
          exact ih
      | some s =>
          rw [List.filterMap_cons_some hkept, List.filter_cons_of_pos (by simp [hkept])]
          exact .cons ((hjudges.agrees r s hkept).reflects hfields) ih

/-- Of every batch the first filter keeps a part and the second one the rest, with one test for all
batches. -/
def Complement (first second : Filter) (context : RunContext) (cloud : Cloud) : Prop :=
  ∃ keep : Resource → Bool, ∀ schedule resources, ∃ kept left,
    Answers cloud (first.process { context with schedule } resources) (.ok kept) ∧
    Answers cloud (second.process { context with schedule } resources) (.ok left) ∧
    List.Forall₂ Resource.Reflects kept (resources.filter keep) ∧
    List.Forall₂ Resource.Reflects left (resources.filter fun r => !keep r)

theorem JudgesBy.complement {first second : Filter} {fields' annotations' : List String}
    {judge judge' : Resource → Option Resource}
    (hfirst : first.JudgesBy context cloud fields annotations judge)
    (hsecond : second.JudgesBy context cloud fields' annotations' judge')
    (hfields : fields ⊆ Resource.caches) (hfields' : fields' ⊆ Resource.caches)
    (hopposite : ∀ r, (judge' r).isSome = !(judge r).isSome) :
    first.Complement second context cloud := by
  refine ⟨fun r => (judge r).isSome, fun schedule resources => ⟨_, _,
    hfirst.answers schedule resources, hsecond.answers schedule resources,
    hfirst.forall₂_reflects hfields resources, ?_⟩⟩
  have hleft := hsecond.forall₂_reflects hfields' resources
  rwa [funext hopposite] at hleft

theorem JudgesBy.complement_of_tests {first second : Filter} {test test' : Resource → Bool}
    (hfirst : first.JudgesBy context cloud [] [] (Option.guard test))
    (hsecond : second.JudgesBy context cloud [] [] (Option.guard test'))
    (hopposite : ∀ r, test' r = !test r) : first.Complement second context cloud := by
  refine hfirst.complement hsecond (List.nil_subset _) (List.nil_subset _) fun r => ?_
  rw [Option.isSome_guard, Option.isSome_guard]
  exact hopposite r

end Filter

/-! ### The pairs -/

namespace FilterKind

/-- The pairs of filters, as kinds with their blocks, of which one is meant to keep what the other
one leaves out. -/
inductive Opposite : FilterKind → Json → FilterKind → Json → Prop where
  | logging (block other : Json) : Opposite isLogging block isNotLogging other
  | transferred (block other : Json) : Opposite isTransferred block isNotTransferred other
  | topicLogging {block other : Json} (henabled : block.boolOption "enabled" true = true)
      (hdisabled : other.boolOption "enabled" true = false) :
      Opposite topicLogging block topicLogging other
  | networkLocation {block other : Json} (hequal : block.textOption? "match" = some "equal")
      (hnotEqual : (other.textOption? "match").getD "not-equal" = "not-equal")
      (hsame : ∀ key, key ≠ "match" → other.field? key = block.field? key) :
      Opposite networkLocation block networkLocation other
  | predicate {kind : FilterKind} (hkind : kind = value ∨ kind = attributes) {block other : Json}
      {p q : Predicate} (hblock : Predicate.ofBlock block = .ok p)
      (hother : Predicate.ofBlock other = .ok q) (hopposite : p.Opposite q) :
      Opposite kind block kind other

/-- Two placements that are matched oppositely and have nothing else different share their
options. -/
theorem placements_of_build {block other : Json} {build build' : BuildContext}
    {first second : Filter} (hequal : block.textOption? "match" = some "equal")
    (hnotEqual : (other.textOption? "match").getD "not-equal" = "not-equal")
    (hsame : ∀ key, key ≠ "match" → other.field? key = block.field? key)
    (hfirst : networkLocation.build block build = .ok first)
    (hsecond : networkLocation.build other build' = .ok second) :
    ∃ options : PlacementOptions, first = Filter.placement { options with mode := .equal } ∧
      second = Filter.placement { options with mode := .notEqual } := by
  obtain ⟨options, hoptions, rfl⟩ := exists_placement_of_build hfirst
  obtain ⟨options', hoptions', rfl⟩ := exists_placement_of_build hsecond
  have hmode : options.mode = .equal := by
    have hmatch := Filter.mode_of_placementOptions hoptions
    rw [Filter.placementMatch, hequal] at hmatch
    exact (Except.ok.inj hmatch).symm
  have hmode' : options'.mode = .notEqual := by
    have hmatch := Filter.mode_of_placementOptions hoptions'
    rw [Filter.placementMatch, hnotEqual] at hmatch
    exact (Except.ok.inj hmatch).symm
  refine ⟨options, ?_, ?_⟩
  · rw [← hmode]
  · rw [← hmode', ← Filter.placementOptions_eq hsame hoptions hoptions']

/-- **Opposite filters divide every batch.** When no failure is injected, of every batch, in every
cloud and under every order of look-ups, each resource is kept by exactly one of two opposite
filters, and is there the record that it was apart from cached look-ups and annotations. -/
theorem opposite_filters_divide (kind other : FilterKind) (block otherBlock : Json)
    (hopposite : kind.Opposite block other otherBlock) (build otherBuild : BuildContext)
    (first second : Filter) (hfirst : kind.build block build = .ok first)
    (hsecond : other.build otherBlock otherBuild = .ok second) (context : RunContext)
    (cloud : Cloud) (hfailures : cloud.failures = []) :
    ∃ keep : Resource → Bool, ∀ schedule resources, ∃ kept left,
      Answers cloud (first.process { context with schedule } resources) (.ok kept) ∧
      Answers cloud (second.process { context with schedule } resources) (.ok left) ∧
      List.Forall₂ Resource.Reflects kept (resources.filter keep) ∧
      List.Forall₂ Resource.Reflects left (resources.filter fun r => !keep r) := by
  show first.Complement second context cloud
  cases hopposite with
  | logging =>
      cases hfirst
      cases hsecond
      refine (Filter.ofTest_judges _ fun _ => rfl).complement_of_tests
        (Filter.ofTest_judges _ fun _ => rfl) fun r => ?_
      cases Filter.isLogging r <;> rfl
  | transferred =>
      cases hfirst
      cases hsecond
      refine (Filter.transferred_judges hfailures true).complement_of_tests
        (Filter.transferred_judges hfailures false) fun r => ?_
      cases Filter.isTransferred cloud r <;> rfl
  | topicLogging henabled hdisabled =>
      cases hfirst
      cases hsecond
      rw [henabled, hdisabled]
      refine (Filter.topicLogging_judges hfailures true).complement
        (Filter.topicLogging_judges hfailures false) (by decide) (by decide) fun r => ?_
      cases (Filter.bindings cloud r).1.isEmpty <;> rfl
  | networkLocation hequal hnotEqual hsame =>
      obtain ⟨options, rfl, rfl⟩ := placements_of_build hequal hnotEqual hsame hfirst hsecond
      refine (Filter.placement_judges hfailures _).complement
        (Filter.placement_judges hfailures _) (List.nil_subset _) (List.nil_subset _) fun r => ?_
      exact Filter.isSome_keepPlacement options r _ _
  | predicate hkind hblock hother hpredicates =>
      obtain ⟨p, hp, rfl⟩ := predicate_of_build hkind hfirst
      obtain ⟨q, hq, rfl⟩ := predicate_of_build hkind hsecond
      cases hblock.symm.trans hp
      cases hother.symm.trans hq
      exact (Filter.ofTest_judges _ fun _ => rfl).complement_of_tests
        (Filter.ofTest_judges _ fun _ => rfl) hpredicates.holds_eq_not

/-- Functions with one environment on them, on their subnets and on their security groups, and all
other functions. Of two functions in one subnet the first has a group of its own environment, and
the second a group of another one. -/
theorem placements_divide_functions :
    let tagged (id env : String) : Resource := .ofRecord (.obj [("id", .string id),
      ("tags", .obj [("Env", .string env)])])
    let function (id group : String) : Resource := .ofRecord (.obj [("id", .string id),
      ("tags", .obj [("Env", .string "prod")]), ("func_vpc", .obj
        [("subnet_id", .string "sub-1"), ("security_groups", .strings [group])])])
    let cloud : Cloud := { ({} : Cloud) with
      subnets := [tagged "sub-1" "prod"]
      securityGroups := [tagged "sg-1" "prod", tagged "sg-2" "dev"] }
    let batch := [function "fn-1" "sg-1", function "fn-2" "sg-2"]
    let block : Json := .obj [("type", .string "network-location"), ("key", .string "tag:Env"),
      ("match", .string "equal")]
    let other : Json := .obj [("type", .string "network-location"), ("key", .string "tag:Env")]
    let build : BuildContext := { (default : BuildContext) with resourceType := .function }
    let context : RunContext := { (default : RunContext) with resourceType := .function }
    let keptIds (filter : Filter) : Option (List String) :=
      ((filter.process context batch).run cloud).1.toOption.map fun kept => kept.map Resource.id
    ∃ first second, networkLocation.build block build = .ok first ∧
      networkLocation.build other build = .ok second ∧
      (∃ keep : Resource → Bool, ∀ schedule resources, ∃ kept left,
        Answers cloud (first.process { context with schedule } resources) (.ok kept) ∧
        Answers cloud (second.process { context with schedule } resources) (.ok left) ∧
        List.Forall₂ Resource.Reflects kept (resources.filter keep) ∧
        List.Forall₂ Resource.Reflects left (resources.filter fun r => !keep r)) ∧
      keptIds first = some ["fn-1"] ∧ keptIds second = some ["fn-2"] := by
  intro tagged function cloud batch block other build context keptIds
  have hsame : ∀ key, key ≠ "match" → other.field? key = block.field? key := by
    intro key hkey
    rw [Json.field?_obj, Json.field?_obj]
    exact (if_neg hkey.symm).symm
  refine ⟨_, _, rfl, rfl, opposite_filters_divide networkLocation networkLocation block other
    (.networkLocation rfl rfl hsame) build build _ _ rfl rfl context cloud rfl, ?_, ?_⟩
  · decide +kernel
  · decide +kernel

end FilterKind

end CloudPolicy
