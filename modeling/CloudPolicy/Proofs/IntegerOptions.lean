import CloudPolicy.Proofs.Compiled
import CloudPolicy.Proofs.Records
import CloudPolicy.Proofs.Rounding
import CloudPolicy.Proofs.SatisfiedSchemas

/-! Options that the schemas declare to be integers. A schema accepts every number without a
fraction, however it is written; what a filter or an action makes of the number is compared with the
integer that the number denotes. -/

namespace CloudPolicy

/-! ### Integers -/

namespace Json

theorem eq_string_of_string? {j : Json} {text : String} (h : j.string? = some text) :
    j = .string text := by
  cases j with
  | string written => exact congrArg string (Option.some.inj h)
  | _ => cases h

theorem eq_int_of_intWithin? {low high value : Int} {j : Json}
    (h : j.intWithin? low high = some value) : j = .int value := by
  unfold intWithin? at h
  split at h
  next written =>
    obtain ⟨-, hwritten⟩ := Option.ite_none_right_eq_some.1 h
    rw [Option.some.inj hwritten]
    rfl
  next => cases h

end Json

namespace JsonNumber

/-- The number is the integer, however it is written. -/
inductive Denotes : JsonNumber → Int → Prop where
  | int (v : Int) : Denotes (.int v) v
  | float {negative : Bool} {units : Nat} {v : Int}
      (h : Binary64.signed negative units = v * Binary64.one) :
      Denotes (.float (.finite negative units)) v

theorem Denotes.scaled_eq {x : JsonNumber} {v : Int} (h : x.Denotes v) :
    x.scaled = v * Binary64.one := by
  cases h with
  | int => rfl
  | float h => exact h

/-- A natural number with a zero fraction. -/
theorem denotes_float (n : Nat) : (float (.finite false (n * Binary64.one))).Denotes n := by
  refine .float ?_
  rw [Binary64.signed, if_neg Bool.false_ne_true, Nat.cast_mul]

theorem Denotes.unique {x : JsonNumber} {v w : Int} (h : x.Denotes v) (h' : x.Denotes w) : v = w :=
  Int.eq_of_mul_eq_mul_right (Int.natCast_pos.2 Binary64.one_pos).ne'
    (h.scaled_eq.symm.trans h'.scaled_eq)

/-- The numbers that a schema takes for integers are those that denote one. -/
theorem exists_denotes_of_admits {value : Json} (h : SimpleType.integer.admits value = true) :
    ∃ x v, value = .number x ∧ x.Denotes v := by
  cases value with
  | number x =>
      cases x with
      | int value => exact ⟨_, value, rfl, .int value⟩
      | float value =>
          cases value with
          | finite negative units =>
              unfold SimpleType.admits Binary64.isWhole at h
              dsimp only at h
              rw [decide_eq_true_eq] at h
              obtain ⟨whole, hunits⟩ := Nat.dvd_of_mod_eq_zero h
              refine ⟨_, Binary64.signed negative whole, rfl, .float ?_⟩
              unfold Binary64.signed
              rw [hunits, Nat.cast_mul]
              split <;> ring
          | _ => cases h
  | _ => cases h

end JsonNumber

namespace Schema

/-- The schema declares the property to be an integer. -/
def DeclaresInteger (schema : Json) (key : String) : Prop :=
  ∃ property, property? schema key = some property ∧ property.stringField? "type" = some "integer"

instance (schema : Json) (key : String) : Decidable (DeclaresInteger schema key) :=
  decidable_of_iff ((property? schema key).any fun property =>
    property.stringField? "type" = some "integer") (by simp [Option.any_eq_true, DeclaresInteger])

/-- What satisfies a schema of integers denotes one that is not below the minimum. -/
theorem exists_denotes_of_violations {property : Json} {schema : Schema} {least : Int}
    (hschema : ofJson? property = some schema)
    (htype : property.stringField? "type" = some "integer")
    (hminimum : (property.field? "minimum").bind Json.int64? = some least) {path : List String}
    {value : Json} (h : schema.violations path value = []) :
    ∃ x v, value = .number x ∧ x.Denotes v ∧ least ≤ v := by
  cases property with
  | object fields =>
      obtain ⟨written, hwritten, hinteger⟩ := Option.bind_eq_some_iff.1 htype
      have hwritten : fields.get? "type" = some written := hwritten
      obtain ⟨bound, hbound, hleast⟩ := Option.bind_eq_some_iff.1 hminimum
      have hbound : fields.get? "minimum" = some bound := hbound
      obtain rfl : written = .string "integer" := Json.eq_string_of_string? hinteger
      obtain rfl : bound = .int least := Json.eq_int_of_intWithin? hleast
      obtain ⟨types, _, _, _, _, minimum, _, _, _, rfl, -, htypes, hleast, -⟩ :=
        exists_rules_of_ofJson? hschema
      rw [rule?, hwritten] at htypes
      rw [rule?, hbound] at hleast
      obtain rfl : types = some [.integer] := (Option.some.inj htypes).symm
      obtain rfl : minimum = some (.int least) := (Option.some.inj hleast).symm
      obtain ⟨hadmitted, hfaults, -⟩ := faults_eq_nil_of_violations h
      obtain ⟨x, v, rfl, hdenotes⟩ :=
        JsonNumber.exists_denotes_of_admits (admits_of_typeFaults hadmitted)
      refine ⟨x, v, rfl, hdenotes, ?_⟩
      have hscaled : ¬ x.scaled < (JsonNumber.int least).scaled := by
        intro hless
        unfold minimumFaults at hfaults
        dsimp only at hfaults
        rw [if_pos hless] at hfaults
        cases hfaults
      rw [hdenotes.scaled_eq, JsonNumber.scaled, Int.not_lt] at hscaled
      exact Int.le_of_mul_le_mul_right hscaled (Int.natCast_pos.2 Binary64.one_pos)
  | _ => cases htype

/-- A value of a property that is declared to be an integer denotes one. -/
theorem exists_denotes_of_satisfies {schema property block value : Json} {key : String}
    {least : Int} (hproperty : property? schema key = some property)
    (htype : property.stringField? "type" = some "integer")
    (hminimum : (property.field? "minimum").bind Json.int64? = some least)
    (h : Satisfies block schema) (hvalue : block.field? key = some value) :
    ∃ x v, value = .number x ∧ x.Denotes v ∧ least ≤ v := by
  obtain ⟨rules, path, hrules, hnone⟩ := h.exists_property hproperty hvalue
  exact exists_denotes_of_violations hrules htype hminimum hnone

end Schema

/-! ### Comparing with integers -/

namespace Binary64

theorem compare_scaled (a b : Int) : compare (a * one) (b * one) = compare a b := by
  have hone : (0 : Int) < one := Int.natCast_pos.2 one_pos
  rcases Int.lt_trichotomy a b with hless | rfl | hless
  · rw [Int.compare_eq_lt.2 hless, Int.compare_eq_lt.2 ((Int.mul_lt_mul_right hone).2 hless)]
  · rw [Int.compare_eq_eq.2 rfl, Int.compare_eq_eq.2 rfl]
  · rw [Int.compare_eq_gt.2 hless, Int.compare_eq_gt.2 ((Int.mul_lt_mul_right hone).2 hless)]

/-- A count compares with a number that denotes a small integer as it does with the integer. A count
too large for the significand is rounded, but not past the integer. -/
theorem compare?_ofNat (n : Nat) {negative : Bool} {units : Nat} {v : Int}
    (hdenotes : signed negative units = v * one) (hsmall : v < 2 ^ precision) :
    (ofNat n).compare? (finite negative units) = some (compare (n : Int) v) := by
  by_cases hn : n ≤ 2 ^ precision
  · rw [ofNat_of_le hn, compare?, hdenotes, ← compare_scaled n v, signed, if_neg Bool.false_ne_true,
      Nat.cast_mul]
  · have hlarge : 2 ^ precision < n := Nat.not_le.1 hn
    have hsmall : v < (2 ^ precision : Nat) := by exact_mod_cast hsmall
    have hround : 2 ^ precision * one ≤ roundUnits (n * one) 1 := by
      obtain ⟨bits, hbits⟩ : ∃ bits, one = 2 ^ bits := ⟨_, one_eq⟩
      have hunits : 2 ^ (precision + bits) ≤ n * one := by
        rw [Nat.pow_add, ← hbits]
        exact Nat.mul_le_mul_right _ hlarge.le
      rw [hbits, ← Nat.pow_add, ← hbits]
      exact two_pow_le_roundUnits hunits
    have hless : v * one < (roundUnits (n * one) 1 : Int) := by
      calc v * one < ((2 ^ precision : Nat) : Int) * one :=
            (Int.mul_lt_mul_right (Int.natCast_pos.2 one_pos)).2 hsmall
        _ ≤ roundUnits (n * one) 1 := by exact_mod_cast hround
    have hsign : decide ((n : Int) < 0) = false := decide_eq_false (by omega)
    have hgreater : compare (n : Int) v = .gt := Int.compare_eq_gt.2 (by omega)
    rw [ofNat, ofInt, ofUnits, hsign, Int.natAbs_natCast]
    split
    · rw [compare?, hdenotes, hgreater, Int.compare_eq_gt.2]
      exact hless
    · rw [compare?, hgreater]
      rfl

end Binary64

namespace Operator

/-- Compare two integers. The membership operators never hold. -/
def compareIntegers (operator : Operator) (lhs rhs : Int) : Bool :=
  match operator with
  | eq => lhs = rhs
  | ne => lhs ≠ rhs
  | gt => rhs < lhs
  | gte => rhs ≤ lhs
  | lt => lhs < rhs
  | lte => lhs ≤ rhs
  | _ => false

/-- A count compares with what a small integer was read as like with the integer. -/
theorem compareNumbers_ofNat (operator : Operator) (n : Nat) {negative : Bool} {units : Nat}
    {v : Int} (hdenotes : Binary64.signed negative units = v * Binary64.one)
    (hsmall : v < 2 ^ Binary64.precision) :
    operator.compareNumbers (.ofNat n) (.finite negative units) = operator.compareIntegers n v := by
  have horder := Binary64.compare?_ofNat n hdenotes hsmall
  have hswap := Binary64.compare?_swap (.ofNat n) (.finite negative units)
  rw [horder, Option.map_some, ← Std.OrientedCmp.eq_swap] at hswap
  unfold compareNumbers compareIntegers Binary64.lessOrEqual Binary64.less Binary64.equal
  rw [horder, hswap]
  have hle (a b : Int) : (decide (a < b) || decide (a = b)) = decide (a ≤ b) := by
    rw [← Bool.decide_or]
    exact decide_eq_decide.2 (by omega)
  cases operator <;> simp [Int.compare_eq_lt, hle]

end Operator

/-! ### What numbers are read as -/

/-- The whole part of a number that is whole. -/
theorem Binary64.signed_div {negative : Bool} {units d : Nat} {v : Int} (hd : 0 < d)
    (hnonneg : 0 ≤ v) (h : signed negative units = v * d) : signed negative (units / d) = v := by
  obtain ⟨n, rfl⟩ := Int.eq_ofNat_of_zero_le hnonneg
  unfold signed at h ⊢
  cases negative with
  | false =>
      rw [if_neg Bool.false_ne_true] at h
      obtain rfl : units = n * d := by exact_mod_cast h
      rw [if_neg Bool.false_ne_true, Nat.mul_div_cancel n hd]
  | true =>
      -- only zero has both signs
      have hzero : units + n * d = 0 := by
        rw [if_pos rfl] at h
        exact_mod_cast (by omega : (units : Int) + n * d = 0)
      obtain ⟨rfl, hn⟩ := Nat.add_eq_zero_iff.1 hzero
      obtain rfl : n = 0 := (Nat.mul_eq_zero.1 hn).resolve_right hd.ne'
      rw [Nat.zero_div, if_pos rfl]
      rfl

namespace JsonNumber

variable {x : JsonNumber} {v : Int}

/-- A small integer is read exactly. -/
theorem Denotes.exists_toFloat_eq (h : x.Denotes v) (hnonneg : 0 ≤ v)
    (hsmall : v < 2 ^ Binary64.precision) : ∃ negative units,
      x.toFloat = .finite negative units ∧ Binary64.signed negative units = v * Binary64.one := by
  cases h with
  | int v =>
      obtain ⟨n, rfl⟩ := Int.eq_ofNat_of_zero_le hnonneg
      have hn : n ≤ 2 ^ Binary64.precision := by exact_mod_cast hsmall.le
      refine ⟨false, n * Binary64.one, Binary64.ofNat_of_le hn, ?_⟩
      rw [Binary64.signed, if_neg Bool.false_ne_true, Nat.cast_mul]
  | float h => exact ⟨_, _, rfl, h⟩

theorem Denotes.toInt64_toFloat (h : x.Denotes v) (hnonneg : 0 ≤ v)
    (hsmall : v < 2 ^ Binary64.precision) : x.toFloat.toInt64 = v := by
  obtain ⟨negative, units, hfloat, hsigned⟩ := h.exists_toFloat_eq hnonneg hsmall
  have hwhole := Binary64.signed_div Binary64.one_pos hnonneg hsigned
  rw [hfloat, Binary64.toInt64, Binary64.truncate, hwhole]
  simp only [Binary64.precision, Nat.pow_eq] at hsmall ⊢
  omega

/-- Options that are read as integers take a number for one only if it is written as one. -/
theorem Denotes.eq_of_intWithin? {low high value : Int} (h : x.Denotes v)
    (hread : (Json.number x).intWithin? low high = some value) : x = .int v ∧ value = v := by
  cases h with
  | int v =>
      cases Json.eq_int_of_intWithin? hread
      exact ⟨rfl, rfl⟩
  | float h => cases hread

end JsonNumber

/-! ### Options of the registered kinds -/

namespace Schema

/-- The declared integers of a schema, with their minima. -/
def declaredIntegers (schema : Json) : List (String × Option Int) :=
  (Action.fieldsOf ((schema.field? "properties").getD .null)).filterMap fun property =>
    if property.2.stringField? "type" = some "integer" then
      some (property.1, (property.2.field? "minimum").bind Json.int64?)
    else none

/-- No integer that the schema declares may be negative. -/
def DeclaresNaturals (schema : Json) : Prop :=
  ∀ declared ∈ declaredIntegers schema, ∃ least, declared.2 = some least ∧ 0 ≤ least

theorem mem_declaredIntegers {schema property : Json} {key : String}
    (hproperty : property? schema key = some property)
    (htype : property.stringField? "type" = some "integer") :
    (key, (property.field? "minimum").bind Json.int64?) ∈ declaredIntegers schema := by
  obtain ⟨properties, hproperties, hproperty⟩ := Option.bind_eq_some_iff.1 hproperty
  cases properties with
  | object fields =>
      unfold declaredIntegers
      rw [hproperties]
      refine List.mem_filterMap.2 ⟨_, StringMap.mem_entries_of_get? hproperty, ?_⟩
      rw [if_pos htype]
  | _ => cases hproperty

end Schema

theorem FilterKind.declaredIntegers_schema (kind : FilterKind) :
    Schema.declaredIntegers kind.schema = match kind with
      | tagCount | publicAddressCount | backendCount => [("count", some 0)]
      | networkLocation => [("max-cardinality", some 0)]
      | _ => [] := by
  cases kind <;> decide +kernel

theorem ActionKind.declaredIntegers_schema (kind : ActionKind) :
    Schema.declaredIntegers kind.schema = match kind with
      | trimTags => [("space", some 0)]
      | updateConcurrency => [("value", some 0)]
      | createLogTransfer => [("obs_period", some 1)]
      | _ => [] := by
  cases kind <;> decide +kernel

theorem FilterKind.declaresNaturals_schema (kind : FilterKind) :
    Schema.DeclaresNaturals kind.schema := by
  rw [Schema.DeclaresNaturals, kind.declaredIntegers_schema]
  cases kind <;> simp

theorem ActionKind.declaresNaturals_schema (kind : ActionKind) :
    Schema.DeclaresNaturals kind.schema := by
  rw [Schema.DeclaresNaturals, kind.declaredIntegers_schema]
  cases kind <;> simp

/-! ### Built filters and actions -/

/-- The filter that a block of a kind describes when its integer is `v`. -/
inductive FilterKind.Uses (block : Json) (build : BuildContext) (v : Int) :
    FilterKind → Filter → Prop where
  | tagCount {operator : Operator} (hoperator : Operator.ofBlock block .gte = .ok operator) :
      Uses block build v .tagCount (Filter.ofTest "tag-count" fun _ r =>
        operator.compareIntegers (Filter.userTags r).length v)
  | publicAddressCount {operator : Operator}
      (hoperator : Operator.ofBlock block .gte = .ok operator) :
      Uses block build v .publicAddressCount (Filter.ofTest "publicip-count" fun _ r =>
        operator.compareIntegers (Filter.publicAddresses r) v)
  | backendCount {operator : Operator} (hoperator : Operator.ofBlock block .gte = .ok operator) :
      Uses block build v .backendCount {
        name := "backend-server-count"
        process := fun _ resources => Filter.keepM (fun r => do
          let members ← Cloud.memberCount r.id
          return operator.compareIntegers members v) resources }
  | networkLocation {options : PlacementOptions}
      (hoptions : Filter.placementOptions block build = .ok options) :
      Uses block build v .networkLocation
        (Filter.placement { options with maxCardinality := v.toNat })

theorem FilterKind.Uses.exists_options {block : Json} {build : BuildContext} {v : Int}
    {filter : Filter} (h : FilterKind.networkLocation.Uses block build v filter) :
    ∃ options, Filter.placementOptions block build = .ok options ∧
      filter = Filter.placement { options with maxCardinality := v.toNat } := by
  cases h with
  | networkLocation hoptions => exact ⟨_, hoptions, rfl⟩

/-- The action that a block of a kind describes when its integer is `v`. -/
inductive ActionKind.Uses (block : Json) (v : Int) : ActionKind → Action → Prop where
  | trimTags : Uses block v .trimTags
      (.ofPlan "tag-trim" (Action.trimPlan v.toNat (block.textsOption "preserve")))
  | updateConcurrency : Uses block v .updateConcurrency (.updateConcurrency v)
  | createLogTransfer {bucket : String}
      (hbucket : block.someTextOption? "obs_bucket_name" = some bucket)
      (hperiod : ((Action.transferInfo block bucket).field? "log_transfer_detail").bind
        (·.field? "obs_period") = some (.int v)) :
      Uses block v .createLogTransfer (.createTransfers (Action.transferInfo block bucket))

/-- The integer that a filter of a kind uses for a number that denotes `v`. A network placement
takes a number that is written with a fraction for no integer, and uses its default. -/
def FilterKind.used (kind : FilterKind) (x : JsonNumber) (v : Int) : Int :=
  match kind, x with
  | networkLocation, .float _ => 1
  | _, _ => v

section

variable {block : Json} {build : BuildContext} {x : JsonNumber} {v : Int}

theorem Filter.eq_of_countOptions {default : Nat} {operator : Operator} {count : Binary64}
    (hvalue : block.field? "count" = some (.number x))
    (h : countOptions block build default = .ok (operator, count)) :
    Operator.ofBlock block .gte = .ok operator ∧ count = x.toFloat := by
  obtain ⟨_, hoperator, h⟩ := Steps.of_bind_eq_ok h
  cases h
  refine ⟨BuildContext.eq_ok_of_rejecting hoperator, ?_⟩
  rw [Json.numberOption, Json.numberOption?, hvalue]
  rfl

/-- Filters that count compare with the integer. -/
theorem FilterKind.uses_of_build_count {kind : FilterKind} {filter : Filter}
    (hkind : kind = tagCount ∨ kind = publicAddressCount ∨ kind = backendCount)
    (hvalue : block.field? "count" = some (.number x)) (hdenotes : x.Denotes v) (hnonneg : 0 ≤ v)
    (hsmall : v < 2 ^ Binary64.precision) (hbuild : kind.build block build = .ok filter) :
    kind.Uses block build v filter := by
  obtain ⟨negative, units, hfloat, hsigned⟩ := hdenotes.exists_toFloat_eq hnonneg hsmall
  have hcompare (operator : Operator) (n : Nat) :
      operator.compareNumbers (.ofNat n) x.toFloat = operator.compareIntegers n v := by
    rw [hfloat]
    exact operator.compareNumbers_ofNat n hsigned hsmall
  rcases hkind with rfl | rfl | rfl
  all_goals
    obtain ⟨⟨operator, count⟩, hoptions, hbuild⟩ := Steps.of_bind_eq_ok hbuild
    cases hbuild
    obtain ⟨hoperator, rfl⟩ := Filter.eq_of_countOptions hvalue hoptions
  · simp only [Filter.tagCount, hcompare]
    exact .tagCount hoperator
  · simp only [Filter.publicAddressCount, hcompare]
    exact .publicAddressCount hoperator
  · simp only [Filter.backendCount, hcompare]
    exact .backendCount hoperator

/-- The filter on network placements uses an integer that is written as one. -/
theorem FilterKind.uses_of_build_placement {filter : Filter}
    (hvalue : block.field? "max-cardinality" = some (.number x)) (hdenotes : x.Denotes v)
    (hnonneg : 0 ≤ v) (hsmall : v < 2 ^ Binary64.precision)
    (hbuild : networkLocation.build block build = .ok filter) :
    networkLocation.Uses block build (networkLocation.used x v) filter := by
  obtain ⟨options, hoptions, rfl⟩ := exists_placement_of_build hbuild
  have hmost : options.maxCardinality = (networkLocation.used x v).toNat := by
    obtain ⟨key, -, hrest⟩ := Steps.of_bind_eq_ok hoptions
    obtain ⟨mode, -, hrest⟩ := Steps.of_bind_eq_ok hrest
    cases hrest
    dsimp only
    rw [hvalue, Option.bind_some]
    cases hdenotes with
    | int v =>
        obtain ⟨n, rfl⟩ := Int.eq_ofNat_of_zero_le hnonneg
        have hn : n < 2 ^ Binary64.precision := by exact_mod_cast hsmall
        have hread := Json.nat?_nat (n := n) (hn.trans (by decide))
        rw [Json.nat] at hread
        rw [hread]
        rfl
    | float h => rfl
  have heq : options = { options with maxCardinality := (networkLocation.used x v).toNat } := by
    rw [← hmost]
  rw [heq]
  exact .networkLocation hoptions

/-- The integer is the one of the action. -/
theorem ActionKind.uses_of_build {kind : ActionKind} {key : String} {least : Int} {action : Action}
    (hdeclared : (key, some least) ∈ Schema.declaredIntegers kind.schema)
    (hvalue : block.field? key = some (.number x)) (hdenotes : x.Denotes v) (hleast : least ≤ v)
    (hsmall : v < 2 ^ Binary64.precision) (hbuild : kind.build block build = .ok action) :
    kind.Uses block v action := by
  rw [declaredIntegers_schema] at hdeclared
  split at hdeclared
  next =>
    cases List.mem_singleton.1 hdeclared
    obtain ⟨space, hspace, -, rfl⟩ := Action.exists_space_of_buildTrim hbuild
    rw [hvalue] at hspace
    obtain ⟨value, hread, rfl⟩ := Option.map_eq_some_iff.1 hspace
    obtain ⟨-, rfl⟩ := hdenotes.eq_of_intWithin? hread
    exact .trimTags
  next =>
    cases List.mem_singleton.1 hdeclared
    obtain ⟨count, hcount, hbuild⟩ := Steps.of_bind_eq_ok hbuild
    have hcount := BuildContext.eq_some_of_require hcount
    rw [hvalue] at hcount
    obtain ⟨-, rfl⟩ := hdenotes.eq_of_intWithin? hcount
    cases hbuild
    exact .updateConcurrency
  next =>
    cases List.mem_singleton.1 hdeclared
    obtain ⟨bucket, hbucket, hbuild⟩ := Steps.of_bind_eq_ok hbuild
    cases hbuild
    refine .createLogTransfer (BuildContext.eq_some_of_require hbucket) ?_
    have hperiod : (block.numberOption "obs_period" .zero).toInt64 = v := by
      rw [Json.numberOption, Json.numberOption?, hvalue]
      exact hdenotes.toInt64_toFloat (by omega) hsmall
    have hpositive : 0 < v := hleast
    unfold Action.transferInfo
    dsimp only
    rw [hperiod, if_pos hpositive, Json.field?_obj]
    exact Json.field?_obj _ _
  next => cases hdeclared

/-- The integer is the one of the filter, but for network placements. -/
theorem FilterKind.uses_of_build {kind : FilterKind} {key : String} {least : Int} {filter : Filter}
    (hdeclared : (key, some least) ∈ Schema.declaredIntegers kind.schema)
    (hvalue : block.field? key = some (.number x)) (hdenotes : x.Denotes v) (hnonneg : 0 ≤ v)
    (hsmall : v < 2 ^ Binary64.precision) (hbuild : kind.build block build = .ok filter) :
    kind.Uses block build (kind.used x v) filter := by
  rw [declaredIntegers_schema] at hdeclared
  split at hdeclared
  next =>
    cases List.mem_singleton.1 hdeclared
    exact uses_of_build_count (.inl rfl) hvalue hdenotes hnonneg hsmall hbuild
  next =>
    cases List.mem_singleton.1 hdeclared
    exact uses_of_build_count (.inr (.inl rfl)) hvalue hdenotes hnonneg hsmall hbuild
  next =>
    cases List.mem_singleton.1 hdeclared
    exact uses_of_build_count (.inr (.inr rfl)) hvalue hdenotes hnonneg hsmall hbuild
  next =>
    cases List.mem_singleton.1 hdeclared
    exact uses_of_build_placement hvalue hdenotes hnonneg hsmall hbuild
  next => cases hdeclared

end

namespace Schema

/-- A value of a declared integer denotes one, which is not negative where the minima are not. -/
theorem exists_denotes_of_declares {schema block value : Json} {key : String}
    (hnaturals : DeclaresNaturals schema)
    (hdeclares : DeclaresInteger schema key) (h : Satisfies block schema)
    (hvalue : block.field? key = some value) : ∃ x v least, value = .number x ∧ x.Denotes v ∧
      (key, some least) ∈ declaredIntegers schema ∧ 0 ≤ least ∧ least ≤ v := by
  obtain ⟨property, hproperty, htype⟩ := hdeclares
  have hdeclared := mem_declaredIntegers hproperty htype
  obtain ⟨least, hleast, hnonneg⟩ := hnaturals _ hdeclared
  have hleast : (property.field? "minimum").bind Json.int64? = some least := hleast
  rw [hleast] at hdeclared
  obtain ⟨x, v, hnumber, hdenotes, hmin⟩ :=
    exists_denotes_of_satisfies hproperty htype hleast h hvalue
  exact ⟨x, v, least, hnumber, hdenotes, hdeclared, hnonneg, hmin⟩

end Schema

/-- **Declared integers are used.** Where a block satisfies the schema of a kind and sets a property
that the schema declares to be an integer, the value is a number that denotes an integer and is not
negative. If the integer is small, every action that is built uses it, and so does every filter;
only the filter on network placements uses its default for a number that is written with a
fraction. -/
theorem declared_integers_used (key : String) (block value : Json) (build : BuildContext)
    (hvalue : block.field? key = some value) :
    (∀ kind : FilterKind, Schema.DeclaresInteger kind.schema key →
      Schema.Satisfies block kind.schema → ∃ x v, value = .number x ∧ x.Denotes v ∧ 0 ≤ v ∧
        (v < 2 ^ 53 → ∀ filter, kind.build block build = .ok filter →
          kind.Uses block build (kind.used x v) filter)) ∧
    ∀ kind : ActionKind, Schema.DeclaresInteger kind.schema key →
      Schema.Satisfies block kind.schema → ∃ x v, value = .number x ∧ x.Denotes v ∧ 0 ≤ v ∧
        (v < 2 ^ 53 → ∀ action, kind.build block build = .ok action →
          kind.Uses block v action) := by
  constructor
  · intro kind hdeclares hsatisfies
    obtain ⟨x, v, least, rfl, hdenotes, hdeclared, hnonneg, hleast⟩ :=
      Schema.exists_denotes_of_declares kind.declaresNaturals_schema hdeclares hsatisfies hvalue
    exact ⟨x, v, rfl, hdenotes, hnonneg.trans hleast, fun hsmall filter hbuild =>
      kind.uses_of_build hdeclared hvalue hdenotes (hnonneg.trans hleast) hsmall hbuild⟩
  · intro kind hdeclares hsatisfies
    obtain ⟨x, v, least, rfl, hdenotes, hdeclared, hnonneg, hleast⟩ :=
      Schema.exists_denotes_of_declares kind.declaresNaturals_schema hdeclares hsatisfies hvalue
    exact ⟨x, v, rfl, hdenotes, hnonneg.trans hleast, fun hsmall action hbuild =>
      kind.uses_of_build hdeclared hvalue hdenotes hleast hsmall hbuild⟩

/-- A count that is written as `5.0` is the integer 5, and so is one that is written as `5`. -/
theorem whole_numbers_used :
    let five : JsonNumber := .float (.finite false (5 * Binary64.one))
    let counted := Json.obj [("type", .string "tag-count"), ("count", .number five)]
    let limited := Json.obj [("type", .string "update-function-concurrency"), ("value", .int 5)]
    (∃ filter, FilterKind.tagCount.build counted default = .ok filter ∧
      FilterKind.tagCount.Uses counted default 5 filter) ∧
    ∃ action, ActionKind.updateConcurrency.build limited default = .ok action ∧
      ActionKind.updateConcurrency.Uses limited 5 action := by
  intro five counted limited
  have hfive : five.Denotes 5 := JsonNumber.denotes_float 5
  obtain ⟨hfilters, -⟩ := declared_integers_used "count" counted (.number five) default
    (Json.field?_obj _ _)
  obtain ⟨-, hactions⟩ := declared_integers_used "value" limited (.int 5) default
    (Json.field?_obj _ _)
  constructor
  · obtain ⟨x, v, hx, hdenotes, -, huses⟩ := hfilters .tagCount (by decide) (by decide +kernel)
    cases hx
    cases hdenotes.unique hfive
    obtain ⟨filter, hfilter⟩ := Option.isSome_iff_exists.1 (by decide +kernel :
      (FilterKind.tagCount.build counted default).toOption.isSome)
    have hbuild := Steps.eq_ok_of_toOption hfilter
    exact ⟨filter, hbuild, huses (by decide) filter hbuild⟩
  · obtain ⟨x, v, hx, hdenotes, -, huses⟩ :=
      hactions .updateConcurrency (by decide) (by decide +kernel)
    cases hx
    cases hdenotes.unique (.int 5)
    exact ⟨_, rfl, huses (by decide) _ rfl⟩

/-- The most different values `2.0` of a network placement are taken for one: a function is kept
whose two security groups differ. -/
theorem fraction_of_placement_ignored :
    let two : JsonNumber := .float (.finite false (2 * Binary64.one))
    let block := Json.obj [("type", .string "network-location"), ("key", .string "tag:Env"),
      ("compare", .strings ["security-group"]), ("max-cardinality", .number two)]
    let build : BuildContext := { (default : BuildContext) with resourceType := .function }
    Schema.DeclaresInteger FilterKind.networkLocation.schema "max-cardinality" ∧
      Schema.Satisfies block FilterKind.networkLocation.schema ∧
      block.field? "max-cardinality" = some (.number two) ∧ two.Denotes 2 ∧
      ∃ filter, FilterKind.networkLocation.build block build = .ok filter ∧
        ¬ FilterKind.networkLocation.Uses block build 2 filter := by
  intro two block build
  obtain ⟨filter, hfilter⟩ := Option.isSome_iff_exists.1 (by decide +kernel :
    (FilterKind.networkLocation.build block build).toOption.isSome)
  refine ⟨by decide, by decide +kernel, Json.field?_obj _ _, JsonNumber.denotes_float 2, filter,
    Steps.eq_ok_of_toOption hfilter, fun huses => ?_⟩
  -- a function whose two groups have different values tells the two filters apart
  let group (id env : String) : Resource := .ofRecord (.obj [("id", .string id),
    ("tags", .obj [("Env", .string env)])])
  let cloud : Cloud := { ({} : Cloud) with
    securityGroups := [group "sg-1" "dev", group "sg-2" "prod"] }
  let function : Resource := .ofRecord (.obj [("id", .string "fn-1"),
    ("func_vpc", .obj [("security_groups", .strings ["sg-1", "sg-2"])])])
  let context : RunContext := { (default : RunContext) with resourceType := .function }
  let kept (filter : Filter) : Option (List String) :=
    ((filter.process context [function]).run cloud).1.toOption.map fun kept => kept.map Resource.id
  have hone : (FilterKind.networkLocation.build block build).toOption.bind kept =
      some ["fn-1"] := by decide +kernel
  have htwo : (Filter.placementOptions block build).toOption.bind (fun options =>
      kept (Filter.placement { options with maxCardinality := 2 })) = some [] := by decide +kernel
  obtain ⟨options, hoptions, hsame⟩ := huses.exists_options
  rw [hfilter, Option.bind_some, hsame] at hone
  rw [hoptions] at htwo
  cases hone.symm.trans htwo

end CloudPolicy
