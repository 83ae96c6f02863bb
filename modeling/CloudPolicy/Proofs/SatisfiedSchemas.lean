import CloudPolicy.Proofs.Maps
import CloudPolicy.Proofs.Records
import CloudPolicy.Schema.Build
import CloudPolicy.Schema.Check

/-! What a block that satisfies a schema says about each of its properties. Schemas are written as
documents; a property of the document is found again among the rules that are read from it, and a
block without violations has none in the property either. -/

namespace CloudPolicy

namespace Schema

variable {types : List SimpleType} {choices : Option (List Json)} {required : List String}
  {properties : Option (List (String × Schema))} {additional : Option Schema}
  {minimum maximum : Option JsonNumber} {minItems : Option Nat} {items : Option Schema}
  {path : List String} {value : Json}

/-- A value that satisfies the rules of a schema satisfies those on its own type, size and fields. -/
theorem faults_eq_nil_of_violations
    (h : (rules types choices required properties additional minimum maximum minItems
      items).violations path value = []) :
    typeFaults types value = [] ∧ minimumFaults minimum value = [] ∧
      choiceFaults choices value = [] ∧ requiredFaults required value = [] := by
  unfold violations at h
  simp only [List.append_eq_nil_iff, List.map_eq_nil_iff] at h
  obtain ⟨⟨⟨⟨⟨-, hchoices⟩, -⟩, ⟨-, hminimum⟩⟩, -⟩, ⟨hrequired, htypes⟩⟩ := h
  exact ⟨htypes, hminimum, hchoices, hrequired⟩

theorem admits_of_typeFaults {type : SimpleType} (h : typeFaults [type] value = []) :
    type.admits value = true := by
  unfold typeFaults at h
  simpa using h

/-- The named properties of an object that satisfies the rules satisfy theirs. -/
theorem eq_nil_of_propertyViolations {named : List (String × Schema)} {fields : StringMap Json}
    (h : (rules types choices required (some named) additional minimum maximum minItems
      items).violations path (.object fields) = []) {key : String}
    (hvalue : (key, value) ∈ fields.entries) {found : List Violation}
    (hfound : violations.propertyViolations path named key value = some found) : found = [] := by
  have hentry {known : String × Json → List Violation} (hall : fields.entries.flatMap known = []) :
      known (key, value) = [] := List.flatMap_eq_nil_iff.1 hall _ hvalue
  unfold violations at h
  simp only [List.append_eq_nil_iff] at h
  obtain ⟨⟨⟨⟨⟨hadditional, -⟩, -⟩, -⟩, hproperties⟩, -⟩ := h
  cases additional with
  | none => simpa [hfound] using hentry hproperties
  | some schema =>
      cases schema with
      | always => simpa [hfound] using hentry hproperties
      | never => simpa [hfound] using hentry (List.append_eq_nil_iff.1 hadditional).1
      | rules => simpa [hfound] using hentry hadditional

/-! ### Properties of a written schema -/

/-- A schema that is an object is read rule by rule. -/
theorem exists_rules_of_ofJson? {fields : StringMap Json} {schema : Schema}
    (h : ofJson? (.object fields) = some schema) :
    ∃ types choices required properties additional minimum maximum minItems items,
      schema = rules (Option.getD types []) choices (Option.getD required []) properties additional
        minimum maximum minItems items ∧
      ofJson?.propertiesIn? fields.entries = some properties ∧
      rule? fields "type" types? = some types ∧
      rule? fields "minimum" number? = some minimum ∧
      rule? fields "enum" Json.array? = some choices ∧
      rule? fields "required" names? = some required := by
  obtain ⟨entries⟩ := fields
  rw [ofJson?] at h
  obtain ⟨properties, hproperties, h⟩ := Option.bind_eq_some_iff.1 h
  unfold assemble? at h
  obtain ⟨types, htypes, h⟩ := Option.bind_eq_some_iff.1 h
  obtain ⟨choices, hchoices, h⟩ := Option.bind_eq_some_iff.1 h
  obtain ⟨required, hrequired, h⟩ := Option.bind_eq_some_iff.1 h
  obtain ⟨additional, -, h⟩ := Option.bind_eq_some_iff.1 h
  obtain ⟨minimum, hminimum, h⟩ := Option.bind_eq_some_iff.1 h
  obtain ⟨maximum, -, h⟩ := Option.bind_eq_some_iff.1 h
  obtain ⟨minItems, -, h⟩ := Option.bind_eq_some_iff.1 h
  obtain ⟨items, -, h⟩ := Option.bind_eq_some_iff.1 h
  cases h
  exact ⟨types, choices, required, properties, additional, minimum, maximum, minItems, items, rfl,
    hproperties, htypes, hminimum, hchoices, hrequired⟩

theorem propertiesIn?_of_lookup {named : StringMap Json} {fields : List (String × Json)}
    (h : StringMap.lookup "properties" fields = some (.object named)) :
    ofJson?.propertiesIn? fields = (ofJson?.named? named.entries).map some := by
  induction fields with
  | nil => cases h
  | cons field fields ih =>
      obtain ⟨name, value⟩ := field
      rw [StringMap.lookup] at h
      unfold ofJson?.propertiesIn?
      split at h
      next hname =>
        cases h
        rw [if_pos hname]
      next hname => rw [if_neg hname, ih h]

/-- The first property of a name is the one that values are checked against. -/
theorem propertyViolations_of_lookup {named : List (String × Json)}
    {properties : List (String × Schema)} (hnamed : ofJson?.named? named = some properties)
    {key : String} {written : Json} (hwritten : StringMap.lookup key named = some written) :
    ∃ schema, ofJson? written = some schema ∧ ∀ path value,
      violations.propertyViolations path properties key value =
        some (schema.violations (path ++ [key]) value) := by
  induction named generalizing properties with
  | nil => cases hwritten
  | cons field named ih =>
      obtain ⟨name, first⟩ := field
      rw [ofJson?.named?] at hnamed
      obtain ⟨schema, hschema, hnamed⟩ := Option.bind_eq_some_iff.1 hnamed
      obtain ⟨schemas, hschemas, hnamed⟩ := Option.bind_eq_some_iff.1 hnamed
      cases hnamed
      rw [StringMap.lookup] at hwritten
      split at hwritten
      next hname =>
        cases hwritten
        refine ⟨schema, hschema, fun path value => ?_⟩
        rw [violations.propertyViolations, if_pos hname]
      next hname =>
        obtain ⟨other, hother, hchecked⟩ := ih hschemas hwritten
        refine ⟨other, hother, fun path value => ?_⟩
        rw [violations.propertyViolations, if_neg hname, hchecked]

/-- What a schema says about a property. -/
def property? (schema : Json) (key : String) : Option Json :=
  (schema.field? "properties").bind fun properties => properties.field? key

/-- The value satisfies the schema. -/
def Satisfies (value schema : Json) : Prop :=
  ∃ rules, ofJson? schema = some rules ∧ rules.accepts value = true

instance (value schema : Json) : Decidable (Satisfies value schema) :=
  decidable_of_iff ((ofJson? schema).any (·.accepts value))
    (by simp [Option.any_eq_true, Satisfies])

/-- The properties of a block that satisfies a schema violate nothing that it says about them. -/
theorem Satisfies.exists_property {schema property block value : Json} {key : String}
    (h : Satisfies block schema) (hproperty : property? schema key = some property)
    (hvalue : block.field? key = some value) :
    ∃ rules path, ofJson? property = some rules ∧ rules.violations path value = [] := by
  obtain ⟨rules, hrules, haccepts⟩ := h
  obtain ⟨properties, hproperties, hproperty⟩ := Option.bind_eq_some_iff.1 hproperty
  cases schema with
  | object written =>
      cases properties with
      | object named =>
          cases block with
          | object set =>
              obtain ⟨_, _, _, properties, _, _, _, _, _, rfl, hnamed, -⟩ :=
                exists_rules_of_ofJson? hrules
              rw [propertiesIn?_of_lookup hproperties] at hnamed
              obtain ⟨parsed, hparsed, rfl⟩ := Option.map_eq_some_iff.1 hnamed
              obtain ⟨rules, hrules, hchecked⟩ := propertyViolations_of_lookup hparsed hproperty
              exact ⟨rules, _, hrules, eq_nil_of_propertyViolations (List.isEmpty_iff.1 haccepts)
                (StringMap.mem_entries_of_get? hvalue) (hchecked _ _)⟩
          | _ => cases hvalue
      | _ => cases hproperty
  | _ => cases hproperties

/-! ### Declared texts and required keys -/

section

open BlockSchema

variable {block : Json} {key : String}

theorem Satisfies.exists_text {schema : Json} (h : Satisfies block schema)
    (hproperty : property? schema key = some BlockSchema.text)
    (hvalue : block.field? key = some value) : ∃ content, value = .string content := by
  obtain ⟨schema, path, hschema, hnone⟩ := h.exists_property hproperty hvalue
  obtain ⟨types, _, _, _, _, _, _, _, _, rfl, -, htypes, -⟩ := exists_rules_of_ofJson? hschema
  obtain rfl : types = some [.string] := (Option.some.inj htypes).symm
  obtain ⟨hadmitted, -⟩ := faults_eq_nil_of_violations hnone
  have hstring := admits_of_typeFaults hadmitted
  cases value with
  | string content => exact ⟨content, rfl⟩
  | _ => cases hstring

theorem Satisfies.mem_of_oneOf {schema : Json} {choices : List String} (h : Satisfies block schema)
    (hproperty : property? schema key = some (oneOf choices))
    (hvalue : block.field? key = some value) : ∃ choice ∈ choices, value = .string choice := by
  obtain ⟨schema, path, hschema, hnone⟩ := h.exists_property hproperty hvalue
  obtain ⟨_, allowed, _, _, _, _, _, _, _, rfl, -, -, -, hchoices, -⟩ :=
    exists_rules_of_ofJson? hschema
  obtain rfl : allowed = some (choices.map .string) := (Option.some.inj hchoices).symm
  obtain ⟨-, -, hallowed, -⟩ := faults_eq_nil_of_violations hnone
  have hequal : ∃ choice ∈ choices, value.equalValue (.string choice) = true := by
    unfold choiceFaults at hallowed
    simpa using hallowed
  obtain ⟨choice, hchoice, hequal⟩ := hequal
  refine ⟨choice, hchoice, ?_⟩
  cases value with
  | string content => rw [beq_iff_eq.1 hequal]
  | _ => cases hequal

/-- The keys that a schema of objects requires are there. -/
theorem Satisfies.exists_required {schema : Json} {required : List String}
    (h : Satisfies block schema) (htype : schema.field? "type" = some (.string "object"))
    (hrequired : schema.field? "required" = some (.strings required)) (hkey : key ∈ required) :
    ∃ value, block.field? key = some value := by
  obtain ⟨rules, hrules, haccepts⟩ := h
  cases schema with
  | object fields =>
      have htype : fields.get? "type" = some (.string "object") := htype
      have hrequired : fields.get? "required" = some (.strings required) := hrequired
      obtain ⟨types, _, names, _, _, _, _, _, _, rfl, -, htypes, -, -, hnames⟩ :=
        exists_rules_of_ofJson? hrules
      rw [rule?, htype] at htypes
      rw [rule?, hrequired] at hnames
      obtain rfl : types = some [.object] := (Option.some.inj htypes).symm
      obtain ⟨listed, hlisted, rfl⟩ := Option.map_eq_some_iff.1 hnames
      rw [names?, Json.listOf?_strings] at hlisted
      obtain rfl := Option.some.inj (Option.filter_eq_some_iff.1 hlisted).1
      obtain ⟨hadmitted, -, -, hpresent⟩ :=
        faults_eq_nil_of_violations (List.isEmpty_iff.1 haccepts)
      have hobject := admits_of_typeFaults hadmitted
      cases block with
      | object written =>
          have hall : ∀ key ∈ required, written.contains key = true := by
            unfold requiredFaults at hpresent
            simpa [List.filter_eq_nil_iff] using hpresent
          exact Option.isSome_iff_exists.1 (hall key hkey)
      | _ => cases hobject
  | _ => cases htype

end

end Schema

end CloudPolicy
