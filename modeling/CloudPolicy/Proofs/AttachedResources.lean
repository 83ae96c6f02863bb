import CloudPolicy.Policy.Registry
import CloudPolicy.Proofs.IrrelevantGroups
import CloudPolicy.Proofs.SatisfiedSchemas

/-! Filters on the subnets and the security groups of resources. What a resource lists may stand in
several fields, repeatedly, and with identifiers that the network service does not know. The filter
asks the service once for all that a batch lists, and then judges each resource by what is known of
its own attachments. -/

namespace CloudPolicy

namespace Attachment

variable {attachment : Attachment} {cloud : Cloud} {type : ResourceType}

/-- The kind of the filters on attachments of one kind. -/
def filterKind : Attachment → FilterKind
  | subnet => .subnet
  | securityGroup => .securityGroup

/-- The attachment that the network service is asked about under an identifier. Of several with one
identifier it is the last one. -/
def named? (attachment : Attachment) (cloud : Cloud) (id : String) : Option Resource :=
  Resource.lastNamed? (attachment.stored cloud) id

/-- The call for the attachments that a batch lists, if it lists any. -/
def callsFor (attachment : Attachment) (ids : List String) : List ServiceCall :=
  if ids = [] then [] else [⟨"vpc", attachment.operation, Text.join "," ids⟩]

theorem run_fetch (hfailures : cloud.failures = []) (attachment : Attachment) (type : ResourceType)
    (resources : List Resource) :
    (attachment.fetch type resources).run cloud =
      (.ok (attachment.found cloud type resources), { cloud with
        calls := cloud.calls ++ attachment.callsFor (attachment.batchIds type resources) }) := by
  rw [fetch, callsFor]
  by_cases hempty : attachment.batchIds type resources = []
  · rw [if_pos (List.isEmpty_iff.2 hempty), if_pos hempty, List.append_nil,
      found_of_batchIds_eq_nil hempty]
    rfl
  · have hlookUp : (attachment.lookUp (attachment.batchIds type resources)).run cloud =
        (.ok ((attachment.stored cloud).filter fun r =>
          r.id ∈ attachment.batchIds type resources), cloud.record "vpc" attachment.operation
            (Text.join "," (attachment.batchIds type resources))) := by
      rw [lookUp_eq, Cloud.run_enter_bind_of_works hfailures]
      cases attachment <;> rfl
    rw [if_neg (mt List.isEmpty_iff.1 hempty), if_neg hempty, Steps.run_bind_of_ok hlookUp]
    rfl

/-! ### The decision about one resource -/

/-- Which resources are kept: with `all` those of whose attachments some are known, and all known
ones satisfy the predicate; otherwise those with a known attachment that does. -/
def Passes (attachment : Attachment) (p : Predicate) (all : Bool) (cloud : Cloud)
    (type : ResourceType) (r : Resource) : Prop :=
  if all then
    (∃ id ∈ attachment.references type r, (attachment.named? cloud id).isSome = true) ∧
      ∀ id ∈ attachment.references type r, (attachment.named? cloud id).all p.holds = true
  else ∃ id ∈ attachment.references type r, (attachment.named? cloud id).any p.holds = true

instance (attachment : Attachment) (p : Predicate) (all : Bool) (cloud : Cloud)
    (type : ResourceType) (r : Resource) : Decidable (attachment.Passes p all cloud type r) :=
  inferInstanceAs (Decidable (if all then _ else _))

/-- The attachments of a resource that satisfy the predicate, in the order in which it first lists
them. -/
def matchingIds (attachment : Attachment) (p : Predicate) (cloud : Cloud) (type : ResourceType)
    (r : Resource) : List String :=
  (attachment.references type r).eraseDups.filter fun id =>
    (attachment.named? cloud id).any p.holds

section

variable {r : Resource} {test : Resource → Bool}

theorem mem_known_iff {a : Resource} :
    a ∈ attachment.known type (attachment.registry cloud) r ↔
      ∃ id ∈ attachment.references type r, attachment.named? cloud id = some a := by
  rw [known_registry, List.mem_filterMap, ids_eq]
  simp only [List.mem_eraseDups, named?]

theorem isEmpty_filter_known_iff :
    ((attachment.known type (attachment.registry cloud) r).filter test).isEmpty = false ↔
      ∃ id ∈ attachment.references type r, (attachment.named? cloud id).any test = true := by
  simp only [List.isEmpty_eq_false_iff_exists_mem, List.mem_filter, mem_known_iff,
    Option.any_eq_true]
  constructor
  · rintro ⟨a, ⟨id, hid, ha⟩, htest⟩
    exact ⟨id, hid, a, ha, htest⟩
  · rintro ⟨id, hid, a, ha, htest⟩
    exact ⟨a, ⟨id, hid, ha⟩, htest⟩

theorem isEmpty_known_iff :
    (attachment.known type (attachment.registry cloud) r).isEmpty = false ↔
      ∃ id ∈ attachment.references type r, (attachment.named? cloud id).isSome = true := by
  rw [← List.filter_true (attachment.known type (attachment.registry cloud) r),
    isEmpty_filter_known_iff]
  simp only [Option.any_true]

theorem length_filter_known_iff :
    ((attachment.known type (attachment.registry cloud) r).filter test).length =
        (attachment.known type (attachment.registry cloud) r).length ↔
      ∀ id ∈ attachment.references type r, (attachment.named? cloud id).all test = true := by
  simp only [List.length_filter_eq_length_iff, mem_known_iff, Option.all_eq_true]
  constructor
  · intro h id hid a ha
    exact h a ⟨id, hid, ha⟩
  · rintro h a ⟨id, hid, ha⟩
    exact h id hid a ha

theorem ids_filter_known (p : Predicate) :
    ((attachment.known type (attachment.registry cloud) r).filter p.holds).map (·.id) =
      attachment.matchingIds p cloud type r := by
  rw [known_registry, Resource.ids_filterMap_lastNamed?, ids_eq]
  rfl

theorem passes_iff {p : Predicate} {all : Bool} :
    let known := attachment.known type (attachment.registry cloud) r
    attachment.Passes p all cloud type r ↔ known.isEmpty = false ∧
      if all then (known.filter p.holds).length = known.length
        else (!(known.filter p.holds).isEmpty) = true := by
  intro known
  rw [Passes, isEmpty_known_iff]
  cases all with
  | true =>
      simp only [if_true]
      exact and_congr_right fun _ => length_filter_known_iff.symm
  | false =>
      simp only [Bool.false_eq_true, if_false, Bool.not_eq_true']
      rw [isEmpty_filter_known_iff]
      -- What satisfies the predicate is known.
      refine ⟨fun h => ⟨?_, h⟩, And.right⟩
      obtain ⟨id, hid, hholds⟩ := h
      exact ⟨id, hid, Option.isSome_of_any hholds⟩

end

/-- The filter decides by what the network service knows of the attachments of the resource. -/
theorem keepAttached_registry (p : Predicate) (all : Bool) (r : Resource) :
    Filter.keepAttached attachment p all type (attachment.registry cloud) r =
      if attachment.Passes p all cloud type r then
        some (r.annotate attachment.annotation (.strings (attachment.matchingIds p cloud type r)))
      else none := by
  rw [Filter.keepAttached]
  by_cases hpasses : attachment.Passes p all cloud type r
  · obtain ⟨hknown, htest⟩ := passes_iff.1 hpasses
    rw [if_neg (Bool.eq_false_iff.1 hknown), if_pos htest, if_pos hpasses, ids_filter_known]
  · rw [if_neg hpasses]
    split
    next => rfl
    next hknown =>
      exact if_neg fun htest => hpasses (passes_iff.2 ⟨Bool.eq_false_iff.2 hknown, htest⟩)

end Attachment

/-! ### Blocks that satisfy the schema -/

theorem Predicate.ofBlock_of_key {block : Json} {key : String} {operator : Operator}
    (hoperator : Operator.ofBlock block .eq = .ok operator)
    (hkey : block.stringField? "key" = some key) :
    ofBlock block = .ok ⟨key, .ofJson ((block.field? "value").getD .null), operator⟩ := by
  rw [ofBlock, hoperator, hkey]
  rfl

namespace Filter

variable {attachment : Attachment} {block : Json}

theorem field?_dropField_of_ne {key other : String} (h : other ≠ key) (block : Json) :
    (dropField key block).field? other = block.field? other := by
  cases block with
  | object fields =>
      show (fields.erase key).get? other = fields.get? other
      rw [StringMap.get?_erase, if_neg h]
  | _ => rfl

/-- Every name of an operator that the schema allows is one. -/
theorem exists_operator_of_satisfies
    (hblock : Schema.Satisfies block (attachedSchema attachment)) :
    ∃ operator, Operator.ofBlock block .eq = .ok operator := by
  let names := BlockSchema.comparisonNames ++ ["in", "not-in", "ni", "contains"]
  have hnames : ∀ name ∈ names, (Operator.ofName? name).isSome = true := by decide
  have hproperty : Schema.property? (attachedSchema attachment) "op" =
      some (BlockSchema.oneOf names) := by
    cases attachment <;> rfl
  rw [Operator.ofBlock, Json.stringField?]
  cases hvalue : block.field? "op" with
  | none => exact ⟨.eq, rfl⟩
  | some value =>
      obtain ⟨name, hname, rfl⟩ := hblock.mem_of_oneOf hproperty hvalue
      obtain ⟨operator, hoperator⟩ := Option.isSome_iff_exists.1 (hnames name hname)
      refine ⟨operator, ?_⟩
      rw [Option.bind_some, Json.string?]
      dsimp only
      rw [Operator.ofName, hoperator]

theorem exists_key_of_satisfies
    (hblock : Schema.Satisfies block (attachedSchema attachment)) :
    ∃ key, block.stringField? "key" = some key := by
  have htype : (attachedSchema attachment).field? "type" = some (.string "object") := by
    cases attachment <;> rfl
  have hrequired : (attachedSchema attachment).field? "required" =
      some (.strings ["type", "key"]) := by
    cases attachment <;> rfl
  have hproperty : Schema.property? (attachedSchema attachment) "key" = some BlockSchema.text := by
    cases attachment <;> rfl
  obtain ⟨value, hvalue⟩ :=
    hblock.exists_required htype hrequired (List.mem_cons_of_mem _ List.mem_cons_self)
  obtain ⟨key, rfl⟩ := hblock.exists_text hproperty hvalue
  refine ⟨key, ?_⟩
  rw [Json.stringField?, hvalue]
  rfl

/-- A block that satisfies the schema gives a filter with its predicate. -/
theorem buildAttached_of_satisfies
    (hblock : Schema.Satisfies block (attachedSchema attachment)) (build : BuildContext) :
    ∃ p, Predicate.ofBlock block = .ok p ∧ buildAttached attachment block build =
      .ok (attached attachment p (block.textOption? "operator" = some "and")) := by
  obtain ⟨operator, hoperator⟩ := exists_operator_of_satisfies hblock
  obtain ⟨key, hkey⟩ := exists_key_of_satisfies hblock
  have hdropped : Predicate.ofBlock (dropField "operator" block) = Predicate.ofBlock block := by
    have hsameOperator : Operator.ofBlock (dropField "operator" block) .eq = .ok operator := by
      rw [← hoperator, Operator.ofBlock, Operator.ofBlock, Json.stringField?, Json.stringField?,
        field?_dropField_of_ne (by decide)]
    have hsameKey : (dropField "operator" block).stringField? "key" = some key := by
      rw [← hkey, Json.stringField?, Json.stringField?, field?_dropField_of_ne (by decide)]
    rw [Predicate.ofBlock_of_key hsameOperator hsameKey, Predicate.ofBlock_of_key hoperator hkey,
      field?_dropField_of_ne (by decide)]
  refine ⟨_, Predicate.ofBlock_of_key hoperator hkey, ?_⟩
  rw [buildAttached, hdropped, Predicate.ofBlock_of_key hoperator hkey]
  rfl

/-! ### The filter -/

theorem run_attached {cloud : Cloud} (hfailures : cloud.failures = []) (attachment : Attachment)
    (p : Predicate) (all : Bool) (context : RunContext) (batch : List Resource) :
    let type := context.resourceType
    ((attached attachment p all).process context batch).run cloud =
      (.ok ((batch.filter (attachment.Passes p all cloud type)).map fun r =>
          r.annotate attachment.annotation (.strings (attachment.matchingIds p cloud type r))),
        { cloud with
          calls := cloud.calls ++
            attachment.callsFor (batch.flatMap (attachment.references type)).eraseDups }) := by
  intro type
  have hkept : batch.filterMap
      (keepAttached attachment p all type (attachment.found cloud type batch)) =
      (batch.filter (attachment.Passes p all cloud type)).map fun r =>
        r.annotate attachment.annotation (.strings (attachment.matchingIds p cloud type r)) := by
    rw [← List.filterMap_eq_map, List.filterMap_filter]
    refine List.filterMap_congr fun r hr => ?_
    have hfound : keepAttached attachment p all type (attachment.found cloud type batch) r =
        keepAttached attachment p all type (attachment.registry cloud) r := by
      rw [keepAttached, keepAttached, Attachment.known_found hr]
    rw [hfound, Attachment.keepAttached_registry]
    simp
  rw [attached, ← Attachment.batchIds_eq, ← hkept]
  exact Steps.run_bind_of_ok (Attachment.run_fetch hfailures attachment type batch)

/-- **Attachments decide.** Where no call fails, a block that satisfies the schema gives a filter
with the predicate of the block. It asks the network service not at all when the batch lists no
attachments, and otherwise once, for each listed identifier once. With `and` it keeps the resources
that list known attachments which all satisfy the predicate, and otherwise those that list a known
attachment which does; it annotates them with the attachments that satisfy it, each once, in the
order in which the resource first lists them. Nothing else changes. -/
theorem kept_by_known_attachments {attachment : Attachment} {block : Json}
    (hblock : Schema.Satisfies block attachment.filterKind.schema) {cloud : Cloud}
    (hfailures : cloud.failures = []) (build : BuildContext) (context : RunContext)
    (batch : List Resource) :
    let type := context.resourceType
    let all : Bool := block.textOption? "operator" = some "and"
    ∃ p filter kept, Predicate.ofBlock block = .ok p ∧
      attachment.filterKind.build block build = .ok filter ∧
      (filter.process context batch).run cloud = (.ok kept, { cloud with
        calls := cloud.calls ++
          attachment.callsFor (batch.flatMap (attachment.references type)).eraseDups }) ∧
      kept = (batch.filter (attachment.Passes p all cloud type)).map fun r =>
        r.annotate attachment.annotation (.strings (attachment.matchingIds p cloud type r)) := by
  intro type all
  have hschema : attachment.filterKind.schema = attachedSchema attachment := by
    cases attachment <;> rfl
  have hbuild : attachment.filterKind.build block build =
      buildAttached attachment block build := by
    cases attachment <;> rfl
  rw [hschema] at hblock
  obtain ⟨p, hp, hfilter⟩ := buildAttached_of_satisfies hblock build
  exact ⟨p, _, _, hp, hbuild.trans hfilter,
    run_attached hfailures attachment p all context batch, rfl⟩

/-- A function lists two known groups, one of them twice, and an unknown one; it is kept for the
group that satisfies the predicate. -/
theorem known_group_decides :
    let group (id env : String) : Resource :=
      .ofRecord (.obj [("id", .string id), ("tags", .obj [("Env", .string env)])])
    let function (id : String) (groups : List String) : Resource := .ofRecord (.obj
      [("id", .string id), ("func_vpc", .obj [("security_groups", .strings groups)])])
    let batch := [function "fn-1" ["sg-2", "", "sg-1", "sg-9", "sg-1"], function "fn-2" ["sg-2"]]
    let cloud : Cloud := { securityGroups := [group "sg-1" "prod", group "sg-2" "dev"] }
    let block := Json.obj [("type", .string "security-group"), ("key", .string "tag:Env"),
      ("value", .string "prod")]
    let context : RunContext := { (default : RunContext) with resourceType := .function }
    ∃ filter kept after, FilterKind.securityGroup.build block default = .ok filter ∧
      (filter.process context batch).run cloud = (.ok kept, after) ∧
      kept.map (·.id) = ["fn-1"] ∧
      kept.map (fun r => (r.annotation? "matched-security-groups").bind
        (Json.listOf? Json.string?)) = [some ["sg-1"]] ∧
      after.calls = [⟨"vpc", "security_groups", "sg-2,sg-1,sg-9"⟩] := by
  intro group function batch cloud block context
  have hblock : Schema.Satisfies block (Attachment.filterKind .securityGroup).schema := by
    decide +kernel
  obtain ⟨p, filter, kept, hp, hbuild, hrun, hkept⟩ :=
    kept_by_known_attachments hblock (rfl : cloud.failures = []) default context batch
  have hpredicate : Predicate.ofBlock block = .ok ⟨"tag:Env", .value (.string "prod"), .eq⟩ := rfl
  cases hpredicate.symm.trans hp
  subst hkept
  exact ⟨filter, _, _, hbuild, hrun, by decide +kernel, by decide +kernel, by decide +kernel⟩

/-- Two stored subnets share an identifier, and the filter looks at the last one only: a function in
the subnet is kept or not by the order in which they are stored, though one of them satisfies the
predicate either way. -/
theorem shadowed_subnet_ignored :
    let subnet (env : String) : Resource :=
      .ofRecord (.obj [("id", .string "sub-1"), ("tags", .obj [("Env", .string env)])])
    let function : Resource := .ofRecord (.obj
      [("id", .string "fn-1"), ("func_vpc", .obj [("subnet_id", .string "sub-1")])])
    let block := Json.obj [("type", .string "subnet"), ("key", .string "tag:Env"),
      ("value", .string "prod")]
    let context : RunContext := { (default : RunContext) with resourceType := .function }
    ∃ p filter, Schema.Satisfies block FilterKind.subnet.schema ∧
      Predicate.ofBlock block = .ok p ∧ FilterKind.subnet.build block default = .ok filter ∧
      let kept (subnets : List Resource) : Option (List String) :=
        ((filter.process context [function]).run { subnets }).1.toOption.map fun kept =>
          kept.map (·.id)
      function.textList "func_vpc.subnet_id" = [(subnet "prod").id] ∧
        p.holds (subnet "prod") = true ∧
        kept [subnet "prod", subnet "dev"] = some [] ∧
        kept [subnet "dev", subnet "prod"] = some ["fn-1"] := by
  intro subnet function block context
  refine ⟨⟨"tag:Env", .value (.string "prod"), .eq⟩, _, by decide +kernel, rfl, rfl, ?_⟩
  intro kept
  exact ⟨by decide +kernel, by decide +kernel, by decide +kernel, by decide +kernel⟩

end Filter

end CloudPolicy
