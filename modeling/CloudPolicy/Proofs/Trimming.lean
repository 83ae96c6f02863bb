import Mathlib.Data.List.Nodup
import Mathlib.Data.Nat.PSub
import CloudPolicy.Proofs.Compiled
import CloudPolicy.Proofs.PlannedChanges

/-! Trimming tags. A resource has a limited number of slots for tags, and trimming deletes as many
tags as have to go to leave some of them free: the first ones in the order of their keys, and none
that is to be preserved. A resource of which too few tags may go loses none. -/

namespace CloudPolicy

/-! ### Counting keys -/

namespace TagSet

variable (tags : TagSet)

theorem pairwise_keys : tags.keys.Pairwise (· < ·) := List.pairwise_map.2 tags.sorted

theorem nodup_keys : tags.keys.Nodup := by
  refine tags.pairwise_keys.imp fun {a b} hlt heq => ?_
  exact String.lt_irrefl b (heq ▸ hlt)

theorem length_keys : tags.keys.length = tags.size := List.length_map _

/-- Deleting distinct keys that are there leaves so many fewer. -/
theorem size_filterKeys_not_mem {keys : List String} (hnodup : keys.Nodup)
    (hkeys : ∀ key ∈ keys, key ∈ tags.keys) :
    (tags.filterKeys (· ∉ keys)).size + keys.length = tags.size := by
  have hdeleted : (tags.keys.filter (· ∈ keys)).Perm keys := by
    refine (List.perm_ext_iff_of_nodup (tags.nodup_keys.filter _) hnodup).2 fun key => ?_
    rw [List.mem_filter, decide_eq_true_iff]
    exact and_iff_right_of_imp (hkeys key)
  have hkept : (tags.filterKeys (· ∉ keys)).keys = tags.keys.filter (· ∉ keys) := by
    rw [TagSet.keys, TagSet.keys, StringMap.keys, StringMap.keys, List.filter_map]
    rfl
  calc (tags.filterKeys (· ∉ keys)).size + keys.length
    _ = (tags.keys.filter (· ∉ keys)).length + (tags.keys.filter (· ∈ keys)).length := by
      rw [← length_keys, hkept, hdeleted.length_eq]
    _ = tags.keys.length := by
      simp only [decide_not]
      exact (Nat.add_comm ..).trans (List.length_eq_length_filter_add (· ∈ keys)).symm
    _ = tags.size := tags.length_keys

end TagSet

namespace Action

/-! ### The plan -/

/-- The plan of trimming with differences of counts that are computed only where they are not
negative. -/
def trimPlan? (space : Nat) (preserve : List String) (r : Resource) : Option Plan := do
  let count := r.tags.size
  if maxResourceTags < count then
    return .error (Nat.repr count ++ " tags exceed the limit of " ++ Nat.repr maxResourceTags)
  let free ← maxResourceTags.psub count
  if space ≤ free then return .ok none
  let needed ← count.psub (← maxResourceTags.psub space)
  let candidates := (r.tags.keys.filter (· ∉ preserve)).take needed
  if candidates.length < needed then
    return .error ("only " ++ Nat.repr candidates.length ++ " unpreserved tags, " ++ Nat.repr needed
      ++ " must go to free " ++ Nat.repr space ++ " slots")
  return .ok (some { delete := candidates })

/-- Tags can be trimmed: some have to go, and enough of them may. -/
structure Trimmable (space : Nat) (preserve : List String) (tags : TagSet) : Prop where
  size : tags.size ≤ maxResourceTags
  needed : maxResourceTags - tags.size < space
  unpreserved : tags.size - (maxResourceTags - space) ≤ tags.keys.countP (· ∉ preserve)

/-- What is planned to leave `space` slots free, by the counts of the tags. -/
inductive Trims (space : Nat) (preserve : List String) (tags : TagSet) : Plan → Prop where
  | tooMany (hsize : maxResourceTags < tags.size) :
      Trims space preserve tags (.error
        (Nat.repr tags.size ++ " tags exceed the limit of " ++ Nat.repr maxResourceTags))
  | free (hsize : tags.size ≤ maxResourceTags) (hfree : space ≤ maxResourceTags - tags.size) :
      Trims space preserve tags (.ok none)
  | frees {keys : List String} (htrim : Trimmable space preserve tags)
      (hlength : keys.length = tags.size - (maxResourceTags - space)) (hnodup : keys.Nodup)
      (hkeys : ∀ key ∈ keys, key ∈ tags.keys ∧ key ∉ preserve)
      (hfirst : ∀ key ∈ keys, ∀ other ∈ tags.keys, other ∉ preserve → other ∉ keys → key < other) :
      Trims space preserve tags (.ok (some { delete := keys }))
  | tooFew (hsize : tags.size ≤ maxResourceTags) (hneeded : maxResourceTags - tags.size < space)
      (hfew : tags.keys.countP (· ∉ preserve) < tags.size - (maxResourceTags - space)) :
      Trims space preserve tags (.error ("only " ++ Nat.repr (tags.keys.countP (· ∉ preserve))
        ++ " unpreserved tags, " ++ Nat.repr (tags.size - (maxResourceTags - space))
        ++ " must go to free " ++ Nat.repr space ++ " slots"))

variable {space : Nat} {preserve : List String} {r : Resource}

/-- No difference is negative: more than `20 - space` slots are taken where it is subtracted. -/
theorem trimPlan?_eq_some (hspace : space ≤ maxResourceTags) :
    trimPlan? space preserve r = some (trimPlan space preserve r) := by
  rw [trimPlan?, trimPlan]
  dsimp only
  split
  next => rfl
  next hsize =>
    rw [Nat.psub_eq_sub (Nat.not_lt.1 hsize)]
    dsimp only [Option.bind_eq_bind, Option.bind_some]
    split
    next => rfl
    next hfree =>
      have hneeded : maxResourceTags - space ≤ r.tags.size := by omega
      rw [Nat.psub_eq_sub hspace]
      dsimp only [Option.bind_some]
      rw [Nat.psub_eq_sub hneeded]
      dsimp only [Option.bind_some]
      split
      next => rfl
      next => rfl

/-- The first keys that may go are smaller than the others that may. -/
theorem lt_of_mem_take {keys : List String} (hkeys : keys.Pairwise (· < ·)) {n : Nat}
    {key other : String} (hkey : key ∈ keys.take n) (hother : other ∈ keys)
    (hnot : other ∉ keys.take n) : key < other := by
  rw [← List.take_append_drop n keys] at hkeys hother
  have hlater := (List.mem_append.1 hother).resolve_left hnot
  exact (List.pairwise_append.1 hkeys).2.2 key hkey other hlater

theorem trimPlan_trims (space : Nat) (preserve : List String) (r : Resource) :
    Trims space preserve r.tags (trimPlan space preserve r) := by
  have hcount : (r.tags.keys.filter (· ∉ preserve)).length = r.tags.keys.countP (· ∉ preserve) :=
    List.countP_eq_length_filter.symm
  rw [trimPlan]
  dsimp only
  split
  next hsize => exact .tooMany hsize
  next hsize =>
  split
  next hfree => exact .free (Nat.not_lt.1 hsize) hfree
  next hfree =>
  rw [List.length_take, hcount]
  split
  next hfew =>
    rw [Nat.min_eq_right (by omega)]
    exact .tooFew (Nat.not_lt.1 hsize) (Nat.not_le.1 hfree) (by omega)
  next henough =>
    have htake := List.take_sublist (r.tags.size - (maxResourceTags - space))
      (r.tags.keys.filter (· ∉ preserve))
    refine .frees ⟨Nat.not_lt.1 hsize, Nat.not_le.1 hfree, by omega⟩ ?_ ?_ ?_ ?_
    · rw [List.length_take, hcount]
      omega
    · exact htake.nodup (r.tags.nodup_keys.filter _)
    · intro key hkey
      simpa using List.mem_filter.1 (htake.subset hkey)
    · intro key hkey other hother hunpreserved hstays
      exact lt_of_mem_take (r.tags.pairwise_keys.filter _) hkey
        (List.mem_filter.2 ⟨hother, decide_eq_true hunpreserved⟩) hstays

/-! ### What it leaves -/

/-- Keys are deleted where tags can be trimmed and only there. -/
theorem Trims.cases_trimmable {tags : TagSet} {plan : Plan} (h : Trims space preserve tags plan)
    (hspace : space ≤ maxResourceTags) :
    (Trimmable space preserve tags ∧ ∃ keys ≠ [], plan = .ok (some { delete := keys }) ∧
        (tags.filterKeys (· ∉ keys)).size = maxResourceTags - space ∧
        ∀ key ∈ keys, key ∉ preserve) ∨
      ¬ Trimmable space preserve tags ∧ (plan = .ok none ∨ ∃ reason, plan = .error reason) := by
  cases h with
  | tooMany hsize => exact .inr ⟨fun h => absurd h.size (Nat.not_le.2 hsize), .inr ⟨_, rfl⟩⟩
  | free hsize hfree => exact .inr ⟨fun h => absurd h.needed (Nat.not_lt.2 hfree), .inl rfl⟩
  | tooFew hsize hneeded hfew =>
      exact .inr ⟨fun h => absurd h.unpreserved (Nat.not_le.2 hfew), .inr ⟨_, rfl⟩⟩
  | @frees keys htrim hlength hnodup hkeys hfirst =>
      have hsize := tags.size_filterKeys_not_mem hnodup fun key hkey => (hkeys key hkey).1
      have hcount := htrim.size
      have hneeded := htrim.needed
      refine .inl ⟨htrim, keys, fun hnil => ?_, rfl, by omega, fun key hkey => (hkeys key hkey).2⟩
      rw [hnil, List.length_nil] at hlength
      omega

/-- The keys that trimming plans to delete from a resource whose tags can be trimmed. -/
theorem exists_keys_of_trimmable (hspace : space ≤ maxResourceTags)
    (htrim : Trimmable space preserve r.tags) :
    ∃ keys ≠ [], trimPlan space preserve r = .ok (some { delete := keys }) ∧
      (r.tags.filterKeys (· ∉ keys)).size = maxResourceTags - space ∧
      ∀ key ∈ keys, key ∉ preserve :=
  ((trimPlan_trims space preserve r).cases_trimmable hspace).elim And.right
    fun h => absurd htrim h.1

theorem trimmable_of_trimPlan (hspace : space ≤ maxResourceTags) {change : TagChange}
    (hplan : trimPlan space preserve r = .ok (some change)) :
    Trimmable space preserve r.tags := by
  rcases (trimPlan_trims space preserve r).cases_trimmable hspace with h | ⟨-, h | ⟨reason, h⟩⟩
  · exact h.1
  · cases h.symm.trans hplan
  · cases h.symm.trans hplan

theorem trimPlan_calls (hspace : space ≤ maxResourceTags) (preserve : List String) (r : Resource) :
    (trimPlan space preserve r).Calls := by
  intro change hchange
  obtain ⟨keys, hkeys, hplan, -⟩ :=
    exists_keys_of_trimmable hspace (trimmable_of_trimPlan hspace hchange)
  cases hplan.symm.trans hchange
  rw [TagChange.isNothing, List.isEmpty_eq_false_iff.2 hkeys]
  rfl

/-- Trimming makes no call but deletions. -/
theorem not_fails_trimPlan (hspace : space ≤ maxResourceTags) {cloud : Cloud}
    (hworks : cloud.isFailing "delete_tags" r.id = false) :
    ¬ (trimPlan space preserve r).change.Fails cloud r.id := by
  intro hfails
  have hplan := Plan.eq_of_fails hfails
  obtain ⟨keys, -, hdeletes, -⟩ :=
    exists_keys_of_trimmable hspace (trimmable_of_trimPlan hspace hplan)
  rw [hdeletes] at hfails
  rcases hfails with h | h
  · cases hworks.symm.trans h.2
  · exact absurd rfl h.1.1

/-- **Trimming frees the slots that it is asked for, or changes nothing.** The plan is computed
without a negative difference of counts and is the one that the counts of the tags call for. Where
no deletion fails the resources are handled whose tags can be trimmed, if the tag service does not
refuse them. They are left with as many tags as fill the other slots, those to be preserved among
them. A resource with too many tags, or with too few that may go, is reported as failed, and every
record that is not reported as handled is as before. -/
theorem trimming_frees_space (space : Nat) (hspace : space ≤ maxResourceTags)
    (preserve : List String) :
    (∀ block build, (block.field? "space").bind Json.nat? = some space →
      block.textsOption "preserve" = preserve →
      ActionKind.trimTags.build block build =
        .ok (ofPlan "tag-trim" (trimPlan space preserve))) ∧
    (∀ r, trimPlan? space preserve r = some (trimPlan space preserve r) ∧
      Trims space preserve r.tags (trimPlan space preserve r)) ∧
    ∀ (context : RunContext) (cloud : Cloud) (batch : List Resource),
      ((cloud.resources context.resourceType).map (·.id)).Nodup →
      batch ⊆ cloud.resources context.resourceType →
      (∀ r ∈ batch, cloud.isFailing "delete_tags" r.id = false) →
      ∃ report left calls,
        ((ofPlan "tag-trim" (trimPlan space preserve)).process context batch).run cloud =
          (.ok report, { cloud.setResources context.resourceType
            ((cloud.resources context.resourceType).map left) with calls }) ∧
        ∀ r ∈ cloud.resources context.resourceType,
          (r.id ∈ report.succeeded ↔ context.resourceType.isTaggable = true ∧ r ∈ batch ∧
            r.id ∉ cloud.rejectedTagTargets ∧ Trimmable space preserve r.tags) ∧
          (r.id ∈ report.failed.map (·.id) ↔ context.resourceType.isTaggable = true ∧ r ∈ batch ∧
            ((∃ reason, trimPlan space preserve r = .error reason) ∨
              r.id ∈ cloud.rejectedTagTargets ∧ Trimmable space preserve r.tags)) ∧
          (r.id ∈ report.succeeded → ∃ keys,
            trimPlan space preserve r = .ok (some { delete := keys }) ∧
            left r = r.set "tags" (r.tags.filterKeys (· ∉ keys)).toJson ∧
            (left r).tags.size = maxResourceTags - space ∧
            ∀ key ∈ preserve, (left r).tags.get? key = r.tags.get? key) ∧
          (r.id ∉ report.succeeded → left r = r) := by
  refine ⟨fun block build hfield htexts => ?_, fun r => ⟨trimPlan?_eq_some hspace,
    trimPlan_trims space preserve r⟩, fun context cloud batch hdistinct hbatch hworks => ?_⟩
  · subst htexts
    show buildTrim block build = _
    rw [buildTrim, hfield, Option.filter_some, if_pos (decide_eq_true hspace)]
    rfl
  obtain ⟨report, left, calls, hrun, hrecords⟩ := run_ofPlan_records "tag-trim"
    (trimPlan space preserve) hdistinct hbatch (trimPlan_calls hspace preserve)
    fun r hr => not_fails_trimPlan hspace (hworks r hr)
  refine ⟨report, left, calls, hrun, fun r hr => ?_⟩
  obtain ⟨hsucceeded, hfailed, hwritten, hsame⟩ := hrecords r hr
  have hchange : (∃ change, trimPlan space preserve r = .ok (some change)) ↔
      Trimmable space preserve r.tags := by
    refine ⟨fun ⟨_, hplan⟩ => trimmable_of_trimPlan hspace hplan, fun htrim => ?_⟩
    obtain ⟨keys, -, hplan, -⟩ := exists_keys_of_trimmable hspace htrim
    exact ⟨_, hplan⟩
  rw [hchange, RunContext.mem_taggable, and_assoc] at hsucceeded hfailed
  refine ⟨hsucceeded, hfailed, fun h => ?_, fun h => hsame (.inl h)⟩
  obtain ⟨keys, -, hplan, hsize, hkeys⟩ :=
    exists_keys_of_trimmable hspace (hsucceeded.1 h).2.2.2
  have hleft : left r = Cloud.retag (·.filterKeys (· ∉ keys)) r := hwritten h _ hplan
  refine ⟨keys, hplan, hleft, ?_, fun key hkey => ?_⟩
  · rw [hleft, Cloud.tags_retag, hsize]
  · rw [hleft, Cloud.tags_retag, TagSet.get?_filterKeys, if_pos]
    exact decide_eq_true fun hdeleted => hkeys key hdeleted hkey

/-- One slot may stay taken. The first function keeps the tag that is to be preserved, the second
one has two of that kind and keeps both, and the tag service refuses the third one. -/
theorem one_preserved_tag_stays :
    let preserve := ["a", "b", "b", "z"]
    let function (id : String) (tags : List String) : Resource :=
      .ofRecord (.obj [("id", .string id), ("tags", .strings tags)])
    let trimmed := function "fn-1" ["c=1", "a=2", "d=3"]
    let preserved := function "fn-2" ["b=1", "a=2"]
    let refused := function "fn-3" ["c=1", "d=2"]
    let functions := [trimmed, preserved, refused]
    let cloud := (({} : Cloud).setResources .function functions).rejectTags "fn-3"
    let context : RunContext := { (default : RunContext) with resourceType := .function }
    19 ≤ maxResourceTags ∧ ((cloud.resources .function).map (·.id)).Nodup ∧
      functions ⊆ cloud.resources .function ∧
      (∀ r ∈ functions, cloud.isFailing "delete_tags" r.id = false) ∧
      ∃ report left calls,
        ((ofPlan "tag-trim" (trimPlan 19 preserve)).process context functions).run cloud =
          (.ok report, { cloud.setResources .function
            ((cloud.resources .function).map left) with calls }) ∧
        "fn-1" ∈ report.succeeded ∧ (left trimmed).tags.size = 1 ∧
        (left trimmed).tags.get? "a" = some "2" ∧
        left preserved = preserved ∧ left refused = refused := by
  intro preserve function trimmed preserved refused functions cloud context
  have hspace : 19 ≤ maxResourceTags := by decide
  have hdistinct : ((cloud.resources .function).map (·.id)).Nodup := by decide +kernel
  have hworks : ∀ r ∈ functions, cloud.isFailing "delete_tags" r.id = false := by decide +kernel
  refine ⟨hspace, hdistinct, List.Subset.refl _, hworks, ?_⟩
  obtain ⟨-, -, hrun⟩ := trimming_frees_space 19 hspace preserve
  obtain ⟨report, left, calls, hrun, hrecords⟩ :=
    hrun context cloud functions hdistinct (List.Subset.refl _) hworks
  refine ⟨report, left, calls, hrun, ?_⟩
  obtain ⟨htrimmed, -, hleft, -⟩ := hrecords trimmed List.mem_cons_self
  obtain ⟨hpreserved, -, -, hkept⟩ := hrecords preserved (List.mem_cons_of_mem _ List.mem_cons_self)
  obtain ⟨hrefused, -, -, hspared⟩ :=
    hrecords refused (List.mem_cons_of_mem _ (List.mem_cons_of_mem _ List.mem_cons_self))
  have hsuccess : trimmed.id ∈ report.succeeded :=
    htrimmed.2 ⟨rfl, List.mem_cons_self, by decide +kernel, by decide +kernel, by decide +kernel,
      by decide +kernel⟩
  have hid : trimmed.id = "fn-1" := by decide +kernel
  obtain ⟨keys, -, -, hsize, hvalues⟩ := hleft hsuccess
  refine ⟨hid ▸ hsuccess, hsize, ?_, hkept fun h => ?_, hspared fun h => ?_⟩
  · rw [hvalues "a" List.mem_cons_self]
    decide +kernel
  · exact absurd (hpreserved.1 h).2.2.2.unpreserved (by decide +kernel)
  · exact (hrefused.1 h).2.2.1 (by decide +kernel)

end Action

end CloudPolicy
