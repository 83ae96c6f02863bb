import CloudPolicy.Proofs.Batching
import CloudPolicy.Proofs.Maps

/-! What writing tags does to the stored records. Tags that were written are read back whatever
shape they had before, and a write that comes to its end changes one column of the records: the
values under its key, at the resources that it names and that the tag service does not refuse. -/

namespace CloudPolicy

/-! ### Reading back -/

namespace TagSet

/-- What is written as the tags of a record is read back. -/
theorem ofJson_toJson (tags : TagSet) : ofJson tags.toJson = .ok tags := by
  have hscalars : ∀ entries : List (String × String),
      (entries.map fun e => (e.1, Json.string e.2)).mapM (fun e => scalarTag e.1 e.2) =
        .ok entries := by
    intro entries
    induction entries with
    | nil => rfl
    | cons e entries ih =>
        rw [List.map_cons, List.mapM_cons, ih]
        rfl
  show (TagForm.mapping (tags.entries.map .string)).tags.map ofList = .ok tags
  rw [TagForm.tags]
  show (((tags.toList.map fun e => (e.1, Json.string e.2)).mapM fun e =>
    scalarTag e.1 e.2).map ofList) = .ok tags
  rw [hscalars]
  exact congrArg Except.ok (ofList_toList tags)

end TagSet

theorem Resource.tags_eq_of_ofJson {r : Resource} {value : Json} {tags : TagSet}
    (hvalue : r.get? "tags" = some value) (hread : TagSet.ofJson value = .ok tags) :
    r.tags = tags := by
  rw [Resource.tags, hvalue]
  cases value with
  | null => cases hread
  | _ =>
      dsimp only
      rw [hread]

@[simp] theorem Cloud.tags_retag (f : TagSet → TagSet) (r : Resource) :
    (retag f r).tags = f r.tags :=
  Resource.tags_eq_of_ofJson (Resource.get?_set_self ..) (TagSet.ofJson_toJson _)

theorem Cloud.retag_retag (f f' : TagSet → TagSet) (r : Resource) :
    retag f (retag f' r) = retag (fun tags => f (f' tags)) r := by
  rw [retag, tags_retag]
  exact congrArg (Resource.mk · r.annotations) (StringMap.insert_insert ..)

/-! ### Columns -/

/-- The identifier of a record and its tag under a key. -/
def Resource.cell (key : String) (r : Resource) : String × Option String := (r.id, r.tags.get? key)

/-- The tags under a key of all records of a type. -/
def Cloud.column (cloud : Cloud) (type : ResourceType) (key : String) :
    List (String × Option String) :=
  (cloud.resources type).map (Resource.cell key)

/-- Change the cells of some identifiers. -/
def amend (p : String → Bool) (g : Option String → Option String)
    (column : List (String × Option String)) : List (String × Option String) :=
  column.map fun c => (c.1, if p c.1 then g c.2 else c.2)

theorem amend_congr {p q : String → Bool} {g : Option String → Option String}
    {column : List (String × Option String)} (h : ∀ c ∈ column, p c.1 = q c.1) :
    amend p g column = amend q g column :=
  List.map_congr_left fun c hc => by rw [h c hc]

theorem amend_amend {g : Option String → Option String} (hg : ∀ v, g (g v) = g v)
    (p q : String → Bool) (column : List (String × Option String)) :
    amend q g (amend p g column) = amend (fun id => p id || q id) g column := by
  rw [amend, amend, amend, List.map_map]
  refine List.map_congr_left fun c _ => ?_
  cases hp : p c.1 <;> cases hq : q c.1 <;> simp [hp, hq, hg]

namespace Cloud

variable {type : ResourceType} {key : String} {f : TagSet → TagSet}
  {g : Option String → Option String}

theorem map_fst_column (cloud : Cloud) (type : ResourceType) (key : String) :
    (cloud.column type key).map Prod.fst = (cloud.resources type).map (·.id) := by
  rw [column, List.map_map]
  rfl

theorem map_cell_updateFirst (hf : ∀ tags, (f tags).get? key = g (tags.get? key))
    {stored : List Resource} (hdistinct : (stored.map (·.id)).Nodup) (id : String) :
    (updateFirst (·.id = id) (retag f) stored).map (Resource.cell key) =
      amend (· = id) g (stored.map (Resource.cell key)) := by
  rw [updateFirst_eq_map id hdistinct, amend, List.map_map, List.map_map]
  refine List.map_congr_left fun r _ => ?_
  by_cases hid : r.id = id <;> simp [Resource.cell, hid, hf]

/-- Of distinct records, those that are listed and not refused are changed. -/
theorem map_cell_retagAll (hf : ∀ tags, (f tags).get? key = g (tags.get? key))
    (hg : ∀ v, g (g v) = g v) (rejected ids : List String) {stored : List Resource}
    (hdistinct : (stored.map (·.id)).Nodup) :
    (retagAll f rejected ids stored).2.map (Resource.cell key) =
      amend (fun id => id ∈ ids ∧ id ∉ rejected) g (stored.map (Resource.cell key)) := by
  induction ids generalizing stored with
  | nil => simp [retagAll, amend]
  | cons id ids ih =>
      rw [retagAll]
      split
      next hrejected =>
        refine (ih hdistinct).trans (amend_congr fun c _ => ?_)
        by_cases hc : c.1 = id <;> simp [hc, hrejected]
      next hrejected =>
        split
        next =>
          have hids : ((updateFirst (·.id = id) (retag f) stored).map (·.id)).Nodup := by
            rw [map_updateFirst fun r _ => id_retag f r]
            exact hdistinct
          rw [ih hids, map_cell_updateFirst hf hdistinct, amend_amend hg]
          refine amend_congr fun c _ => ?_
          by_cases hc : c.1 = id <;> simp [hc, hrejected]
        next hmissing =>
          refine (ih hdistinct).trans (amend_congr fun c hc => ?_)
          obtain ⟨r, hr, rfl⟩ := List.mem_map.1 hc
          have hne : r.id ≠ id := by
            rintro rfl
            exact hmissing (List.any_eq_true.2 ⟨r, hr, decide_eq_true rfl⟩)
          refine decide_eq_decide.2 ?_
          show (r.id ∈ ids ∧ r.id ∉ rejected) ↔ (r.id ∈ id :: ids ∧ r.id ∉ rejected)
          rw [List.mem_cons, or_iff_right hne]

end Cloud

/-! ### Writes -/

namespace TagWrite

/-- What is under a key after one tag was set. -/
theorem get?_apply_create (key value : String) (tags : TagSet) (other : String) :
    ((create (.ofList [(key, value)])).apply tags).get? other =
      if other = key then some value else tags.get? other :=
  TagSet.get?_insert tags key value other

theorem get?_apply_create_tags (written tags : TagSet) (key : String) :
    ((create written).apply tags).get? key = (written.get? key).or (tags.get? key) :=
  TagSet.get?_insertAll_toList tags written key

theorem get?_apply_delete (keys : List String) (tags : TagSet) (key : String) :
    ((delete keys).apply tags).get? key = if key ∈ keys then none else tags.get? key := by
  refine (tags.get?_filterKeys (· ∉ keys) key).trans ?_
  by_cases hkey : key ∈ keys <;> simp [hkey]

end TagWrite

namespace Cloud

/-- Of the records of a type, `p` tells those whose tag under the key was changed by `g`; which
calls and which resources the cloud refuses is as before. -/
structure Writes (type : ResourceType) (key : String) (p : String → Bool)
    (g : Option String → Option String) (before after : Cloud) : Prop where
  column : after.column type key = amend p g (before.column type key)
  failures : after.failures = before.failures
  rejected : after.rejectedTagTargets = before.rejectedTagTargets

end Cloud

namespace Action

variable {key : String} {g : Option String → Option String}

/-- A write that comes to its end changes the cells of the listed resources, apart from those
refused; each resource that it reports as handled is one of them and is there. -/
theorem of_writeTags_eq_ok {context : RunContext} {action tagTypeName : String}
    (htype : context.resourceType.tagServiceName? = some tagTypeName) {write : TagWrite}
    (hsize : 0 < write.size) (hwrite : ∀ tags, (write.apply tags).get? key = g (tags.get? key))
    (hg : ∀ v, g (g v) = g v) {ids : List String} {report : Report} {cloud after : Cloud}
    (hdistinct : ((cloud.resources context.resourceType).map (·.id)).Nodup)
    (h : (writeTags context action ids write).run cloud = (.ok report, after)) :
    Cloud.Writes context.resourceType key (fun id => id ∈ ids ∧ id ∉ cloud.rejectedTagTargets) g
        cloud after ∧
      ∀ id ∈ report.succeeded, id ∈ ids ∧ id ∉ cloud.rejectedTagTargets ∧
        id ∈ (cloud.resources context.resourceType).map (·.id) := by
  obtain ⟨rfl, calls, rfl⟩ := eq_of_writeTags_eq_ok htype hsize h
  refine ⟨⟨?_, rfl, rfl⟩, fun id hid => ?_⟩
  · show ((cloud.retagged _ write.apply ids).resources context.resourceType).map _ = _
    rw [Cloud.retagged, Cloud.resources_setResources_self]
    exact Cloud.map_cell_retagAll hwrite hg _ _ hdistinct
  · rw [succeeded_writeReport, List.mem_filter, decide_eq_true_eq, Cloud.Refuses, not_or,
      not_not] at hid
    exact hid

end Action

end CloudPolicy
