/-! Maps keyed by strings. The entries stand in ascending order of keys, so two maps with the same
entries are equal and every traversal follows the key order. Main statements: what a look-up finds
after an insertion or a removal, with no condition on the map, and that both keep the order. -/

namespace CloudPolicy

/-- A map from strings to `α`, as its entries. -/
structure StringMap (α : Type) where
  entries : List (String × α)
  deriving Repr, BEq, DecidableEq, Inhabited

namespace StringMap

variable {α β : Type}

/-- The first value under `key`. -/
def lookup (key : String) : List (String × α) → Option α
  | [] => none
  | (k, v) :: rest => if k = key then some v else lookup key rest

/-- Put `value` under `key`, before the first larger key or in the place of an equal one. -/
def place (key : String) (value : α) : List (String × α) → List (String × α)
  | [] => [(key, value)]
  | (k, v) :: rest =>
    if k = key then (key, value) :: rest
    else if key < k then (key, value) :: (k, v) :: rest
    else (k, v) :: place key value rest

instance : EmptyCollection (StringMap α) := ⟨⟨[]⟩⟩

def get? (m : StringMap α) (key : String) : Option α := lookup key m.entries

def contains (m : StringMap α) (key : String) : Bool := (m.get? key).isSome

def insert (m : StringMap α) (key : String) (value : α) : StringMap α :=
  ⟨place key value m.entries⟩

def erase (m : StringMap α) (key : String) : StringMap α :=
  ⟨m.entries.filter fun e => e.1 ≠ key⟩

def keys (m : StringMap α) : List String := m.entries.map (·.1)

def values (m : StringMap α) : List α := m.entries.map (·.2)

def size (m : StringMap α) : Nat := m.entries.length

def isEmpty (m : StringMap α) : Bool := m.entries.isEmpty

/-- Insert the entries one after the other: the last value of a key wins. -/
def insertAll (m : StringMap α) (entries : List (String × α)) : StringMap α :=
  entries.foldl (fun m e => m.insert e.1 e.2) m

def ofList (entries : List (String × α)) : StringMap α := insertAll ∅ entries

/-- Change every value and keep the keys. -/
def map (f : α → β) (m : StringMap α) : StringMap β := ⟨m.entries.map fun e => (e.1, f e.2)⟩

/-- Keep the entries whose key satisfies `p`. -/
def filterKeys (p : String → Bool) (m : StringMap α) : StringMap α :=
  ⟨m.entries.filter fun e => p e.1⟩

/-- The keys ascend strictly. -/
def Sorted (m : StringMap α) : Prop := m.entries.Pairwise fun a b => a.1 < b.1

instance (m : StringMap α) : Decidable m.Sorted :=
  inferInstanceAs (Decidable (m.entries.Pairwise fun a b => a.1 < b.1))

theorem sorted_empty : (∅ : StringMap α).Sorted := List.Pairwise.nil

@[simp] theorem get?_empty (key : String) : (∅ : StringMap α).get? key = none := rfl

theorem lookup_place_self (key : String) (value : α) (entries : List (String × α)) :
    lookup key (place key value entries) = some value := by
  fun_induction place key value entries with
  | case1 => simp [lookup]
  | case2 => simp [lookup]
  | case3 => simp [lookup]
  | case4 k v rest hne hlt ih => simp [lookup, hne, ih]

theorem lookup_place_of_ne {key other : String} (h : other ≠ key) (value : α)
    (entries : List (String × α)) :
    lookup other (place key value entries) = lookup other entries := by
  fun_induction place key value entries with
  | case1 => simp [lookup, Ne.symm h]
  | case2 => simp [lookup, Ne.symm h]
  | case3 k v rest hne hlt => simp [lookup, Ne.symm h]
  | case4 k v rest hne hlt ih => simp [lookup, ih]

@[simp] theorem get?_insert_self (m : StringMap α) (key : String) (value : α) :
    (m.insert key value).get? key = some value :=
  lookup_place_self key value m.entries

theorem get?_insert_of_ne (m : StringMap α) {key other : String} (h : other ≠ key) (value : α) :
    (m.insert key value).get? other = m.get? other :=
  lookup_place_of_ne h value m.entries

theorem lookup_filter_ne (key other : String) (entries : List (String × α)) :
    lookup other (entries.filter fun e => e.1 ≠ key) =
      if other = key then none else lookup other entries := by
  induction entries with
  | nil => simp [lookup]
  | cons e rest ih =>
    obtain ⟨k, v⟩ := e
    by_cases hk : k = key <;> by_cases ho : k = other <;> grind [lookup]

theorem get?_erase (m : StringMap α) (key other : String) :
    (m.erase key).get? other = if other = key then none else m.get? other :=
  lookup_filter_ne key other m.entries

theorem mem_place {key : String} {value : α} {entries : List (String × α)} {e : String × α}
    (h : e ∈ place key value entries) : e = (key, value) ∨ e ∈ entries := by
  fun_induction place key value entries with
  | case1 => simpa using h
  | case2 => simp only [List.mem_cons] at h ⊢; grind
  | case3 => simpa using h
  | case4 k v rest hne hlt ih => simp only [List.mem_cons] at h ⊢; grind

theorem sorted_place (key : String) (value : α) (entries : List (String × α))
    (h : entries.Pairwise fun a b => a.1 < b.1) :
    (place key value entries).Pairwise fun a b => a.1 < b.1 := by
  fun_induction place key value entries with
  | case1 => simp
  | case2 v rest => simpa [List.pairwise_cons] using h
  | case3 k v rest hne hlt =>
    refine List.pairwise_cons.2 ⟨fun e he => ?_, h⟩
    rcases List.mem_cons.1 he with rfl | he
    · exact hlt
    · exact String.lt_trans hlt ((List.pairwise_cons.1 h).1 e he)
  | case4 k v rest hne hlt ih =>
    obtain ⟨hk, hrest⟩ := List.pairwise_cons.1 h
    refine List.pairwise_cons.2 ⟨fun e he => ?_, ih hrest⟩
    rcases mem_place he with rfl | he
    · exact Std.lt_of_le_of_ne (String.not_lt.1 hlt) hne
    · exact hk e he

theorem sorted_insert {m : StringMap α} (h : m.Sorted) (key : String) (value : α) :
    (m.insert key value).Sorted :=
  sorted_place key value m.entries h

theorem sorted_filterKeys {m : StringMap α} (h : m.Sorted) (p : String → Bool) :
    (m.filterKeys p).Sorted :=
  List.Pairwise.filter _ h

theorem sorted_erase {m : StringMap α} (h : m.Sorted) (key : String) : (m.erase key).Sorted :=
  List.Pairwise.filter _ h

end StringMap

end CloudPolicy
