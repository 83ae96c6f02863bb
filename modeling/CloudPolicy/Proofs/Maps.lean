import CloudPolicy.Resource.Tags

/-! Maps that are built from lists of entries: what a look-up finds there, and what stays when an
entry is put in. The first occurrences of the elements of a list make up a list without
repetition. -/

namespace CloudPolicy

namespace StringMap

variable {α β : Type}

theorem get?_insert (m : StringMap α) (key other : String) (value : α) :
    (m.insert key value).get? other = if other = key then some value else m.get? other := by
  by_cases hsame : other = key
  · rw [hsame, if_pos rfl, get?_insert_self]
  · rw [if_neg hsame, get?_insert_of_ne m hsame]

theorem lookup_append (key : String) (xs ys : List (String × α)) :
    lookup key (xs ++ ys) = (lookup key xs).or (lookup key ys) := by
  induction xs with
  | nil => rfl
  | cons x xs ih =>
      rw [List.cons_append, lookup, lookup, ih]
      split <;> rfl

theorem get?_insertAll (key : String) (entries : List (String × α)) (m : StringMap α) :
    (m.insertAll entries).get? key = (lookup key entries.reverse).or (m.get? key) := by
  induction entries generalizing m with
  | nil => rfl
  | cons e entries ih =>
      have hstep : m.insertAll (e :: entries) = (m.insert e.1 e.2).insertAll entries := rfl
      rw [hstep, ih, List.reverse_cons, lookup_append, Option.or_assoc, get?_insert]
      congr 1
      rw [lookup, lookup]
      by_cases hkey : e.1 = key
      · rw [if_pos hkey, if_pos hkey.symm]
        rfl
      · rw [if_neg hkey, if_neg (Ne.symm hkey)]
        rfl

/-- Of several entries with one key, the last one is found. -/
theorem get?_ofList (entries : List (String × α)) (key : String) :
    (ofList entries).get? key = lookup key entries.reverse := by
  rw [ofList, get?_insertAll, get?_empty, Option.or_none]

/-- Of two values under one key the last one stays. -/
theorem insert_insert (m : StringMap α) (key : String) (value other : α) :
    (m.insert key value).insert key other = m.insert key other := by
  have hplace : ∀ entries : List (String × α),
      place key other (place key value entries) = place key other entries := by
    intro entries
    fun_induction place key value entries with
    | case1 => simp [place]
    | case2 => simp [place]
    | case3 => simp [place, *]
    | case4 k v rest hne hlt ih => rw [place, place, if_neg hne, if_neg hlt, if_neg hne, if_neg hlt, ih]
  rw [insert, insert, insert, hplace]

/-- Entries under other keys make no difference to a look-up. -/
theorem get?_insertAll_filter {p : String → Bool} {key : String} (hkey : p key = true)
    (entries : List (String × α)) {m n : StringMap α} (h : m.get? key = n.get? key) :
    (m.insertAll (entries.filter fun e => p e.1)).get? key = (n.insertAll entries).get? key := by
  induction entries generalizing m n with
  | nil => exact h
  | cons e entries ih =>
      obtain ⟨k, v⟩ := e
      by_cases hk : p k = true
      · simp only [List.filter_cons, hk, if_true]
        refine ih ?_
        rw [get?_insert, get?_insert, h]
      · simp only [List.filter_cons, hk, Bool.false_eq_true, if_false]
        refine ih ?_
        have hne : key ≠ k := fun hsame => hk (hsame ▸ hkey)
        rw [get?_insert_of_ne n hne, h]

theorem get?_ofList_filter (p : String → Bool) {key : String} (hkey : p key = true)
    (entries : List (String × α)) :
    (ofList (entries.filter fun e => p e.1)).get? key = (ofList entries).get? key :=
  get?_insertAll_filter hkey entries rfl

/-- An insertion changes nothing under other keys. -/
theorem filterKeys_insert {p : String → Bool} {key : String} (hkey : p key = false)
    (m : StringMap α) (value : α) : (m.insert key value).filterKeys p = m.filterKeys p := by
  have hplace : ∀ entries : List (String × α),
      (place key value entries).filter (fun e => p e.1) = entries.filter fun e => p e.1 := by
    intro entries
    fun_induction place key value entries with
    | case1 => simp [hkey]
    | case2 => simp [hkey]
    | case3 => simp [hkey]
    | case4 k v rest hne hlt ih => rw [List.filter_cons, List.filter_cons, ih]
  rw [filterKeys, filterKeys, insert, hplace]

theorem get?_filterKeys (p : String → Bool) (m : StringMap α) (key : String) :
    (m.filterKeys p).get? key = if p key then m.get? key else none := by
  have hlookup : ∀ entries : List (String × α),
      lookup key (entries.filter fun e => p e.1) = if p key then lookup key entries else none := by
    intro entries
    induction entries with
    | nil => simp [lookup]
    | cons e entries ih =>
        obtain ⟨k, v⟩ := e
        by_cases hk : k = key
        · subst hk
          cases hp : p k <;> simp [lookup, hp, ih]
        · cases hp : p k <;> simp [lookup, hp, hk, ih]
  exact hlookup m.entries

/-- Maps that agree on some keys agree on fewer keys. -/
theorem filterKeys_eq_of_imp {p q : String → Bool} (himp : ∀ key, q key = true → p key = true)
    {m n : StringMap α} (h : m.filterKeys p = n.filterKeys p) :
    m.filterKeys q = n.filterKeys q := by
  have htwice : ∀ m : StringMap α, (m.filterKeys p).filterKeys q = m.filterKeys q := by
    intro m
    rw [filterKeys, filterKeys, filterKeys, List.filter_filter]
    congr 1
    refine List.filter_congr fun e _ => ?_
    cases hq : q e.1 with
    | false => rfl
    | true => rw [himp e.1 hq, Bool.true_and]
  rw [← htwice m, ← htwice n, h]

/-! ### Maps from their entries -/

theorem place_of_forall_lt {key : String} (value : α) {entries : List (String × α)}
    (h : ∀ e ∈ entries, e.1 < key) : place key value entries = entries ++ [(key, value)] := by
  induction entries with
  | nil => rfl
  | cons e entries ih =>
      obtain ⟨he, hentries⟩ := List.forall_mem_cons.1 h
      have hne : e.1 ≠ key := by
        rintro rfl
        exact String.lt_irrefl _ he
      rw [place, if_neg hne, if_neg (String.lt_asymm he), ih hentries, List.cons_append]

theorem entries_insertAll_of_sorted {m : StringMap α} {entries : List (String × α)}
    (h : (m.entries ++ entries).Pairwise fun a b => a.1 < b.1) :
    (m.insertAll entries).entries = m.entries ++ entries := by
  induction entries generalizing m with
  | nil => exact (List.append_nil _).symm
  | cons e entries ih =>
      have hlast : ∀ d ∈ m.entries, d.1 < e.1 := fun d hd =>
        (List.pairwise_append.1 h).2.2 d hd e List.mem_cons_self
      have hplace : (m.insert e.1 e.2).entries = m.entries ++ [e] := place_of_forall_lt e.2 hlast
      have hrest : ((m.insert e.1 e.2).entries ++ entries).Pairwise fun a b => a.1 < b.1 := by
        rw [hplace, List.append_assoc]
        exact h
      calc (m.insertAll (e :: entries)).entries
          = ((m.insert e.1 e.2).insertAll entries).entries := rfl
        _ = (m.insert e.1 e.2).entries ++ entries := ih hrest
        _ = m.entries ++ e :: entries := by rw [hplace, List.append_assoc, List.singleton_append]

/-- A map is read back from its entries. -/
theorem ofList_entries {m : StringMap α} (h : m.Sorted) : ofList m.entries = m := by
  have hentries : (ofList m.entries).entries = m.entries := entries_insertAll_of_sorted h
  cases m
  cases hlist : ofList _
  rw [hlist] at hentries
  exact congrArg mk hentries

theorem lookup_reverse_entries {m : StringMap α} (h : m.Sorted) (key : String) :
    lookup key m.entries.reverse = m.get? key := by
  rw [← get?_ofList, ofList_entries h]

theorem get?_insertAll_entries {m : StringMap α} (hm : m.Sorted) (n : StringMap α) (key : String) :
    (n.insertAll m.entries).get? key = (m.get? key).or (n.get? key) := by
  rw [get?_insertAll, lookup_reverse_entries hm]

theorem lookup_of_forall_lt {key : String} {entries : List (String × α)}
    (h : ∀ e ∈ entries, key < e.1) : lookup key entries = none := by
  induction entries with
  | nil => rfl
  | cons e entries ih =>
      obtain ⟨he, hentries⟩ := List.forall_mem_cons.1 h
      have hne : e.1 ≠ key := by
        rintro rfl
        exact String.lt_irrefl _ he
      rw [lookup, if_neg hne, ih hentries]

theorem lookup_cons_self (e : String × α) (entries : List (String × α)) :
    lookup e.1 (e :: entries) = some e.2 := if_pos rfl

theorem not_lt_of_lookup {d e : String × α} {entries : List (String × α)}
    (he : ∀ b ∈ entries, e.1 < b.1) (h : lookup d.1 (e :: entries) = some d.2) : ¬ d.1 < e.1 := by
  intro hlt
  have hbefore : ∀ b ∈ e :: entries, d.1 < b.1 :=
    List.forall_mem_cons.2 ⟨hlt, fun b hb => String.lt_trans hlt (he b hb)⟩
  rw [lookup_of_forall_lt hbefore] at h
  cases h

/-- Ascending entries are told apart by look-ups. -/
theorem eq_of_lookup_eq {xs ys : List (String × α)} (hxs : xs.Pairwise fun a b => a.1 < b.1)
    (hys : ys.Pairwise fun a b => a.1 < b.1) (h : ∀ key, lookup key xs = lookup key ys) :
    xs = ys := by
  induction xs generalizing ys with
  | nil =>
      cases ys with
      | nil => rfl
      | cons e ys => cases (h e.1).trans (lookup_cons_self e ys)
  | cons d xs ih =>
      obtain ⟨hd, hxs'⟩ := List.pairwise_cons.1 hxs
      cases ys with
      | nil => cases (h d.1).symm.trans (lookup_cons_self d xs)
      | cons e ys =>
          obtain ⟨he, hys'⟩ := List.pairwise_cons.1 hys
          have hfirst : lookup d.1 (e :: ys) = some d.2 :=
            (h d.1).symm.trans (lookup_cons_self d xs)
          have hsecond : lookup e.1 (d :: xs) = some e.2 := (h e.1).trans (lookup_cons_self e ys)
          have hkey : d.1 = e.1 := by
            refine Decidable.byContradiction fun hne => not_lt_of_lookup he hfirst ?_
            exact Std.lt_of_le_of_ne (String.not_lt.1 (not_lt_of_lookup hd hsecond)) hne
          have hvalue : d.2 = e.2 := by
            rw [hkey, lookup_cons_self] at hfirst
            exact (Option.some.inj hfirst).symm
          have hsame : d = e := Prod.ext hkey hvalue
          subst hsame
          have hrest : xs = ys := by
            refine ih hxs' hys' fun key => ?_
            by_cases hkey : d.1 = key
            · rw [← hkey, lookup_of_forall_lt hd, lookup_of_forall_lt he]
            · have hlookup := h key
              rwa [lookup, lookup, if_neg hkey, if_neg hkey] at hlookup
          rw [hrest]

/-- Maps are told apart by look-ups. -/
theorem eq_of_get?_eq {m n : StringMap α} (hm : m.Sorted) (hn : n.Sorted)
    (h : ∀ key, m.get? key = n.get? key) : m = n := by
  cases m
  cases n
  exact congrArg mk (eq_of_lookup_eq hm hn h)

theorem get?_map (f : α → β) (m : StringMap α) (key : String) :
    (m.map f).get? key = (m.get? key).map f := by
  obtain ⟨entries⟩ := m
  show lookup key (entries.map fun e => (e.1, f e.2)) = (lookup key entries).map f
  induction entries with
  | nil => rfl
  | cons e entries ih =>
      rw [List.map_cons, lookup, lookup]
      split
      · rfl
      · exact ih

theorem mem_entries_of_get? {m : StringMap α} {key : String} {value : α}
    (h : m.get? key = some value) : (key, value) ∈ m.entries := by
  obtain ⟨entries⟩ := m
  replace h : lookup key entries = some value := h
  show (key, value) ∈ entries
  induction entries with
  | nil => cases h
  | cons e entries ih =>
      rw [lookup] at h
      split at h
      next hkey =>
        cases h
        rw [← hkey]
        exact List.mem_cons_self
      next => exact List.mem_cons_of_mem e (ih h)

theorem mem_entries_insertAll {m : StringMap α} {entries : List (String × α)} {e : String × α}
    (h : e ∈ (m.insertAll entries).entries) : e ∈ m.entries ∨ e ∈ entries := by
  induction entries generalizing m with
  | nil => exact .inl h
  | cons first entries ih =>
      rcases ih h with hplaced | hrest
      · rcases mem_place hplaced with rfl | hold
        · exact .inr List.mem_cons_self
        · exact .inl hold
      · exact .inr (List.mem_cons_of_mem first hrest)

theorem sorted_insertAll {m : StringMap α} (h : m.Sorted) (entries : List (String × α)) :
    (m.insertAll entries).Sorted := by
  induction entries generalizing m with
  | nil => exact h
  | cons e entries ih => exact ih (sorted_insert h e.1 e.2)

theorem sorted_map {m : StringMap α} (h : m.Sorted) (f : α → β) : (m.map f).Sorted :=
  List.pairwise_map.2 h

/-- The entries of a map are what its look-ups find. -/
theorem mem_entries_iff {m : StringMap α} (h : m.Sorted) {key : String} {value : α} :
    (key, value) ∈ m.entries ↔ m.get? key = some value := by
  refine ⟨fun hmem => ?_, mem_entries_of_get?⟩
  obtain ⟨entries⟩ := m
  show lookup key entries = some value
  induction entries with
  | nil => cases hmem
  | cons e entries ih =>
      obtain ⟨he, hentries⟩ := List.pairwise_cons.1 h
      rcases List.mem_cons.1 hmem with rfl | hmem
      · exact lookup_cons_self (key, value) entries
      · have hlt : e.1 < key := he (key, value) hmem
        have hne : e.1 ≠ key := fun hkey => String.lt_irrefl key (hkey ▸ hlt)
        rw [lookup, if_neg hne]
        exact ih hentries hmem

/-- A new entry joins the ones that are there. -/
theorem perm_place {key : String} {entries : List (String × α)}
    (hnew : key ∉ entries.map (·.1)) (value : α) :
    (place key value entries).Perm ((key, value) :: entries) := by
  fun_induction place key value entries with
  | case1 => exact .refl _
  | case2 => exact absurd List.mem_cons_self hnew
  | case3 => exact .refl _
  | case4 k v rest hne hlt ih =>
      exact ((ih fun hmem => hnew (List.mem_cons_of_mem _ hmem)).cons _).trans (.swap _ _ _)

/-- Entries with different keys all stay. -/
theorem perm_entries_insertAll {m : StringMap α} {entries : List (String × α)}
    (hkeys : ((m.entries ++ entries).map (·.1)).Nodup) :
    (m.insertAll entries).entries.Perm (m.entries ++ entries) := by
  induction entries generalizing m with
  | nil => rw [List.append_nil]; exact .refl _
  | cons e entries ih =>
      have hmoved : (m.entries ++ e :: entries).Perm (e :: (m.entries ++ entries)) :=
        List.perm_middle
      have hfresh := (hmoved.map (·.1)).nodup_iff.1 hkeys
      have hplaced : (m.insert e.1 e.2).entries.Perm (e :: m.entries) := by
        refine perm_place (fun hmem => (List.nodup_cons.1 hfresh).1 ?_) e.2
        rw [List.map_append]
        exact List.mem_append_left _ hmem
      have happended : ((m.insert e.1 e.2).entries ++ entries).Perm (e :: (m.entries ++ entries)) :=
        hplaced.append_right entries
      exact (ih ((happended.map (·.1)).nodup_iff.2 hfresh)).trans (happended.trans hmoved.symm)

end StringMap

theorem Json.field?_obj (fields : List (String × Json)) (key : String) :
    (Json.obj fields).field? key = StringMap.lookup key fields.reverse :=
  StringMap.get?_ofList fields key

/-! ### Tag sets -/

namespace TagSet

theorem entries_insertAll (tags : TagSet) (entries : List (String × String)) :
    (tags.insertAll entries).entries = tags.entries.insertAll entries := by
  induction entries generalizing tags with
  | nil => rfl
  | cons e entries ih => exact ih (tags.insert e.1 e.2)

theorem get?_insertAll_of_not_mem {key : String} {entries : List (String × String)}
    (hkey : key ∉ entries.map (·.1)) (tags : TagSet) :
    (tags.insertAll entries).get? key = tags.get? key := by
  induction entries generalizing tags with
  | nil => rfl
  | cons e entries ih =>
      obtain ⟨hfirst, hrest⟩ := not_or.1 fun h => hkey (List.mem_cons.2 h)
      exact (ih hrest (tags.insert e.1 e.2)).trans (get?_insert_of_ne tags hfirst e.2)

theorem eq_of_get?_eq {tags other : TagSet} (h : ∀ key, tags.get? key = other.get? key) :
    tags = other := by
  have hentries : tags.entries = other.entries :=
    StringMap.eq_of_get?_eq tags.sorted other.sorted h
  cases tags
  cases hentries
  rfl

theorem get?_insert (tags : TagSet) (key value other : String) :
    (tags.insert key value).get? other = if other = key then some value else tags.get? other :=
  StringMap.get?_insert tags.entries key other value

/-- A tag that is set again. -/
theorem insert_insert (tags : TagSet) (key value : String) :
    (tags.insert key value).insert key value = tags.insert key value := by
  refine eq_of_get?_eq fun other => ?_
  simp only [get?_insert]
  split <;> rfl

/-- Two tags, also of one key, that are both set again. -/
theorem insert_both_again (tags : TagSet) (key value key' value' : String) :
    (((tags.insert key value).insert key' value').insert key value).insert key' value' =
      (tags.insert key value).insert key' value' := by
  refine eq_of_get?_eq fun other => ?_
  simp only [get?_insert]
  by_cases hfirst : other = key <;> by_cases hsecond : other = key' <;>
    simp only [hfirst, hsecond, if_true, if_false]

theorem get?_filterKeys (tags : TagSet) (p : String → Bool) (key : String) :
    (tags.filterKeys p).get? key = if p key then tags.get? key else none :=
  StringMap.get?_filterKeys p tags.entries key

theorem ofList_toList (tags : TagSet) : ofList tags.toList = tags := by
  have hentries : (ofList tags.toList).entries = tags.entries :=
    (entries_insertAll ∅ tags.toList).trans (StringMap.ofList_entries tags.sorted)
  cases tags
  cases hlist : ofList _
  rw [hlist] at hentries
  cases hentries
  rfl

/-- All tags of one set are set on another one. -/
theorem get?_insertAll_toList (tags written : TagSet) (key : String) :
    (tags.insertAll written.toList).get? key = (written.get? key).or (tags.get? key) := by
  rw [get?, entries_insertAll]
  exact StringMap.get?_insertAll_entries written.sorted tags.entries key

end TagSet

/-! ### Lists without repetition -/

theorem nodup_eraseDups {α : Type} [BEq α] [LawfulBEq α] : ∀ l : List α, l.eraseDups.Nodup
  | [] => List.nodup_nil
  | a :: l => by
      have hshorter : (l.filter fun b => !b == a).length < l.length + 1 :=
        Nat.lt_succ_of_le (List.length_filter_le _ _)
      rw [List.eraseDups_cons, List.nodup_cons]
      refine ⟨fun hmem => ?_, nodup_eraseDups _⟩
      simpa using List.mem_eraseDups.1 hmem
termination_by l => l.length

/-- It makes no difference whether elements are left out before or after repetitions are. -/
theorem eraseDups_filter {α : Type} [BEq α] [LawfulBEq α] (p : α → Bool) :
    ∀ l : List α, (l.filter p).eraseDups = l.eraseDups.filter p
  | [] => rfl
  | a :: l => by
      have hshorter : (l.filter fun b => !b == a).length < l.length + 1 :=
        Nat.lt_succ_of_le (List.length_filter_le _ _)
      have hrest := eraseDups_filter p (l.filter fun b => !b == a)
      rw [List.filter_filter] at hrest
      rw [List.eraseDups_cons, List.filter_cons, List.filter_cons, ← hrest]
      split
      next =>
        rw [List.eraseDups_cons, List.filter_filter]
        simp only [Bool.and_comm]
      next hleft =>
        -- What is left of `l` holds no further `a`.
        refine congrArg List.eraseDups (List.filter_congr fun b _ => ?_)
        by_cases hb : b = a
        · rw [hb, Bool.eq_false_iff.2 hleft, Bool.false_and]
        · simp [hb]
termination_by l => l.length

theorem eraseDups_eraseDups {α : Type} [BEq α] [LawfulBEq α] (l : List α) :
    l.eraseDups.eraseDups = l.eraseDups := by
  induction l with
  | nil => rfl
  | cons a l ih =>
      rw [List.eraseDups_cons, eraseDups_filter, List.eraseDups_cons, List.filter_filter,
        eraseDups_filter, ih]
      simp only [Bool.and_self]

theorem eraseDups_append_eraseDups {α : Type} [BEq α] [LawfulBEq α] (l more : List α) :
    (l ++ more.eraseDups).eraseDups = (l ++ more).eraseDups := by
  have hmore : (more.eraseDups.removeAll l).eraseDups = (more.removeAll l).eraseDups := by
    rw [List.removeAll, List.removeAll, eraseDups_filter, eraseDups_eraseDups, eraseDups_filter]
  rw [List.eraseDups_append, hmore, List.eraseDups_append]

end CloudPolicy
