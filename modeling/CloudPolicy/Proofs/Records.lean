import CloudPolicy.Json.Record
import CloudPolicy.Proofs.Rereading

/-! Records are read back from JSON. A field is found under its name whatever stands around it, and
lists and maps are read back when their items are. A value whose numbers are read back is read the
same from its text as it is written and from the text with all fields in order. -/

namespace CloudPolicy

namespace StringMap

variable {α β : Type}

/-- An entry that may be left out. -/
theorem lookup_reverse_toList (key name : String) (write : β → α) (value : Option β) :
    lookup key (value.map fun b => (name, write b)).toList.reverse =
      if name = key then value.map write else none := by
  cases value with
  | none => exact (ite_self none).symm
  | some b => rfl

theorem map_place (f : α → β) (key : String) (value : α) (entries : List (String × α)) :
    (place key value entries).map (fun e => (e.1, f e.2)) =
      place key (f value) (entries.map fun e => (e.1, f e.2)) := by
  fun_induction place key value entries with
  | case1 => rfl
  | case2 => simp [place]
  | case3 => simp [place, *]
  | case4 k v rest hne hlt ih => simp [place, *]

theorem map_insertAll (f : α → β) (entries : List (String × α)) (m : StringMap α) :
    (m.insertAll entries).map f = (m.map f).insertAll (entries.map fun e => (e.1, f e.2)) := by
  induction entries generalizing m with
  | nil => rfl
  | cons e entries ih =>
      have hinsert : (m.insert e.1 e.2).map f = (m.map f).insert e.1 (f e.2) :=
        congrArg StringMap.mk (map_place f e.1 e.2 m.entries)
      calc (m.insertAll (e :: entries)).map f
          = ((m.insert e.1 e.2).insertAll entries).map f := rfl
        _ = ((m.map f).insert e.1 (f e.2)).insertAll (entries.map fun e => (e.1, f e.2)) := by
          rw [ih, hinsert]

theorem map_ofList (f : α → β) (entries : List (String × α)) :
    (ofList entries).map f = ofList (entries.map fun e => (e.1, f e.2)) :=
  map_insertAll f entries ∅

end StringMap

namespace Json

variable {α : Type} {read : Json → Option α} {write : α → Json}

/-! ### Fields, lists and maps -/

@[simp] theorem openRecord?_obj (names : List String) (fields : List (String × Json)) :
    openRecord? names (obj fields) = some (.ofList fields) := rfl

@[simp] theorem required?_ofList (fields : List (String × Json)) (name : String)
    (read : Json → Option α) :
    required? (.ofList fields) name read = (StringMap.lookup name fields.reverse).bind read := by
  rw [required?, StringMap.get?_ofList]

/-- A field that is written only when it has a value is read back, unless the value is written as
null. -/
theorem optional?_of_get? {fields : StringMap Json} {name : String} {value : Option α}
    (hget : fields.get? name = value.map write)
    (hread : ∀ a ∈ value, write a ≠ null ∧ read (write a) = some a) :
    optional? fields name read = some value := by
  cases value with
  | none => rw [optional?, hget, Option.map_none]
  | some a =>
      obtain ⟨hnull, hread⟩ := hread a rfl
      rw [optional?, hget, Option.map_some]
      split
      next h => cases h
      next h => exact absurd (Option.some.inj h) hnull
      next h => rw [← Option.some.inj h, hread, Option.map_some]

theorem mapM_map_eq_some {β γ : Type} {read : β → Option γ} {write : γ → β} {items : List γ}
    (h : ∀ item ∈ items, read (write item) = some item) :
    (items.map write).mapM read = some items := by
  induction items with
  | nil => rfl
  | cons item items ih =>
      obtain ⟨hitem, hitems⟩ := List.forall_mem_cons.1 h
      rw [List.map_cons, List.mapM_cons, hitem, ih hitems]
      rfl

theorem listOf?_map {items : List α} (h : ∀ item ∈ items, read (write item) = some item) :
    listOf? read (array (items.map write)) = some items :=
  mapM_map_eq_some h

theorem listOf?_strings (items : List String) : listOf? string? (strings items) = some items :=
  listOf?_map fun _ _ => rfl

theorem mapOf?_map {m : StringMap α} (hm : m.Sorted)
    (h : ∀ value, read (write value) = some value) :
    mapOf? read (object (m.map write)) = some m := by
  have hentries : (m.map write).entries.mapM (fun e : String × Json =>
      (read e.2).map fun value => (e.1, value)) = some m.entries :=
    mapM_map_eq_some fun e _ => by rw [h, Option.map_some]
  rw [mapOf?, hentries, Option.map_some, StringMap.ofList_entries hm]

/-! ### Texts -/

theorem nat?_nat {n : Nat} (hn : n < 2 ^ 64) : (nat n).nat? = some n := by
  have hrange : (0 : Int) ≤ n ∧ (n : Int) ≤ (Nat.pow 2 64 - 1 : Nat) := by
    have hpow : Nat.pow 2 64 = 2 ^ 64 := rfl
    rw [hpow]
    omega
  rw [nat?, nat, intWithin?, if_pos hrange, Option.map_some, Int.toNat_natCast]

theorem legible_nat {depth n : Nat} (hn : n < 2 ^ 64) : Legible depth (nat n) :=
  .number ⟨by omega, by omega⟩

theorem reread_nat {n : Nat} (hn : n < 2 ^ 64) : (nat n).reread = nat n := by
  have hends : EndsNumber [] := nofun
  have htext : numberText (.int n) = Number.natDigits n ++ [] := (List.append_nil _).symm
  rw [nat, reread, rereadNumber, htext, NumberParts.readNumber?_natDigits hn hends]

@[simp] theorem reread_string (text : String) : (string text).reread = string text := rfl

@[simp] theorem normalize_string (text : String) : (string text).normalize = string text := rfl

@[simp] theorem normalize_nat (n : Nat) : (nat n).normalize = nat n := rfl

@[simp] theorem normalize_strings (items : List String) :
    (strings items).normalize = strings items := by
  rw [strings, normalize_array, List.map_map]
  rfl

theorem legible_strings {depth : Nat} (items : List String) :
    Legible (depth + 1) (strings items) := by
  refine .array fun item hitem => ?_
  obtain ⟨text, -, rfl⟩ := List.mem_map.1 hitem
  exact .string text

theorem reread_normalize (j : Json) : j.normalize.reread = j.reread.normalize := by
  induction j using induct with
  | null => rfl
  | bool value => rfl
  | number n =>
      show rereadNumber n = (rereadNumber n).normalize
      rw [rereadNumber]
      split <;> rfl
  | string text => rfl
  | array items ih =>
      rw [normalize_array, reread_array, reread_array, normalize_array, List.map_map, List.map_map]
      exact congrArg array (List.map_congr_left ih)
  | object fields ih =>
      rw [normalize_object, reread_object, reread_object, normalize_object, StringMap.map_ofList]
      simp only [StringMap.map, List.map_map]
      exact congrArg (fun entries => object (.ofList entries))
        (List.map_congr_left fun field hfield => congrArg (Prod.mk field.1) (ih field hfield))

/-- A value whose numbers are read back is read with its fields in order, whether or not they are in
order in the text. -/
theorem read?_text_of_reread {j : Json} (h : Legible maxDepth j) (hsame : j.reread = j) :
    ∀ document ∈ [j, j.normalize], read? document.text = some j.normalize := by
  have hwritten : read? j.text = some j.normalize := by rw [read?_text_of_legible h, hsame]
  have hordered : read? j.normalize.text = some j.normalize := by
    rw [read?_text ⟨h.normalize, ordered_normalize j⟩, reread_normalize, hsame]
  simp [hwritten, hordered]

end Json

end CloudPolicy
