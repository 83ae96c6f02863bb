import CloudPolicy.Proofs.JsonText
import CloudPolicy.Proofs.Maps

/-! Documents are read back from their texts. What a text is read as is legible, and its objects are
in order; such a document is read back from its compact text as the same document, up to the values
of its numbers. -/

namespace CloudPolicy

namespace Json

/-! ### What is read is legible -/

theorem normalize_array (items : List Json) :
    normalize (array items) = array (items.map normalize) := by
  rw [normalize]
  congr 1
  induction items with
  | nil => rfl
  | cons item items ih => rw [normalize.normalizeItems, ih, List.map_cons]

theorem normalize_object (fields : StringMap Json) :
    normalize (object fields) = object (.ofList (fields.map normalize).entries) := by
  obtain ⟨fields⟩ := fields
  rw [normalize, StringMap.map]
  congr 2
  induction fields with
  | nil => rfl
  | cons field fields ih => rw [normalize.normalizeFields, ih, List.map_cons]

/-- Every number in the value has the property, and its arrays and objects nest no deeper than
`depth`. -/
inductive Holds (P : JsonNumber → Prop) : Nat → Json → Prop where
  | null {depth : Nat} : Holds P depth null
  | bool {depth : Nat} (value : Bool) : Holds P depth (bool value)
  | number {depth : Nat} {n : JsonNumber} (hn : P n) : Holds P depth (number n)
  | string {depth : Nat} (text : String) : Holds P depth (string text)
  | array {depth : Nat} {items : List Json} (hitems : ∀ item ∈ items, Holds P depth item) :
      Holds P (depth + 1) (array items)
  | object {depth : Nat} {fields : StringMap Json}
      (hfields : ∀ field ∈ fields.entries, Holds P depth field.2) :
      Holds P (depth + 1) (object fields)

theorem Holds.normalize {P : JsonNumber → Prop} {depth : Nat} {j : Json} (h : Holds P depth j) :
    Holds P depth j.normalize := by
  induction h with
  | null => exact .null
  | bool value => exact .bool value
  | number hn => exact .number hn
  | string text => exact .string text
  | array hitems ih =>
      rw [normalize_array]
      refine .array fun item hitem => ?_
      obtain ⟨original, horiginal, rfl⟩ := List.mem_map.1 hitem
      exact ih original horiginal
  | object hfields ih =>
      rw [normalize_object]
      refine .object fun field hfield => ?_
      rcases StringMap.mem_entries_insertAll hfield with hnone | hfield
      · cases hnone
      · obtain ⟨original, horiginal, rfl⟩ := List.mem_map.1 hfield
        exact ih original horiginal

theorem Holds.of_field? {P : JsonNumber → Prop} {depth : Nat} {j value : Json} {key : String}
    (h : Holds P depth j) (hvalue : j.field? key = some value) : ∃ inner, Holds P inner value := by
  cases h with
  | object hfields => exact ⟨_, hfields _ (StringMap.mem_entries_of_get? hvalue)⟩
  | _ => cases hvalue

theorem Holds.legible {P : JsonNumber → Prop} (hP : ∀ {n}, P n → n.Legible) {depth : Nat}
    {j : Json} (h : Holds P depth j) : Legible depth j := by
  induction h with
  | null => exact .null
  | bool value => exact .bool value
  | number hn => exact .number (hP hn)
  | string text => exact .string text
  | array hitems ih => exact .array ih
  | object hfields ih => exact .object ih

theorem Legible.holds {depth : Nat} {j : Json} (h : Legible depth j) :
    Holds JsonNumber.Legible depth j := by
  induction h with
  | null => exact .null
  | bool value => exact .bool value
  | number hn => exact .number hn
  | string text => exact .string text
  | array hitems ih => exact .array ih
  | object hfields ih => exact .object ih

theorem Legible.normalize {depth : Nat} {j : Json} (h : Legible depth j) :
    Legible depth j.normalize :=
  h.holds.normalize.legible id

/-- The number is one that a reader takes off the front of some text. -/
def IsRead (n : JsonNumber) : Prop := ∃ text rest, readNumber? text = some (n, rest)

mutual

theorem holds_of_readValue (fuel depth : Nat) (text : List Char) {j : Json} {rest : List Char}
    (h : readValue fuel depth text = some (j, rest)) : Holds IsRead depth j := by
  match fuel with
  | 0 => cases h
  | fuel + 1 =>
      rw [readValue] at h
      split at h
      · cases h
        exact .null
      · cases h
        exact .bool true
      · cases h
        exact .bool false
      · obtain ⟨⟨text, after⟩, -, h⟩ := Option.map_eq_some_iff.1 h
        cases h
        exact .string _
      · split at h
        · cases h
        · split at h
          · cases h
            exact .array nofun
          · obtain ⟨⟨items, after⟩, hitems, h⟩ := Option.map_eq_some_iff.1 h
            cases h
            exact .array (holds_of_readItems fuel _ _ hitems)
      · split at h
        · cases h
        · split at h
          · cases h
            exact .object nofun
          · obtain ⟨⟨fields, after⟩, hfields, h⟩ := Option.map_eq_some_iff.1 h
            cases h
            exact .object (holds_of_readFields fuel _ _ hfields)
      · obtain ⟨⟨n, after⟩, hn, h⟩ := Option.map_eq_some_iff.1 h
        cases h
        exact .number ⟨_, _, hn⟩

theorem holds_of_readItems (fuel depth : Nat) (text : List Char) {items : List Json}
    {rest : List Char} (h : readItems fuel depth text = some (items, rest)) :
    ∀ item ∈ items, Holds IsRead depth item := by
  match fuel with
  | 0 => cases h
  | fuel + 1 =>
      rw [readItems] at h
      obtain ⟨⟨item, after⟩, hitem, h⟩ := Option.bind_eq_some_iff.1 h
      have hfirst := holds_of_readValue fuel depth text hitem
      dsimp only at h
      split at h
      · obtain ⟨⟨others, after⟩, hothers, h⟩ := Option.bind_eq_some_iff.1 h
        cases h
        exact List.forall_mem_cons.2 ⟨hfirst, holds_of_readItems fuel depth _ hothers⟩
      · cases h
        exact List.forall_mem_cons.2 ⟨hfirst, nofun⟩
      · cases h

theorem holds_of_readFields (fuel depth : Nat) (text : List Char)
    {fields : List (String × Json)} {rest : List Char}
    (h : readFields fuel depth text = some (fields, rest)) :
    ∀ field ∈ fields, Holds IsRead depth field.2 := by
  match fuel with
  | 0 => cases h
  | fuel + 1 =>
      rw [readFields] at h
      split at h
      · obtain ⟨⟨key, after⟩, -, h⟩ := Option.bind_eq_some_iff.1 h
        dsimp only at h
        split at h
        · obtain ⟨⟨value, after⟩, hvalue, h⟩ := Option.bind_eq_some_iff.1 h
          have hfirst := holds_of_readValue fuel depth _ hvalue
          dsimp only at h
          split at h
          · obtain ⟨⟨others, after⟩, hothers, h⟩ := Option.bind_eq_some_iff.1 h
            cases h
            exact List.forall_mem_cons.2 ⟨hfirst, holds_of_readFields fuel depth _ hothers⟩
          · cases h
            exact List.forall_mem_cons.2 ⟨hfirst, nofun⟩
          · cases h
        · cases h
      · cases h

end

/-! ### What is read is in order -/

/-- The keys of every object ascend. -/
inductive Ordered : Json → Prop where
  | null : Ordered null
  | bool (value : Bool) : Ordered (bool value)
  | number (n : JsonNumber) : Ordered (number n)
  | string (text : String) : Ordered (string text)
  | array {items : List Json} (hitems : ∀ item ∈ items, Ordered item) : Ordered (array items)
  | object {fields : StringMap Json} (hsorted : fields.Sorted)
      (hfields : ∀ field ∈ fields.entries, Ordered field.2) : Ordered (object fields)

/-- Whether the keys of every object ascend. -/
def inOrder : Json → Bool
  | array items => itemsInOrder items
  | object ⟨fields⟩ => decide (StringMap.Sorted ⟨fields⟩) && fieldsInOrder fields
  | _ => true
where
  itemsInOrder : List Json → Bool
    | [] => true
    | item :: items => inOrder item && itemsInOrder items
  fieldsInOrder : List (String × Json) → Bool
    | [] => true
    | (_, value) :: fields => inOrder value && fieldsInOrder fields

theorem itemsInOrder_eq_all (items : List Json) :
    inOrder.itemsInOrder items = items.all inOrder := by
  induction items with
  | nil => rfl
  | cons item items ih => rw [inOrder.itemsInOrder, ih, List.all_cons]

theorem fieldsInOrder_eq_all (fields : List (String × Json)) :
    inOrder.fieldsInOrder fields = fields.all (·.2.inOrder) := by
  induction fields with
  | nil => rfl
  | cons field fields ih => rw [inOrder.fieldsInOrder, ih, List.all_cons]

theorem ordered_of_inOrder {j : Json} (h : j.inOrder) : Ordered j := by
  induction j using induct with
  | null => exact .null
  | bool value => exact .bool value
  | number n => exact .number n
  | string text => exact .string text
  | array items ih =>
      rw [inOrder, itemsInOrder_eq_all, List.all_eq_true] at h
      exact .array fun item hitem => ih item hitem (h item hitem)
  | object fields ih =>
      rw [inOrder, fieldsInOrder_eq_all, Bool.and_eq_true, List.all_eq_true] at h
      exact .object (of_decide_eq_true h.1) fun field hfield => ih field hfield (h.2 field hfield)

theorem Ordered.inOrder {j : Json} (h : Ordered j) : j.inOrder := by
  induction h with
  | array hitems ih =>
      rw [Json.inOrder, itemsInOrder_eq_all, List.all_eq_true]
      exact ih
  | object hsorted hfields ih =>
      rw [Json.inOrder, fieldsInOrder_eq_all, Bool.and_eq_true, List.all_eq_true]
      exact ⟨decide_eq_true hsorted, ih⟩
  | _ => rfl

instance (j : Json) : Decidable (Ordered j) :=
  decidable_of_iff (j.inOrder = true) ⟨ordered_of_inOrder, Ordered.inOrder⟩

theorem ordered_normalize (j : Json) : Ordered j.normalize := by
  induction j using induct with
  | null => exact .null
  | bool value => exact .bool value
  | number n => exact .number n
  | string text => exact .string text
  | array items ih =>
      rw [normalize_array]
      refine .array fun item hitem => ?_
      obtain ⟨original, horiginal, rfl⟩ := List.mem_map.1 hitem
      exact ih original horiginal
  | object fields ih =>
      rw [normalize_object]
      refine .object (StringMap.sorted_insertAll StringMap.sorted_empty _) fun field hfield => ?_
      rcases StringMap.mem_entries_insertAll hfield with hnone | hfield
      · cases hnone
      · obtain ⟨original, horiginal, rfl⟩ := List.mem_map.1 hfield
        exact ih original horiginal

theorem Ordered.normalize_eq {j : Json} (h : Ordered j) : j.normalize = j := by
  induction h with
  | null => rfl
  | bool value => rfl
  | number n => rfl
  | string text => rfl
  | array hitems ih => rw [normalize_array, List.map_congr_left ih, List.map_id']
  | object hsorted hfields ih =>
      rw [normalize_object, StringMap.map, List.map_congr_left fun field hfield =>
        congrArg (Prod.mk field.1) (ih field hfield), List.map_id', StringMap.ofList_entries hsorted]

theorem Ordered.reread {j : Json} (h : Ordered j) : Ordered j.reread := by
  induction h with
  | null => exact .null
  | bool value => exact .bool value
  | number n =>
      rw [Json.reread, rereadNumber]
      split
      · exact .number _
      · exact .null
  | string text => exact .string text
  | array hitems ih =>
      rw [reread_array]
      refine .array fun item hitem => ?_
      obtain ⟨original, horiginal, rfl⟩ := List.mem_map.1 hitem
      exact ih original horiginal
  | object hsorted hfields ih =>
      rw [reread_object]
      refine .object (StringMap.sorted_map hsorted _) fun field hfield => ?_
      obtain ⟨original, horiginal, rfl⟩ := List.mem_map.1 hfield
      exact ih original horiginal

/-! ### Documents -/

/-- The value is one that a reader gives: legible, and with its objects in order. -/
def Readable (depth : Nat) (j : Json) : Prop := Legible depth j ∧ Ordered j

theorem exists_holds_of_read? {text : String} {j : Json} (h : read? text = some j) :
    ∃ written, Holds IsRead maxDepth written ∧ j = written.normalize := by
  obtain ⟨written, hwritten, rfl⟩ := Option.map_eq_some_iff.1 h
  obtain ⟨⟨value, rest⟩, hvalue, hrest⟩ := Option.bind_eq_some_iff.1 hwritten
  obtain ⟨-, hrest⟩ := Option.ite_none_right_eq_some.1 hrest
  cases hrest
  exact ⟨_, holds_of_readValue _ _ _ hvalue, rfl⟩

theorem holds_of_read? {text : String} {j : Json} (h : read? text = some j) :
    Holds IsRead maxDepth j := by
  obtain ⟨written, hwritten, rfl⟩ := exists_holds_of_read? h
  exact hwritten.normalize

theorem readable_of_read? {text : String} {j : Json} (h : read? text = some j) :
    Readable maxDepth j := by
  obtain ⟨written, hwritten, rfl⟩ := exists_holds_of_read? h
  refine ⟨hwritten.normalize.legible ?_, ordered_normalize written⟩
  rintro n ⟨text, rest, hn⟩
  exact JsonNumber.legible_of_readNumber? hn

theorem readable_array_iff {depth : Nat} {items : List Json} :
    Readable depth (array items) ↔
      ∃ inner, depth = inner + 1 ∧ ∀ item ∈ items, Readable inner item := by
  constructor
  · rintro ⟨hlegible, hordered⟩
    cases hlegible with
    | array hlegible =>
        cases hordered with
        | array hordered =>
            exact ⟨_, rfl, fun item hitem => ⟨hlegible item hitem, hordered item hitem⟩⟩
  · rintro ⟨inner, rfl, hitems⟩
    exact ⟨.array fun item hitem => (hitems item hitem).1,
      .array fun item hitem => (hitems item hitem).2⟩

theorem readable_object_iff {depth : Nat} {fields : StringMap Json} :
    Readable depth (object fields) ↔ ∃ inner, depth = inner + 1 ∧ fields.Sorted ∧
      ∀ field ∈ fields.entries, Readable inner field.2 := by
  constructor
  · rintro ⟨hlegible, hordered⟩
    cases hlegible with
    | object hlegible =>
        cases hordered with
        | object hsorted hordered =>
            exact ⟨_, rfl, hsorted,
              fun field hfield => ⟨hlegible field hfield, hordered field hfield⟩⟩
  · rintro ⟨inner, rfl, hsorted, hfields⟩
    exact ⟨.object fun field hfield => (hfields field hfield).1,
      .object hsorted fun field hfield => (hfields field hfield).2⟩

theorem Readable.of_get? {depth : Nat} {fields : StringMap Json} {key : String} {value : Json}
    (h : Readable (depth + 1) (object fields)) (hvalue : fields.get? key = some value) :
    Readable depth value := by
  obtain ⟨inner, hdepth, -, hfields⟩ := readable_object_iff.1 h
  cases hdepth
  exact hfields _ (StringMap.mem_entries_of_get? hvalue)

theorem Readable.insert {depth : Nat} {fields : StringMap Json} {value : Json}
    (h : Readable (depth + 1) (object fields)) (hvalue : Readable depth value) (key : String) :
    Readable (depth + 1) (object (fields.insert key value)) := by
  obtain ⟨inner, hdepth, hsorted, hfields⟩ := readable_object_iff.1 h
  cases hdepth
  refine readable_object_iff.2 ⟨depth, rfl, StringMap.sorted_insert hsorted key value, ?_⟩
  intro field hfield
  rcases StringMap.mem_place hfield with rfl | hold
  · exact hvalue
  · exact hfields field hold

/-- A legible value is read from its text with its numbers as they are written and its objects in
order. -/
theorem read?_text_of_legible {j : Json} (h : Legible maxDepth j) :
    read? j.text = some j.reread.normalize := by
  have hread := readValue_chars j (2 * j.chars.length + 2) maxDepth [] h (by omega)
    fun _ _ => nofun
  rw [List.append_nil] at hread
  rw [read?, readWritten?, text, String.toList_ofList, hread]
  rfl

/-- **Documents read back.** A document that a reader can give is read back from its text, its
numbers as they are written. -/
theorem read?_text {j : Json} (h : Readable maxDepth j) : read? j.text = some j.reread := by
  rw [read?_text_of_legible h.1, h.2.reread.normalize_eq]

/-- Without numbers nothing is lost. -/
theorem read?_text_of_numberFree {j : Json} (hfree : j.numberFree)
    (h : j.depth ≤ maxDepth ∧ Ordered j) : read? j.text = some j := by
  rw [read?_text ⟨legible_of_numberFree hfree h.1, h.2⟩, reread_of_numberFree hfree]

/-! ### Documents equal themselves -/

theorem sameItems_self {items : List Json} (h : ∀ item ∈ items, same item item = true) :
    same.sameItems items items = true := by
  induction items with
  | nil => rfl
  | cons item items ih =>
      obtain ⟨hitem, hitems⟩ := List.forall_mem_cons.1 h
      rw [same.sameItems, hitem, ih hitems]
      rfl

theorem sameFields_self {fields : List (String × Json)}
    (h : ∀ field ∈ fields, same field.2 field.2 = true) :
    same.sameFields fields fields = true := by
  induction fields with
  | nil => rfl
  | cons field fields ih =>
      obtain ⟨hfield, hfields⟩ := List.forall_mem_cons.1 h
      rw [same.sameFields, beq_self_eq_true, hfield, ih hfields]
      rfl

/-- What was read is equal to itself, as all of its numbers are. -/
theorem same_self {depth : Nat} {j : Json} (h : Holds IsRead depth j) : same j j = true := by
  induction h with
  | null => rfl
  | bool value => exact beq_self_eq_true value
  | number hn =>
      obtain ⟨text, rest, hn⟩ := hn
      exact JsonNumber.same_self_of_readNumber? hn
  | string text => exact beq_self_eq_true text
  | array hitems ih => exact sameItems_self ih
  | object hfields ih => exact sameFields_self ih

/-! ### Documents up to their numbers -/

/-- The value with null in the place of every number. -/
def withoutNumbers : Json → Json
  | number _ => null
  | array items => array (withoutItems items)
  | object ⟨fields⟩ => object ⟨withoutFields fields⟩
  | other => other
where
  withoutItems : List Json → List Json
    | [] => []
    | item :: items => withoutNumbers item :: withoutItems items
  withoutFields : List (String × Json) → List (String × Json)
    | [] => []
    | (key, value) :: fields => (key, withoutNumbers value) :: withoutFields fields

theorem withoutNumbers_array (items : List Json) :
    withoutNumbers (array items) = array (items.map withoutNumbers) := by
  rw [withoutNumbers]
  congr 1
  induction items with
  | nil => rfl
  | cons item items ih => rw [withoutNumbers.withoutItems, ih, List.map_cons]

theorem withoutNumbers_object (fields : StringMap Json) :
    withoutNumbers (object fields) = object (fields.map withoutNumbers) := by
  obtain ⟨fields⟩ := fields
  rw [withoutNumbers, StringMap.map]
  congr 2
  induction fields with
  | nil => rfl
  | cons field fields ih => rw [withoutNumbers.withoutFields, ih, List.map_cons]

theorem withoutNumbers_reread (j : Json) : j.reread.withoutNumbers = j.withoutNumbers := by
  induction j using induct with
  | null => rfl
  | bool value => rfl
  | number n =>
      rw [reread, rereadNumber]
      split <;> rfl
  | string text => rfl
  | array items ih =>
      rw [reread_array, withoutNumbers_array, withoutNumbers_array, List.map_map]
      exact congrArg array (List.map_congr_left ih)
  | object fields ih =>
      rw [reread_object, withoutNumbers_object, withoutNumbers_object]
      simp only [StringMap.map, List.map_map]
      exact congrArg (fun entries => object ⟨entries⟩) (List.map_congr_left fun field hfield =>
        congrArg (Prod.mk field.1) (ih field hfield))

theorem map_eq_of_sameItems {items others : List Json} (h : same.sameItems items others)
    (ih : ∀ item ∈ items, ∀ other, same item other → item.withoutNumbers = other.withoutNumbers) :
    items.map withoutNumbers = others.map withoutNumbers := by
  induction items generalizing others with
  | nil =>
      cases others with
      | nil => rfl
      | cons other others => cases h
  | cons item items ihItems =>
      cases others with
      | nil => cases h
      | cons other others =>
          rw [same.sameItems, Bool.and_eq_true] at h
          rw [List.map_cons, List.map_cons, ih item List.mem_cons_self other h.1,
            ihItems h.2 fun each heach => ih each (List.mem_cons_of_mem item heach)]

theorem map_eq_of_sameFields {fields others : List (String × Json)}
    (h : same.sameFields fields others) (ih : ∀ field ∈ fields, ∀ other, same field.2 other →
      field.2.withoutNumbers = other.withoutNumbers) :
    fields.map (fun field => (field.1, field.2.withoutNumbers)) =
      others.map (fun field => (field.1, field.2.withoutNumbers)) := by
  induction fields generalizing others with
  | nil =>
      cases others with
      | nil => rfl
      | cons other others => cases h
  | cons field fields ihFields =>
      cases others with
      | nil => cases h
      | cons other others =>
          obtain ⟨key, value⟩ := field
          obtain ⟨otherKey, otherValue⟩ := other
          rw [same.sameFields, Bool.and_eq_true, Bool.and_eq_true, beq_iff_eq] at h
          obtain ⟨⟨hkey, hvalue⟩, hrest⟩ := h
          rw [List.map_cons, List.map_cons, hkey, ih _ List.mem_cons_self otherValue hvalue,
            ihFields hrest fun each heach => ih each (List.mem_cons_of_mem _ heach)]

/-- Values that compare as equal are equal up to their numbers. -/
theorem withoutNumbers_eq_of_same {i j : Json} (h : same i j) :
    i.withoutNumbers = j.withoutNumbers := by
  induction i using induct generalizing j with
  | null =>
      cases j with
      | null => rfl
      | _ => cases h
  | bool value =>
      cases j with
      | bool other => rw [beq_iff_eq.1 h]
      | _ => cases h
  | number n =>
      cases j with
      | number other => rfl
      | _ => cases h
  | string text =>
      cases j with
      | string other => rw [beq_iff_eq.1 h]
      | _ => cases h
  | array items ih =>
      cases j with
      | array others =>
          rw [withoutNumbers_array, withoutNumbers_array,
            map_eq_of_sameItems h fun item hitem _ => ih item hitem]
      | _ => cases h
  | object fields ih =>
      cases j with
      | object others =>
          rw [withoutNumbers_object, withoutNumbers_object]
          exact congrArg (fun entries => object ⟨entries⟩)
            (map_eq_of_sameFields h fun field hfield _ => ih field hfield)
      | _ => cases h

theorem field?_withoutNumbers (j : Json) (key : String) :
    j.withoutNumbers.field? key = (j.field? key).map withoutNumbers := by
  cases j with
  | object fields =>
      rw [withoutNumbers_object]
      exact StringMap.get?_map withoutNumbers fields key
  | _ => rfl

theorem string?_withoutNumbers (j : Json) : j.withoutNumbers.string? = j.string? := by
  cases j <;> rfl

theorem array?_withoutNumbers (j : Json) :
    j.withoutNumbers.array? = j.array?.map (·.map withoutNumbers) := by
  cases j with
  | array items =>
      rw [withoutNumbers_array]
      rfl
  | _ => rfl

theorem stringField?_withoutNumbers (j : Json) (key : String) :
    j.withoutNumbers.stringField? key = j.stringField? key := by
  rw [stringField?, stringField?, field?_withoutNumbers]
  cases j.field? key with
  | none => rfl
  | some value => exact string?_withoutNumbers value

/-- The property does not look at the numbers of a value. -/
def IgnoresNumbers (p : Json → Prop) : Prop := ∀ j, p j.withoutNumbers ↔ p j

theorem IgnoresNumbers.exists_congr {p : Json → Prop} (hp : IgnoresNumbers p) {xs ys : List Json}
    (h : xs.map withoutNumbers = ys.map withoutNumbers) :
    (∃ x ∈ xs, p x) ↔ ∃ y ∈ ys, p y := by
  have hmap (xs : List Json) : (∃ x ∈ xs, p x) ↔ ∃ x ∈ xs.map withoutNumbers, p x := by
    simp only [List.mem_map, exists_exists_and_eq_and, hp _]
  rw [hmap xs, h, ← hmap ys]

end Json

end CloudPolicy
