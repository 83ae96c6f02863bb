import CloudPolicy.Resource.Path
import Mathlib.Algebra.Group.Nat.Defs

/-! Dotted keys. A key with one more segment looks that segment up in what the shorter key finds:
among the fields of an object, or at an index of an array. Null is dropped at the end of a path
only, which makes no difference to longer paths, because nothing is found in null. Main statement:
what a key finds after one more segment, and that nothing is found behind a key that finds
nothing. -/

namespace CloudPolicy

namespace Text

variable (sep : Char)

theorem splitAll_ne_nil (text : List Char) : splitAll sep text ≠ [] := by
  cases text with
  | nil => exact List.cons_ne_nil _ _
  | cons c text =>
      rw [splitAll]
      split
      next => exact List.cons_ne_nil _ _
      next => split <;> exact List.cons_ne_nil _ _

variable {sep}

theorem splitAll_of_not_mem {text : List Char} (h : sep ∉ text) : splitAll sep text = [text] := by
  induction text with
  | nil => rfl
  | cons c text ih =>
      obtain ⟨hc, htext⟩ := List.ne_and_not_mem_of_not_mem_cons h
      rw [splitAll, ih htext]
      exact if_neg hc.symm

/-- What stands before a separator and what follows it are cut each by itself. -/
theorem splitAll_append (front rest : List Char) :
    splitAll sep (front ++ sep :: rest) = splitAll sep front ++ splitAll sep rest := by
  induction front with
  | nil =>
      obtain ⟨part, parts, hrest⟩ := List.exists_cons_of_ne_nil (splitAll_ne_nil sep rest)
      show splitAll sep (sep :: rest) = [] :: splitAll sep rest
      rw [splitAll, hrest]
      exact if_pos rfl
  | cons c front ih =>
      obtain ⟨part, parts, hfront⟩ := List.exists_cons_of_ne_nil (splitAll_ne_nil sep front)
      rw [List.cons_append, splitAll, splitAll, ih, hfront]
      dsimp only [List.cons_append]
      split <;> rfl

end Text

/-! ### Indices -/

/-- The text spells an index: decimal digits, with or without a plus sign in front, of a number
below 2^64. -/
def SpellsIndex (text : List Char) (index : Nat) : Prop :=
  ∃ digits, (text = digits ∨ text = '+' :: digits) ∧ digits ≠ [] ∧
    (∀ c ∈ digits, c.isDigit = true) ∧ index = Number.ofDigits digits ∧ index < 2 ^ 64

theorem Number.nat?_eq_some_iff {text : List Char} {n : Nat} :
    nat? text = some n ↔ text ≠ [] ∧ (∀ c ∈ text, c.isDigit = true) ∧ n = ofDigits text := by
  rw [nat?]
  split
  next h =>
    rw [Option.some.injEq, eq_comm, ← and_assoc]
    exact (and_iff_right ⟨h.1, List.all_eq_true.1 h.2⟩).symm
  next h =>
    refine iff_of_false nofun fun ⟨hsome, hdigits, _⟩ => ?_
    exact h ⟨hsome, List.all_eq_true.2 hdigits⟩

theorem indexOf?_eq_some_iff {segment : String} {index : Nat} :
    indexOf? segment = some index ↔ SpellsIndex segment.toList index := by
  rw [indexOf?, Number.word?.eq_def, Option.filter_eq_some_iff, decide_eq_true_iff]
  split
  next digits htext =>
    rw [Number.nat?_eq_some_iff]
    constructor
    · rintro ⟨⟨hsome, hdigits, hindex⟩, hbound⟩
      exact ⟨digits, .inr htext, hsome, hdigits, hindex, hbound⟩
    · rintro ⟨others, hothers | hothers, hsome, hdigits, hindex, hbound⟩
      · rw [← hothers, htext] at hdigits
        exact absurd (hdigits '+' List.mem_cons_self) (by decide)
      · cases htext.symm.trans hothers
        exact ⟨⟨hsome, hdigits, hindex⟩, hbound⟩
  next hplus =>
    rw [Number.nat?_eq_some_iff]
    constructor
    · rintro ⟨⟨hsome, hdigits, hindex⟩, hbound⟩
      exact ⟨_, .inl rfl, hsome, hdigits, hindex, hbound⟩
    · rintro ⟨digits, htext | htext, hsome, hdigits, hindex, hbound⟩
      · rw [htext]
        exact ⟨⟨hsome, hdigits, hindex⟩, hbound⟩
      · exact absurd htext (hplus digits)

/-! ### Paths -/

namespace Json

/-- What stands under a segment: the field of an object with this name, or the item of an array at
the index that the segment spells. -/
inductive Child (segment : String) : Json → Json → Prop where
  | field {fields : StringMap Json} {value : Json} (h : fields.get? segment = some value) :
      Child segment (.object fields) value
  | item {items : List Json} {index : Nat} {value : Json}
      (hindex : SpellsIndex segment.toList index) (h : items[index]? = some value) :
      Child segment (.array items) value

theorem step?_eq_some_iff {segment : String} {parent value : Json} :
    parent.step? segment = some value ↔ Child segment parent value := by
  constructor
  · intro h
    cases parent with
    | object fields => exact .field h
    | array items =>
        obtain ⟨index, hindex, h⟩ := Option.bind_eq_some_iff.1 h
        exact .item (indexOf?_eq_some_iff.1 hindex) h
    | _ => cases h
  · rintro (h | ⟨hindex, h⟩)
    · exact h
    · exact Option.bind_eq_some_iff.2 ⟨_, indexOf?_eq_some_iff.2 hindex, h⟩

theorem present?_eq_some_iff {value other : Json} :
    value.present? = some other ↔ value ≠ null ∧ value = other := by
  cases value <;> simp [present?]

/-- Follow a path from a value. -/
def follow? (value : Json) (path : List String) : Option Json :=
  path.foldlM (fun value segment => value.step? segment) value

/-- Nothing is found behind null. -/
theorem present?_bind_follow? {path : List String} (hpath : path ≠ []) (value : Json) :
    value.present?.bind (follow? · path) = value.follow? path := by
  obtain ⟨segment, path, rfl⟩ := List.exists_cons_of_ne_nil hpath
  cases value <;> rfl

end Json

namespace Resource

variable {r : Resource} {p q : String}

theorem segments_ne_nil (key : String) : segments key ≠ [] :=
  mt List.map_eq_nil_iff.1 (Text.splitAll_ne_nil '.' key.toList)

theorem segments_append (p q : String) : segments (p ++ "." ++ q) = segments p ++ segments q := by
  have htext : (p ++ "." ++ q).toList = p.toList ++ '.' :: q.toList := by simp
  rw [segments, segments, segments, htext, Text.splitAll_append, List.map_append]

theorem segments_of_not_mem (h : '.' ∉ q.toList) : segments q = [q] := by
  rw [segments, Text.splitAll_of_not_mem h, List.map_singleton, String.ofList_toList]

theorem walk?_append {path : List String} (hpath : path ≠ []) (later : List String) :
    r.walk? (path ++ later) = (r.walk? path).bind (Json.follow? · later) := by
  obtain ⟨first, path, rfl⟩ := List.exists_cons_of_ne_nil hpath
  rw [List.cons_append, walk?, walk?, Option.bind_assoc]
  exact congrArg _ (funext fun value => List.foldlM_append)

/-- No key becomes the key of a tag by more segments. -/
theorem not_tag_append (hp : ¬ "tag:".toList <+: p.toList) :
    ¬ "tag:".toList <+: (p ++ "." ++ q).toList := by
  intro htag
  have hdot : p.toList ++ ['.'] <+: (p ++ "." ++ q).toList := ⟨q.toList, by simp⟩
  have hnone : '.' ∉ "tag:".toList := by decide
  rcases List.prefix_or_prefix_of_prefix htag hdot with h | h
  · rcases List.prefix_concat_iff.1 h with h | h
    · exact hnone (h ▸ List.mem_append_right _ List.mem_cons_self)
    · exact hp h
  · exact hnone (h.subset (List.mem_append_right _ List.mem_cons_self))

theorem resolve?_of_not_tag (hp : ¬ "tag:".toList <+: p.toList) :
    r.resolve? p = (r.walk? (segments p)).bind Json.present? := by
  have hpath : Text.dropFront? "tag:".toList p.toList = none :=
    Option.eq_none_iff_forall_ne_some.2 fun rest hrest =>
      hp ⟨rest, (Text.dropFront?_eq_some_iff.1 hrest).symm⟩
  rw [resolve?, hpath]

/-- The value under a longer key is found behind the value under the shorter one. -/
theorem resolve?_append (hp : ¬ "tag:".toList <+: p.toList) (q : String) :
    r.resolve? (p ++ "." ++ q) =
      ((r.resolve? p).bind (Json.follow? · (segments q))).bind Json.present? := by
  rw [resolve?_of_not_tag hp, resolve?_of_not_tag (not_tag_append hp), segments_append,
    walk?_append (segments_ne_nil p), Option.bind_assoc (r.walk? _) Json.present?]
  simp only [Json.present?_bind_follow? (segments_ne_nil q)]

theorem resolve?_ne_null (r : Resource) (key : String) : r.resolve? key ≠ some .null := by
  rw [resolve?]
  split
  next tag _ =>
    intro h
    obtain ⟨text, -, htext⟩ := Option.map_eq_some_iff.1 h
    cases htext
  next =>
    intro h
    obtain ⟨value, -, hvalue⟩ := Option.bind_eq_some_iff.1 h
    obtain ⟨hsome, rfl⟩ := Json.present?_eq_some_iff.1 hvalue
    exact hsome rfl

/-- **Dotted keys compose.** Let a key not be the key of a tag. With one more segment it finds what
stands under the segment in the value that it finds itself, unless that is null: a field of an
object, or an item of an array at the index that the segment spells. In every other case nothing is
found. In particular no key finds null, and nothing is found behind a key that finds nothing,
however long the rest is. -/
theorem dotted_keys_compose (r : Resource) (p s : String) (hp : ¬ "tag:".toList <+: p.toList)
    (hs : '.' ∉ s.toList) :
    (∀ value, r.resolve? (p ++ "." ++ s) = some value ↔
        value ≠ .null ∧ ∃ parent, r.resolve? p = some parent ∧ parent.Child s value) ∧
      (∀ key, r.resolve? key ≠ some .null) ∧
      (r.resolve? p = none → ∀ q, r.resolve? (p ++ "." ++ q) = none) := by
  refine ⟨fun value => ?_, resolve?_ne_null r, fun hnone q => ?_⟩
  · have hstep (parent : Json) : parent.follow? (segments s) = parent.step? s := by
      rw [segments_of_not_mem hs]
      exact bind_pure (parent.step? s)
    simp only [resolve?_append hp, hstep, Option.bind_eq_some_iff, Json.present?_eq_some_iff,
      Json.step?_eq_some_iff]
    constructor
    · rintro ⟨child, ⟨parent, hparent, hchild⟩, hsome, rfl⟩
      exact ⟨hsome, parent, hparent, hchild⟩
    · rintro ⟨hsome, parent, hparent, hchild⟩
      exact ⟨value, ⟨parent, hparent, hchild⟩, hsome, rfl⟩
  · rw [resolve?_append hp, hnone]
    rfl

/-- An index may have a plus sign in front. The null behind it is not found, and neither is anything
that is looked for in it. -/
theorem items_found_by_index :
    let groups := "func_vpc.security_groups"
    let function : Resource := .ofRecord (.obj
      [("func_vpc", .obj [("security_groups", .array [.string "sg-1", .null])])])
    (¬ "tag:".toList <+: groups.toList ∧ '.' ∉ "+0".toList ∧ '.' ∉ "1".toList) ∧
      function.resolve? (groups ++ "." ++ "+0") = some (.string "sg-1") ∧
      function.resolve? (groups ++ "." ++ "1") = none ∧
      function.resolve? (groups ++ "." ++ "1" ++ "." ++ "id") = none := by
  intro groups function
  have hgroups : ¬ "tag:".toList <+: groups.toList := by decide +kernel
  have hpath : segments groups = ["func_vpc", "security_groups"] := by decide +kernel
  have hlisted : function.resolve? groups = some (.array [.string "sg-1", .null]) := by
    rw [resolve?_of_not_tag hgroups, hpath]
    rfl
  obtain ⟨hfirst, -, -⟩ := dotted_keys_compose function groups "+0" hgroups (by decide)
  obtain ⟨hsecond, -, -⟩ := dotted_keys_compose function groups "1" hgroups (by decide)
  obtain ⟨-, -, hlater⟩ :=
    dotted_keys_compose function (groups ++ "." ++ "1") "id" (by decide +kernel) (by decide)
  have hnull : function.resolve? (groups ++ "." ++ "1") = none := by
    refine Option.eq_none_iff_forall_ne_some.2 fun value hvalue => ?_
    obtain ⟨hsome, parent, hparent, hchild⟩ := (hsecond value).1 hvalue
    cases hlisted.symm.trans hparent
    cases hchild with
    | item hindex hitem =>
        have hone : indexOf? "1" = some 1 := by decide +kernel
        cases hone.symm.trans (indexOf?_eq_some_iff.2 hindex)
        cases hitem
        exact hsome rfl
  have hindex : SpellsIndex "+0".toList 0 :=
    ⟨['0'], .inr (by decide), by decide, List.forall_mem_singleton.2 rfl, by decide, by decide⟩
  refine ⟨⟨hgroups, by decide, by decide⟩, ?_, hnull, hlater hnull "id"⟩
  exact (hfirst _).2 ⟨nofun, _, hlisted, .item hindex rfl⟩

end Resource

end CloudPolicy
