import CloudPolicy.Proofs.NumberText

/-! The reader takes the compact text of a JSON value off the front of any text that does not
continue it, and gives the value with its numbers as they are written. A value without numbers is
told by its text, and so is where it ends. The strings in it may hold any characters. -/

namespace CloudPolicy.Json

/-! ### Strings -/

theorem hexValue?_hexDigit (n : Nat) : hexValue? (hexDigit n) = some (n % 16) := by
  have hall : ∀ digit < 16, hexValue? ((Nat.toDigits 16 digit).headD '0') = some digit := by decide
  exact hall _ (Nat.mod_lt n (by decide))

/-- A control character is read back from the four digits of its code. -/
theorem escapedUnit?_control {c : Char} (hc : c.toNat < 32) (rest : List Char) :
    escapedUnit? ('0' :: '0' :: hexDigit (c.toNat / 16) :: hexDigit c.toNat :: rest) =
      some (c, rest) := by
  have hunit : unit? ('0' :: '0' :: hexDigit (c.toNat / 16) :: hexDigit c.toNat :: rest) =
      some (c.toNat, rest) := by
    have hzero : hexValue? '0' = some 0 := rfl
    have hcode : ((0 * 16 + 0) * 16 + c.toNat / 16 % 16) * 16 + c.toNat % 16 = c.toNat := by omega
    simp only [unit?, hzero, hexValue?_hexDigit, Option.bind_eq_bind, Option.bind_some, hcode]
  have hlow : ¬(0xDC00 ≤ c.toNat ∧ c.toNat ≤ 0xDFFF) := by omega
  have hhigh : ¬(0xD800 ≤ c.toNat ∧ c.toNat ≤ 0xDBFF) := by omega
  simp only [escapedUnit?, hunit, Option.bind_eq_bind, Option.bind_some, if_neg hlow, if_neg hhigh,
    Char.ofNat_toNat]

/-- Reading after a backslash what stands for `c` there. -/
theorem readString_backslash {c : Char} (code : List Char) (fuel : Nat) {rest : List Char}
    (hcode : escaped? (code ++ rest) = some (c, rest)) :
    readString (fuel + 1) (('\\' :: code) ++ rest) =
      (readString fuel rest).map fun (text, rest) => (c :: text, rest) := by
  have hquote : ¬ '\\' = '"' := by decide
  simp only [List.cons_append, readString, if_neg hquote, if_true, hcode, Option.bind_eq_bind,
    Option.bind_some]
  cases readString fuel rest <;> rfl

/-- Reading takes back the escaping of one character. -/
theorem readString_escape (fuel : Nat) (c : Char) (rest : List Char) :
    readString (fuel + 1) (escape c ++ rest) =
      (readString fuel rest).map fun (text, rest) => (c :: text, rest) := by
  unfold escape
  by_cases hquote : c = '"'
  · rw [if_pos hquote, hquote]
    exact readString_backslash ['"'] fuel rfl
  rw [if_neg hquote]
  by_cases hslash : c = '\\'
  · rw [if_pos hslash, hslash]
    exact readString_backslash ['\\'] fuel rfl
  rw [if_neg hslash]
  by_cases hline : c = '\n'
  · rw [if_pos hline, hline]
    exact readString_backslash ['n'] fuel rfl
  rw [if_neg hline]
  by_cases hreturn : c = '\r'
  · rw [if_pos hreturn, hreturn]
    exact readString_backslash ['r'] fuel rfl
  rw [if_neg hreturn]
  by_cases htab : c = '\t'
  · rw [if_pos htab, htab]
    exact readString_backslash ['t'] fuel rfl
  rw [if_neg htab]
  by_cases hback : c.toNat = 8
  · rw [if_pos hback, show c = Char.ofNat 8 by rw [← hback, Char.ofNat_toNat]]
    exact readString_backslash ['b'] fuel rfl
  rw [if_neg hback]
  by_cases hfeed : c.toNat = 12
  · rw [if_pos hfeed, show c = Char.ofNat 12 by rw [← hfeed, Char.ofNat_toNat]]
    exact readString_backslash ['f'] fuel rfl
  rw [if_neg hfeed]
  by_cases hcontrol : c.toNat < 32
  · rw [if_pos hcontrol]
    exact readString_backslash ['u', '0', '0', _, _] fuel
      (escapedUnit?_control hcontrol rest)
  · rw [if_neg hcontrol]
    simp only [List.cons_append, List.nil_append, readString, if_neg hquote, if_neg hslash,
      if_neg hcontrol, Option.bind_eq_bind]
    cases readString fuel rest <;> rfl

/-- With fuel for its characters, a written string is read back whole. -/
theorem readString_flatMap_escape {fuel : Nat} {text : List Char} (hfuel : text.length < fuel)
    (rest : List Char) :
    readString fuel (text.flatMap escape ++ '"' :: rest) = some (text, rest) := by
  induction text generalizing fuel with
  | nil =>
      obtain ⟨fuel, rfl⟩ : ∃ left, fuel = left + 1 := ⟨fuel - 1, by omega⟩
      rfl
  | cons c text ih =>
      obtain ⟨fuel, rfl⟩ : ∃ left, fuel = left + 1 := ⟨fuel - 1, by omega⟩
      rw [List.length_cons] at hfuel
      rw [List.flatMap_cons, List.append_assoc, readString_escape,
        ih (Nat.lt_of_succ_lt_succ hfuel), Option.map_some]

/-! ### Values -/

/-- Induction on values, through the items of arrays and the fields of objects. -/
@[elab_as_elim]
theorem induct {motive : Json → Prop} (null : motive null) (bool : ∀ value, motive (bool value))
    (number : ∀ n, motive (number n)) (string : ∀ text, motive (string text))
    (array : ∀ items : List Json, (∀ item ∈ items, motive item) → motive (array items))
    (object : ∀ fields : StringMap Json, (∀ field ∈ fields.entries, motive field.2) →
      motive (object fields)) (j : Json) : motive j := by
  match j with
  | .null => exact null
  | .bool value => exact bool value
  | .number n => exact number n
  | .string text => exact string text
  | .array items =>
      exact array items fun item hitem => induct null bool number string array object item
  | .object ⟨fields⟩ =>
      exact object ⟨fields⟩ fun field hfield => induct null bool number string array object field.2
termination_by sizeOf j
decreasing_by
  · have := List.sizeOf_lt_of_mem hitem
    simp only [Json.array.sizeOf_spec]
    omega
  · have := List.sizeOf_lt_of_mem hfield
    obtain ⟨key, value⟩ := field
    simp only [Json.object.sizeOf_spec, StringMap.mk.sizeOf_spec, Prod.mk.sizeOf_spec] at this ⊢
    omega

/-- No number stands anywhere in the value. -/
def numberFree : Json → Bool
  | null => true
  | bool _ => true
  | number _ => false
  | string _ => true
  | array items => itemsFree items
  | object ⟨fields⟩ => fieldsFree fields
where
  itemsFree : List Json → Bool
    | [] => true
    | item :: items => numberFree item && itemsFree items
  fieldsFree : List (String × Json) → Bool
    | [] => true
    | (_, value) :: fields => numberFree value && fieldsFree fields

@[simp] theorem itemsFree_eq_all (items : List Json) :
    numberFree.itemsFree items = items.all numberFree := by
  induction items with
  | nil => rfl
  | cons item items ih => rw [numberFree.itemsFree, ih, List.all_cons]

@[simp] theorem fieldsFree_eq_all (fields : List (String × Json)) :
    numberFree.fieldsFree fields = fields.all (·.2.numberFree) := by
  induction fields with
  | nil => rfl
  | cons field fields ih => rw [numberFree.fieldsFree, ih, List.all_cons]

/-- How deep arrays and objects nest. -/
def depth : Json → Nat
  | null => 0
  | bool _ => 0
  | number _ => 0
  | string _ => 0
  | array items => itemDepth items + 1
  | object ⟨fields⟩ => fieldDepth fields + 1
where
  itemDepth : List Json → Nat
    | [] => 0
    | item :: items => max (depth item) (itemDepth items)
  fieldDepth : List (String × Json) → Nat
    | [] => 0
    | (_, value) :: fields => max (depth value) (fieldDepth fields)

theorem depth_le_itemDepth {item : Json} {items : List Json} (h : item ∈ items) :
    item.depth ≤ depth.itemDepth items := by
  induction items with
  | nil => cases h
  | cons first items ih =>
      rw [depth.itemDepth]
      rcases List.mem_cons.1 h with rfl | hrest
      · exact Nat.le_max_left _ _
      · exact (ih hrest).trans (Nat.le_max_right _ _)

theorem depth_le_fieldDepth {field : String × Json} {fields : List (String × Json)}
    (h : field ∈ fields) : field.2.depth ≤ depth.fieldDepth fields := by
  induction fields with
  | nil => cases h
  | cons first fields ih =>
      rw [depth.fieldDepth]
      rcases List.mem_cons.1 h with rfl | hrest
      · exact Nat.le_max_left _ _
      · exact (ih hrest).trans (Nat.le_max_right _ _)

/-- The numbers of the value are legible, and its arrays and objects nest no deeper than allowed. -/
inductive Legible : Nat → Json → Prop where
  | null {depth : Nat} : Legible depth null
  | bool {depth : Nat} (value : Bool) : Legible depth (bool value)
  | number {depth : Nat} {n : JsonNumber} (hn : n.Legible) : Legible depth (number n)
  | string {depth : Nat} (text : String) : Legible depth (string text)
  | array {depth : Nat} {items : List Json} (hitems : ∀ item ∈ items, Legible depth item) :
      Legible (depth + 1) (array items)
  | object {depth : Nat} {fields : StringMap Json}
      (hfields : ∀ field ∈ fields.entries, Legible depth field.2) :
      Legible (depth + 1) (object fields)

/-- What the text of a number is read as. -/
def rereadNumber (n : JsonNumber) : Json :=
  match readNumber? (numberText n) with
  | some (read, _) => number read
  | none => null

/-- What the text of a value is read as: the value with its numbers read back. -/
def reread : Json → Json
  | number n => rereadNumber n
  | array items => array (rereadItems items)
  | object ⟨fields⟩ => object ⟨rereadFields fields⟩
  | other => other
where
  rereadItems : List Json → List Json
    | [] => []
    | item :: items => reread item :: rereadItems items
  rereadFields : List (String × Json) → List (String × Json)
    | [] => []
    | (key, value) :: fields => (key, reread value) :: rereadFields fields

theorem reread_array (items : List Json) : reread (array items) = array (items.map reread) := by
  rw [reread]
  congr 1
  induction items with
  | nil => rfl
  | cons item items ih => rw [reread.rereadItems, ih, List.map_cons]

theorem reread_object (fields : StringMap Json) :
    reread (object fields) = object (fields.map reread) := by
  obtain ⟨fields⟩ := fields
  rw [reread, StringMap.map]
  congr 2
  induction fields with
  | nil => rfl
  | cons field fields ih => rw [reread.rereadFields, ih, List.map_cons]

theorem readNumber?_null : readNumber? ("null".toList) = none := by decide +kernel

theorem not_isBlank_of_sign_or_digit {c : Char} (hc : c = '-' ∨ c.isDigit) :
    isBlank c = false ∧ c ≠ ']' := by
  rcases hc with rfl | hdigit
  · decide
  · refine ⟨?_, ?_⟩
    · by_contra hblank
      simp only [isBlank, Bool.not_eq_false, Bool.or_eq_true, decide_eq_true_eq] at hblank
      rcases hblank with ((rfl | rfl) | rfl) | rfl <;> exact absurd hdigit (by decide)
    · rintro rfl
      exact absurd hdigit (by decide)

/-- The text of a number begins with a sign or a digit, or it is null. -/
theorem numberText_cases {n : JsonNumber} (hn : n.Legible) :
    (n.isWritten ∧ ∃ c tail, numberText n = c :: tail ∧ (c = '-' ∨ c.isDigit)) ∨
      (n.isWritten = false ∧ numberText n = "null".toList) := by
  cases hwritten : n.isWritten with
  | true =>
      left
      obtain ⟨negative, parts, hformed, htext, -⟩ := JsonNumber.exists_numberText_eq hn hwritten
      refine ⟨rfl, ?_⟩
      cases negative with
      | true => exact ⟨'-', _, htext, .inl rfl⟩
      | false =>
          obtain ⟨c, whole, hwhole⟩ := List.exists_cons_of_ne_nil hformed.whole.1
          rw [NumberParts.chars, hwhole] at htext
          exact ⟨c, _, htext, .inr (hformed.whole.2 c (hwhole ▸ List.mem_cons_self))⟩
  | false =>
      right
      cases n with
      | int value => cases hwritten
      | float value =>
          have hinfinite : value.isFinite = false := hwritten
          exact ⟨rfl, by rw [numberText, hinfinite]; rfl⟩

theorem itemChars_cons_cons (item next : Json) (items : List Json) :
    chars.itemChars (item :: next :: items) =
      chars item ++ ',' :: chars.itemChars (next :: items) := rfl

theorem fieldChars_cons_cons (key : String) (value : Json) (next : String × Json)
    (fields : List (String × Json)) :
    chars.fieldChars ((key, value) :: next :: fields) =
      quote key.toList ++ ':' :: (chars value ++ ',' :: chars.fieldChars (next :: fields)) := rfl

/-- The text of a value begins with no blank and no closing bracket. -/
theorem exists_chars_eq_cons {depth : Nat} {j : Json} (h : Legible depth j) :
    ∃ c tail, chars j = c :: tail ∧ isBlank c = false ∧ c ≠ ']' := by
  match j with
  | null => exact ⟨'n', _, by rw [chars], rfl, by decide⟩
  | bool true => exact ⟨'t', _, by rw [chars], rfl, by decide⟩
  | bool false => exact ⟨'f', _, by rw [chars], rfl, by decide⟩
  | number n =>
      cases h with
      | number hn =>
          rw [chars]
          rcases numberText_cases hn with ⟨-, c, tail, htext, hc⟩ | ⟨-, htext⟩
          · exact ⟨c, tail, htext, not_isBlank_of_sign_or_digit hc⟩
          · exact ⟨'n', _, htext, by decide⟩
  | string _ => exact ⟨'"', _, by rw [chars, quote], rfl, by decide⟩
  | array _ => exact ⟨'[', _, by rw [chars], rfl, by decide⟩
  | object _ => exact ⟨'{', _, by rw [chars], rfl, by decide⟩

theorem exists_itemChars_eq_cons {depth : Nat} {item : Json} (h : Legible depth item)
    (items : List Json) :
    ∃ c tail, chars.itemChars (item :: items) = c :: tail ∧ isBlank c = false ∧ c ≠ ']' := by
  obtain ⟨c, tail, hchars, hc⟩ := exists_chars_eq_cons h
  cases items with
  | nil => exact ⟨c, tail, hchars, hc⟩
  | cons next items =>
      exact ⟨c, tail ++ ',' :: chars.itemChars (next :: items), by
        rw [itemChars_cons_cons, hchars, List.cons_append], hc⟩

theorem exists_fieldChars_eq_cons (key : String) (value : Json) (fields : List (String × Json)) :
    ∃ tail, chars.fieldChars ((key, value) :: fields) = '"' :: tail := by
  cases fields with
  | nil => exact ⟨_, by rw [chars.fieldChars, quote, List.cons_append]⟩
  | cons next fields => exact ⟨_, by rw [fieldChars_cons_cons, quote, List.cons_append]⟩

theorem skipBlanks_cons {c : Char} (hc : isBlank c = false) (rest : List Char) :
    skipBlanks (c :: rest) = c :: rest := by
  rw [skipBlanks, List.dropWhile_cons_of_neg (by simp [hc])]

theorem skipBlanks_quote_append (text rest : List Char) :
    skipBlanks (quote text ++ rest) = '"' :: (text.flatMap escape ++ '"' :: rest) := by
  rw [quote, List.cons_append, skipBlanks_cons rfl, List.append_assoc, List.singleton_append]

theorem length_le_length_flatMap_escape (text : List Char) :
    text.length ≤ (text.flatMap escape).length := by
  induction text with
  | nil => exact Nat.le_refl _
  | cons c text ih =>
      have hone : 1 ≤ (escape c).length := by
        unfold escape
        repeat' split
        all_goals simp
      rw [List.flatMap_cons, List.length_append, List.length_cons]
      omega

theorem endsNumber_cons {c : Char} (rest : List Char)
    (hc : c.isDigit = false ∧ c ≠ '.' ∧ c ≠ 'e' ∧ c ≠ 'E') : EndsNumber (c :: rest) := by
  intro d hd
  cases hd
  exact hc

theorem readValue_numberText {n : JsonNumber} (hn : n.Legible) (fuel depth : Nat)
    {rest : List Char} (hrest : EndsNumber rest) :
    readValue (fuel + 1) depth (numberText n ++ rest) = some (rereadNumber n, rest) := by
  rcases numberText_cases hn with ⟨hwritten, c, tail, htext, hc⟩ | ⟨-, htext⟩
  · obtain ⟨read, hread⟩ := JsonNumber.exists_readNumber?_numberText hn hwritten
    have hreread : rereadNumber n = number read := by
      have := hread [] nofun
      rw [List.append_nil] at this
      rw [rereadNumber, this]
    have hread := hread rest hrest
    rw [htext, List.cons_append] at hread ⊢
    rw [readValue, skipBlanks_cons (not_isBlank_of_sign_or_digit hc).1, hreread]
    -- No other value begins with a sign or a digit.
    split <;> try (next heq => obtain ⟨rfl, -⟩ := List.cons.inj heq; exact absurd hc (by decide))
    rw [hread]
    rfl
  · rw [rereadNumber, htext, readNumber?_null]
    rfl

mutual

/-- **Written values read back.** The reader takes the text of a value off the front of any list of
characters that does not continue a number, given fuel for its characters and leave for its depth.
-/
theorem readValue_chars (j : Json) (fuel depth : Nat) (rest : List Char) (h : Legible depth j)
    (hfuel : (chars j).length ≤ fuel) (hrest : ∀ n, j = number n → EndsNumber rest) :
    readValue fuel depth (chars j ++ rest) = some (reread j, rest) := by
  obtain ⟨fuel, rfl⟩ : ∃ left, fuel = left + 1 := by
    obtain ⟨c, tail, hchars, -⟩ := exists_chars_eq_cons h
    rw [hchars, List.length_cons] at hfuel
    exact ⟨fuel - 1, by omega⟩
  match j, h with
  | null, _ => rfl
  | bool true, _ => rfl
  | bool false, _ => rfl
  | number n, .number hn => exact readValue_numberText hn fuel depth (hrest n rfl)
  | string text, _ =>
      have hlength := length_le_length_flatMap_escape text.toList
      have hleft : text.toList.length < fuel := by
        simp only [chars, quote, List.length_cons, List.length_append, List.length_nil] at hfuel
        omega
      rw [chars, readValue, skipBlanks_quote_append]
      simp only [readString_flatMap_escape hleft, Option.map_some, String.ofList_toList, reread]
  | array [], .array _ => rfl
  | array (item :: items), @Legible.array depth _ hitems =>
      rw [chars, List.length_cons, List.length_append, List.length_singleton] at hfuel
      have hread := readItems_itemChars item items fuel depth rest hitems (by omega)
      have hopen : skipBlanks (chars (array (item :: items)) ++ rest) =
          '[' :: (chars.itemChars (item :: items) ++ ']' :: rest) := by
        rw [chars, List.cons_append, skipBlanks_cons rfl, List.append_assoc, List.singleton_append]
      obtain ⟨c, tail, hfirst, hblank, hclosing⟩ :=
        exists_itemChars_eq_cons (hitems item List.mem_cons_self) items
      rw [hfirst, List.cons_append] at hread hopen
      rw [readValue, hopen]
      simp only [skipBlanks_cons hblank]
      split
      next h => exact absurd (List.cons.inj h).1 hclosing
      next => rw [hread, Option.map_some, reread]
  | object ⟨[]⟩, .object _ => rfl
  | object ⟨(key, value) :: fields⟩, @Legible.object depth _ hfields =>
      rw [chars, List.length_cons, List.length_append, List.length_singleton] at hfuel
      have hread := readFields_fieldChars key value fields fuel depth rest hfields (by omega)
      have hopen : skipBlanks (chars (object ⟨(key, value) :: fields⟩) ++ rest) =
          '{' :: (chars.fieldChars ((key, value) :: fields) ++ '}' :: rest) := by
        rw [chars, List.cons_append, skipBlanks_cons rfl, List.append_assoc, List.singleton_append]
      obtain ⟨tail, hfirst⟩ := exists_fieldChars_eq_cons key value fields
      rw [hfirst, List.cons_append] at hread hopen
      rw [readValue, hopen]
      simp (disch := decide) only [skipBlanks_cons]
      split
      next h => exact absurd (List.cons.inj h).1 (by decide)
      next => rw [hread, Option.map_some, reread]
termination_by fuel

theorem readItems_itemChars (item : Json) (items : List Json) (fuel depth : Nat) (rest : List Char)
    (h : ∀ each ∈ item :: items, Legible depth each)
    (hfuel : (chars.itemChars (item :: items)).length < fuel) :
    readItems fuel depth (chars.itemChars (item :: items) ++ ']' :: rest) =
      some (reread.rereadItems (item :: items), rest) := by
  obtain ⟨fuel, rfl⟩ : ∃ left, fuel = left + 1 := ⟨fuel - 1, by omega⟩
  have hfirst := h item List.mem_cons_self
  match items with
  | [] =>
      rw [chars.itemChars] at hfuel ⊢
      have hitem := readValue_chars item fuel depth (']' :: rest) hfirst (by omega)
        fun _ _ => endsNumber_cons rest (by decide)
      rw [readItems, hitem]
      rfl
  | next :: items =>
      rw [itemChars_cons_cons, List.length_append, List.length_cons] at hfuel
      have hitem := readValue_chars item fuel depth
        (',' :: (chars.itemChars (next :: items) ++ ']' :: rest)) hfirst (by omega)
        fun _ _ => endsNumber_cons _ (by decide)
      have hitems := readItems_itemChars next items fuel depth rest
        (fun each heach => h each (List.mem_cons_of_mem item heach)) (by omega)
      rw [itemChars_cons_cons, List.append_assoc, List.cons_append, readItems, hitem,
        Option.bind_eq_bind, Option.bind_some]
      simp (disch := decide) only [skipBlanks_cons, hitems, Option.bind_eq_bind, Option.bind_some,
        reread.rereadItems]
termination_by fuel

theorem readFields_fieldChars (key : String) (value : Json) (fields : List (String × Json))
    (fuel depth : Nat) (rest : List Char)
    (h : ∀ field ∈ (key, value) :: fields, Legible depth field.2)
    (hfuel : (chars.fieldChars ((key, value) :: fields)).length < fuel) :
    readFields fuel depth (chars.fieldChars ((key, value) :: fields) ++ '}' :: rest) =
      some (reread.rereadFields ((key, value) :: fields), rest) := by
  obtain ⟨fuel, rfl⟩ : ∃ left, fuel = left + 1 := ⟨fuel - 1, by omega⟩
  have hfirst : Legible depth value := h (key, value) List.mem_cons_self
  have hkey := length_le_length_flatMap_escape key.toList
  match fields with
  | [] =>
      rw [chars.fieldChars] at hfuel ⊢
      simp only [quote, List.length_cons, List.length_append, List.length_nil] at hfuel
      have hname := readString_flatMap_escape (show key.toList.length < fuel by omega)
        (':' :: (chars value ++ '}' :: rest))
      have hvalue := readValue_chars value fuel depth ('}' :: rest) hfirst (by omega)
        fun _ _ => endsNumber_cons rest (by decide)
      rw [List.append_assoc, List.cons_append, readFields, skipBlanks_quote_append]
      simp (disch := decide) only [hname, hvalue, Option.bind_eq_bind, Option.bind_some,
        skipBlanks_cons, String.ofList_toList, reread.rereadFields]
  | (nextKey, next) :: fields =>
      rw [fieldChars_cons_cons] at hfuel ⊢
      simp only [quote, List.length_cons, List.length_append, List.length_nil] at hfuel
      have hfields := readFields_fieldChars nextKey next fields fuel depth rest
        (fun field hfield => h field (List.mem_cons_of_mem _ hfield)) (by omega)
      rw [List.append_assoc, List.cons_append, List.append_assoc, List.cons_append]
      generalize chars.fieldChars ((nextKey, next) :: fields) ++ '}' :: rest = tail at hfields ⊢
      have hname := readString_flatMap_escape (show key.toList.length < fuel by omega)
        (':' :: (chars value ++ ',' :: tail))
      have hvalue := readValue_chars value fuel depth (',' :: tail) hfirst (by omega)
        fun _ _ => endsNumber_cons tail (by decide)
      rw [readFields, skipBlanks_quote_append]
      simp (disch := decide) only [hname, hvalue, hfields, Option.bind_eq_bind, Option.bind_some,
        skipBlanks_cons, String.ofList_toList, reread.rereadFields]
termination_by fuel

end

theorem legible_of_numberFree {j : Json} {depth : Nat} (hfree : j.numberFree)
    (hdepth : j.depth ≤ depth) : Legible depth j := by
  induction j using induct generalizing depth with
  | null => exact .null
  | bool value => exact .bool value
  | number n => exact absurd hfree (by simp [numberFree])
  | string text => exact .string text
  | array items ih =>
      rw [numberFree, itemsFree_eq_all, List.all_eq_true] at hfree
      rw [Json.depth] at hdepth
      obtain ⟨depth, rfl⟩ : ∃ left, depth = left + 1 := ⟨depth - 1, by omega⟩
      refine .array fun item hitem => ih item hitem (hfree item hitem) ?_
      exact (depth_le_itemDepth hitem).trans (Nat.le_of_succ_le_succ hdepth)
  | object fields ih =>
      rw [numberFree, fieldsFree_eq_all, List.all_eq_true] at hfree
      rw [Json.depth] at hdepth
      obtain ⟨depth, rfl⟩ : ∃ left, depth = left + 1 := ⟨depth - 1, by omega⟩
      refine .object fun field hfield => ih field hfield (hfree field hfield) ?_
      exact (depth_le_fieldDepth hfield).trans (Nat.le_of_succ_le_succ hdepth)

theorem reread_of_numberFree {j : Json} (hfree : j.numberFree) : reread j = j := by
  induction j using induct with
  | null => rfl
  | bool value => rfl
  | number n => exact absurd hfree (by simp [numberFree])
  | string text => rfl
  | array items ih =>
      rw [numberFree, itemsFree_eq_all, List.all_eq_true] at hfree
      rw [reread_array, List.map_congr_left fun item hitem => ih item hitem (hfree item hitem),
        List.map_id']
  | object fields ih =>
      rw [numberFree, fieldsFree_eq_all, List.all_eq_true] at hfree
      rw [reread_object, StringMap.map, List.map_congr_left fun field hfield =>
        congrArg (Prod.mk field.1) (ih field hfield (hfree field hfield)), List.map_id']

/-- Texts of values without numbers that begin equal characters stand for one value and end at one
place. -/
theorem chars_append_inj {i j : Json} {rest rest' : List Char} (hi : i.numberFree)
    (hj : j.numberFree) (h : chars i ++ rest = chars j ++ rest') : i = j ∧ rest = rest' := by
  let fuel := max (chars i).length (chars j).length
  let depth := max i.depth j.depth
  have hread (k : Json) (hk : k.numberFree) (rest : List Char) (hfuel : (chars k).length ≤ fuel)
      (hdepth : k.depth ≤ depth) : readValue fuel depth (chars k ++ rest) = some (k, rest) := by
    have hnumber : ∀ n, k = number n → EndsNumber rest := by
      rintro n rfl
      cases hk
    rw [readValue_chars k fuel depth rest (legible_of_numberFree hk hdepth) hfuel hnumber,
      reread_of_numberFree hk]
  have hleft := hread i hi rest (Nat.le_max_left _ _) (Nat.le_max_left _ _)
  have hright := hread j hj rest' (Nat.le_max_right _ _) (Nat.le_max_right _ _)
  rw [h, hright] at hleft
  simp only [Option.some.injEq, Prod.mk.injEq] at hleft
  exact ⟨hleft.1.symm, hleft.2.symm⟩

theorem text_injective {i j : Json} (hi : i.numberFree) (hj : j.numberFree)
    (h : i.text = j.text) : i = j := by
  have hchars : chars i ++ [] = chars j ++ [] := by
    rw [List.append_nil, List.append_nil]
    exact String.ofList_injective h
  exact (chars_append_inj hi hj hchars).1

end CloudPolicy.Json
