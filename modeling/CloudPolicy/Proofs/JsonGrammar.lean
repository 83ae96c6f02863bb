import CloudPolicy.Proofs.JsonText

/-! The grammar of JSON texts, without the fuel of the reader. Main statement: the fuel that the
reader starts with is enough, so it reads from a text what the grammar says is written there, and
nothing else. -/

namespace CloudPolicy.Json

/-! ### Readers of short texts -/

/-- What the reader takes off the front of a text has `least` characters or more, none of them an
opening brace, and it takes the same off texts that go on in a similar way. -/
def Takes {α : Type} (similar : List Char → List Char → Prop) (least : Nat)
    (read : List Char → Option (α × List Char)) : Prop :=
  ∀ ⦃text a rest⦄, read text = some (a, rest) → ∃ front, text = front ++ rest ∧
    least ≤ front.length ∧ '{' ∉ front ∧
    ∀ other, similar rest other → read (front ++ other) = some (a, other)

/-- However a text goes on. -/
def Anyhow (_ _ : List Char) : Prop := True

/-- The texts begin with one character, or both are empty. -/
def SameHead (text other : List Char) : Prop := other.head? = text.head?

theorem SameHead.append {rest other : List Char} (h : SameHead rest other) (front : List Char) :
    SameHead (front ++ rest) (front ++ other) := by
  cases front with
  | nil => exact h
  | cons c front => rfl

namespace Takes

variable {α β : Type} {least more : Nat}

theorem pure (a : α) : Takes SameHead 0 fun text => some (a, text) := by
  rintro text _ _ ⟨⟩
  exact ⟨[], rfl, Nat.le_refl 0, List.not_mem_nil, fun _ _ => rfl⟩

theorem bind {read : List Char → Option (α × List Char)}
    {next : α × List Char → Option (β × List Char)} (hread : Takes SameHead least read)
    (hnext : ∀ a, Takes SameHead more fun text => next (a, text)) :
    Takes SameHead least fun text => read text >>= next := by
  intro text b rest h
  obtain ⟨⟨a, middle⟩, ha, hb⟩ := Option.bind_eq_some_iff.1 h
  obtain ⟨front, rfl, hleast, hfront, hsame⟩ := hread ha
  obtain ⟨later, rfl, -, hlater, hsame'⟩ := hnext a hb
  refine ⟨front ++ later, (List.append_assoc ..).symm, ?_, ?_, fun other hother => ?_⟩
  · rw [List.length_append]
    exact Nat.le_add_right_of_le hleast
  · exact fun hmem => (List.mem_append.1 hmem).elim hfront hlater
  · dsimp only
    rw [List.append_assoc, hsame _ (hother.append later)]
    exact hsame' other hother

theorem guarded {p : Prop} [Decidable p] {read : List Char → Option (α × List Char)}
    (hread : Takes SameHead least read) :
    Takes SameHead least fun text => if p then none else read text := by
  intro text a rest h
  split at h
  next => cases h
  next hp =>
    simp only [if_neg hp]
    exact hread h

end Takes

/-! ### Strings -/

/-- The character stands for itself in a string. -/
def IsPlain (c : Char) : Prop := c ≠ '"' ∧ c ≠ '\\' ∧ 32 ≤ c.toNat

instance : DecidablePred IsPlain := fun _ => inferInstanceAs (Decidable (_ ∧ _ ∧ _))

/-- The text goes on with the content of a string and its closing quote. -/
inductive Spelled : List Char → List Char → List Char → Prop where
  | close (rest : List Char) : Spelled [] ('"' :: rest) rest
  | plain {c : Char} {content text rest : List Char} (hc : IsPlain c)
      (h : Spelled content text rest) : Spelled (c :: content) (c :: text) rest
  | escape {c : Char} {content text after rest : List Char} (hc : escaped? text = some (c, after))
      (h : Spelled content after rest) : Spelled (c :: content) ('\\' :: text) rest

theorem takes_unit? : Takes Anyhow 4 unit? := by
  intro text n rest h
  match text with
  | [] | [_] | [_, _] | [_, _, _] => cases h
  | a :: b :: c :: d :: tail =>
      have hbrace : hexValue? '{' = none := rfl
      simp only [unit?, Option.bind_eq_bind, Option.bind_eq_some_iff, Option.some.injEq,
        Prod.mk.injEq] at h
      obtain ⟨i, hi, j, hj, k, hk, l, hl, rfl, rfl⟩ := h
      refine ⟨[a, b, c, d], rfl, Nat.le_refl 4, ?_, fun other _ => ?_⟩
      · simp only [List.mem_cons, List.not_mem_nil, or_false]
        rintro (rfl | rfl | rfl | rfl) <;> simp_all
      · simp only [List.cons_append, List.nil_append, unit?, hi, hj, hk, hl, Option.bind_eq_bind,
          Option.bind_some]

theorem takes_escapedUnit? : Takes Anyhow 4 escapedUnit? := by
  intro text c rest h
  obtain ⟨⟨first, middle⟩, hfirst, hchar⟩ := Option.bind_eq_some_iff.1 h
  obtain ⟨front, rfl, hfour, hfront, hsame⟩ := takes_unit? hfirst
  dsimp only at hchar
  split at hchar
  next => cases hchar
  next hlow =>
    split at hchar
    next hhigh =>
      split at hchar
      next low =>
        obtain ⟨⟨second, last⟩, hsecond, hpair⟩ := Option.bind_eq_some_iff.1 hchar
        obtain ⟨later, rfl, -, hlater, hsame'⟩ := takes_unit? hsecond
        obtain ⟨hrange, hpair⟩ := Option.ite_none_right_eq_some.1 hpair
        obtain ⟨rfl, rfl⟩ := Prod.mk.inj (Option.some.inj hpair)
        refine ⟨front ++ '\\' :: 'u' :: later, by simp, by simp; omega, by simp [hfront, hlater],
          fun other hother => ?_⟩
        rw [escapedUnit?, List.append_assoc, hsame _ trivial]
        simp only [Option.bind_eq_bind, Option.bind_some, if_neg hlow, if_pos hhigh,
          List.cons_append, hsame' other hother, if_pos hrange]
      next => cases hchar
    next hhigh =>
      cases hchar
      refine ⟨front, rfl, hfour, hfront, fun other hother => ?_⟩
      simp only [escapedUnit?, hsame other hother, Option.bind_eq_bind, Option.bind_some,
        if_neg hlow, if_neg hhigh]

theorem takes_escaped? : Takes Anyhow 1 escaped? := by
  intro text c rest h
  unfold escaped? at h
  split at h
  case h_9 tail =>
    obtain ⟨front, rfl, -, hfront, hsame⟩ := takes_escapedUnit? h
    exact ⟨'u' :: front, rfl, by simp, by simp [hfront], hsame⟩
  case h_10 => cases h
  all_goals
    cases h
    exact ⟨[_], rfl, Nat.le_refl 1, by decide, fun _ _ => rfl⟩

theorem spelled_of_readString {fuel : Nat} {content text rest : List Char}
    (h : readString fuel text = some (content, rest)) : Spelled content text rest := by
  induction fuel generalizing content text with
  | zero => cases h
  | succ fuel ih =>
      cases text with
      | nil => cases h
      | cons c text =>
          rw [readString] at h
          split at h
          next hquote =>
            cases h
            rw [hquote]
            exact .close _
          next hquote =>
            split at h
            next hslash =>
              obtain ⟨⟨d, after⟩, hd, h⟩ := Option.bind_eq_some_iff.1 h
              obtain ⟨⟨later, last⟩, hlater, h⟩ := Option.bind_eq_some_iff.1 h
              cases h
              rw [hslash]
              exact .escape hd (ih hlater)
            next hslash =>
              split at h
              next => cases h
              next hcontrol =>
                obtain ⟨⟨later, last⟩, hlater, h⟩ := Option.bind_eq_some_iff.1 h
                cases h
                exact .plain ⟨hquote, hslash, Nat.le_of_not_lt hcontrol⟩ (ih hlater)

theorem Spelled.length_lt {content text rest : List Char} (h : Spelled content text rest) :
    rest.length < text.length := by
  induction h with
  | close rest => exact Nat.lt_succ_self _
  | plain hc h ih => exact Nat.lt_succ_of_lt ih
  | escape hc h ih =>
      obtain ⟨front, rfl, -⟩ := takes_escaped? hc
      simp only [List.length_cons, List.length_append]
      omega

theorem Spelled.readString {content text rest : List Char} (h : Spelled content text rest)
    {fuel : Nat} (hfuel : text.length ≤ fuel) : readString fuel text = some (content, rest) := by
  have hshorter := h.length_lt
  obtain ⟨fuel, rfl⟩ := Nat.exists_eq_add_one_of_ne_zero (by omega : fuel ≠ 0)
  clear hshorter
  induction h generalizing fuel with
  | close rest => rfl
  | @plain c content text rest hc h ih =>
      have hlater := h.length_lt
      rw [List.length_cons] at hfuel
      obtain ⟨left, rfl⟩ := Nat.exists_eq_add_one_of_ne_zero (by omega : fuel ≠ 0)
      rw [Json.readString, if_neg hc.1, if_neg hc.2.1, if_neg (Nat.not_lt.2 hc.2.2),
        ih left (by omega)]
      rfl
  | @escape c content text after rest hc h ih =>
      have hlater := h.length_lt
      obtain ⟨front, hfront, -⟩ := takes_escaped? hc
      have hshorter := congrArg List.length hfront
      rw [List.length_append] at hshorter
      rw [List.length_cons] at hfuel
      obtain ⟨left, rfl⟩ := Nat.exists_eq_add_one_of_ne_zero (by omega : fuel ≠ 0)
      rw [Json.readString, if_neg (by decide), if_pos rfl, hc]
      simp only [Option.bind_eq_bind, Option.bind_some, ih left (by omega)]

/-! ### Numbers -/

open NumberParts (numberParts?_eq takeFraction? takeExponent?)

theorem takes_digits? : Takes SameHead 1 digits? := by
  intro text digits rest h
  rw [digits?] at h
  obtain ⟨hsome, h⟩ := Option.ite_none_left_eq_some.1 h
  cases h
  have hdigits : ∀ c ∈ text.takeWhile Char.isDigit, c.isDigit :=
    List.all_eq_true.1 List.all_takeWhile
  have hrest := List.head?_dropWhile_not Char.isDigit text
  refine ⟨_, List.takeWhile_append_dropWhile.symm, List.length_pos_iff.2 hsome,
    fun hbrace => absurd (hdigits _ hbrace) (by decide), fun other hother => ?_⟩
  refine digits?_append ⟨hsome, hdigits⟩ fun c hc => ?_
  rw [hother] at hc
  rw [hc] at hrest
  exact hrest

theorem takes_takeFraction? : Takes SameHead 0 takeFraction? := by
  intro text fraction rest h
  unfold takeFraction? at h
  split at h
  next tail =>
    obtain ⟨⟨digits, last⟩, hdigits, h⟩ := Option.map_eq_some_iff.1 h
    cases h
    obtain ⟨front, rfl, -, hfront, hsame⟩ := takes_digits? hdigits
    refine ⟨'.' :: front, rfl, Nat.zero_le _, by simp [hfront], fun other hother => ?_⟩
    rw [List.cons_append, takeFraction?, hsame other hother]
    rfl
  next hpoint =>
    cases h
    refine ⟨[], rfl, Nat.le_refl 0, List.not_mem_nil, fun other hother => ?_⟩
    rw [List.nil_append, takeFraction?]
    rintro tail rfl
    cases text with
    | nil => cases hother
    | cons c tail =>
        cases hother
        exact hpoint tail rfl

theorem exists_sign {text digits : List Char} {negative : Bool}
    (h : Number.takeSign text = (negative, digits)) : ∃ sign, text = sign ++ digits ∧ '{' ∉ sign ∧
      ∀ other, SameHead digits other → Number.takeSign (sign ++ other) = (negative, other) := by
  unfold Number.takeSign at h
  split at h
  next =>
    cases h
    exact ⟨['-'], rfl, by decide, fun _ _ => rfl⟩
  next =>
    cases h
    exact ⟨['+'], rfl, by decide, fun _ _ => rfl⟩
  next hminus hplus =>
    cases h
    refine ⟨[], rfl, List.not_mem_nil, fun other hother => ?_⟩
    rw [List.nil_append, Number.takeSign]
    · rintro tail rfl
      obtain ⟨tail, htail⟩ := List.head?_eq_some_iff.1 hother.symm
      exact hminus tail htail
    · rintro tail rfl
      obtain ⟨tail, htail⟩ := List.head?_eq_some_iff.1 hother.symm
      exact hplus tail htail

theorem takes_takeExponent? : Takes SameHead 0 takeExponent? := by
  intro text exponent rest h
  unfold takeExponent? at h
  split at h
  next c after =>
    split at h
    next hletter =>
      rcases hsign : Number.takeSign after with ⟨negative, start⟩
      rw [hsign] at h
      obtain ⟨⟨digits, last⟩, hdigits, h⟩ := Option.map_eq_some_iff.1 h
      cases h
      obtain ⟨sign, rfl, hbrace, hsame⟩ := exists_sign hsign
      obtain ⟨front, rfl, -, hbrace', hsame'⟩ := takes_digits? hdigits
      refine ⟨c :: (sign ++ front), by simp, Nat.zero_le _, ?_, fun other hother => ?_⟩
      · rcases hletter with rfl | rfl <;> simp [hbrace, hbrace']
      · rw [List.cons_append, List.append_assoc, takeExponent?, if_pos hletter]
        simp only [hsame _ (hother.append front), hsame' other hother, Option.map_some]
    next hletter =>
      cases h
      refine ⟨[], rfl, Nat.le_refl 0, List.not_mem_nil, fun other hother => ?_⟩
      obtain ⟨tail, rfl⟩ := List.head?_eq_some_iff.1 hother
      exact if_neg hletter
  next =>
    cases h
    refine ⟨[], rfl, Nat.le_refl 0, List.not_mem_nil, fun other hother => ?_⟩
    rw [List.head?_eq_none_iff.1 hother]
    rfl

theorem takes_numberParts? : Takes SameHead 1 numberParts? := by
  have hparts := funext numberParts?_eq
  rw [hparts]
  exact takes_digits?.bind fun whole => .guarded (takes_takeFraction?.bind fun fraction =>
    takes_takeExponent?.bind fun exponent => .pure _)

theorem exists_head_of_readNumber? {text rest : List Char} {n : JsonNumber}
    (h : readNumber? text = some (n, rest)) :
    ∃ c tail, text = c :: tail ∧ (c = '-' ∨ c.isDigit) := by
  unfold readNumber? at h
  split at h
  next negative start hsign =>
    split at hsign
    next => exact ⟨_, _, rfl, .inl rfl⟩
    next =>
      cases hsign
      obtain ⟨⟨parts, last⟩, hparts, -⟩ := Option.bind_eq_some_iff.1 h
      obtain ⟨⟨digits, after⟩, hdigits, -⟩ := Option.bind_eq_some_iff.1 hparts
      obtain ⟨hsome, -⟩ := Option.ite_none_left_eq_some.1 hdigits
      cases text with
      | nil => exact absurd rfl hsome
      | cons c tail =>
          refine ⟨c, tail, rfl, .inr ?_⟩
          by_contra hc
          exact hsome (List.takeWhile_cons_of_neg hc)

theorem takes_readNumber? : Takes SameHead 1 readNumber? := by
  intro text n rest h
  unfold readNumber? at h
  split at h
  next negative start hsign =>
    obtain ⟨⟨parts, last⟩, hparts, h⟩ := Option.bind_eq_some_iff.1 h
    obtain ⟨value, hvalue, h⟩ := Option.bind_eq_some_iff.1 h
    cases h
    obtain ⟨front, rfl, hsome, hbrace, hsame⟩ := takes_numberParts? hparts
    split at hsign
    next =>
      cases hsign
      refine ⟨'-' :: front, rfl, by simp, by simp [hbrace], fun other hother => ?_⟩
      rw [List.cons_append, readNumber?]
      simp only [hsame other hother, hvalue, Option.bind_eq_bind, Option.bind_some]
    next hminus =>
      cases hsign
      refine ⟨front, rfl, hsome, hbrace, fun other hother => ?_⟩
      rw [readNumber?]
      · simp only [hsame other hother, hvalue, Option.bind_eq_bind, Option.bind_some]
      · rintro tail htail
        cases front with
        | nil => exact absurd hsome (by decide)
        | cons c front =>
            cases htail
            exact hminus _ rfl

/-! ### Documents -/

/-- What is read: one value, the items of an array up to its end, or the fields of an object up to
its end. -/
inductive Form where
  | value
  | items
  | fields

abbrev Form.Content : Form → Type
  | value => Json
  | items => List Json
  | fields => List (String × Json)

/-- The text goes on with the key of a field and its colon. -/
inductive Named (key : List Char) (text rest : List Char) : Prop where
  | intro {name after : List Char} (hquote : skipBlanks text = '"' :: name)
      (hkey : Spelled key name after) (hcolon : skipBlanks after = ':' :: rest)

/-- The text goes on with this content, in arrays and objects that nest no deeper than `depth`, and
then with `rest`. -/
inductive Written : Nat → (form : Form) → form.Content → List Char → List Char → Prop where
  | null {depth : Nat} {text rest : List Char}
      (h : skipBlanks text = 'n' :: 'u' :: 'l' :: 'l' :: rest) :
      Written depth .value null text rest
  | true {depth : Nat} {text rest : List Char}
      (h : skipBlanks text = 't' :: 'r' :: 'u' :: 'e' :: rest) :
      Written depth .value (bool Bool.true) text rest
  | false {depth : Nat} {text rest : List Char}
      (h : skipBlanks text = 'f' :: 'a' :: 'l' :: 's' :: 'e' :: rest) :
      Written depth .value (bool Bool.false) text rest
  | number {depth : Nat} {n : JsonNumber} {text rest : List Char}
      (h : readNumber? (skipBlanks text) = some (n, rest)) :
      Written depth .value (number n) text rest
  | string {depth : Nat} {content text start rest : List Char}
      (hquote : skipBlanks text = '"' :: start) (h : Spelled content start rest) :
      Written depth .value (string (String.ofList content)) text rest
  | emptyArray {depth : Nat} {text start rest : List Char} (hopen : skipBlanks text = '[' :: start)
      (hclose : skipBlanks start = ']' :: rest) :
      Written (depth + 1) .value (array []) text rest
  | array {depth : Nat} {items : List Json} {text start rest : List Char}
      (hopen : skipBlanks text = '[' :: start) (h : Written depth .items items start rest) :
      Written (depth + 1) .value (array items) text rest
  | emptyObject {depth : Nat} {text start rest : List Char}
      (hopen : skipBlanks text = '{' :: start) (hclose : skipBlanks start = '}' :: rest) :
      Written (depth + 1) .value (object ∅) text rest
  | object {depth : Nat} {fields : List (String × Json)} {text start rest : List Char}
      (hopen : skipBlanks text = '{' :: start) (h : Written depth .fields fields start rest) :
      Written (depth + 1) .value (object ⟨fields⟩) text rest
  | lastItem {depth : Nat} {item : Json} {text after rest : List Char}
      (hitem : Written depth .value item text after) (hclose : skipBlanks after = ']' :: rest) :
      Written depth .items [item] text rest
  | item {depth : Nat} {item : Json} {items : List Json} {text after later rest : List Char}
      (hitem : Written depth .value item text after) (hcomma : skipBlanks after = ',' :: later)
      (hitems : Written depth .items items later rest) :
      Written depth .items (item :: items) text rest
  | lastField {depth : Nat} {key : List Char} {value : Json} {text start after rest : List Char}
      (hname : Named key text start) (hvalue : Written depth .value value start after)
      (hclose : skipBlanks after = '}' :: rest) :
      Written depth .fields [(String.ofList key, value)] text rest
  | field {depth : Nat} {key : List Char} {value : Json} {fields : List (String × Json)}
      {text start after later rest : List Char} (hname : Named key text start)
      (hvalue : Written depth .value value start after) (hcomma : skipBlanks after = ',' :: later)
      (hfields : Written depth .fields fields later rest) :
      Written depth .fields ((String.ofList key, value) :: fields) text rest

/-- How the reader reads a form. -/
def Form.read : (form : Form) → (fuel depth : Nat) → List Char → Option (form.Content × List Char)
  | value => readValue
  | items => readItems
  | fields => readFields

/-- The fuel that is enough for so many characters. -/
def Form.fuel : Form → Nat → Nat
  | value, length => 2 * length + 1
  | items, length => 2 * length + 2
  | fields, length => 2 * length + 2

@[simp] theorem skipBlanks_skipBlanks (text : List Char) :
    skipBlanks (skipBlanks text) = skipBlanks text := by
  induction text with
  | nil => rfl
  | cons c text ih =>
      cases hc : isBlank c with
      | true =>
          rw [show skipBlanks (c :: text) = skipBlanks text from List.dropWhile_cons_of_pos hc, ih]
      | false => rw [skipBlanks_cons hc, skipBlanks_cons hc]

theorem length_skipBlanks_le (text : List Char) : (skipBlanks text).length ≤ text.length :=
  (List.dropWhile_sublist isBlank).length_le

theorem length_lt_of_skipBlanks {text rest : List Char} {c : Char}
    (h : skipBlanks text = c :: rest) : rest.length < text.length := by
  have hle := length_skipBlanks_le text
  rw [h] at hle
  exact hle

theorem readValue_skipBlanks (fuel depth : Nat) (text : List Char) :
    readValue fuel depth (skipBlanks text) = readValue fuel depth text := by
  cases fuel with
  | zero => rfl
  | succ fuel => rw [readValue, readValue, skipBlanks_skipBlanks]

/-- Blanks at the start of a form are not read. -/
theorem Form.read_skipBlanks (form : Form) (fuel depth : Nat) (text : List Char) :
    form.read fuel depth (skipBlanks text) = form.read fuel depth text := by
  cases form with
  | value => exact readValue_skipBlanks fuel depth text
  | items =>
      cases fuel with
      | zero => rfl
      | succ fuel => simp only [Form.read, readItems, readValue_skipBlanks]
  | fields =>
      cases fuel with
      | zero => rfl
      | succ fuel => simp only [Form.read, readFields, skipBlanks_skipBlanks]

/-- The reader reads nothing but what is written. -/
theorem Form.written_of_read {form : Form} {fuel depth : Nat} {content : form.Content}
    {text rest : List Char} (h : form.read fuel depth text = some (content, rest)) :
    Written depth form content text rest := by
  induction fuel generalizing form depth text rest with
  | zero => cases form <;> cases h
  | succ fuel ih =>
      cases form with
      | value =>
          rw [Form.read, readValue] at h
          split at h
          next heq =>
            cases h
            exact .null heq
          next heq =>
            cases h
            exact .true heq
          next heq =>
            cases h
            exact .false heq
          next heq =>
            obtain ⟨⟨string, after⟩, hstring, h⟩ := Option.map_eq_some_iff.1 h
            cases h
            exact .string heq (spelled_of_readString hstring)
          next heq =>
            split at h
            next => cases h
            next =>
              split at h
              next hclose =>
                cases h
                exact .emptyArray heq hclose
              next =>
                obtain ⟨⟨items, after⟩, hitems, h⟩ := Option.map_eq_some_iff.1 h
                cases h
                rw [← Form.read.eq_2, Form.read_skipBlanks] at hitems
                exact .array heq (ih hitems)
          next heq =>
            split at h
            next => cases h
            next =>
              split at h
              next hclose =>
                cases h
                exact .emptyObject heq hclose
              next =>
                obtain ⟨⟨fields, after⟩, hfields, h⟩ := Option.map_eq_some_iff.1 h
                cases h
                rw [← Form.read.eq_3, Form.read_skipBlanks] at hfields
                exact .object heq (ih hfields)
          next =>
            obtain ⟨⟨n, after⟩, hn, h⟩ := Option.map_eq_some_iff.1 h
            cases h
            exact .number hn
      | items =>
          obtain ⟨⟨item, after⟩, hitem, h⟩ := Option.bind_eq_some_iff.1 h
          dsimp only at h
          split at h
          next hcomma =>
            obtain ⟨⟨items, last⟩, hitems, h⟩ := Option.bind_eq_some_iff.1 h
            cases h
            exact .item (ih hitem) hcomma (ih hitems)
          next hclose =>
            cases h
            exact .lastItem (ih hitem) hclose
          next => cases h
      | fields =>
          rw [Form.read, readFields] at h
          split at h
          next hquote =>
            obtain ⟨⟨key, after⟩, hkey, h⟩ := Option.bind_eq_some_iff.1 h
            dsimp only at h
            split at h
            next hcolon =>
              have hname := Named.intro hquote (spelled_of_readString hkey) hcolon
              obtain ⟨⟨value, stop⟩, hvalue, h⟩ := Option.bind_eq_some_iff.1 h
              dsimp only at h
              split at h
              next hcomma =>
                obtain ⟨⟨fields, last⟩, hfields, h⟩ := Option.bind_eq_some_iff.1 h
                cases h
                exact .field hname (ih hvalue) hcomma (ih hfields)
              next hclose =>
                cases h
                exact .lastField hname (ih hvalue) hclose
              next => cases h
            next => cases h
          next => cases h

theorem Named.length_lt {key text rest : List Char} (h : Named key text rest) :
    rest.length < text.length := by
  obtain ⟨hquote, hkey, hcolon⟩ := h
  have hname := length_lt_of_skipBlanks hquote
  have hafter := hkey.length_lt
  have hrest := length_lt_of_skipBlanks hcolon
  omega

theorem Written.length_lt {depth : Nat} {form : Form} {content : form.Content}
    {text rest : List Char} (h : Written depth form content text rest) :
    rest.length < text.length := by
  induction h with
  | null h | true h | false h =>
      have := length_lt_of_skipBlanks h
      simp only [List.length_cons] at this
      omega
  | @number depth n text rest h =>
      obtain ⟨front, hfront, hsome, -⟩ := takes_readNumber? h
      have hle := length_skipBlanks_le text
      rw [hfront, List.length_append] at hle
      omega
  | string hquote h => exact h.length_lt.trans (length_lt_of_skipBlanks hquote)
  | emptyArray hopen hclose | emptyObject hopen hclose =>
      exact (length_lt_of_skipBlanks hclose).trans (length_lt_of_skipBlanks hopen)
  | array hopen h ih | object hopen h ih => exact ih.trans (length_lt_of_skipBlanks hopen)
  | lastItem hitem hclose ih => exact (length_lt_of_skipBlanks hclose).trans ih
  | item hitem hcomma hitems ih ih' =>
      exact (ih'.trans (length_lt_of_skipBlanks hcomma)).trans ih
  | lastField hname hvalue hclose ih =>
      exact ((length_lt_of_skipBlanks hclose).trans ih).trans hname.length_lt
  | field hname hvalue hcomma hfields ih ih' =>
      exact ((ih'.trans (length_lt_of_skipBlanks hcomma)).trans ih).trans hname.length_lt

/-- The fields of an object begin with the quote of a key. -/
theorem Written.exists_quote {depth : Nat} {fields : List (String × Json)} {text rest : List Char}
    (h : Written depth .fields fields text rest) : ∃ name, skipBlanks text = '"' :: name := by
  cases h with
  | lastField hname | field hname =>
      obtain ⟨hquote, -, -⟩ := hname
      exact ⟨_, hquote⟩

/-- What is written begins with no closing bracket or brace. -/
theorem Written.exists_head {depth : Nat} {form : Form} {content : form.Content}
    {text rest : List Char} (h : Written depth form content text rest) :
    ∃ c tail, skipBlanks text = c :: tail ∧ c ≠ ']' ∧ c ≠ '}' := by
  induction h with
  | null h | true h | false h => exact ⟨_, _, h, by decide, by decide⟩
  | number h =>
      obtain ⟨c, tail, htext, hc⟩ := exists_head_of_readNumber? h
      refine ⟨c, tail, htext, ?_, ?_⟩ <;>
        · rintro rfl
          exact absurd hc (by decide)
  | string hquote h => exact ⟨_, _, hquote, by decide, by decide⟩
  | emptyArray hopen | array hopen | emptyObject hopen | object hopen =>
      exact ⟨_, _, hopen, by decide, by decide⟩
  | lastItem hitem hclose ih | item hitem hcomma hitems ih => exact ih
  | lastField hname | field hname =>
      obtain ⟨hquote, -, -⟩ := hname
      exact ⟨_, _, hquote, by decide, by decide⟩

/-- The reader reads all that is written, given fuel for its characters. -/
theorem Written.read {depth : Nat} {form : Form} {content : form.Content}
    {text rest : List Char} (h : Written depth form content text rest) {fuel : Nat}
    (hfuel : form.fuel text.length ≤ fuel) :
    form.read fuel depth text = some (content, rest) := by
  have hpos : 0 < form.fuel text.length := by
    cases form <;> exact Nat.succ_pos _
  obtain ⟨fuel, rfl⟩ := Nat.exists_eq_add_one_of_ne_zero (by omega : fuel ≠ 0)
  clear hpos
  induction h generalizing fuel with
  | null h | true h | false h =>
      rw [Form.read, readValue, h]
      rfl
  | number h =>
      obtain ⟨c, tail, htext, hc⟩ := exists_head_of_readNumber? h
      rw [htext] at h
      rw [Form.read, readValue, htext]
      -- No other value begins with a sign or a digit.
      split <;> try (next heq => obtain ⟨rfl, -⟩ := List.cons.inj heq; exact absurd hc (by decide))
      rw [h]
      rfl
  | string hquote h =>
      have hstart := length_lt_of_skipBlanks hquote
      rw [Form.fuel] at hfuel
      rw [Form.read, readValue, hquote]
      simp only [h.readString (by omega : _ ≤ fuel), Option.map_some]
  | emptyArray hopen hclose | emptyObject hopen hclose =>
      rw [Form.read, readValue, hopen]
      simp only [hclose]
  | array hopen h ih =>
      have hstart := length_lt_of_skipBlanks hopen
      rw [Form.fuel] at hfuel
      obtain ⟨left, rfl⟩ := Nat.exists_eq_add_one_of_ne_zero (by omega : fuel ≠ 0)
      have hitems := ih left (by rw [Form.fuel]; omega)
      rw [← Form.read_skipBlanks, Form.read] at hitems
      obtain ⟨c, tail, hhead, hc, -⟩ := h.exists_head
      rw [Form.read, readValue, hopen]
      rw [hhead] at hitems
      simp only [hhead]
      split
      next heq => exact absurd (List.cons.inj heq).1 hc
      next => rw [hitems, Option.map_some]
  | object hopen h ih =>
      have hstart := length_lt_of_skipBlanks hopen
      rw [Form.fuel] at hfuel
      obtain ⟨left, rfl⟩ := Nat.exists_eq_add_one_of_ne_zero (by omega : fuel ≠ 0)
      have hfields := ih left (by rw [Form.fuel]; omega)
      rw [← Form.read_skipBlanks, Form.read] at hfields
      obtain ⟨c, tail, hhead, -, hc⟩ := h.exists_head
      rw [Form.read, readValue, hopen]
      rw [hhead] at hfields
      simp only [hhead]
      split
      next heq => exact absurd (List.cons.inj heq).1 hc
      next => rw [hfields, Option.map_some]
  | lastItem hitem hclose ih =>
      rw [Form.fuel] at hfuel
      obtain ⟨left, rfl⟩ := Nat.exists_eq_add_one_of_ne_zero (by omega : fuel ≠ 0)
      have hread := ih left (by rw [Form.fuel]; omega)
      rw [Form.read] at hread
      rw [Form.read, readItems, hread]
      simp only [Option.bind_eq_bind, Option.bind_some, hclose]
  | item hitem hcomma hitems ih ih' =>
      have hafter := hitem.length_lt
      have hlater := length_lt_of_skipBlanks hcomma
      rw [Form.fuel] at hfuel
      obtain ⟨left, rfl⟩ := Nat.exists_eq_add_one_of_ne_zero (by omega : fuel ≠ 0)
      have hread := ih left (by rw [Form.fuel]; omega)
      have hreads := ih' left (by rw [Form.fuel]; omega)
      simp only [Form.read] at hread hreads
      rw [Form.read, readItems, hread]
      simp only [Option.bind_eq_bind, Option.bind_some, hcomma, hreads]
  | lastField hname hvalue hclose ih =>
      have hstart := hname.length_lt
      rw [Form.fuel] at hfuel
      obtain ⟨left, rfl⟩ := Nat.exists_eq_add_one_of_ne_zero (by omega : fuel ≠ 0)
      have hread := ih left (by rw [Form.fuel]; omega)
      obtain ⟨hquote, hkey, hcolon⟩ := hname
      have hspelled := length_lt_of_skipBlanks hquote
      rw [Form.read] at hread
      rw [Form.read, readFields, hquote]
      simp only [hkey.readString (by omega : _ ≤ left + 1), Option.bind_eq_bind, Option.bind_some,
        hcolon, hread, hclose]
  | field hname hvalue hcomma hfields ih ih' =>
      have hstart := hname.length_lt
      have hafter := hvalue.length_lt
      have hlater := length_lt_of_skipBlanks hcomma
      rw [Form.fuel] at hfuel
      obtain ⟨left, rfl⟩ := Nat.exists_eq_add_one_of_ne_zero (by omega : fuel ≠ 0)
      have hread := ih left (by rw [Form.fuel]; omega)
      have hreads := ih' left (by rw [Form.fuel]; omega)
      obtain ⟨hquote, hkey, hcolon⟩ := hname
      have hspelled := length_lt_of_skipBlanks hquote
      simp only [Form.read] at hread hreads
      rw [Form.read, readFields, hquote]
      simp only [hkey.readString (by omega : _ ≤ left + 1), Option.bind_eq_bind, Option.bind_some,
        hcolon, hread, hcomma, hreads]

/-- **The reader reads what is written.** A text is read as a value exactly when the value is
written there and nothing but blanks comes after it. -/
theorem readWritten?_eq_some_iff {text : List Char} {j : Json} :
    readWritten? text = some j ↔
      ∃ rest, Written maxDepth .value j text rest ∧ skipBlanks rest = [] := by
  constructor
  · intro h
    obtain ⟨⟨value, rest⟩, hvalue, h⟩ := Option.bind_eq_some_iff.1 h
    obtain ⟨hrest, h⟩ := Option.ite_none_right_eq_some.1 h
    cases h
    have hread : Form.value.read (2 * text.length + 2) maxDepth text = some (j, rest) := hvalue
    exact ⟨rest, Form.written_of_read hread, hrest⟩
  · rintro ⟨rest, h, hrest⟩
    have hread := h.read (show Form.fuel .value text.length ≤ 2 * text.length + 2 by
      rw [Form.fuel]; omega)
    rw [Form.read] at hread
    rw [readWritten?, hread]
    exact if_pos hrest

end CloudPolicy.Json
