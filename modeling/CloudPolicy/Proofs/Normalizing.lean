import Mathlib.Data.List.DropRight
import CloudPolicy.Action.Retagging

/-! What the rules make of the value of a tag, and when they report that they change nothing. The
image of a value is said without the search and the loops that compute it: what is left between
characters to be dropped, runs of letters, and occurrences that are replaced. A rule reports a value
as normal exactly when the value is its own image; only stripping does so more often. -/

namespace CloudPolicy

namespace Text

/-! ### Searching -/

theorem isSome_dropFront?_iff {front text : List Char} :
    (dropFront? front text).isSome = true ↔ front <+: text := by
  rw [Option.isSome_iff_exists]
  exact exists_congr fun rest => dropFront?_eq_some_iff.trans eq_comm

theorem occursIn_iff {needle text : List Char} :
    occursIn needle text = true ↔ needle <:+: text := by
  induction text with
  | nil => rw [occursIn, List.isEmpty_iff, List.infix_nil]
  | cons c text ih =>
      rw [occursIn, Bool.or_eq_true, isSome_dropFront?_iff, ih, List.infix_cons_iff]

/-! ### Stripping -/

/-- What is left of a text between the characters at its ends that satisfy `p`. -/
structure Stripped (p : Char → Bool) (text core : List Char) : Prop where
  ends : ∃ front back, text = front ++ core ++ back ∧ (∀ c ∈ front, p c = true) ∧
    ∀ c ∈ back, p c = true
  head : ∀ c ∈ core.head?, p c = false
  last : ∀ c ∈ core.getLast?, p c = false

theorem dropWhile_front {p : Char → Bool} {front rest : List Char}
    (hfront : ∀ c ∈ front, p c = true) (hrest : ∀ c ∈ rest.head?, p c = false) :
    (front ++ rest).dropWhile p = rest := by
  rw [List.dropWhile_append_of_pos hfront]
  cases rest with
  | nil => rfl
  | cons c rest => exact List.dropWhile_cons_of_neg (Bool.eq_false_iff.1 (hrest c rfl))

theorem head?_dropWhile (p : Char → Bool) (text : List Char) :
    ∀ c ∈ (text.dropWhile p).head?, p c = false := by
  intro c hc
  obtain ⟨rest, hrest⟩ := List.head?_eq_some_iff.1 hc
  have hne : text.dropWhile p ≠ [] := hrest ▸ List.cons_ne_nil c rest
  have hhead := List.head_dropWhile_not p hne
  simpa only [hrest, List.head_cons] using hhead

theorem stripped_iff {p : Char → Bool} {text core : List Char} :
    Stripped p text core ↔ core = trimWhile p text := by
  constructor
  · rintro ⟨⟨front, back, rfl, hfront, hback⟩, hhead, hlast⟩
    rw [trimWhile, List.append_assoc]
    cases core with
    | nil =>
        rw [List.nil_append, List.dropWhile_append_of_pos hfront, List.dropWhile_eq_nil_iff.2 hback]
        rfl
    | cons c rest =>
        have hcore : ∀ d ∈ (c :: rest ++ back).head?, p d = false := hhead
        have hback : ∀ d ∈ back.reverse, p d = true := fun d hd => hback d (List.mem_reverse.1 hd)
        have hlast : ∀ d ∈ (c :: rest).reverse.head?, p d = false := by
          rwa [List.head?_reverse]
        rw [dropWhile_front hfront hcore, List.reverse_append, dropWhile_front hback hlast,
          List.reverse_reverse]
  · rintro rfl
    refine ⟨⟨text.takeWhile p, (text.dropWhile p).rtakeWhile p, ?_, fun c => List.mem_takeWhile_imp,
      fun c => List.mem_rtakeWhile_imp⟩, fun c hc => ?_, fun c hc => ?_⟩
    · rw [List.append_assoc]
      refine List.takeWhile_append_dropWhile.symm.trans (congrArg _ ?_)
      exact List.rdropWhile_append_rtakeWhile.symm
    · obtain ⟨later, hlater⟩ := List.rdropWhile_prefix p (text.dropWhile p)
      refine head?_dropWhile p text c ?_
      have hcore : (trimWhile p text).head? = some c := hc
      rw [← hlater, List.head?_append]
      show c ∈ (trimWhile p text).head?.or later.head?
      rw [hcore]
      rfl
    · rw [trimWhile, List.getLast?_reverse] at hc
      exact head?_dropWhile p _ c hc

/-! ### Runs of letters -/

/-- Every run of letters with its first letter in upper case and the others in lower case, and all
other characters as they are. -/
inductive Titled : List Char → List Char → Prop where
  | nil : Titled [] []
  | other {c : Char} {rest image : List Char} (hc : isAlphabetic c = false)
      (h : Titled rest image) : Titled (c :: rest) (c :: image)
  | word {c : Char} {letters rest image : List Char} (hc : isAlphabetic c = true)
      (hletters : ∀ d ∈ letters, isAlphabetic d = true)
      (hrest : ∀ d ∈ rest.head?, isAlphabetic d = false) (h : Titled rest image) :
      Titled (c :: letters ++ rest) (upperChar c ++ letters.flatMap lowerChar ++ image)

theorem toTitle_letters {letters rest : List Char}
    (hletters : ∀ d ∈ letters, isAlphabetic d = true) :
    toTitle true (letters ++ rest) = letters.flatMap lowerChar ++ toTitle true rest := by
  induction letters with
  | nil => rfl
  | cons c letters ih =>
      obtain ⟨hc, hletters⟩ := List.forall_mem_cons.1 hletters
      rw [List.cons_append, toTitle, if_pos hc, if_pos rfl, ih hletters, List.flatMap_cons,
        List.append_assoc]

/-- After a run of letters the next character starts anew. -/
theorem toTitle_true_eq {rest : List Char} (hrest : ∀ d ∈ rest.head?, isAlphabetic d = false) :
    toTitle true rest = toTitle false rest := by
  cases rest with
  | nil => rfl
  | cons c rest =>
      have hc : ¬ isAlphabetic c = true := Bool.eq_false_iff.1 (hrest c rfl)
      rw [toTitle, toTitle, if_neg hc, if_neg hc]

theorem exists_titled : ∀ text, ∃ image, Titled text image
  | [] => ⟨[], .nil⟩
  | c :: text => by
    by_cases hc : isAlphabetic c = true
    · obtain ⟨image, himage⟩ := exists_titled (text.dropWhile isAlphabetic)
      have hletters : ∀ d ∈ text.takeWhile isAlphabetic, isAlphabetic d = true :=
        fun d => List.mem_takeWhile_imp
      have hword := Titled.word hc hletters (head?_dropWhile isAlphabetic text) himage
      rw [List.cons_append, List.takeWhile_append_dropWhile] at hword
      exact ⟨_, hword⟩
    · obtain ⟨image, himage⟩ := exists_titled text
      exact ⟨_, .other (Bool.eq_false_iff.2 hc) himage⟩
termination_by text => text.length
decreasing_by
  · exact Nat.lt_succ_of_le (List.dropWhile_suffix isAlphabetic).length_le
  · exact Nat.lt_succ_self text.length

theorem eq_toTitle_of_titled {text image : List Char} (h : Titled text image) :
    image = toTitle false text := by
  induction h with
  | nil => rfl
  | other hc h ih => rw [toTitle, if_neg (Bool.eq_false_iff.1 hc), ih]
  | @word c letters rest image hc hletters hrest h ih =>
      rw [List.cons_append, toTitle, if_pos hc, toTitle_letters hletters, toTitle_true_eq hrest, ih,
        ← List.append_assoc]
      rfl

theorem titled_iff {text image : List Char} : Titled text image ↔ image = toTitle false text := by
  refine ⟨eq_toTitle_of_titled, fun h => ?_⟩
  obtain ⟨other, hother⟩ := exists_titled text
  rw [h, ← eq_toTitle_of_titled hother]
  exact hother

/-! ### Occurrences -/

/-- The occurrences of `old` replaced by `new`: the first one, then the first one behind it, and so
on, until none is left. -/
inductive Replaced (old new : List Char) : List Char → List Char → Prop where
  | none {text : List Char} (h : ¬ old <:+: text) : Replaced old new text text
  | first {front rest image : List Char}
      (hfirst : ∀ other later, front ++ old ++ rest = other ++ old ++ later →
        front.length ≤ other.length)
      (h : Replaced old new rest image) :
      Replaced old new (front ++ old ++ rest) (front ++ new ++ image)

section

variable {old new : List Char}

theorem substitute_of_absent {text : List Char} (h : ¬ old <:+: text) :
    substitute old new 0 text = text := by
  induction text with
  | nil => rfl
  | cons c text ih =>
      obtain ⟨hfront, hlater⟩ := not_or.1 (mt List.infix_cons_iff.2 h)
      rw [substitute, if_neg (mt isSome_dropFront?_iff.1 hfront), ih hlater]

/-- The rest of an occurrence is skipped. -/
theorem substitute_skip (skipped rest : List Char) :
    substitute old new skipped.length (skipped ++ rest) = substitute old new 0 rest := by
  induction skipped with
  | nil => rfl
  | cons c skipped ih => exact ih

theorem substitute_occurrence (hold : old ≠ []) (rest : List Char) :
    substitute old new 0 (old ++ rest) = new ++ substitute old new 0 rest := by
  obtain ⟨c, later, rfl⟩ := List.exists_cons_of_ne_nil hold
  have hoccurs : (dropFront? (c :: later) (c :: (later ++ rest))).isSome = true :=
    isSome_dropFront?_iff.2 ⟨rest, rfl⟩
  rw [List.cons_append, substitute, if_pos hoccurs]
  exact congrArg (new ++ ·) (substitute_skip later rest)

theorem substitute_first (hold : old ≠ []) {front rest : List Char}
    (hfirst : ∀ other later, front ++ old ++ rest = other ++ old ++ later →
      front.length ≤ other.length) :
    substitute old new 0 (front ++ old ++ rest) = front ++ new ++ substitute old new 0 rest := by
  induction front with
  | nil => exact substitute_occurrence hold rest
  | cons c front ih =>
      have hfront : ¬ old <+: c :: (front ++ old ++ rest) := by
        rintro ⟨later, hlater⟩
        exact Nat.not_succ_le_zero _ (hfirst [] later hlater.symm)
      have hlater : ∀ other later, front ++ old ++ rest = other ++ old ++ later →
          front.length ≤ other.length := fun other later h =>
        Nat.le_of_succ_le_succ (hfirst (c :: other) later (congrArg (c :: ·) h))
      show substitute old new 0 (c :: (front ++ old ++ rest)) = _
      rw [substitute, if_neg (mt isSome_dropFront?_iff.1 hfront), ih hlater]
      rfl

theorem eq_substitute_of_replaced (hold : old ≠ []) {text image : List Char}
    (h : Replaced old new text image) : image = substitute old new 0 text := by
  induction h with
  | none h => exact (substitute_of_absent h).symm
  | first hfirst h ih => rw [substitute_first hold hfirst, ih]

/-- A text in which `old` occurs is cut at its first occurrence. -/
theorem exists_first {text : List Char} (h : old <:+: text) :
    ∃ front rest, text = front ++ old ++ rest ∧
      ∀ other later, text = other ++ old ++ later → front.length ≤ other.length := by
  induction text with
  | nil =>
      cases List.infix_nil.1 h
      exact ⟨[], [], rfl, fun _ _ _ => Nat.zero_le _⟩
  | cons c text ih =>
      by_cases hfront : old <+: c :: text
      · obtain ⟨rest, hrest⟩ := hfront
        exact ⟨[], rest, hrest.symm, fun _ _ _ => Nat.zero_le _⟩
      · obtain ⟨front, rest, rfl, hfirst⟩ := ih ((List.infix_cons_iff.1 h).resolve_left hfront)
        refine ⟨c :: front, rest, rfl, fun other later hother => ?_⟩
        cases other with
        | nil => exact absurd ⟨later, hother.symm⟩ hfront
        | cons d other => exact Nat.succ_le_succ (hfirst other later (List.cons.inj hother).2)

theorem exists_replaced (new : List Char) (hold : old ≠ []) (text : List Char) :
    ∃ image, Replaced old new text image := by
  by_cases h : old <:+: text
  · obtain ⟨front, rest, htext, hfirst⟩ := exists_first h
    have hshorter : rest.length < text.length := by
      have hpositive := List.length_pos_of_ne_nil hold
      rw [htext, List.length_append, List.length_append]
      omega
    obtain ⟨image, himage⟩ := exists_replaced new hold rest
    rw [htext] at hfirst ⊢
    exact ⟨_, .first hfirst himage⟩
  · exact ⟨text, .none h⟩
termination_by text.length

theorem replaced_iff (hold : old ≠ []) {text image : List Char} :
    Replaced old new text image ↔ image = substitute old new 0 text := by
  refine ⟨eq_substitute_of_replaced hold, fun h => ?_⟩
  obtain ⟨other, hother⟩ := exists_replaced new hold text
  rw [h, ← eq_substitute_of_replaced hold hother]
  exact hother

end

end Text

namespace Normalization

/-- What a rule makes of a value. -/
inductive Image (value : String) : Normalization → String → Prop where
  | upper : Image value .upper (String.ofList (Text.toUpper value.toList))
  | lower : Image value .lower (String.ofList (Text.toLower value.toList))
  | title {image : String} (h : Text.Titled value.toList image.toList) : Image value .title image
  | strip {characters image : String}
      (h : Text.Stripped (· ∈ characters.toList) value.toList image.toList) :
      Image value (.strip characters) image
  | replace {old new image : String}
      (h : Text.Replaced old.toList new.toList value.toList image.toList) :
      Image value (.replace old new) image

/-- The image as it is computed. -/
def image (rule : Normalization) (value : String) : String :=
  match rule with
  | upper => String.ofList (Text.toUpper value.toList)
  | lower => String.ofList (Text.toLower value.toList)
  | title => titleCase value
  | strip characters => String.ofList (Text.trimWhile (· ∈ characters.toList) value.toList)
  | replace old new => Text.replaceAll old new value

variable {rule : Normalization} {value : String}

theorem eq_ofList_iff {text : String} {characters : List Char} :
    text.toList = characters ↔ text = String.ofList characters := by
  rw [← String.toList_inj, String.toList_ofList]

theorem image_iff (hold : ∀ old new, rule = .replace old new → old ≠ "") {other : String} :
    rule.Image value other ↔ other = rule.image value := by
  cases rule with
  | upper => exact ⟨fun | .upper => rfl, fun h => h ▸ .upper⟩
  | lower => exact ⟨fun | .lower => rfl, fun h => h ▸ .lower⟩
  | title =>
      have htitled : other = titleCase value ↔ Text.Titled value.toList other.toList :=
        eq_ofList_iff.symm.trans Text.titled_iff.symm
      exact ⟨fun | .title h => htitled.2 h, fun h => .title (htitled.1 h)⟩
  | strip characters =>
      have hstripped : other = image (.strip characters) value ↔
          Text.Stripped (· ∈ characters.toList) value.toList other.toList :=
        eq_ofList_iff.symm.trans Text.stripped_iff.symm
      exact ⟨fun | .strip h => hstripped.2 h, fun h => .strip (hstripped.1 h)⟩
  | replace old new =>
      have hold := hold old new rfl
      have hsome : ¬ old.isEmpty = true := by simpa using hold
      have hreplaced : other = image (.replace old new) value ↔
          Text.Replaced old.toList new.toList value.toList other.toList := by
        rw [image, Text.replaceAll, if_neg hsome]
        refine eq_ofList_iff.symm.trans (Text.replaced_iff ?_).symm
        simpa using hold
      exact ⟨fun | .replace h => hreplaced.2 h, fun h => .replace (hreplaced.1 h)⟩

/-- Where the text to be replaced does not occur nothing is replaced. -/
theorem image_replace_of_not_contains {old new : String}
    (h : ¬ Text.contains value old = true) : image (.replace old new) value = value := by
  rw [image, Text.replaceAll]
  split
  next => rfl
  next =>
    rw [Text.substitute_of_absent (mt Text.occursIn_iff.2 h), String.ofList_toList]

/-- A rule changes a value to its image, if that is another one. Stripping does so only where the
characters stand in the value one after the other. -/
theorem apply_eq_some_iff {changed : String} : rule.apply value = some changed ↔
    ((∀ characters, rule = .strip characters → characters.toList <:+: value.toList) ∧
      changed = rule.image value) ∧ changed ≠ value := by
  rw [apply.eq_def, Option.filter_eq_some_iff, decide_eq_true_iff]
  refine and_congr_left fun hne => ?_
  cases rule with
  | strip characters =>
      dsimp only
      split
      next hcontains =>
        constructor
        · rintro ⟨⟩
          refine ⟨fun _ h => ?_, rfl⟩
          cases h
          exact Text.occursIn_iff.1 hcontains
        · rintro ⟨-, rfl⟩
          rfl
      next hcontains =>
        exact iff_of_false nofun fun h => hcontains (Text.occursIn_iff.2 (h.1 characters rfl))
  | replace old new =>
      dsimp only
      split
      next =>
        constructor
        · rintro ⟨⟩
          exact ⟨nofun, rfl⟩
        · rintro ⟨-, rfl⟩
          rfl
      next hcontains =>
        refine iff_of_false nofun fun h => hne ?_
        rw [h.2, image_replace_of_not_contains hcontains]
  | _ =>
      constructor
      · rintro ⟨⟩
        exact ⟨nofun, rfl⟩
      · rintro ⟨-, rfl⟩
        rfl

/-- **A rule reports a value as normal where the value is its own image.** Of every value there is
one image, and a changed value is always the image. A value that is not its own image is reported as
normal by stripping alone: where the characters do not stand in it one after the other, although
each of them is dropped from the ends. -/
theorem normal_iff_own_image (rule : Normalization) (value : String)
    (hold : ∀ old new, rule = .replace old new → old ≠ "") :
    ∃ image, rule.Image value image ∧ (∀ other, rule.Image value other → other = image) ∧
      (rule.apply value = none ↔ image = value ∨
        ∃ characters, rule = .strip characters ∧ ¬ characters.toList <:+: value.toList) ∧
      ∀ changed, rule.apply value = some changed → changed = image := by
  refine ⟨rule.image value, (image_iff hold).2 rfl, fun other => (image_iff hold).1, ?_,
    fun changed h => (apply_eq_some_iff.1 h).1.2⟩
  rw [Option.eq_none_iff_forall_ne_some]
  constructor
  · intro hnone
    by_contra hboth
    obtain ⟨hchanged, hpasses⟩ := not_or.1 hboth
    refine hnone _ (apply_eq_some_iff.2 ⟨⟨fun characters hrule => ?_, rfl⟩, hchanged⟩)
    exact Classical.byContradiction fun h => hpasses ⟨characters, hrule, h⟩
  · rintro h changed hsome
    obtain ⟨⟨hcontains, rfl⟩, hne⟩ := apply_eq_some_iff.1 hsome
    rcases h with hsame | ⟨characters, hrule, hnot⟩
    · exact hne hsame
    · exact hnot (hcontains characters hrule)

/-- Occurrences are replaced from the left, and what they are replaced by is not searched again. -/
theorem replaced_from_the_left :
    (∀ old new, Normalization.replace "aa" "ba" = .replace old new → old ≠ "") ∧
      (replace "aa" "ba").apply "aaaac" = some "babac" ∧
      ∃ image, (replace "aa" "ba").Image "aaaac" image ∧ image = "babac" := by
  have hold : ∀ old new, Normalization.replace "aa" "ba" = .replace old new → old ≠ "" := by
    rintro old new ⟨⟩
    decide
  have happly : (replace "aa" "ba").apply "aaaac" = some "babac" := by decide +kernel
  obtain ⟨image, himage, -, -, hchanged⟩ := normal_iff_own_image _ "aaaac" hold
  exact ⟨hold, happly, image, himage, (hchanged _ happly).symm⟩

/-- A star and a dash are to be dropped. The value has a star at its front, and no star before a
dash: it is reported as normal. -/
theorem leading_star_not_stripped :
    (strip "*-").Image "*prod" "prod" ∧ "prod" ≠ "*prod" ∧ (strip "*-").apply "*prod" = none := by
  refine ⟨?_, by decide, by decide +kernel⟩
  exact .strip (Text.stripped_iff.2 (by decide +kernel))

end Normalization

end CloudPolicy
