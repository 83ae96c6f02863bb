import CloudPolicy.Proofs.DateText
import CloudPolicy.Proofs.JsonGrammar
import CloudPolicy.Proofs.Normalizing

/-! Placeholders in the texts of JSON documents. Replacing a placeholder in the text of a document
is meant to replace it in the strings of the document. Main statement: it does so when what is put
in needs no escaping and no placeholder is written with escapes, which is to say that as many stand
in the text as in the strings that it is read as. -/

namespace CloudPolicy

namespace Text

/-- The number of places in the text at which `needle` begins. -/
def occurrences (needle : List Char) : List Char → Nat
  | [] => 0
  | c :: text => (if needle <+: c :: text then 1 else 0) + occurrences needle text

variable {c : Char} {old new tail text : List Char}

theorem occurrences_cons_of_absent (h : ¬ old <+: c :: text) :
    occurrences old (c :: text) = occurrences old text := by
  rw [occurrences, if_neg h, Nat.zero_add]

theorem substitute_cons_of_absent (h : ¬ old <+: c :: text) :
    substitute old new 0 (c :: text) = c :: substitute old new 0 text := by
  rw [substitute, if_neg (mt isSome_dropFront?_iff.1 h)]

theorem not_prefix_of_ne {d : Char} (h : d ≠ c) : ¬ c :: tail <+: d :: text :=
  fun hbegins => h (List.cons_prefix_cons.1 hbegins).1.symm

/-- No occurrence begins where its first character does not stand. -/
theorem occurrences_append {front : List Char} (hfront : c ∉ front) (rest : List Char) :
    occurrences (c :: tail) (front ++ rest) = occurrences (c :: tail) rest := by
  induction front with
  | nil => rfl
  | cons d front ih =>
      obtain ⟨hd, hfront⟩ := List.ne_and_not_mem_of_not_mem_cons hfront
      rw [List.cons_append, occurrences_cons_of_absent (not_prefix_of_ne hd.symm), ih hfront]

end Text

namespace Json

open Text (occurrences substitute)

/-! ### The strings of a value -/

/-- The strings in a value and the keys of its objects, in the order in which they are written. -/
def texts : Json → List String
  | string text => [text]
  | array items => ofItems items
  | object ⟨fields⟩ => ofFields fields
  | _ => []
where
  ofItems : List Json → List String
    | [] => []
    | item :: items => texts item ++ ofItems items
  ofFields : List (String × Json) → List String
    | [] => []
    | (key, value) :: fields => key :: (texts value ++ ofFields fields)

/-- Change every string in a value and every key. -/
def mapTexts (f : String → String) : Json → Json
  | string text => string (f text)
  | array items => array (ofItems items)
  | object ⟨fields⟩ => object ⟨ofFields fields⟩
  | other => other
where
  ofItems : List Json → List Json
    | [] => []
    | item :: items => mapTexts f item :: ofItems items
  ofFields : List (String × Json) → List (String × Json)
    | [] => []
    | (key, value) :: fields => (f key, mapTexts f value) :: ofFields fields

def Form.texts : (form : Form) → form.Content → List String
  | value => Json.texts
  | items => Json.texts.ofItems
  | fields => Json.texts.ofFields

def Form.mapTexts (f : String → String) : (form : Form) → form.Content → form.Content
  | value => Json.mapTexts f
  | items => Json.mapTexts.ofItems f
  | fields => Json.mapTexts.ofFields f

/-- How often `needle` begins in the texts. -/
def mentions (needle : List Char) (texts : List String) : Nat :=
  (texts.map fun text => occurrences needle text.toList).sum

/-! ### Reading a text in which a placeholder was replaced -/

/-- What may follow the opening brace of a placeholder: characters that stand for themselves in
strings and open no other brace, and that do not go on with an object. -/
structure IsPlaceholder (tail : List Char) : Prop where
  plain : ∀ c ∈ tail, IsPlain c
  brace : '{' ∉ tail
  head : ∃ c later, tail = c :: later ∧ isBlank c = false ∧ c ≠ '"' ∧ c ≠ '}'

/-- Content is read from a text up to `rest`, and `count` placeholders begin there. At least as many
begin in the content; the text in which they were replaced is read too, if need be because what is
put in is plain, and as the content in which they were replaced if there are no more. -/
def Expands (old new : List Char) {α : Type} (reads : α → List Char → List Char → Prop)
    (size : α → Nat) (expand : α → α) (content : α) (text rest : List Char) : Prop :=
  ∃ count, occurrences old text = count + occurrences old rest ∧ count ≤ size content ∧
    ((0 < count → ∀ c ∈ new, IsPlain c) → ∃ image,
      reads image (substitute old new 0 text) (substitute old new 0 rest) ∧
      (count = size content → image = expand content))

variable {old new tail : List Char}

namespace Expands

variable {α β γ : Type} {reads : α → List Char → List Char → Prop} {size : α → Nat}
  {expand : α → α} {reads' : β → List Char → List Char → Prop} {size' : β → Nat}
  {expand' : β → β} {readsBoth : γ → List Char → List Char → Prop} {sizeBoth : γ → Nat}
  {expandBoth : γ → γ} {text start stop rest : List Char}

/-- A part without placeholders. -/
theorem of_none {content : α} (htext : occurrences old text = occurrences old rest)
    (hreads : reads content (substitute old new 0 text) (substitute old new 0 rest))
    (hexpand : expand content = content) : Expands old new reads size expand content text rest :=
  ⟨0, by omega, Nat.zero_le _, fun _ => ⟨content, hreads, fun _ => hexpand.symm⟩⟩

/-- A part inside another one. -/
theorem within {content : α} (h : Expands old new reads size expand content start stop)
    (wrap : α → β) (htext : occurrences old text = occurrences old start)
    (hrest : occurrences old stop = occurrences old rest)
    (hsize : size' (wrap content) = size content)
    (hexpand : expand' (wrap content) = wrap (expand content))
    (hreads : ∀ image, reads image (substitute old new 0 start) (substitute old new 0 stop) →
      reads' (wrap image) (substitute old new 0 text) (substitute old new 0 rest)) :
    Expands old new reads' size' expand' (wrap content) text rest := by
  obtain ⟨count, hcount, hle, himage⟩ := h
  refine ⟨count, by omega, by omega, fun hnew => ?_⟩
  obtain ⟨image, hread, heq⟩ := himage hnew
  refine ⟨wrap image, hreads image hread, fun hall => ?_⟩
  rw [heq (by omega), hexpand]

/-- A part and the one after it. -/
theorem both {first : α} {second : β}
    (hfirst : Expands old new reads size expand first text start)
    (hsecond : Expands old new reads' size' expand' second stop rest) (pair : α → β → γ)
    (hstart : occurrences old start = occurrences old stop)
    (hsize : sizeBoth (pair first second) = size first + size' second)
    (hexpand : expandBoth (pair first second) = pair (expand first) (expand' second))
    (hreads : ∀ image image',
      reads image (substitute old new 0 text) (substitute old new 0 start) →
      reads' image' (substitute old new 0 stop) (substitute old new 0 rest) →
      readsBoth (pair image image') (substitute old new 0 text) (substitute old new 0 rest)) :
    Expands old new readsBoth sizeBoth expandBoth (pair first second) text rest := by
  obtain ⟨count, hcount, hle, himage⟩ := hfirst
  obtain ⟨count', hcount', hle', himage'⟩ := hsecond
  refine ⟨count + count', by omega, by omega, fun hnew => ?_⟩
  obtain ⟨image, hread, heq⟩ := himage fun h => hnew (by omega)
  obtain ⟨image', hread', heq'⟩ := himage' fun h => hnew (by omega)
  refine ⟨pair image image', hreads image image' hread hread', fun hall => ?_⟩
  rw [heq (by omega), heq' (by omega), hexpand]

end Expands

/-! ### Strings -/

theorem Spelled.append {front content text rest : List Char} (hfront : ∀ c ∈ front, IsPlain c)
    (h : Spelled content text rest) : Spelled (front ++ content) (front ++ text) rest := by
  induction front with
  | nil => exact h
  | cons c front ih =>
      obtain ⟨hc, hfront⟩ := List.forall_mem_cons.1 hfront
      exact .plain hc (ih hfront)

theorem Spelled.of_append {front content text rest : List Char} (hfront : ∀ c ∈ front, IsPlain c)
    (h : Spelled content (front ++ text) rest) :
    ∃ later, content = front ++ later ∧ Spelled later text rest := by
  induction front generalizing content with
  | nil => exact ⟨content, rfl, h⟩
  | cons c front ih =>
      obtain ⟨hc, hfront⟩ := List.forall_mem_cons.1 hfront
      cases h with
      | close => exact absurd rfl hc.1
      | plain _ h =>
          obtain ⟨later, rfl, hlater⟩ := ih hfront h
          exact ⟨later, rfl, hlater⟩
      | escape => exact absurd rfl hc.2.1

/-- A string goes on after a character that stands for itself or was escaped. -/
theorem Expands.cons {c : Char} {content text after rest : List Char}
    (h : Expands old new Spelled (occurrences old) (substitute old new 0) content after rest)
    (htext : occurrences old text = occurrences old after)
    (hreads : ∀ image, Spelled image (substitute old new 0 after) (substitute old new 0 rest) →
      Spelled (c :: image) (substitute old new 0 text) (substitute old new 0 rest)) :
    Expands old new Spelled (occurrences old) (substitute old new 0) (c :: content) text rest := by
  obtain ⟨count, hcount, hle, himage⟩ := h
  have hmore : occurrences old content ≤ occurrences old (c :: content) := Nat.le_add_left _ _
  refine ⟨count, by omega, by omega, fun hnew => ?_⟩
  obtain ⟨image, hread, heq⟩ := himage hnew
  refine ⟨c :: image, hreads image hread, fun hall => ?_⟩
  have hnone : ¬ old <+: c :: content := by
    intro hbegins
    rw [occurrences, if_pos hbegins] at hall
    omega
  rw [heq (by omega), Text.substitute_cons_of_absent hnone]

/-- A string goes on after a placeholder. -/
theorem Expands.occurrence (hold : IsPlaceholder tail) {content after rest : List Char}
    (h : Expands ('{' :: tail) new Spelled (occurrences ('{' :: tail))
      (substitute ('{' :: tail) new 0) (tail ++ content) (tail ++ after) rest) :
    Expands ('{' :: tail) new Spelled (occurrences ('{' :: tail)) (substitute ('{' :: tail) new 0)
      ('{' :: (tail ++ content)) ('{' :: (tail ++ after)) rest := by
  have hoccurs (later : List Char) : occurrences ('{' :: tail) ('{' :: (tail ++ later)) =
      1 + occurrences ('{' :: tail) (tail ++ later) := by
    have hbegins : '{' :: tail <+: '{' :: (tail ++ later) := ⟨later, rfl⟩
    rw [occurrences, if_pos hbegins]
  have hreplaced (later : List Char) : substitute ('{' :: tail) new 0 ('{' :: (tail ++ later)) =
      new ++ substitute ('{' :: tail) new 0 later :=
    Text.substitute_occurrence (List.cons_ne_nil '{' tail) later
  obtain ⟨count, hcount, hle, himage⟩ := h
  refine ⟨1 + count, by rw [hoccurs]; omega, by rw [hoccurs]; omega, fun hnew => ?_⟩
  have hplain := hnew (by omega)
  obtain ⟨image, hread, heq⟩ := himage fun _ => hplain
  rw [Text.substitute_append hold.brace] at hread heq
  obtain ⟨later, rfl, hlater⟩ := hread.of_append hold.plain
  rw [hreplaced, hreplaced]
  refine ⟨new ++ later, hlater.append hplain, fun hall => ?_⟩
  rw [hoccurs] at hall
  rw [List.append_cancel_left (heq (by omega))]

theorem Spelled.expands (hold : IsPlaceholder tail) {content text rest : List Char}
    (h : Spelled content text rest) :
    Expands ('{' :: tail) new Spelled (occurrences ('{' :: tail)) (substitute ('{' :: tail) new 0)
      content text rest := by
  induction h with
  | close rest =>
      have hquote : ¬ '{' :: tail <+: '"' :: rest := Text.not_prefix_of_ne (by decide)
      refine .of_none (Text.occurrences_cons_of_absent hquote) ?_ rfl
      rw [Text.substitute_cons_of_absent hquote]
      exact .close _
  | @escape c content text after rest hc h ih =>
      obtain ⟨front, rfl, -, hfront, hsame⟩ := takes_escaped? hc
      have hslash : '{' ∉ '\\' :: front := by simp [hfront]
      refine ih.cons (Text.occurrences_append hslash after) fun image himage => ?_
      rw [← List.cons_append, Text.substitute_append hslash]
      exact .escape (hsame _ trivial) himage
  | @plain c content text rest hc h ih =>
      by_cases hbegins : '{' :: tail <+: c :: text
      · obtain ⟨after, hafter⟩ := hbegins
        obtain ⟨rfl, rfl⟩ := List.cons.inj hafter
        obtain ⟨content, rfl, -⟩ := h.of_append hold.plain
        exact ih.occurrence hold
      · refine ih.cons (Text.occurrences_cons_of_absent hbegins) fun image himage => ?_
        rw [Text.substitute_cons_of_absent hbegins]
        exact .plain hc himage

/-! ### Documents -/

@[simp] theorem mentions_append (needle : List Char) (texts later : List String) :
    mentions needle (texts ++ later) = mentions needle texts + mentions needle later := by
  rw [mentions, List.map_append, List.sum_append]
  rfl

theorem mentions_cons (needle : List Char) (text : String) (texts : List String) :
    mentions needle (text :: texts) = occurrences needle text.toList + mentions needle texts := by
  rw [mentions, List.map_cons, List.sum_cons]
  rfl

/-- The text with every placeholder replaced. -/
def replaced (old new : List Char) (text : String) : String :=
  String.ofList (substitute old new 0 text.toList)

theorem replaced_ofList (old new text : List Char) :
    replaced old new (String.ofList text) = String.ofList (substitute old new 0 text) := by
  rw [replaced, String.toList_ofList]

section

variable (tail new : List Char)

/-- Blanks stay before what comes after them, if no placeholder begins there. -/
theorem skipBlanks_substitute {c : Char} {text rest : List Char} (h : skipBlanks text = c :: rest)
    (hc : ¬ '{' :: tail <+: c :: rest) :
    skipBlanks (substitute ('{' :: tail) new 0 text) =
        c :: substitute ('{' :: tail) new 0 rest ∧
      occurrences ('{' :: tail) text = occurrences ('{' :: tail) rest := by
  have hblanks : ∀ d ∈ text.takeWhile isBlank, isBlank d :=
    List.all_eq_true.1 List.all_takeWhile
  have hbrace : '{' ∉ text.takeWhile isBlank := fun hmem => absurd (hblanks _ hmem) (by decide)
  have htext : text = text.takeWhile isBlank ++ c :: rest := by
    rw [← h]
    exact List.takeWhile_append_dropWhile.symm
  have hhead : isBlank c = false := by
    have hfirst := List.head?_dropWhile_not isBlank text
    rw [show text.dropWhile isBlank = c :: rest from h] at hfirst
    exact hfirst
  rw [htext, Text.substitute_append hbrace, Text.occurrences_append hbrace,
    Text.substitute_cons_of_absent hc, Text.occurrences_cons_of_absent hc]
  refine ⟨?_, rfl⟩
  rw [skipBlanks, List.dropWhile_append_of_pos hblanks]
  exact skipBlanks_cons hhead _

/-- Blanks stay before a word without braces. -/
theorem skipBlanks_substitute_word {word text rest : List Char}
    (h : skipBlanks text = word ++ rest) (hword : '{' ∉ word) (hsome : word ≠ []) :
    skipBlanks (substitute ('{' :: tail) new 0 text) =
        word ++ substitute ('{' :: tail) new 0 rest ∧
      occurrences ('{' :: tail) text = occurrences ('{' :: tail) rest := by
  obtain ⟨c, word, rfl⟩ := List.exists_cons_of_ne_nil hsome
  obtain ⟨hc, hword⟩ := List.ne_and_not_mem_of_not_mem_cons hword
  rw [List.cons_append] at h
  obtain ⟨hskip, hcount⟩ := skipBlanks_substitute tail new h (Text.not_prefix_of_ne hc.symm)
  rw [hskip, hcount, Text.substitute_append hword, Text.occurrences_append hword]
  exact ⟨rfl, rfl⟩

/-- Blanks stay before a character that is no brace. -/
theorem skipBlanks_substitute_char {c : Char} {text rest : List Char}
    (h : skipBlanks text = c :: rest) (hc : c ≠ '{') :
    skipBlanks (substitute ('{' :: tail) new 0 text) =
        c :: substitute ('{' :: tail) new 0 rest ∧
      occurrences ('{' :: tail) text = occurrences ('{' :: tail) rest :=
  skipBlanks_substitute tail new h (Text.not_prefix_of_ne hc)

end

/-- No placeholder begins before blanks and a character that is no brace. -/
theorem not_prefix_of_skipBlanks {c : Char} {text rest : List Char}
    (h : skipBlanks text = c :: rest) (hc : c ≠ '{') : ¬ '{' :: tail <+: text := by
  rintro ⟨later, rfl⟩
  rw [List.cons_append, skipBlanks_cons rfl] at h
  exact hc (List.cons.inj h).1.symm

theorem sameHead_substitute {rest : List Char} (h : ¬ old <+: rest) :
    SameHead rest (substitute old new 0 rest) := by
  cases rest with
  | nil => rfl
  | cons c rest =>
      rw [Text.substitute_cons_of_absent h]
      rfl

theorem Named.expands (hold : IsPlaceholder tail) {key text rest : List Char}
    (h : Named key text rest) :
    Expands ('{' :: tail) new Named (occurrences ('{' :: tail)) (substitute ('{' :: tail) new 0)
      key text rest := by
  obtain ⟨hquote, hkey, hcolon⟩ := h
  obtain ⟨hstart, hcount⟩ := skipBlanks_substitute_char tail new hquote (by decide)
  obtain ⟨hstop, hcount'⟩ := skipBlanks_substitute_char tail new hcolon (by decide)
  exact (hkey.expands hold).within id hcount hcount' rfl rfl fun image himage =>
    .intro hstart himage hstop

/-- No placeholder begins where an object does. -/
theorem IsPlaceholder.not_prefix_of_head (hold : IsPlaceholder tail) {start : List Char}
    {c : Char} {rest : List Char} (hskip : skipBlanks start = c :: rest)
    (hc : c = '"' ∨ c = '}') : ¬ '{' :: tail <+: '{' :: start := by
  rintro ⟨later, hlater⟩
  obtain ⟨d, name, rfl, hblank, hquote, hclose⟩ := hold.head
  have hstart : start = d :: (name ++ later) := (List.cons.inj hlater).2.symm
  rw [hstart, skipBlanks_cons hblank] at hskip
  obtain rfl := (List.cons.inj hskip).1
  exact hc.elim hquote hclose

/-- The two sides of a document part whose placeholders are replaced. -/
abbrev PartExpands (tail new : List Char) (depth : Nat) (form : Form) :
    form.Content → List Char → List Char → Prop :=
  Expands ('{' :: tail) new (Written depth form)
    (fun content => mentions ('{' :: tail) (form.texts content))
    (form.mapTexts (replaced ('{' :: tail) new))

/-- A value that is written as one word holds no placeholder. -/
theorem PartExpands.of_word {depth : Nat} {content : Json} {text rest : List Char}
    (word : List Char) (hskip : skipBlanks text = word ++ rest) (hword : '{' ∉ word)
    (hsome : word ≠ []) (hexpand : content.mapTexts (replaced ('{' :: tail) new) = content)
    (hwritten : ∀ other, skipBlanks other = word ++ substitute ('{' :: tail) new 0 rest →
      Written depth .value content other (substitute ('{' :: tail) new 0 rest)) :
    PartExpands tail new depth .value content text rest := by
  obtain ⟨hskip, hcount⟩ := skipBlanks_substitute_word tail new hskip hword hsome
  exact .of_none hcount (hwritten _ hskip) hexpand

/-- The text goes on with a field. -/
def FieldWritten (depth : Nat) (field : List Char × Json) (text rest : List Char) : Prop :=
  ∃ start, Named field.1 text start ∧ Written depth .value field.2 start rest

theorem FieldWritten.expands (hold : IsPlaceholder tail) {depth : Nat} {key : List Char}
    {value : Json} {text start rest : List Char} (hname : Named key text start)
    (hvalue : PartExpands tail new depth .value value start rest) :
    Expands ('{' :: tail) new (FieldWritten depth)
      (fun field => occurrences ('{' :: tail) field.1 + mentions ('{' :: tail) field.2.texts)
      (fun field => (substitute ('{' :: tail) new 0 field.1,
        field.2.mapTexts (replaced ('{' :: tail) new))) (key, value) text rest :=
  (hname.expands hold).both hvalue Prod.mk rfl rfl rfl fun _ _ hname hvalue => ⟨_, hname, hvalue⟩

theorem Written.expands (hold : IsPlaceholder tail) {depth : Nat} {form : Form}
    {content : form.Content} {text rest : List Char} (h : Written depth form content text rest)
    (hrest : ¬ '{' :: tail <+: rest) : PartExpands tail new depth form content text rest := by
  induction h with
  | null h => exact .of_word "null".toList h (by decide) (by decide) rfl fun _ => .null
  | true h => exact .of_word "true".toList h (by decide) (by decide) rfl fun _ => .true
  | false h => exact .of_word "false".toList h (by decide) (by decide) rfl fun _ => .false
  | number h =>
      obtain ⟨front, hfront, hsome, hbrace, hsame⟩ := takes_readNumber? h
      refine .of_word front hfront hbrace (List.length_pos_iff.1 hsome) rfl fun other hother => ?_
      refine .number ?_
      rw [hother]
      exact hsame _ (sameHead_substitute hrest)
  | @string depth content text start rest hquote h =>
      obtain ⟨hskip, hcount⟩ := skipBlanks_substitute_char tail new hquote (by decide)
      refine (h.expands hold).within (fun content => Json.string (String.ofList content)) hcount
        rfl ?_ ?_ fun image himage => .string hskip himage
      · simp [Form.texts, Json.texts, mentions]
      · simp [Form.mapTexts, Json.mapTexts, replaced_ofList]
  | emptyArray hopen hclose =>
      obtain ⟨hskip, hcount⟩ := skipBlanks_substitute_char tail new hopen (by decide)
      obtain ⟨hskip', hcount'⟩ := skipBlanks_substitute_char tail new hclose (by decide)
      exact .of_none (hcount.trans hcount') (.emptyArray hskip hskip') rfl
  | array hopen h ih =>
      obtain ⟨hskip, hcount⟩ := skipBlanks_substitute_char tail new hopen (by decide)
      exact (ih hrest).within Json.array hcount rfl rfl rfl fun image himage => .array hskip himage
  | emptyObject hopen hclose =>
      have hstart := hold.not_prefix_of_head hclose (.inr rfl)
      obtain ⟨hskip, hcount⟩ := skipBlanks_substitute tail new hopen hstart
      obtain ⟨hskip', hcount'⟩ := skipBlanks_substitute_char tail new hclose (by decide)
      exact .of_none (hcount.trans hcount') (.emptyObject hskip hskip') rfl
  | object hopen h ih =>
      obtain ⟨name, hname⟩ := h.exists_quote
      have hstart := hold.not_prefix_of_head hname (.inl rfl)
      obtain ⟨hskip, hcount⟩ := skipBlanks_substitute tail new hopen hstart
      exact (ih hrest).within (fun fields => Json.object ⟨fields⟩) hcount rfl rfl rfl
        fun image himage => .object hskip himage
  | lastItem hitem hclose ih =>
      obtain ⟨hskip, hcount⟩ := skipBlanks_substitute_char tail new hclose (by decide)
      refine (ih (not_prefix_of_skipBlanks hclose (by decide))).within (fun item => [item]) rfl
        hcount ?_ rfl fun image himage => .lastItem himage hskip
      simp [Form.texts, texts.ofItems]
  | item hitem hcomma hitems ih ih' =>
      obtain ⟨hskip, hcount⟩ := skipBlanks_substitute_char tail new hcomma (by decide)
      refine (ih (not_prefix_of_skipBlanks hcomma (by decide))).both (ih' hrest) List.cons hcount
        ?_ rfl fun image image' himage himage' => .item himage hskip himage'
      simp [Form.texts, texts.ofItems]
  | lastField hname hvalue hclose ih =>
      obtain ⟨hskip, hcount⟩ := skipBlanks_substitute_char tail new hclose (by decide)
      have hfield := FieldWritten.expands hold hname
        (ih (not_prefix_of_skipBlanks hclose (by decide)))
      refine hfield.within (fun field => [(String.ofList field.1, field.2)]) rfl hcount ?_ ?_ ?_
      · simp [Form.texts, texts.ofFields, mentions_cons]
      · simp [Form.mapTexts, mapTexts.ofFields, replaced_ofList]
      · rintro image ⟨start, hname, hvalue⟩
        exact .lastField hname hvalue hskip
  | field hname hvalue hcomma hfields ih ih' =>
      obtain ⟨hskip, hcount⟩ := skipBlanks_substitute_char tail new hcomma (by decide)
      have hfield := FieldWritten.expands hold hname
        (ih (not_prefix_of_skipBlanks hcomma (by decide)))
      refine hfield.both (ih' hrest)
        (fun field fields => (String.ofList field.1, field.2) :: fields) hcount ?_ ?_ ?_
      · simp [Form.texts, texts.ofFields, mentions_cons, Nat.add_assoc]
      · simp [Form.mapTexts, mapTexts.ofFields, replaced_ofList]
      · rintro image image' ⟨start, hname, hvalue⟩ hfields
        exact .field hname hvalue hskip hfields

/-- **Placeholders in documents.** Let a text be read as a document, and let what a placeholder is
replaced by need no escaping, if the placeholder stands in the text at all. Then the text in which
it was replaced is read as a document; and if as many placeholders stand in the text as in the
strings and keys of the document, it is the document with every placeholder replaced in these. -/
theorem readWritten?_substitute (hold : IsPlaceholder tail) {text : List Char} {j : Json}
    (hread : readWritten? text = some j)
    (hnew : 0 < occurrences ('{' :: tail) text → ∀ c ∈ new, IsPlain c) :
    ∃ image, readWritten? (substitute ('{' :: tail) new 0 text) = some image ∧
      (occurrences ('{' :: tail) text = mentions ('{' :: tail) j.texts →
        image = j.mapTexts (replaced ('{' :: tail) new)) := by
  obtain ⟨rest, hwritten, hblank⟩ := readWritten?_eq_some_iff.1 hread
  have hbrace : '{' ∉ rest := fun hmem =>
    absurd (List.dropWhile_eq_nil_iff.1 hblank '{' hmem) (by decide)
  have hnone : occurrences ('{' :: tail) rest = 0 := by
    rw [← List.append_nil rest, Text.occurrences_append hbrace]
    rfl
  have hsame : substitute ('{' :: tail) new 0 rest = rest := by
    rw [← List.append_nil rest, Text.substitute_append hbrace]
    rfl
  have hrest : ¬ '{' :: tail <+: rest := fun hbegins => hbrace (hbegins.subset List.mem_cons_self)
  have hexpands : PartExpands tail new maxDepth .value j text rest := hwritten.expands hold hrest
  obtain ⟨count, hcount, -, himage⟩ := hexpands
  rw [hnone, Nat.add_zero] at hcount
  rw [← hcount] at himage
  obtain ⟨image, hwritten', heq⟩ := himage hnew
  rw [hsame] at hwritten'
  exact ⟨image, readWritten?_eq_some_iff.2 ⟨rest, hwritten', hblank⟩, heq⟩

end Json

end CloudPolicy
