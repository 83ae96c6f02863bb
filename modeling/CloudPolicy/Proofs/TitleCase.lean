import CloudPolicy.Proofs.Rewrites

/-! Title case. The loop over the characters remembers whether it is in a word; in texts of ASCII
characters this is whether a letter stands right before the next character. Main statement: where
upper and lower case stand in the result, that a second time changes nothing, and that tags which
are in title case are refused as unchanged, those that the action wrote itself among them. -/

namespace CloudPolicy

namespace Text

/-! ### Characters -/

/-- A character as title case writes it: in lower case in a word, and else in upper case. -/
def inTitle (inWord : Bool) (c : Char) : Char := if inWord then c.toLower else c.toUpper

section

variable (inWord : Bool) (c : Char)

theorem isUpper_iff : c.isUpper = true ↔ 65 ≤ c.toNat ∧ c.toNat ≤ 90 := decide_eq_true_iff

theorem isLower_iff : c.isLower = true ↔ 97 ≤ c.toNat ∧ c.toNat ≤ 122 := by
  show (decide (97 ≤ c.toNat) && decide (c.toNat ≤ 122)) = true ↔ _
  rw [Bool.and_eq_true, decide_eq_true_eq, decide_eq_true_eq]

theorem isAlpha_eq : c.isAlpha = (c.isUpper || c.isLower) := rfl

theorem toNat_toLower : c.toLower.toNat = if c.isUpper then c.toNat + 32 else c.toNat := by
  by_cases h : c.isUpper = true
  · have hcode := (isUpper_iff c).1 h
    have hletter : c.val ≥ 'A'.val ∧ c.val ≤ 'Z'.val := hcode
    have hlower : c.toLower = ⟨c.val + ('a'.val - 'A'.val), _⟩ := dif_pos hletter
    have hdistance : ('a'.val - 'A'.val).toNat = 32 := rfl
    rw [if_pos h, hlower, ← Char.toNat_val, UInt32.toNat_add, hdistance, Char.toNat_val]
    omega
  · have hlower : c.toLower = c := dif_neg (mt (isUpper_iff c).2 h)
    rw [if_neg h, hlower]

theorem toNat_toUpper : c.toUpper.toNat = if c.isLower then c.toNat - 32 else c.toNat := by
  by_cases h : c.isLower = true
  · have hcode := (isLower_iff c).1 h
    have hletter : 'a'.val ≤ c.val ∧ c.val ≤ 'z'.val := hcode
    have hupper : c.toUpper = ⟨c.val + ('A'.val - 'a'.val), _⟩ := dif_pos hletter
    have hdistance : ('A'.val - 'a'.val).toNat = 2 ^ 32 - 32 := rfl
    rw [if_pos h, hupper, ← Char.toNat_val, UInt32.toNat_add, hdistance, Char.toNat_val]
    omega
  · have hupper : c.toUpper = c := dif_neg (mt (isLower_iff c).2 h)
    rw [if_neg h, hupper]

/-- A letter in upper case comes 32 places before the letter in lower case. -/
theorem toNat_inTitle : (inTitle inWord c).toNat =
    if inWord ∧ c.isUpper then c.toNat + 32 else if ¬ inWord ∧ c.isLower then c.toNat - 32
    else c.toNat := by
  cases inWord with
  | true => simp [inTitle, toNat_toLower]
  | false => simp [inTitle, toNat_toUpper]

theorem isUpper_inTitle : (inTitle inWord c).isUpper = (c.isAlpha && !inWord) := by
  grind [toNat_inTitle, isUpper_iff, isLower_iff, isAlpha_eq]

theorem isLower_inTitle : (inTitle inWord c).isLower = (c.isAlpha && inWord) := by
  grind [toNat_inTitle, isUpper_iff, isLower_iff, isAlpha_eq]

theorem isAlpha_inTitle : (inTitle inWord c).isAlpha = c.isAlpha := by
  rw [isAlpha_eq, isUpper_inTitle, isLower_inTitle]
  cases inWord <;> simp

theorem toLower_inTitle : (inTitle inWord c).toLower = c.toLower := by
  rw [← Char.toNat_inj, toNat_toLower, toNat_toLower]
  grind [toNat_inTitle, isUpper_iff, isLower_iff]

theorem inTitle_inTitle : inTitle inWord (inTitle inWord c) = inTitle inWord c := by
  rw [← Char.toNat_inj]
  grind [toNat_inTitle, isUpper_iff, isLower_iff]

variable {c}

theorem inTitle_of_not_isAlpha (h : c.isAlpha = false) : inTitle inWord c = c := by
  rw [isAlpha_eq, Bool.or_eq_false_iff] at h
  rw [← Char.toNat_inj, toNat_inTitle, h.1, h.2]
  simp

theorem toNat_inTitle_lt (hc : c.toNat < 128) (inWord : Bool) : (inTitle inWord c).toNat < 128 := by
  grind [toNat_inTitle, isUpper_iff, isLower_iff]

end

/-- All characters are ASCII characters. -/
def IsAscii (text : List Char) : Prop := ∀ c ∈ text, c.toNat < 128

instance (text : List Char) : Decidable (IsAscii text) :=
  List.decidableBAll (fun c : Char => c.toNat < 128) text

/-- What holds of the first 128 characters holds of every ASCII character. -/
@[elab_as_elim]
theorem of_ascii {motive : Char → Prop} {c : Char} (hc : c.toNat < 128)
    (h : ∀ n < 128, motive (Char.ofNat n)) : motive c :=
  Char.ofNat_toNat c ▸ h c.toNat hc

section

variable {c : Char} (hc : c.toNat < 128)

include hc

theorem isAlphabetic_of_ascii : isAlphabetic c = c.isAlpha := of_ascii hc (by decide +kernel)

/-- Of a mapping that has no other entry for ASCII characters only the first range matters. -/
theorem mapCase_of_ascii {sequences : List (Nat × List Nat)} {first : CaseRange}
    {ranges : List CaseRange} (hsequences : ∀ e ∈ sequences, 128 ≤ e.1)
    (hranges : ∀ r ∈ ranges, 128 ≤ r.first) :
    mapCase (first :: ranges) sequences c =
      if first.covers c.toNat then [Char.ofNat (c.toNat + first.offset).toNat] else [c] := by
  have hnone : sequences.find? (·.1 = c.toNat) = none := by
    refine List.find?_eq_none.2 fun e he => ?_
    have hlarge := hsequences e he
    simp only [decide_eq_true_eq]
    omega
  have hrest : ranges.find? (·.covers c.toNat) = none := by
    refine List.find?_eq_none.2 fun r hr => ?_
    have hlarge := hranges r hr
    simp only [CaseRange.covers, decide_eq_true_eq]
    omega
  rw [mapCase, hnone, List.find?_cons]
  cases hcovers : first.covers c.toNat with
  | true => rfl
  | false =>
      dsimp only
      rw [hrest]
      rfl

theorem upperChar_of_ascii : upperChar c = [c.toUpper] := by
  have hranges : upperRanges = ⟨0x61, 0x7a, 1, -32⟩ :: upperRanges.tail := rfl
  rw [upperChar, hranges, mapCase_of_ascii hc (by decide +kernel) (by decide +kernel)]
  exact of_ascii hc (by decide +kernel)

theorem lowerChar_of_ascii : lowerChar c = [c.toLower] := by
  have hranges : lowerRanges = ⟨0x41, 0x5a, 1, 32⟩ :: lowerRanges.tail := rfl
  rw [lowerChar, hranges, mapCase_of_ascii hc (by decide +kernel) (by decide +kernel)]
  exact of_ascii hc (by decide +kernel)

/-- One step of the loop. The next character is in a word if this one is a letter. -/
theorem toTitle_cons (inWord : Bool) (text : List Char) :
    toTitle inWord (c :: text) = inTitle inWord c :: toTitle c.isAlpha text := by
  rw [toTitle, isAlphabetic_of_ascii hc, upperChar_of_ascii hc, lowerChar_of_ascii hc]
  cases h : c.isAlpha with
  | true => cases inWord <;> rfl
  | false => exact congrArg (· :: _) (inTitle_of_not_isAlpha inWord h).symm

end

/-! ### Texts -/

/-- Whether a letter stands right before the place `i`. Before the first place stands one if
`before` says so. -/
def afterLetter (before : Bool) (text : List Char) : Nat → Bool
  | 0 => before
  | i + 1 => text[i]?.any Char.isAlpha

theorem afterLetter_cons (before : Bool) (c : Char) (text : List Char) (i : Nat) :
    afterLetter before (c :: text) (i + 1) = afterLetter c.isAlpha text i := by
  cases i <;> rfl

/-- The image has the letters of the text, those that follow no other letter in upper case and all
others in lower case. -/
structure Capitalized (text image : List Char) : Prop where
  length : image.length = text.length
  letters : image.map Char.toLower = text.map Char.toLower
  upper : ∀ i c d, text[i]? = some c → image[i]? = some d →
    (d.isUpper = true ↔ c.isAlpha = true ∧ afterLetter false text i = false)
  lower : ∀ i c d, text[i]? = some c → image[i]? = some d →
    (d.isLower = true ↔ c.isAlpha = true ∧ afterLetter false text i = true)

section

variable {text : List Char} (hascii : IsAscii text)

include hascii

/-- Each character is written by what stands before it. -/
theorem getElem?_toTitle (inWord : Bool) (i : Nat) :
    (toTitle inWord text)[i]? = text[i]?.map (inTitle (afterLetter inWord text i)) := by
  induction text generalizing inWord i with
  | nil => rfl
  | cons c text ih =>
      obtain ⟨hc, hascii⟩ := List.forall_mem_cons.1 hascii
      rw [toTitle_cons hc]
      cases i with
      | zero => rfl
      | succ i =>
          rw [List.getElem?_cons_succ, List.getElem?_cons_succ, ih hascii, afterLetter_cons]

theorem toTitle_toTitle (inWord : Bool) :
    toTitle inWord (toTitle inWord text) = toTitle inWord text := by
  induction text generalizing inWord with
  | nil => rfl
  | cons c text ih =>
      obtain ⟨hc, hascii⟩ := List.forall_mem_cons.1 hascii
      rw [toTitle_cons hc, toTitle_cons (toNat_inTitle_lt hc inWord), inTitle_inTitle,
        isAlpha_inTitle, ih hascii]

theorem toTitle_capitalized : Capitalized text (toTitle false text) := by
  have himage {i : Nat} {c d : Char} (hc : text[i]? = some c)
      (hd : (toTitle false text)[i]? = some d) :
      c.toNat < 128 ∧ d = inTitle (afterLetter false text i) c := by
    rw [getElem?_toTitle hascii, hc] at hd
    exact ⟨hascii c (List.mem_of_getElem? hc), (Option.some.inj hd).symm⟩
  have hletters : (toTitle false text).map Char.toLower = text.map Char.toLower := by
    refine List.ext_getElem? fun i => ?_
    rw [List.getElem?_map, List.getElem?_map, getElem?_toTitle hascii, Option.map_map]
    refine Option.map_congr fun c _ => ?_
    exact toLower_inTitle _ c
  refine ⟨?_, hletters, fun i c d hc hd => ?_, fun i c d hc hd => ?_⟩
  · simpa only [List.length_map] using congrArg List.length hletters
  · obtain ⟨hc, rfl⟩ := himage hc hd
    rw [isUpper_inTitle, Bool.and_eq_true, Bool.not_eq_true']
  · obtain ⟨hc, rfl⟩ := himage hc hd
    rw [isLower_inTitle, Bool.and_eq_true]

end

end Text

/-! ### Refusals -/

namespace Action

variable {name : String} {plan : Resource → Plan} {context : RunContext} {cloud : Cloud}
  {batch : List Resource}

/-- The action comes to its end without a call: it refuses every resource of the batch for the
reason, if their type has tags. -/
def Refuses (action : Action) (context : RunContext) (cloud : Cloud) (batch : List Resource)
    (reason : String) : Prop :=
  ∃ report, (action.process context batch).run cloud = (.ok report, cloud) ∧
    report.succeeded = [] ∧
    report.failed = (context.taggable batch).map fun r => ⟨r.id, reason⟩

theorem run_followAll_of_refused {tagTypeName reason : String} {resources : List Resource}
    (hrefused : ∀ r ∈ resources, plan r = .error reason) (report : Report) :
    (eachWith (fun _ r => return (← follow tagTypeName plan r, ())) () report resources).run cloud =
      (.ok (report.addAll (fun _ => .refused reason) resources), cloud) := by
  induction resources generalizing report with
  | nil => rfl
  | cons r resources ih =>
      obtain ⟨hr, hresources⟩ := List.forall_mem_cons.1 hrefused
      have hfollow : (follow tagTypeName plan r).run cloud = (.ok (.refused reason), cloud) := by
        rw [follow, hr]
        rfl
      have hstep : (do return (← follow tagTypeName plan r, ()) : CloudM (Step × Unit)).run cloud =
          _ := Steps.run_bind_of_ok hfollow
      rw [eachWith, Steps.run_bind_of_ok hstep]
      exact ih hresources _

theorem ofPlan_refuses {reason : String} (hrefused : ∀ r ∈ batch, plan r = .error reason) :
    (ofPlan name plan).Refuses context cloud batch reason := by
  by_cases htype : context.resourceType.isTaggable = true
  · obtain ⟨tagTypeName, hname⟩ := Option.isSome_iff_exists.1 htype
    rw [Refuses, process_ofPlan hname, RunContext.taggable, if_pos htype]
    refine ⟨_, run_followAll_of_refused hrefused _, ?_, ?_⟩
    · simp [Report.succeeded_addAll]
    · simp [Report.failed_addAll, Step.reason?]
  · rw [Refuses, process_ofPlan_of_untaggable htype, RunContext.taggable, if_neg htype]
    exact ⟨_, rfl, rfl, rfl⟩

/-- Without failing calls the records that are reported as handled have the image of their value. -/
theorem run_normalize_writes {key : String} {only : Option String} {rule : Normalization}
    (hdistinct : ((cloud.resources context.resourceType).map (·.id)).Nodup)
    (hfailures : cloud.failures = []) (hbatch : batch ⊆ cloud.resources context.resourceType) :
    ∃ report reached, ((ofPlan "normalize-tag" (normalizePlan key only rule)).process context
        batch).run cloud = (.ok report, reached) ∧
      ∀ r ∈ cloud.resources context.resourceType, r.id ∈ report.succeeded →
        ∃ value normal, r.tags.get? key = some value ∧ rule.apply value = some normal ∧
          ∃ left ∈ reached.resources context.resourceType, left.id = r.id ∧
            left.tags.get? key = some normal := by
  have hcalls (r : Resource) : (normalizePlan key only rule r).Calls := fun change hplan => by
    obtain ⟨_, _, -, -, -, rfl⟩ := normalizePlan_eq_ok_iff.1 hplan
    rfl
  obtain ⟨report, left, calls, hrun, hrecords⟩ := run_ofPlan_records "normalize-tag" _ hdistinct
    hbatch hcalls fun r _ => TagChange.not_fails_of_no_failures hfailures _ r.id
  refine ⟨report, _, hrun, fun r hr hsucceeded => ?_⟩
  obtain ⟨hhandled, -, hwritten, -⟩ := hrecords r hr
  obtain ⟨-, -, change, hchange⟩ := hhandled.1 hsucceeded
  have hleft := hwritten hsucceeded change hchange
  obtain ⟨value, normal, hvalue, -, hnormal, rfl⟩ := normalizePlan_eq_ok_iff.1 hchange
  refine ⟨value, normal, hvalue, hnormal, left r, ?_, ?_, ?_⟩
  · show left r ∈ (cloud.setResources _ _).resources context.resourceType
    rw [Cloud.resources_setResources_self]
    exact List.mem_map_of_mem hr
  · rw [hleft, Cloud.id_retag]
  · rw [hleft, Cloud.tags_retag, apply_normalize]
    exact TagSet.get?_insert_self ..

end Action

namespace Normalization

/-- Why a tag is refused whose value title case does not change. -/
def unchanged (key value : String) : String :=
  "tag '" ++ key ++ "' value '" ++ value ++ "' is not changed by Title"

theorem eq_title_of_ofBlock {block : Json} {build : BuildContext} {rule : Normalization}
    (hrule : ofBlock block build = .ok rule) (htitle : block.textOption? "action" = some "title") :
    rule = title := by
  rw [ofBlock, htitle] at hrule
  exact (Except.ok.inj hrule).symm

section

variable {s : String} (hascii : Text.IsAscii s.toList)

include hascii

theorem titleCase_titleCase : titleCase (titleCase s) = titleCase s := by
  rw [titleCase, titleCase, String.toList_ofList, Text.toTitle_toTitle hascii]

theorem apply_titleCase : title.apply (titleCase s) = none := by
  rw [apply.eq_def]
  dsimp only
  rw [titleCase_titleCase hascii]
  simp

/-- A value in title case is refused, unless the block names another value. -/
theorem normalizePlan_titleCase {key : String} {only : Option String} {r : Resource}
    (hvalue : r.tags.get? key = some (titleCase s))
    (honly : ∀ text, only = some text → text = titleCase s) :
    Action.normalizePlan key only title r = .error (unchanged key (titleCase s)) := by
  have honly : ¬ (only.any fun text => text ≠ titleCase s) = true := by
    cases only with
    | none => exact Bool.false_ne_true
    | some text => simpa using honly text rfl
  have htext : "' is not changed by " ++ title.shown = "' is not changed by Title" := by decide
  rw [Action.normalizePlan, hvalue]
  dsimp only
  rw [if_neg honly, apply_titleCase hascii]
  dsimp only
  rw [unchanged, String.append_assoc, htext]

end

/-- **Title case.** In a text of ASCII characters title case changes nothing but the case of
letters: upper case stands exactly where a letter follows no other letter, and the letters that do
follow one are in lower case. Done again it changes nothing. The action therefore refuses resources
whose tag has such a value as unchanged, unless its block names another value, and calls no service
for them; and after a run without failures it refuses the very records that it wrote. -/
theorem titles_settle (s : String) (hascii : Text.IsAscii s.toList) :
    Text.Capitalized s.toList (titleCase s).toList ∧ titleCase (titleCase s) = titleCase s ∧
      ∀ block build action key, ActionKind.normalizeTag.build block build = .ok action →
        block.textOption? "action" = some "title" → block.textOption? "key" = some key →
        (∀ context cloud batch, (∀ r ∈ batch, r.tags.get? key = some (titleCase s)) →
          (∀ only, block.textOption? "value" = some only → only = titleCase s) →
          action.Refuses context cloud batch (unchanged key (titleCase s))) ∧
        ∀ context cloud batch, block.textOption? "value" = none →
          ((cloud.resources context.resourceType).map (·.id)).Nodup → cloud.failures = [] →
          batch ⊆ cloud.resources context.resourceType →
          ∃ report reached, (action.process context batch).run cloud = (.ok report, reached) ∧
            ∀ r ∈ cloud.resources context.resourceType, r.tags.get? key = some s →
              r.id ∈ report.succeeded →
              ∃ left ∈ reached.resources context.resourceType, left.id = r.id ∧
                action.Refuses context reached [left] (unchanged key (titleCase s)) := by
  have himage : (titleCase s).toList = Text.toTitle false s.toList := String.toList_ofList
  refine ⟨himage ▸ Text.toTitle_capitalized hascii, titleCase_titleCase hascii, ?_⟩
  intro block build action key hbuild htitle hkey
  obtain ⟨key', rule, hkey', hrule, rfl⟩ := Action.exists_rule_of_buildNormalize hbuild
  cases hkey.symm.trans hkey'
  cases eq_title_of_ofBlock hrule htitle
  have hrefuses (context : RunContext) (cloud : Cloud) (batch : List Resource)
      (hvalue : ∀ r ∈ batch, r.tags.get? key = some (titleCase s))
      (honly : ∀ only, block.textOption? "value" = some only → only = titleCase s) :
      Action.Refuses (.ofPlan "normalize-tag"
          (Action.normalizePlan key (block.textOption? "value") title))
        context cloud batch (unchanged key (titleCase s)) :=
    Action.ofPlan_refuses fun r hr => normalizePlan_titleCase hascii (hvalue r hr) honly
  refine ⟨hrefuses, fun context cloud batch hwhole hdistinct hfailures hbatch => ?_⟩
  obtain ⟨report, reached, hrun, hrecords⟩ :=
    Action.run_normalize_writes hdistinct hfailures hbatch
  refine ⟨report, reached, hrun, fun r hr hvalue hsucceeded => ?_⟩
  obtain ⟨value, normal, hcurrent, hnormal, left, hleft, hid, hwritten⟩ :=
    hrecords r hr hsucceeded
  cases hvalue.symm.trans hcurrent
  rw [apply.eq_def, Option.filter_eq_some_iff] at hnormal
  cases hnormal.1
  refine ⟨left, hleft, hid, hrefuses context reached [left] ?_ ?_⟩
  · exact List.forall_mem_singleton.2 hwritten
  · rw [hwhole]
    exact nofun

/-- A letter behind a digit is in upper case, like one behind a dash or a blank. Written so, the tag
of the function is refused. -/
theorem title_written_and_then_refused :
    let value := "dev-EU west1a"
    let block : Json := .obj [("type", .string "normalize-tag"), ("key", .string "Env"),
      ("action", .string "title")]
    let function : Resource :=
      .ofRecord (.obj [("id", .string "fn-1"), ("tags", .obj [("Env", .string value)])])
    let cloud := ({} : Cloud).setResources .function [function]
    let context : RunContext := { (default : RunContext) with resourceType := .function }
    Text.IsAscii value.toList ∧ Text.Capitalized value.toList "Dev-Eu West1A".toList ∧
      ∃ action, ActionKind.normalizeTag.build block default = .ok action ∧
        ∃ report reached, (action.process context [function]).run cloud = (.ok report, reached) ∧
          report.succeeded = ["fn-1"] ∧
          ∃ left ∈ reached.resources .function, left.id = "fn-1" ∧
            action.Refuses context reached [left]
              "tag 'Env' value 'Dev-Eu West1A' is not changed by Title" := by
  intro value block function cloud context
  have hascii : Text.IsAscii value.toList := by decide +kernel
  have htitled : titleCase value = "Dev-Eu West1A" := by decide +kernel
  obtain ⟨hcapitalized, -, hactions⟩ := titles_settle value hascii
  rw [htitled] at hcapitalized hactions
  let action : Action := .ofPlan "normalize-tag" (Action.normalizePlan "Env" none title)
  have hbuild : ActionKind.normalizeTag.build block default = .ok action := rfl
  refine ⟨hascii, hcapitalized, action, hbuild, ?_⟩
  obtain ⟨-, htwice⟩ := hactions block default action "Env" hbuild rfl rfl
  obtain ⟨report, reached, hrun, hrecords⟩ := htwice context cloud [function] rfl
    (by decide +kernel) rfl (List.Subset.refl _)
  have hreport : ((action.process context [function]).run cloud).1.toOption.map (·.succeeded) =
      some ["fn-1"] := by decide +kernel
  rw [hrun] at hreport
  have hsucceeded : report.succeeded = ["fn-1"] := Option.some.inj hreport
  have hid : function.id = "fn-1" := by decide +kernel
  have hvalue : function.tags.get? "Env" = some value := by decide +kernel
  have hhandled : function.id ∈ report.succeeded := by
    rw [hid, hsucceeded]
    exact List.mem_singleton_self _
  obtain ⟨left, hleft, hsame, hrefuses⟩ := hrecords function List.mem_cons_self hvalue hhandled
  exact ⟨report, reached, hrun, hsucceeded, left, hleft, hsame.trans hid, hrefuses⟩

end Normalization

end CloudPolicy
