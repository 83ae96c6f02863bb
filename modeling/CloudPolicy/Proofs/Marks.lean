import CloudPolicy.Proofs.DateText
import CloudPolicy.Proofs.Judgement
import CloudPolicy.Proofs.TagWrites

/-! Marks are understood by the filter that looks for them. The written date of a mark is read back
as the minute or the day at which its operation comes due, the operation in front of it is cut off
at the first underscore, and from that time on, less the skew, the filter keeps what was marked. -/

namespace CloudPolicy

/-! ### Zones -/

namespace MarkZone

/-- The written form of the zone is read back as the zone, which is whole minutes and less than a
day away from universal time. -/
structure Legible (zone : MarkZone) : Prop where
  label : ofText? zone.label = some zone
  minutes : zone.offset % 60 = 0
  near : zone.offset.natAbs < 86400

theorem utc_legible : utc.Legible := ⟨by decide +kernel, rfl, by decide⟩

theorem offset?_minutes {separator : List Char → Option (List Char)} {text rest : List Char}
    {offset : Int} (h : Timestamp.offset? separator text = some (offset, rest)) :
    offset % 60 = 0 ∧ offset.natAbs < 86400 := by
  unfold Timestamp.offset? at h
  dsimp only at h
  split at h
  -- three signs, and then no sign
  iterate 3
    obtain ⟨⟨negative, _⟩, -, h⟩ := Option.bind_eq_some_iff.1 h
    obtain ⟨⟨hours, _⟩, -, h⟩ := Option.bind_eq_some_iff.1 h
    obtain ⟨_, -, h⟩ := Option.bind_eq_some_iff.1 h
    obtain ⟨⟨minutes, _⟩, -, h⟩ := Option.bind_eq_some_iff.1 h
    obtain ⟨⟨-, hday⟩, h⟩ := Option.ite_none_right_eq_some.1 h
    rw [Timestamp.day] at hday
    cases h
    split <;> omega
  next => cases h

theorem legible_of_ofText? {text : String} {zone : MarkZone} (h : ofText? text = some zone) :
    zone.Legible := by
  have hread := h
  rw [ofText?] at h
  dsimp only at h
  split at h
  next =>
    cases h
    exact utc_legible
  next =>
    obtain ⟨⟨offset, rest⟩, hoffset, rfl⟩ := Option.map_eq_some_iff.1 h
    obtain ⟨hminutes, hnear⟩ := offset?_minutes hoffset
    exact ⟨hread, hminutes, hnear⟩

/-- The zone of a block depends on its field `tz` alone. -/
theorem of_ofBlock {context : BuildContext} {kind : String} {block : Json} {zone : MarkZone}
    (h : ofBlock context kind block = .ok zone) :
    ((block.textOption? "tz").map ofText?).getD (some utc) = some zone := by
  rw [ofBlock] at h
  cases htext : block.textOption? "tz" with
  | none =>
      rw [htext] at h
      cases h
      rfl
  | some text =>
      rw [htext] at h
      dsimp only at h
      cases hzone : ofText? text with
      | none =>
          rw [hzone] at h
          cases h
      | some found =>
          rw [hzone] at h
          cases h
          exact hzone

theorem legible_of_ofBlock {context : BuildContext} {kind : String} {block : Json}
    {zone : MarkZone} (h : ofBlock context kind block = .ok zone) : zone.Legible := by
  have hzone := of_ofBlock h
  cases htext : block.textOption? "tz" with
  | none =>
      rw [htext] at hzone
      cases hzone
      exact utc_legible
  | some text =>
      rw [htext] at hzone
      exact legible_of_ofText? hzone

end MarkZone

/-! ### Dates of marks -/

namespace Mark

/-- The second at which a written date comes due, with the time cut to the minute, and without it to
the day in the zone. -/
def cut (seconds : Int) (withTime : Bool) (zone : MarkZone) : Int :=
  if withTime then seconds - seconds % 60
  else seconds - (seconds + zone.offset) % Timestamp.day

/-- The cut goes back less than a day, and so not out of the range of instants. -/
theorem isInRange_cut {zone : MarkZone} (hzone : zone.Legible) {instant : Timestamp}
    (hleap : instant.isLeap = false) (hrange : instant.isInRange = true)
    (hyear : 0 ≤ (instant.shift zone.offset).date.year) (withTime : Bool) :
    (Timestamp.ofSeconds (cut instant.seconds withTime zone) 0).isInRange = true := by
  have hnear := hzone.near
  have hnewYear : (Date.mk 0 1 1).toDays = -719528 := by decide
  have hfirst : Timestamp.rangeStart ≤ -62167392000 := by decide
  have hlocal := (Date.le_year_ofDays_iff 0 _).1 hyear
  rw [Timestamp.seconds_shift hleap, hnewYear] at hlocal
  obtain ⟨-, hend⟩ := Timestamp.isInRange_iff.1 hrange
  rw [Timestamp.isInRange_iff, Timestamp.seconds_ofSeconds (by decide)]
  simp only [cut, Timestamp.day] at hlocal ⊢
  split <;> omega

/-- The instant of a date and a time that exist, by its second. -/
theorem instant?_eq {date : Date} {hour minute : Nat} {zone : MarkZone} {second : Int}
    (hvalid : hour < 24 ∧ minute < 60)
    (hsecond : date.toDays * 86400 + (hour * 3600 + minute * 60 - zone.offset) = second)
    (hrange : (Timestamp.ofSeconds second 0).isInRange = true) :
    instant? date hour minute zone = some (.ofSeconds second 0) := by
  rw [instant?, if_pos hvalid, Timestamp.ofDateTime]
  simp only [Timestamp.day, hsecond]
  exact if_pos hrange

/-- What is written of an instant is read back as the instant, cut. -/
theorem parseDate?_dateText {zone : MarkZone} (hzone : zone.Legible) {instant : Timestamp}
    (hleap : instant.isLeap = false) (hrange : instant.isInRange = true)
    (hyear : 0 ≤ (instant.shift zone.offset).date.year)
    (hgreatest : (instant.shift zone.offset).date.year ≤ Date.greatestYear)
    (withTime : Bool) :
    parseDate? zone (dateText instant withTime zone).toList =
      some (.ofSeconds (cut instant.seconds withTime zone) 0) := by
  have hcut := isInRange_cut hzone hleap hrange hyear withTime
  have hlocal := Timestamp.seconds_shift hleap zone.offset
  have hdate := date?_ofDays hyear hgreatest
  have hdays := Date.toDays_ofDays ((instant.shift zone.offset).seconds / Timestamp.day)
  have hlow : 0 ≤ (instant.seconds + zone.offset) % 86400 := Int.emod_nonneg _ (by decide)
  have hhigh : (instant.seconds + zone.offset) % 86400 < 86400 := Int.emod_lt_of_pos _ (by decide)
  have hsplit := Int.ediv_mul_add_emod (instant.seconds + zone.offset) 86400
  have hminutes := hzone.minutes
  rw [cut] at hcut
  rw [dateText, cut]
  simp only [Timestamp.date, Timestamp.timeOfDay, Date.text, Timestamp.day, hlocal]
    at hyear hgreatest hdate hdays hcut ⊢
  generalize Date.ofDays ((instant.seconds + zone.offset) / 86400) = date at *
  generalize (instant.seconds + zone.offset) % 86400 = time at *
  generalize (instant.seconds + zone.offset) / 86400 = days at *
  cases withTime with
  | false =>
      simp only [Bool.false_eq_true, if_false, String.toList_ofList] at hcut ⊢
      rw [parseDate?, Text.splitFirst_append (not_mem_yearText hyear),
        Text.splitFirst_append (not_mem_twoDigits rfl _),
        Text.splitFirst_of_not_mem (not_mem_twoDigits rfl _)]
      show (date? _ _ _).bind (instant? · 0 0 zone) = _
      rw [hdate]
      exact instant?_eq (by decide) (by omega) hcut
  | true =>
      simp only [if_true, String.toList_ofList, List.append_assoc, List.cons_append] at hcut ⊢
      rw [parseDate?, Text.splitFirst_append (not_mem_yearText hyear),
        Text.splitFirst_append (not_mem_twoDigits rfl _),
        Text.splitFirst_append (not_mem_twoDigits rfl _),
        Text.splitFirst_append (not_mem_twoDigits rfl _),
        Text.splitFirst_append (not_mem_twoDigits rfl _)]
      have hhour : Number.word? 32 (twoDigits (time.toNat / 3600)) = some (time.toNat / 3600) :=
        Number.word?_padLeft (by omega)
      have hminute : Number.word? 32 (twoDigits (time.toNat / 60 % 60)) =
          some (time.toNat / 60 % 60) := Number.word?_padLeft (by omega)
      have hvalid : time.toNat / 3600 < 24 ∧ time.toNat / 60 % 60 < 60 := by omega
      dsimp only [Text.splitFirst]
      rw [hdate, hhour, hminute, String.ofList_toList, hzone.label]
      exact instant?_eq hvalid (by omega) hcut

/-- The names of the actions on taggable resources have neither an underscore nor a brace. -/
theorem not_mem_actionNames {type : ResourceType} (htaggable : type.isTaggable) :
    ∀ op ∈ type.actionNames, '_' ∉ op.toList ∧ '\x7b' ∉ op.toList := by
  cases type with
  | loadBalancer | listener | function | topic => decide +kernel
  | patch | script => cases htaggable

theorem mem_actionNames_of_operation {context : BuildContext} {kind op : String} {block : Json}
    (h : operation context kind block = .ok op) : op ∈ context.resourceType.actionNames := by
  obtain ⟨found, -, h⟩ := Steps.of_bind_eq_ok h
  split at h
  next hknown =>
    cases h
    obtain ⟨action, haction⟩ := Option.isSome_iff_exists.1 hknown
    refine List.mem_map.2 ⟨action, List.mem_of_find?_eq_some haction, ?_⟩
    exact of_decide_eq_true
      (List.find?_some (p := fun action => decide (ActionKind.name action = op)) haction)
  next => cases h

end Mark

namespace MarkOptions

variable {mark : MarkOptions}

theorem of_ofBlock {context : BuildContext} {block : Json} (h : ofBlock block context = .ok mark) :
    mark.op ∈ context.resourceType.actionNames ∧
      MarkZone.ofBlock context "mark-for-op" block = .ok mark.zone ∧
      mark.tag = (block.textOption? "tag").getD Mark.defaultTag ∧
      mark.message = (block.textOption? "msg").getD Mark.defaultMessage := by
  obtain ⟨op, hop, h⟩ := Steps.of_bind_eq_ok h
  obtain ⟨zone, hzone, h⟩ := Steps.of_bind_eq_ok h
  dsimp only at h
  split at h
  next => cases h
  next =>
    cases h
    exact ⟨Mark.mem_actionNames_of_operation hop, hzone, rfl, rfl⟩

/-- The message of a mark without a message of its own. -/
theorem text_default (hmessage : mark.message = Mark.defaultMessage)
    (hop : '\x7b' ∉ mark.op.toList) (due : Timestamp) :
    (mark.text due).toList = mark.op.toList ++ '_' :: (mark.actionDate due).toList := by
  have hfirst : Text.replaceAll "\x7bop\x7d" mark.op mark.message =
      String.ofList (mark.op.toList ++ "_\x7baction_date\x7d".toList) := by
    rw [hmessage]
    rfl
  have hback : (String.ofList (mark.op.toList ++ "_\x7baction_date\x7d".toList)).toList =
      mark.op.toList ++ "_\x7baction_date\x7d".toList := String.toList_ofList
  rw [text, hfirst, Text.replaceAll, if_neg (by decide), hback, String.toList_ofList]
  show Text.substitute ('\x7b' :: "action_date\x7d".toList) _ 0 _ = _
  rw [Text.substitute_append hop]
  show mark.op.toList ++ '_' :: ((mark.actionDate due).toList ++ []) = _
  rw [List.append_nil]

theorem value_eq {now due : Timestamp} (h : mark.due now = .ok due) :
    mark.value now = .ok (mark.text due) := by
  rw [value, h]
  rfl

theorem isInRange_of_due {now due : Timestamp} (h : mark.due now = .ok due) :
    due.isInRange = true := by
  obtain ⟨delay, -, hdue⟩ := Steps.of_bind_eq_ok h
  obtain ⟨hrange, rfl⟩ := Timestamp.checked_eq_ok_iff.1 hdue
  exact hrange

/-- The second at which a mark comes due whose operation is due at an instant: with hours the whole
minute of the instant, and otherwise the midnight before it in the zone of the mark. -/
def dueSecond (mark : MarkOptions) (due : Timestamp) : Int :=
  Mark.cut due.seconds (Binary64.zero.less mark.hours) mark.zone

end MarkOptions

namespace DueOptions

variable {options : DueOptions}

theorem of_ofBlock {context : BuildContext} {block : Json} (h : ofBlock block context = .ok options) :
    MarkZone.ofBlock context "marked-for-op" block = .ok options.zone ∧
      options.tag = (block.textOption? "tag").getD Mark.defaultTag := by
  obtain ⟨op, hop, h⟩ := Steps.of_bind_eq_ok h
  obtain ⟨zone, hzone, h⟩ := Steps.of_bind_eq_ok h
  dsimp only at h
  split at h
  next => cases h
  next =>
    obtain ⟨skew, -, h⟩ := Steps.of_bind_eq_ok h
    cases h
    exact ⟨hzone, rfl⟩

/-! ### Marking and asking -/

/-- A mark is cut at its first underscore, and its date counts for its operation. -/
theorem date?_of_mark {r : Resource} {value op : String} {date : List Char}
    (htag : r.tags.get? options.tag = some value)
    (hvalue : value.toList = op.toList ++ '_' :: date) (hop : '_' ∉ op.toList) :
    options.date? r = if options.op = op then Mark.parseDate? options.zone date else none := by
  rw [date?, htag, Option.bind_eq_bind, Option.bind_some, hvalue, Text.cutAt?_append hop]
  simp only [Option.bind_eq_bind, Option.bind_some, String.ofList_toList, eq_comm]

section

variable {r : Resource} {op : String} {second : Int}
  (hdate : options.date? r = if options.op = op then some (.ofSeconds second 0) else none)

include hdate

theorem addSeconds_of_date? {date : Timestamp} (h : options.date? r = some date) :
    options.op = op ∧ date.addSeconds (-options.skew.seconds) =
      .ofSeconds (second - options.skew.seconds) 0 := by
  rw [hdate] at h
  obtain ⟨hop, h⟩ := Option.ite_none_right_eq_some.1 h
  cases h
  have hwhole : (Timestamp.ofSeconds second 0).isLeap = false := by
    rw [Timestamp.isLeap, Timestamp.nanos_ofSeconds (by decide)]
    rfl
  rw [Timestamp.addSeconds_of_not_leap hwhole, Timestamp.seconds_ofSeconds (by decide),
    Timestamp.nanos_ofSeconds (by decide)]
  exact ⟨hop, rfl⟩

/-- A mark with a readable date is due for its operation from that date on, less the skew. -/
theorem hasCome_iff (now : Timestamp) : options.hasCome now r = true ↔
    options.op = op ∧ second - options.skew.seconds ≤ now.seconds := by
  rw [hasCome, Option.any_eq_true]
  constructor
  · rintro ⟨date, hsome, hcome⟩
    obtain ⟨hop, hahead⟩ := addSeconds_of_date? hdate hsome
    rw [hahead, Timestamp.notAfter_ofSeconds] at hcome
    exact ⟨hop, hcome⟩
  · rintro ⟨hop, hcome⟩
    have hsome := hdate
    rw [if_pos hop] at hsome
    obtain ⟨-, hahead⟩ := addSeconds_of_date? hdate hsome
    exact ⟨_, hsome, by rw [hahead, Timestamp.notAfter_ofSeconds]; exact hcome⟩

/-- A filter for another operation has nothing to compare. -/
theorem reaches_iff : options.Reaches r ↔ (options.op = op →
    Timestamp.rangeStart ≤ second - options.skew.seconds ∧
      second - options.skew.seconds < Timestamp.rangeEnd) := by
  have hrange : (Timestamp.ofSeconds (second - options.skew.seconds) 0).isInRange = true ↔
      Timestamp.rangeStart ≤ second - options.skew.seconds ∧
        second - options.skew.seconds < Timestamp.rangeEnd := by
    rw [Timestamp.isInRange_iff, Timestamp.seconds_ofSeconds (by decide)]
  rw [← hrange]
  constructor
  · intro hreaches hop
    have hsome := hdate
    rw [if_pos hop] at hsome
    exact (addSeconds_of_date? hdate hsome).2 ▸ hreaches _ hsome
  · intro hreaches date hsome
    obtain ⟨hop, hahead⟩ := addSeconds_of_date? hdate hsome
    exact hahead ▸ hreaches hop

end

end DueOptions

namespace Action

/-- The records that a mark is reported for have the mark. -/
theorem get?_of_markForOp {mark : MarkOptions} {context : RunContext} {resources : List Resource}
    {cloud after : Cloud} {report : Report} {due : Timestamp}
    (hdue : mark.due context.now = .ok due)
    (hrun : ((markForOp mark).process context resources).run cloud = (.ok report, after))
    (htaggable : context.resourceType.isTaggable)
    (hdistinct : ((cloud.resources context.resourceType).map (·.id)).Nodup) {r : Resource}
    (hr : r ∈ after.resources context.resourceType) (hid : r.id ∈ report.succeeded) :
    r.tags.get? mark.tag = some (mark.text due) := by
  obtain ⟨tagTypeName, htype⟩ := Option.isSome_iff_exists.1 htaggable
  obtain ⟨value, started, hstarted, hrun⟩ := Steps.of_run_bind_eq_ok hrun
  obtain ⟨hvalue, rfl⟩ := Cloud.of_run_ofExcept hstarted
  obtain rfl : mark.text due = value :=
    Except.ok.inj ((MarkOptions.value_eq hdue).symm.trans hvalue)
  dsimp only at hrun
  split at hrun
  next => cases hrun
  have hwrite : ∀ tags : TagSet, ((TagWrite.create (.ofList [(mark.tag,
      mark.text due)])).apply tags).get? mark.tag = some (mark.text due) :=
    fun tags => (TagWrite.get?_apply_create _ _ tags _).trans (if_pos rfl)
  have hsize : 0 < (TagWrite.create (.ofList [(mark.tag, mark.text due)])).size :=
    Nat.one_pos
  obtain ⟨hwrites, hsucceeded⟩ := of_writeTags_eq_ok (g := fun _ => some (mark.text due))
    htype hsize hwrite (fun _ => rfl) hdistinct hrun
  obtain ⟨hmarked, hkept, -⟩ := hsucceeded r.id hid
  have hcell : r.cell mark.tag ∈ after.column context.resourceType mark.tag :=
    List.mem_map_of_mem hr
  rw [hwrites.column] at hcell
  obtain ⟨c, -, hc⟩ := List.mem_map.1 hcell
  obtain ⟨hcid, hctag⟩ := Prod.mk.inj hc
  rw [hcid, if_pos (decide_eq_true ⟨hmarked, hkept⟩)] at hctag
  exact hctag.symm

end Action

/-- **Marks come due for their operation.** A mark with the default message was written to resources
of a taggable type whose stored identifiers are distinct, for an operation due at an instant that is
no leap second and has a year of four digits or more in the zone. A filter for marks under the same
tag and in the same zone, over a fresh listing and at any time, then keeps those of the resources
that were reported as marked exactly when it asks for the operation of the mark and the date of the
mark, less the skew, has come. It keeps nothing and stops when a date that it has to compare, less
the skew, is out of range, which for the marked resources depends on that date alone. -/
theorem marks_come_due (building reading : BuildContext)
    (htaggable : building.resourceType.isTaggable) (marking asking : Json) (mark : MarkOptions)
    (hmark : MarkOptions.ofBlock marking building = .ok mark) (options : DueOptions)
    (hoptions : DueOptions.ofBlock asking reading = .ok options)
    (hdefault : marking.textOption? "msg" = none)
    (htag : asking.textOption? "tag" = marking.textOption? "tag")
    (hzone : asking.textOption? "tz" = marking.textOption? "tz") (context : RunContext)
    (hcontext : context.resourceType = building.resourceType) (resources : List Resource)
    (cloud after : Cloud)
    (hdistinct : ((cloud.resources building.resourceType).map (·.id)).Nodup) (report : Report)
    (hrun : ((Action.markForOp mark).process context resources).run cloud = (.ok report, after))
    (due : Timestamp) (hdue : mark.due context.now = .ok due) (hleap : due.isLeap = false)
    (hyear : 0 ≤ (due.shift mark.zone.offset).date.year)
    (hgreatest : (due.shift mark.zone.offset).date.year ≤ Date.greatestYear)
    (later : RunContext) :
    let listing := after.resources building.resourceType
    let asked := ((Filter.markedForOp options).process later listing).run after
    let second := mark.dueSecond due - options.skew.seconds
    ((∀ r ∈ listing, options.Reaches r) → ∃ kept, asked = (.ok kept, after) ∧
      ∀ r ∈ listing, r.id ∈ report.succeeded →
        (r ∈ kept ↔ options.op = mark.op ∧ second ≤ later.now.seconds)) ∧
    ((∃ r ∈ listing, ¬ options.Reaches r) → asked = (.error Timestamp.tooFar, after)) ∧
    ∀ r ∈ listing, r.id ∈ report.succeeded → (options.Reaches r ↔
      (options.op = mark.op → Timestamp.rangeStart ≤ second ∧ second < Timestamp.rangeEnd)) := by
  obtain ⟨hop, hmarkZone, hmarkTag, hmessage⟩ := MarkOptions.of_ofBlock hmark
  obtain ⟨haskZone, haskTag⟩ := DueOptions.of_ofBlock hoptions
  obtain ⟨hunderscore, hbrace⟩ := Mark.not_mem_actionNames htaggable mark.op hop
  have hsameTag : options.tag = mark.tag := by rw [haskTag, hmarkTag, htag]
  have hsameZone : options.zone = mark.zone := by
    have hread := MarkZone.of_ofBlock haskZone
    rw [hzone, MarkZone.of_ofBlock hmarkZone] at hread
    exact (Option.some.inj hread).symm
  have htext := MarkOptions.text_default (by rw [hmessage, hdefault]; rfl) hbrace due
  have hparsed : Mark.parseDate? options.zone (mark.actionDate due).toList =
      some (.ofSeconds (mark.dueSecond due) 0) := by
    rw [hsameZone]
    exact Mark.parseDate?_dateText (MarkZone.legible_of_ofBlock hmarkZone) hleap
      (MarkOptions.isInRange_of_due hdue) hyear hgreatest _
  intro listing asked second
  have hdate (r : Resource) (hr : r ∈ listing) (hid : r.id ∈ report.succeeded) :
      options.date? r =
        if options.op = mark.op then some (.ofSeconds (mark.dueSecond due) 0) else none := by
    have hmarked : r.tags.get? options.tag = some (mark.text due) := by
      rw [hsameTag]
      rw [← hcontext] at htaggable hdistinct
      exact Action.get?_of_markForOp hdue hrun htaggable hdistinct (hcontext ▸ hr) hid
    rw [DueOptions.date?_of_mark hmarked htext hunderscore, hparsed]
  have hjudges : (Filter.markedForOp options).JudgesUnless later after [] [] _ _ :=
    Filter.markedForOp_judges options
  have hasked : asked.2 = after := Filter.snd_run_markedForOp options later listing after
  refine ⟨fun hreach => ?_, fun hfar => ?_, fun r hr hid => DueOptions.reaches_iff (hdate r hr hid)⟩
  · obtain ⟨calls, hcalls⟩ := hjudges.answers later.schedule listing
      (fun r hr => not_not_intro (hreach r hr)) after.calls
    have hkept : asked.1 = .ok _ := congrArg Prod.fst hcalls
    refine ⟨_, Prod.ext hkept hasked, fun r hr hid => ?_⟩
    rw [List.filterMap_eq_filter, List.mem_filter, and_iff_right hr]
    exact DueOptions.hasCome_iff (hdate r hr hid) later.now
  · obtain ⟨calls, hcalls⟩ := hjudges.fails later.schedule listing hfar after.calls
    have hstopped : asked.1 = .error Timestamp.tooFar := congrArg Prod.fst hcalls
    exact Prod.ext hstopped hasked

/-- A function is marked half a minute past noon for an operation two hours later, in a zone west of
universal time, and asked for with a skew of one day: it is kept from that day ahead of the whole
minute on, and a second before it is not. -/
theorem mark_comes_due_west :
    let marking := Json.obj [("type", .string "mark-for-op"), ("op", .string "delete-function"),
      ("tag", .string "maid"), ("hours", .nat 2), ("tz", .string "-05:00")]
    let asking := Json.obj [("type", .string "marked-for-op"), ("op", .string "delete-function"),
      ("tag", .string "maid"), ("skew", .nat 1), ("tz", .string "-05:00")]
    let mark : MarkOptions :=
      ⟨"maid", Mark.defaultMessage, "delete-function", .zero, .ofNat 2, ⟨"-05:00", -18000⟩⟩
    let options : DueOptions :=
      ⟨"maid", "delete-function", ⟨86400, by decide⟩, ⟨"-05:00", -18000⟩⟩
    let building : BuildContext := ⟨"retire", .function, .pull, {}⟩
    let contextAt (seconds : Int) : RunContext :=
      { policy := "retire", resourceType := .function, settings := {}, event := none,
        now := .ofSeconds seconds 0 }
    let function := Resource.ofRecord (.obj [("id", .string "fn-1")])
    let run := ((Action.markForOp mark).process (contextAt 1741608030) [function]).run
      (({} : Cloud).setResources .function [function])
    MarkOptions.ofBlock marking building = .ok mark ∧
      DueOptions.ofBlock asking building = .ok options ∧
      ∃ report, run.1 = .ok report ∧ ∃ r ∈ run.2.resources .function, r.id ∈ report.succeeded ∧
        (∃ kept, ((Filter.markedForOp options).process (contextAt 1741528800)
          (run.2.resources .function)).run run.2 = (.ok kept, run.2) ∧ r ∈ kept) ∧
        ∃ kept, ((Filter.markedForOp options).process (contextAt 1741528799)
          (run.2.resources .function)).run run.2 = (.ok kept, run.2) ∧ r ∉ kept := by
  intro marking asking mark options building contextAt function run
  have hmark : MarkOptions.ofBlock marking building = .ok mark :=
    Steps.eq_ok_of_toOption (by decide +kernel)
  have hoptions : DueOptions.ofBlock asking building = .ok options :=
    Steps.eq_ok_of_toOption (by decide +kernel)
  have hreport : run.1.toOption.map (·.succeeded) = some ["fn-1"] := by decide +kernel
  obtain ⟨report, hended, hsucceeded⟩ := Option.map_eq_some_iff.1 hreport
  have hended : run.1 = .ok report := Steps.eq_ok_of_toOption hended
  have hstored : (run.2.resources .function).map (·.id) = ["fn-1"] := by decide +kernel
  have hmarked (r : Resource) (hr : r ∈ run.2.resources .function) : r.id ∈ report.succeeded := by
    rw [hsucceeded, ← hstored]
    exact List.mem_map_of_mem hr
  obtain ⟨r, hr, -⟩ : ∃ r ∈ run.2.resources .function, r.id = "fn-1" :=
    List.mem_map.1 (by rw [hstored]; exact List.mem_cons_self)
  have hdue (seconds : Int) := marks_come_due building building rfl marking asking mark hmark
    options hoptions (by decide +kernel) rfl rfl (contextAt 1741608030) rfl [function]
    (({} : Cloud).setResources .function [function]) run.2 (by decide +kernel) report
    (Steps.eq_ok_of_fst hended) (.ofSeconds 1741615230 0)
    (Steps.eq_ok_of_toOption (by decide +kernel)) (by decide +kernel) (by decide +kernel)
    (by decide +kernel) (contextAt seconds)
  have hsecond : mark.dueSecond (.ofSeconds 1741615230 0) - options.skew.seconds = 1741528800 := by
    decide +kernel
  -- from here on the end of the run is not computed any more
  clear_value run
  simp only [hsecond] at hdue
  have hreach : ∀ r ∈ run.2.resources .function, options.Reaches r := fun r hr =>
    ((hdue 0).2.2 r hr (hmarked r hr)).2 fun _ => by decide
  obtain ⟨kept, hkept, hiff⟩ := (hdue 1741528800).1 hreach
  obtain ⟨before, hbefore, hiff'⟩ := (hdue 1741528799).1 hreach
  refine ⟨hmark, hoptions, report, hended, r, hr, hmarked r hr, ⟨kept, hkept, ?_⟩,
    before, hbefore, ?_⟩
  · exact (hiff r hr (hmarked r hr)).2 ⟨rfl, by decide⟩
  · exact fun hmem => absurd ((hiff' r hr (hmarked r hr)).1 hmem).2 (by decide)

/-- A function is marked for the default four days later. A filter for the mark with a skew of a
hundred million days is built, and keeps nothing, and drops nothing, at any time: it stops. -/
theorem far_skew_settles_nothing :
    let marking := Json.obj [("type", .string "mark-for-op"), ("op", .string "delete-function")]
    let asking := Json.obj [("type", .string "marked-for-op"), ("op", .string "delete-function"),
      ("skew", .nat 100000000)]
    let building : BuildContext := ⟨"retire", .function, .pull, {}⟩
    let contextAt (seconds : Int) : RunContext :=
      { policy := "retire", resourceType := .function, settings := {}, event := none,
        now := .ofSeconds seconds 0 }
    let function := Resource.ofRecord (.obj [("id", .string "fn-1")])
    Validation.validate ActionKind.markForOp.schema marking = .ok () ∧
      Validation.validate FilterKind.markedForOp.schema asking = .ok () ∧
      ∃ action filter, ActionKind.markForOp.build marking building = .ok action ∧
        FilterKind.markedForOp.build asking building = .ok filter ∧
        (let run := (action.process (contextAt 1741608000) [function]).run
          (({} : Cloud).setResources .function [function])
        (∃ report, run.1 = .ok report ∧ report.succeeded = ["fn-1"]) ∧
        ∀ seconds, ((filter.process (contextAt seconds) (run.2.resources .function)).run run.2).1 =
          .error Timestamp.tooFar) := by
  intro marking asking building contextAt function
  let mark : MarkOptions :=
    ⟨Mark.defaultTag, Mark.defaultMessage, "delete-function", .ofNat 4, .zero, .utc⟩
  let options : DueOptions :=
    ⟨Mark.defaultTag, "delete-function", ⟨8640000000000, by decide⟩, .utc⟩
  have hmark : MarkOptions.ofBlock marking building = .ok mark :=
    Steps.eq_ok_of_toOption (by decide +kernel)
  have hoptions : DueOptions.ofBlock asking building = .ok options :=
    Steps.eq_ok_of_toOption (by decide +kernel)
  have hbuild : ActionKind.markForOp.build marking building = .ok (Action.markForOp mark) := by
    rw [ActionKind.build, Action.buildMarkForOp, hmark]
    rfl
  refine ⟨by decide +kernel, by decide +kernel, _, _, hbuild, FilterKind.build_of_due hoptions, ?_⟩
  intro run
  have hreport : run.1.toOption.map (·.succeeded) = some ["fn-1"] := by decide +kernel
  have hdate : some (.ofSeconds 1741910400 0) ∈ (run.2.resources .function).map options.date? := by
    decide +kernel
  -- from here on the end of the run is not computed any more
  clear_value run
  obtain ⟨report, hended, hsucceeded⟩ := Option.map_eq_some_iff.1 hreport
  refine ⟨⟨report, Steps.eq_ok_of_toOption hended, hsucceeded⟩, fun seconds => ?_⟩
  exact FilterKind.marked_stops hdate (by decide) (contextAt seconds) run.2

end CloudPolicy
