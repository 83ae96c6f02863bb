import CloudPolicy.Proofs.InstantText
import CloudPolicy.Proofs.Ledger
import CloudPolicy.Proofs.Maps
import CloudPolicy.Proofs.RecordText
import CloudPolicy.Proofs.Records

/-! Exported ledgers are read back. Every part of a record is read back from what it is written as,
and so are the entries and the snapshot that is made of them. Main statement: the text of the
snapshot of any ledger is read as that snapshot, whose entries still verify. -/

namespace CloudPolicy

open Json (Legible normalize_array normalize_object reread_array reread_object)

/-! ### Reading back -/

theorem FailedResource.ofJson?_toJson (failure : FailedResource) :
    ofJson? failure.toJson = some failure := by
  simp [ofJson?, toJson, fields, StringMap.lookup, Json.string?]

namespace Report

theorem tagsOfJson?_toJson (tags : TagSet) : tagsOfJson? tags.toJson = some tags := by
  rw [tagsOfJson?, TagSet.toJson, Json.mapOf?_map tags.sorted fun _ => rfl, Option.map_some]
  exact congrArg some (TagSet.ofList_toList tags)

/-- Tags that are left out are read as no tags. -/
theorem ofJson?_toJson (report : Report) : ofJson? report.toJson = some report := by
  have hfailed : Json.listOf? FailedResource.ofJson? (.array (report.failed.map (·.toJson))) =
      some report.failed := Json.listOf?_map fun failure _ => failure.ofJson?_toJson
  cases htags : report.tags.isEmpty with
  | true =>
      rcases report with ⟨action, succeeded, failed, tags⟩
      obtain rfl : tags = ∅ := TagSet.eq_empty_of_isEmpty htags
      simp [ofJson?, toJson, htags, StringMap.lookup, Json.string?, Json.listOf?_strings, hfailed,
        Json.defaulted?, StringMap.get?_ofList]
  | false =>
      simp [ofJson?, toJson, htags, StringMap.lookup, Json.string?, Json.listOf?_strings, hfailed,
        Json.defaulted?, StringMap.get?_ofList, tagsOfJson?_toJson]

end Report

theorem RunId.ofJson?_text (run : RunId) : ofJson? (.string run.text) = some run := by
  rw [ofJson?, Json.string?, Option.bind_some, ofText?_text]

theorem ResourceType.ofJson?_name (type : ResourceType) : ofJson? (.string type.name) = some type :=
  ofName?_name type

theorem Timestamp.Dated.ofJson?_text {t : Timestamp} (h : t.Dated) :
    ofJson? (.string t.text) = some t := by
  show lenient? t.text.toList = some t
  rw [Timestamp.text, String.toList_ofList, h.lenient?_chars]

theorem RunRecord.ofJson?_toJson {record : RunRecord} (h : record.timestamp.Dated) :
    ofJson? record.toJson = some record := by
  simp [ofJson?, toJson, StringMap.lookup, Json.string?, RunId.ofJson?_text,
    ResourceType.ofJson?_name, Report.ofJson?_toJson, h.ofJson?_text]

/-- The number of the entry fits 64 bits, and the instant of its record is dated. -/
structure LedgerEntry.Stored (entry : LedgerEntry) : Prop where
  sequence : entry.sequence < 2 ^ 64
  timestamp : entry.record.timestamp.Dated

theorem LedgerEntry.Stored.ofJson?_toJson {entry : LedgerEntry} (h : entry.Stored) :
    ofJson? entry.toJson = some entry := by
  simp [ofJson?, toJson, StringMap.lookup, Json.string?, Json.nat?_nat h.sequence,
    RunRecord.ofJson?_toJson h.timestamp]

variable {snapshot : Snapshot}

theorem Snapshot.ofJson?_toJson (hentries : ∀ entry ∈ snapshot.entries, entry.Stored)
    (hexported : snapshot.exportedAt.Dated) : ofJson? snapshot.toJson = some snapshot := by
  have hread : Json.listOf? LedgerEntry.ofJson? (.array (snapshot.entries.map (·.toJson))) =
      some snapshot.entries :=
    Json.listOf?_map fun entry hentry => (hentries entry hentry).ofJson?_toJson
  have hruns : Json.listOf? RunId.ofJson? (.strings (snapshot.sealedRuns.map (·.text))) =
      some snapshot.sealedRuns := by
    rw [Json.strings, List.map_map]
    exact Json.listOf?_map fun run _ => run.ofJson?_text
  simp [ofJson?, toJson, StringMap.lookup, Json.string?, hread, hruns, hexported.ofJson?_text]

/-! ### Fields in order -/

theorem TagSet.normalize_toJson (tags : TagSet) : tags.toJson.normalize = tags.toJson := by
  have hsorted := StringMap.sorted_map tags.sorted Json.string
  refine Json.Ordered.normalize_eq (.object hsorted fun field hfield => ?_)
  obtain ⟨tag, -, rfl⟩ := List.mem_map.1 hfield
  exact .string tag.2

theorem Report.normalize_canonical (report : Report) :
    report.canonical.normalize = report.toJson := by
  have hfailed : ((report.failed.map fun failure => Json.object ⟨failure.fields⟩).map
      Json.normalize) = report.failed.map (·.toJson) := by
    rw [List.map_map]
    refine List.map_congr_left fun failure _ => ?_
    rw [Function.comp_apply, normalize_object]
    rfl
  rw [canonical, normalize_object, toJson]
  cases report.tags.isEmpty <;>
    simp [Json.obj, StringMap.map, normalize_array, hfailed, TagSet.normalize_toJson]

theorem RunRecord.normalize_canonical (record : RunRecord) :
    record.canonical.normalize = record.toJson := by
  rw [canonical, normalize_object, toJson]
  simp [Json.obj, StringMap.map, Report.normalize_canonical]

theorem LedgerEntry.normalize_canonical (entry : LedgerEntry) :
    entry.canonical.normalize = entry.toJson := by
  rw [canonical, normalize_object, toJson]
  simp [Json.obj, StringMap.map, RunRecord.normalize_canonical]

theorem Snapshot.normalize_canonical (snapshot : Snapshot) :
    snapshot.canonical.normalize = snapshot.toJson := by
  have hentries : (snapshot.entries.map (·.canonical)).map Json.normalize =
      snapshot.entries.map (·.toJson) := by
    rw [List.map_map]
    exact List.map_congr_left fun entry _ => entry.normalize_canonical
  rw [canonical, normalize_object, toJson]
  simp only [Json.obj, StringMap.map, List.map_cons, List.map_nil, normalize_array, hentries,
    Json.normalize_strings, Json.normalize_string]

/-! ### Texts -/

theorem Report.legible_canonical {depth : Nat} (report : Report) :
    Legible (depth + 3) report.canonical := by
  have hfailed : ∀ item ∈ report.failed.map fun failure => Json.object ⟨failure.fields⟩,
      Legible (depth + 1) item := by
    intro item hitem
    obtain ⟨failure, -, rfl⟩ := List.mem_map.1 hitem
    refine .object ?_
    simp [FailedResource.fields, Legible.string]
  have htags : Legible (depth + 2) report.tags.toJson := by
    refine .object fun field hfield => ?_
    obtain ⟨tag, -, rfl⟩ := List.mem_map.1 hfield
    exact .string tag.2
  refine .object ?_
  cases report.tags.isEmpty <;>
    simp [Legible.string, Json.legible_strings, Legible.array hfailed, htags]

theorem RunRecord.legible_canonical {depth : Nat} (record : RunRecord) :
    Legible (depth + 4) record.canonical := by
  refine .object ?_
  simp [Legible.string, Report.legible_canonical]

theorem LedgerEntry.Stored.legible_canonical {depth : Nat} {entry : LedgerEntry}
    (h : entry.Stored) : Legible (depth + 5) entry.canonical := by
  refine .object ?_
  simp [Legible.string, RunRecord.legible_canonical, Json.legible_nat h.sequence]

theorem LedgerEntry.Stored.reread_canonical {entry : LedgerEntry} (h : entry.Stored) :
    entry.canonical.reread = entry.canonical := by
  rw [canonical, reread_object]
  simp [StringMap.map, Json.reread_nat h.sequence,
    Json.reread_of_numberFree entry.record.numberFree_canonical]

theorem Snapshot.legible_canonical (hentries : ∀ entry ∈ snapshot.entries, entry.Stored) :
    Legible Json.maxDepth snapshot.canonical := by
  have hlegible : ∀ item ∈ snapshot.entries.map (·.canonical), Legible 125 item := by
    intro item hitem
    obtain ⟨entry, hentry, rfl⟩ := List.mem_map.1 hitem
    exact (hentries entry hentry).legible_canonical
  refine .object ?_
  simp [Legible.string, Json.legible_strings, Legible.array hlegible]

theorem Snapshot.reread_canonical (hentries : ∀ entry ∈ snapshot.entries, entry.Stored) :
    snapshot.canonical.reread = snapshot.canonical := by
  have hreread : (snapshot.entries.map (·.canonical)).map Json.reread =
      snapshot.entries.map (·.canonical) := by
    rw [List.map_map]
    exact List.map_congr_left fun entry hentry => (hentries entry hentry).reread_canonical
  rw [canonical, reread_object]
  simp only [StringMap.map, List.map_cons, List.map_nil, reread_array, hreread,
    Json.reread_of_numberFree (Json.numberFree_strings _), Json.reread_string]

/-- A snapshot of stored entries is read back from its text, whether the fields stand there in the
order of their declaration or in that of their names. -/
theorem Snapshot.ofJson?_text (hentries : ∀ entry ∈ snapshot.entries, entry.Stored)
    (hexported : snapshot.exportedAt.Dated) :
    ∀ document ∈ [snapshot.canonical, snapshot.toJson],
      (Json.read? document.text).bind ofJson? = some snapshot := by
  have hread := Json.read?_text_of_reread (legible_canonical hentries) (reread_canonical hentries)
  rw [normalize_canonical] at hread
  intro document hdocument
  rw [hread document hdocument, Option.bind_some, ofJson?_toJson hentries hexported]

/-! ### Ledgers -/

namespace Ledger

variable {hash : HashFunction}

/-- The records of the entries are those that were written. -/
theorem write_mem_of_mem_entries {calls : List LedgerCall} {entry : LedgerEntry}
    (hentry : entry ∈ (replay hash calls).entries) : .write entry.record ∈ calls := by
  suffices hfold : ∀ (calls : List LedgerCall) (ledger : Ledger),
      entry ∈ (calls.foldl (after hash) ledger).entries →
        entry ∈ ledger.entries ∨ .write entry.record ∈ calls by
    exact (hfold calls {} hentry).resolve_left List.not_mem_nil
  intro calls
  induction calls with
  | nil => exact fun _ hentry => .inl hentry
  | cons call calls ih =>
      intro ledger hentry
      rcases ih _ hentry with hafter | hlater
      · cases call with
        | write record =>
            rcases List.mem_append.1 hafter with hold | hnew
            · exact .inl hold
            · rw [List.mem_singleton.1 hnew]
              exact .inr List.mem_cons_self
        | finalize run =>
            left
            rw [after, perform, finalize] at hafter
            split at hafter <;> exact hafter
      · exact .inr (List.mem_cons_of_mem _ hlater)

/-- **Exported ledgers are read back.** Whatever records were written and runs sealed, with instants
from the year 0 on, the snapshot of the ledger is read back from its text, with the fields in the
order of their declaration or of their names, and its entries verify as they did before. The number
of an entry has to fit 64 bits. -/
theorem exports_read_back (hash : HashFunction) (calls : List LedgerCall)
    (hdated : ∀ record, .write record ∈ calls → record.timestamp.Dated)
    (hcount : (replay hash calls).entries.length ≤ 2 ^ 64) (exportedAt : Timestamp)
    (hexported : exportedAt.Dated) :
    let snapshot := (replay hash calls).snapshot exportedAt
    (∀ document ∈ [snapshot.canonical, snapshot.toJson],
      (Json.read? document.text).bind Snapshot.ofJson? = some snapshot) ∧
    Chain.firstBreak hash snapshot.entries = none := by
  intro snapshot
  have hsound := sound_replay hash calls
  have hstored : ∀ entry ∈ snapshot.entries, entry.Stored := by
    intro entry hentry
    refine ⟨?_, hdated _ (write_mem_of_mem_entries hentry)⟩
    obtain ⟨index, hindex, hget⟩ := List.mem_iff_getElem.1 hentry
    rw [(hsound.linked (List.getElem?_eq_some_iff.2 ⟨hindex, hget⟩)).1]
    exact Nat.lt_of_lt_of_le hindex hcount
  exact ⟨Snapshot.ofJson?_text hstored hexported, hsound.intact⟩

/-- A record with tags and control characters from a leap second, and one without tags from the year
10000. -/
theorem leap_second_and_far_year_read_back :
    let calls : List LedgerCall :=
      [.write ⟨.ofNat 1, "say \"hi\"\n", .topic,
          { action := "tag", succeeded := ["t-1"], failed := [⟨"t-2", "\x01 refused"⟩],
            tags := TagSet.ofList [("équipe", "é")] }, ⟨24720479, 60500000001⟩⟩,
        .write ⟨.ofNat 2, "retire", .function, { action := "delete" }, ⟨4223371680, 1⟩⟩,
        .finalize (.ofNat 1)]
    let snapshot := (replay Sha256.hex calls).snapshot ⟨0, 0⟩
    snapshot.entries.map (·.record.timestamp.text) =
        ["2016-12-31T23:59:60.500000001Z", "+10000-01-01T00:00:00.000000001Z"] ∧
      (Json.read? snapshot.canonical.text).bind Snapshot.ofJson? = some snapshot := by
  intro calls snapshot
  have hdated : ∀ record, .write record ∈ calls → record.timestamp.Dated := by
    intro record hrecord
    rcases List.mem_cons.1 hrecord with hfirst | hrecord
    · cases hfirst
      exact ⟨by decide, by decide⟩
    rcases List.mem_cons.1 hrecord with hsecond | hrecord
    · cases hsecond
      exact ⟨by decide, by decide⟩
    · cases List.mem_singleton.1 hrecord
  obtain ⟨hread, -⟩ :=
    exports_read_back Sha256.hex calls hdated (by decide) ⟨0, 0⟩ ⟨by decide, by decide⟩
  exact ⟨by decide +kernel, hread _ List.mem_cons_self⟩

end Ledger

end CloudPolicy
