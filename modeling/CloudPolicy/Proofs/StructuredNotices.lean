import Mathlib.Data.Bool.AllAny
import CloudPolicy.Proofs.Compiled
import CloudPolicy.Proofs.DocumentPlaceholders
import CloudPolicy.Proofs.Effects

/-! Notices that are documents. The placeholder for the details of the resources is replaced in the
text of the document. Main statement: identifiers that need no escaping stand in the published
document where the placeholder stood in the strings of the given one. -/

namespace CloudPolicy

namespace Text

theorem infix_of_occurrences_pos {old text : List Char} (h : 0 < occurrences old text) :
    old <:+: text := by
  induction text with
  | nil => cases h
  | cons c text ih =>
      by_cases hbegins : old <+: c :: text
      · exact hbegins.isInfix
      · rw [occurrences_cons_of_absent hbegins] at h
        exact List.infix_cons (ih h)

/-- A text that was joined has the characters of its parts and of what was put between them. -/
theorem forall_mem_join {p : Char → Prop} {sep : String} {texts : List String}
    (hsep : ∀ c ∈ sep.toList, p c) (htexts : ∀ text ∈ texts, ∀ c ∈ text.toList, p c) :
    ∀ c ∈ (join sep texts).toList, p c := by
  rw [join, String.toList_intercalate]
  induction texts with
  | nil => nofun
  | cons text texts ih =>
      obtain ⟨htext, htexts⟩ := List.forall_mem_cons.1 htexts
      cases texts with
      | nil => simpa using htext
      | cons next texts =>
          rw [List.map_cons, List.map_cons, List.intercalate_cons_cons]
          intro c hc
          rcases List.mem_append.1 hc with hc | hc
          · rcases List.mem_append.1 hc with hc | hc
            · exact htext c hc
            · exact hsep c hc
          · exact ih htexts c hc

end Text

namespace Action

open Json (IsPlain IsPlaceholder)

/-- What stands in the placeholder after its brace. -/
def placeholderTail : List Char := "resource_details\x7d".toList

theorem toList_detailsPlaceholder : detailsPlaceholder.toList = '{' :: placeholderTail := by
  decide +kernel

theorem isPlaceholder_tail : IsPlaceholder placeholderTail where
  plain := List.all_iff_forall_prop.1 (by decide +kernel)
  brace := by decide +kernel
  head := ⟨'r', _, rfl, by decide⟩

theorem expand_eq_replaced (type : ResourceType) (resources : List Resource) :
    expand type resources =
      Json.replaced ('{' :: placeholderTail) (resourceDetails type resources).toList := by
  funext text
  rw [expand, Text.replaceAll, if_neg (by decide +kernel), toList_detailsPlaceholder]
  rfl

theorem plain_resourceDetails {type : ResourceType} {resources : List Resource}
    (h : ∀ r ∈ resources, ∀ c ∈ r.id.toList, IsPlain c) :
    ∀ c ∈ (resourceDetails type resources).toList, IsPlain c := by
  have hids : ∀ c ∈ (Text.join "," (resources.map (·.id))).toList, IsPlain c := by
    refine Text.forall_mem_join (List.all_iff_forall_prop.1 (by decide +kernel)) fun id hid => ?_
    obtain ⟨r, hr, rfl⟩ := List.mem_map.1 hid
    exact h r hr
  have htype : ∀ c ∈ (type.name ++ ":").toList, IsPlain c := by
    cases type <;> exact List.all_iff_forall_prop.1 (by decide +kernel)
  rw [resourceDetails, String.toList_append]
  exact List.forall_mem_append.2 ⟨htype, hids⟩

/-- The service takes a message, or fails and takes none. -/
theorem publish_cases (topic : String) (subject : Option String) (body : MessageBody)
    (cloud : Cloud) :
    (∃ e after, (Cloud.publish topic subject body).run cloud = (.error e, after) ∧
      after.published = cloud.published) ∨
    ∃ messageId after m, (Cloud.publish topic subject body).run cloud = (.ok messageId, after) ∧
      after.published = cloud.published ++ [m] ∧ m.topic = topic ∧ m.message = body.message ∧
      m.structured = body.isDocument := by
  rw [Cloud.publish, Cloud.run_enter_bind]
  split
  next => exact .inl ⟨_, _, rfl, rfl⟩
  next => exact .inr ⟨_, _, _, rfl, rfl, rfl, rfl, rfl⟩

/-- Up to the first failure every topic is sent the message. -/
theorem publishAll_sends (subject : Option String) (body : MessageBody) (topics : List String)
    (cloud : Cloud) : ∃ sent,
      ((publishAll subject body topics).run cloud).2.published = cloud.published ++ sent ∧
      (((publishAll subject body topics).run cloud).1 = .ok () → sent.map (·.topic) = topics) ∧
      ∀ m ∈ sent, m.message = body.message ∧ m.structured = body.isDocument := by
  induction topics generalizing cloud with
  | nil => exact ⟨[], (List.append_nil _).symm, fun _ => rfl, nofun⟩
  | cons topic topics ih =>
      obtain ⟨e, after, hrun, hafter⟩ | ⟨messageId, after, m, hrun, hafter, htopic, hm⟩ :=
        publish_cases topic subject body cloud
      · rw [publishAll, Steps.run_bind_of_error hrun]
        exact ⟨[], by rw [hafter, List.append_nil], nofun, nofun⟩
      · rw [publishAll, Steps.run_bind_of_ok hrun]
        obtain ⟨sent, hsent, hended, hall⟩ := ih after
        refine ⟨m :: sent, ?_, fun hok => ?_, List.forall_mem_cons.2 ⟨hm, hall⟩⟩
        · rw [hsent, hafter, List.append_assoc, List.singleton_append]
        · rw [List.map_cons, htopic, hended hok]

theorem publishing_sends (name : String) (topics : List String) (subject : Option String)
    (body : RunContext → List Resource → MessageBody) (context : RunContext)
    (resources : List Resource) (cloud : Cloud) :
    let run := ((publishing name topics subject body).process context resources).run cloud
    ∃ sent, run.2.published = cloud.published ++ sent ∧
      (∀ report, run.1 = .ok report → resources ≠ [] → sent.map (·.topic) = topics) ∧
      ∀ m ∈ sent, m.message = (body context resources).message ∧
        m.structured = (body context resources).isDocument := by
  intro run
  rcases resources with _ | ⟨r, rest⟩
  · exact ⟨[], (List.append_nil _).symm, fun _ _ hsome => absurd rfl hsome, nofun⟩
  obtain ⟨sent, hsent, hended, hall⟩ :=
    publishAll_sends subject (body context (r :: rest)) topics cloud
  have hrun : run = (publishAll subject (body context (r :: rest)) topics >>= fun _ =>
      pure { action := name, succeeded := (r :: rest).map (·.id) }).run cloud := rfl
  rcases hpublish : (publishAll subject (body context (r :: rest)) topics).run cloud with
    ⟨e | done, after⟩
  · rw [hrun, Steps.run_bind_of_error hpublish]
    rw [hpublish] at hsent
    exact ⟨sent, hsent, nofun, hall⟩
  · rw [hrun, Steps.run_bind_of_ok hpublish]
    rw [hpublish] at hsent hended
    exact ⟨sent, hsent, fun _ _ _ => hended rfl, hall⟩

theorem exists_structure_of_build {block : Json} {build : BuildContext} {action : Action}
    (hbuild : buildStructure block build = .ok action) :
    ∃ text, block.textOption? "message_structure" = some text ∧
      action = publishing "notify-message-structure" (block.textsOption "topic_urn_list")
        (block.textOption? "subject")
        fun context resources => .document (expand context.resourceType resources text) := by
  obtain ⟨topics, htopics, hbuild⟩ := Steps.of_bind_eq_ok hbuild
  obtain ⟨text, htext, hbuild⟩ := Steps.of_bind_eq_ok hbuild
  cases hbuild
  have hlisted : topics = block.textsOption "topic_urn_list" := by
    unfold topicsOf at htopics
    split at htopics
    next => cases htopics
    next => exact (Except.ok.inj htopics).symm
  rw [hlisted]
  exact ⟨text, BuildContext.eq_some_of_require htext, rfl⟩

end Action

namespace ActionKind

open CloudPolicy.Action

/-- **A structured notice stays a document.** Let the text of a structured notice be read as a
document, and let the identifiers of the resources need no escaping, if the placeholder stands in
the text at all. Then every message that is published for them, one for each topic unless a
publication fails, is read as a document. When the placeholders in the strings and keys of the given
document are all spelled out in its text, the published document is the given one with the type and
the identifiers in the place of every placeholder. -/
theorem structured_notice_expanded (block : Json) (build : BuildContext) (action : Action)
    (hbuild : notifyStructure.build block build = .ok action) (text : String)
    (htext : block.textOption? "message_structure" = some text) (document : Json)
    (hread : Json.readWritten? text.toList = some document) (context : RunContext)
    (resources : List Resource) (hplain : Text.contains text detailsPlaceholder →
      ∀ r ∈ resources, ∀ c ∈ r.id.toList, Json.IsPlain c) (cloud : Cloud) :
    let run := (action.process context resources).run cloud
    ∃ sent, run.2.published = cloud.published ++ sent ∧
      (∀ report, run.1 = .ok report → resources ≠ [] →
        sent.map (·.topic) = block.textsOption "topic_urn_list") ∧
      ∀ m ∈ sent, m.structured = true ∧
        ∃ published, Json.readWritten? m.message.toList = some published ∧
          (Text.occurrences detailsPlaceholder.toList text.toList =
              Json.mentions detailsPlaceholder.toList document.texts →
            published = document.mapTexts (expand context.resourceType resources)) := by
  intro run
  obtain ⟨found, hfound, rfl⟩ := exists_structure_of_build hbuild
  rw [htext] at hfound
  cases hfound
  obtain ⟨sent, hsent, hended, hall⟩ := publishing_sends "notify-message-structure"
    (block.textsOption "topic_urn_list") (block.textOption? "subject")
    (fun context resources => .document (expand context.resourceType resources text)) context
    resources cloud
  refine ⟨sent, hsent, hended, fun m hm => ?_⟩
  obtain ⟨hmessage, hstructured⟩ := hall m hm
  have hnew : 0 < Text.occurrences ('{' :: placeholderTail) text.toList →
      ∀ c ∈ (resourceDetails context.resourceType resources).toList, Json.IsPlain c := by
    intro hoccurs
    refine plain_resourceDetails (hplain (Text.occursIn_iff.2 ?_))
    rw [toList_detailsPlaceholder]
    exact Text.infix_of_occurrences_pos hoccurs
  obtain ⟨published, hpublished, hequal⟩ :=
    Json.readWritten?_substitute isPlaceholder_tail hread hnew
  refine ⟨hstructured, published, ?_, ?_⟩
  · rw [hmessage, MessageBody.message, expand_eq_replaced, Json.replaced, String.toList_ofList]
    exact hpublished
  · rw [toList_detailsPlaceholder, expand_eq_replaced]
    exact hequal

/-- The block of a structured notice. -/
def noticeBlock (topics : List String) (text : String) : Json :=
  .obj [("topic_urn_list", .strings topics), ("message_structure", .string text)]

/-- The text of a document with the placeholder in two of its strings. -/
def twofoldNotice : String :=
  "\x7b\"default\":\"\x7bresource_details\x7d\",\"sms\":[\"See\\n\x7bresource_details\x7d\",1]\x7d"

/-- Two topics are sent a document in which the identifiers of two others stand twice. -/
theorem identifiers_in_notice :
    let topics : List Resource := ["orders", "alarms"].map fun id =>
      .ofRecord (.obj [("id", .string id)])
    let context : RunContext := { (default : RunContext) with resourceType := .topic }
    ∃ action document,
      notifyStructure.build (noticeBlock ["t-8", "t-9"] twofoldNotice) default = .ok action ∧
      Json.readWritten? twofoldNotice.toList = some document ∧
      let sent := ((action.process context topics).run {}).2.published
      sent.map (·.topic) = ["t-8", "t-9"] ∧
      sent.map (·.message) = List.replicate 2 ("\x7b\"default\":\"smn-topic:orders,alarms\","
        ++ "\"sms\":[\"See\\nsmn-topic:orders,alarms\",1]\x7d") ∧
      ∀ m ∈ sent, Json.readWritten? m.message.toList =
        some (document.mapTexts (expand .topic topics)) := by
  intro topics context
  have hmentions : (Json.readWritten? twofoldNotice.toList).map (fun document =>
      Json.mentions detailsPlaceholder.toList document.texts) = some 2 := by
    decide +kernel
  obtain ⟨document, hread, htwo⟩ := Option.map_eq_some_iff.1 hmentions
  have htext : Text.occurrences detailsPlaceholder.toList twofoldNotice.toList = 2 := by
    decide +kernel
  refine ⟨_, document, rfl, hread, ?_⟩
  intro sent
  refine ⟨by decide +kernel, by decide +kernel, fun m hm => ?_⟩
  have hplain : ∀ topic ∈ topics, ∀ c ∈ topic.id.toList, Json.IsPlain c := by
    have hall : topics.all fun topic => topic.id.toList.all fun c => Json.IsPlain c := by
      decide +kernel
    simpa only [List.all_eq_true, decide_eq_true_eq] using hall
  obtain ⟨published, hpublished, -, hall⟩ := structured_notice_expanded
    (noticeBlock ["t-8", "t-9"] twofoldNotice) default _ rfl twofoldNotice rfl document hread
    context topics (fun _ => hplain) {}
  have hsent : m ∈ published := by
    rw [← List.nil_append published]
    exact hpublished ▸ hm
  obtain ⟨-, image, himage, hequal⟩ := hall m hsent
  rw [himage, hequal (htext.trans htwo.symm)]

/-- An identifier with a quote breaks the document, or goes on in it as its author would. A
placeholder that is written with an escape is not replaced. -/
theorem quote_breaks_notice :
    let notice (text id : String) : Option (List (Option String)) := do
      let action ← (notifyStructure.build (noticeBlock ["t-9"] text) default).toOption
      let context : RunContext := { (default : RunContext) with resourceType := .topic }
      let topic : Resource := .ofRecord (.obj [("id", .string id)])
      let published := ((action.process context [topic]).run {}).2.published
      some (published.map fun m => (Json.read? m.message).map Json.text)
    let text := "\x7b\"default\":\"\x7bresource_details\x7d\"\x7d"
    (Json.read? text).map Json.text = some text ∧
      notice text "a\"b" = some [none] ∧
      notice text "a\",\"sms\":\"b" =
        some [some "\x7b\"default\":\"smn-topic:a\",\"sms\":\"b\"\x7d"] ∧
      notice "\x7b\"default\":\"\\u007bresource_details\x7d\"\x7d" "a" = some [some text] := by
  decide +kernel

end ActionKind

end CloudPolicy
