import Mathlib.Data.List.Nodup
import Mathlib.Data.List.ReduceOption
import CloudPolicy.Action.Topics
import CloudPolicy.Cloud.Operation
import CloudPolicy.Proofs.Effects
import CloudPolicy.Proofs.Maps

/-! Identifiers of log bindings. A new binding is numbered by how many its topic has, although
bindings may have been deleted before it, so that its number may be in use. The identifiers of a
topic are distinct as long as every creation finds its number free, which is so while only the
newest binding of a topic is ever deleted; and distinct is what they have to be for all of them to
be deleted one after the other. -/

namespace CloudPolicy

/-- A call that gives a topic a log binding or takes one away. -/
inductive BindingCall where
  | create (topic group stream : String)
  | delete (topic id : String)
  deriving DecidableEq, Repr

/-- The identifiers of a topic's log bindings, oldest first. -/
def Cloud.bindingIds (cloud : Cloud) (topic : String) : List (Option String) :=
  (cloud.logtanksOf topic).map (·.stringField? "id")

namespace BindingCall

def operation : BindingCall → Operation
  | create topic group stream => .createLogtank topic group stream
  | delete topic id => .deleteLogtank topic id

def topic : BindingCall → String
  | create topic _ _ => topic
  | delete topic _ => topic

/-- The name under which a failure of the call is injected. -/
def name : BindingCall → String
  | create _ _ _ => "create_logtank"
  | delete _ _ => "delete_logtank"

/-- No failure of the call is injected. -/
def Works (call : BindingCall) (cloud : Cloud) : Prop :=
  cloud.isFailing call.name call.topic = false

instance (call : BindingCall) (cloud : Cloud) : Decidable (call.Works cloud) :=
  inferInstanceAs (Decidable (_ = _))

/-- The cloud after the call, whether it was refused or not. -/
def after (call : BindingCall) (cloud : Cloud) : Cloud :=
  ((Move.perform call.operation).run cloud).2

/-- The cloud after several calls. -/
def afterAll (calls : List BindingCall) (cloud : Cloud) : Cloud :=
  (Move.runAll (calls.map fun call => .perform call.operation) cloud).2

/-! ### Numbers -/

/-- The identifier with a number. -/
def label (n : Nat) : Option String := some ("lts-" ++ Nat.repr n)

theorem label_injective : Function.Injective label := by
  intro m n h
  have hrepr : Nat.repr m = Nat.repr n := (String.append_right_inj _).1 (Option.some.inj h)
  rw [Nat.repr_eq_ofList_toDigits, Nat.repr_eq_ofList_toDigits] at hrepr
  have hdigits : Nat.toDigits 10 m = Nat.toDigits 10 n := String.ofList_injective hrepr
  calc m = Nat.ofDigitChars 10 (Nat.toDigits 10 m) 0 := Nat.ofDigitChars_ten_toDigits.symm
    _ = Nat.ofDigitChars 10 (Nat.toDigits 10 n) 0 := by rw [hdigits]
    _ = n := Nat.ofDigitChars_ten_toDigits

/-- The identifiers are numbered from one on without a gap. -/
def Numbered (ids : List (Option String)) : Prop :=
  ids = (List.range ids.length).map fun i => label (i + 1)

namespace Numbered

variable {ids : List (Option String)} {last : Option String}

theorem mem_iff (h : Numbered ids) (n : Nat) : label (n + 1) ∈ ids ↔ n < ids.length := by
  rw [h, List.mem_map, List.length_map, List.length_range]
  constructor
  · rintro ⟨i, hi, heq⟩
    rw [← Nat.succ.inj (label_injective heq)]
    exact List.mem_range.1 hi
  · intro hn
    exact ⟨n, List.mem_range.2 hn, rfl⟩

theorem nodup (h : Numbered ids) : ids.Nodup := by
  rw [h]
  exact List.Pairwise.map _ (fun i j hne heq => hne (Nat.succ.inj (label_injective heq)))
    List.nodup_range

/-- A list with one identifier more is numbered if it goes on with the next number. -/
theorem concat_iff (ids : List (Option String)) (last : Option String) :
    Numbered (ids ++ [last]) ↔ Numbered ids ∧ last = label (ids.length + 1) := by
  rw [Numbered, List.length_append, List.length_singleton, List.range_succ, List.map_append,
    List.map_singleton]
  constructor
  · intro h
    obtain ⟨hids, hlast⟩ := List.append_inj' h rfl
    exact ⟨hids, List.singleton_inj.1 hlast⟩
  · rintro ⟨hids, rfl⟩
    rw [← hids]

/-- Of numbered identifiers only the last one can be taken away without leaving a gap. -/
theorem filter_iff (h : Numbered ids) (id : Option String) :
    Numbered (ids.filter fun other => other ≠ id) ↔ (id ∈ ids → ids.getLast? = some id) := by
  constructor
  · intro hleft hid
    have hshorter : (ids.filter fun other => other ≠ id).length < ids.length :=
      List.length_filter_lt_length_iff_exists.2 ⟨id, hid, by simp⟩
    obtain ⟨init, last, rfl⟩ := List.eq_nil_or_concat ids |>.resolve_left (List.ne_nil_of_mem hid)
    rw [List.concat_eq_append] at *
    rw [List.getLast?_concat]
    refine Option.some_inj.2 (Decidable.byContradiction fun hne => ?_)
    obtain ⟨-, rfl⟩ := (concat_iff init last).1 h
    have hkept : label (init.length + 1) ∈ (init ++ [label (init.length + 1)]).filter
        fun other => other ≠ id := List.mem_filter.2 ⟨by simp, by simpa using hne⟩
    have hmost := (hleft.mem_iff init.length).1 hkept
    rw [List.length_append, List.length_singleton] at hshorter
    omega
  · intro hlast
    by_cases hid : id ∈ ids
    · obtain ⟨init, rfl⟩ := List.getLast?_eq_some_iff.1 (hlast hid)
      have hnew : id ∉ init := fun hmem =>
        (List.nodup_append.1 h.nodup).2.2 id hmem id (List.mem_singleton_self id) rfl
      have hinit : (init ++ [id]).filter (fun other => other ≠ id) = init := by
        rw [List.filter_append, List.filter_eq_self.2 fun other hother => by
          simpa using ne_of_mem_of_not_mem hother hnew]
        simp
      rw [hinit]
      exact ((concat_iff init id).1 h).1
    · have hsame : ids.filter (fun other => other ≠ id) = ids :=
        List.filter_eq_self.2 fun other hother => by simpa using ne_of_mem_of_not_mem hother hid
      rwa [hsame]

end Numbered

/-! ### One call -/

variable {cloud : Cloud}

/-- What a call that works does to the bindings of its topic. -/
def rebind : BindingCall → List Json → List Json
  | create _ group stream, bound =>
    bound ++ [.obj [("id", .string ("lts-" ++ Nat.repr (bound.length + 1))),
      ("log_group_id", .string group), ("log_stream_id", .string stream)]]
  | delete _ id, bound => bound.filter fun logtank => !Cloud.isLogtank id logtank

/-- What a call that works does to the identifiers of its topic. -/
def relabel : BindingCall → List (Option String) → List (Option String)
  | create _ _ _, ids => ids ++ [label (ids.length + 1)]
  | delete _ id, ids => ids.filter fun other => other ≠ some id

theorem map_rebind (call : BindingCall) (bound : List Json) :
    (call.rebind bound).map (·.stringField? "id") =
      call.relabel (bound.map (·.stringField? "id")) := by
  cases call with
  | create _ group stream =>
      have hid (id : String) : (Json.obj [("id", .string id), ("log_group_id", .string group),
          ("log_stream_id", .string stream)]).stringField? "id" = some id := by
        rw [Json.stringField?, Json.field?_obj]
        rfl
      rw [rebind, relabel, List.map_append, List.map_singleton, hid, List.length_map, label]
  | delete _ id => simp [rebind, relabel, Cloud.isLogtank, List.filter_map, Function.comp_def]

theorem after_create (topic group stream : String) (cloud : Cloud) :
    (create topic group stream).after cloud =
      ((Cloud.createLogtank topic group stream).run cloud).2 :=
  congrArg Prod.snd (Steps.run_map _ (Cloud.createLogtank topic group stream) cloud)

theorem after_delete (topic id : String) (cloud : Cloud) :
    (delete topic id).after cloud = ((Cloud.deleteLogtank topic id).run cloud).2 :=
  congrArg Prod.snd (Steps.run_map _ (Cloud.deleteLogtank topic id) cloud)

theorem after_of_works (call : BindingCall) (hworks : call.Works cloud) :
    call.after cloud =
      { cloud.record "smn" call.name call.topic with
        logtanks := cloud.logtanks.insert call.topic
          (call.rebind (cloud.logtanksOf call.topic)) } := by
  have hnot : ¬ cloud.isFailing call.name call.topic = true := Bool.eq_false_iff.1 hworks
  cases call with
  | create topic group stream =>
      rw [after_create, Cloud.createLogtank, Cloud.run_enter_bind]
      exact congrArg Prod.snd (if_neg hnot)
  | delete topic id =>
      have hcheck (after : Cloud) (vain : Prop) [Decidable vain] (e : Error) :
          ((if vain then throw e else pure () : CloudM Unit).run after).2 = after := by
        split <;> rfl
      rw [after_delete, Cloud.deleteLogtank, Cloud.run_enter_bind]
      exact (congrArg Prod.snd (if_neg hnot)).trans (hcheck _ _ _)

theorem after_of_not_works (call : BindingCall) (hfails : ¬ call.Works cloud) :
    call.after cloud = cloud.record "smn" call.name call.topic := by
  have hfailing : cloud.isFailing call.name call.topic = true := Bool.not_eq_false _ |>.mp hfails
  cases call with
  | create topic group stream =>
      rw [after_create, Cloud.createLogtank, Cloud.run_enter_bind]
      exact congrArg Prod.snd (if_pos hfailing)
  | delete topic id =>
      rw [after_delete, Cloud.deleteLogtank, Cloud.run_enter_bind]
      exact congrArg Prod.snd (if_pos hfailing)

theorem bindingIds_after (call : BindingCall) (cloud : Cloud) (topic : String) :
    (call.after cloud).bindingIds topic =
      if topic = call.topic ∧ call.Works cloud then call.relabel (cloud.bindingIds topic)
      else cloud.bindingIds topic := by
  by_cases hworks : call.Works cloud
  · rw [call.after_of_works hworks]
    simp only [hworks, and_true]
    rw [Cloud.bindingIds, Cloud.logtanksOf, StringMap.get?_insert]
    split
    next h => rw [h, Option.getD_some, map_rebind]; rfl
    next => rfl
  · rw [call.after_of_not_works hworks, if_neg fun h => hworks h.2]
    rfl

/-- A creation that works finds the next number free. -/
def TakesFreeNumber : BindingCall → Cloud → Prop
  | create topic group stream, cloud => (create topic group stream).Works cloud →
    label ((cloud.bindingIds topic).length + 1) ∉ cloud.bindingIds topic
  | delete _ _, _ => True

/-- A deletion that works takes away the newest binding, or none. -/
def DeletesNewest : BindingCall → Cloud → Prop
  | create _ _ _, _ => True
  | delete topic id, cloud => (delete topic id).Works cloud → some id ∈ cloud.bindingIds topic →
    (cloud.bindingIds topic).getLast? = some (some id)

instance : DecidableRel TakesFreeNumber
  | create _ _ _, _ => inferInstanceAs (Decidable (_ → _))
  | delete _ _, _ => inferInstanceAs (Decidable True)

instance : DecidableRel DeletesNewest
  | create _ _ _, _ => inferInstanceAs (Decidable True)
  | delete _ _, _ => inferInstanceAs (Decidable (_ → _ → _))

/-- What the identifiers of a topic are is decided by the calls on this topic that work. -/
theorem forall_bindingIds_after {p : List (Option String) → Prop} (call : BindingCall)
    (hbefore : ∀ topic, p (cloud.bindingIds topic)) :
    (∀ topic, p ((call.after cloud).bindingIds topic)) ↔
      (call.Works cloud → p (call.relabel (cloud.bindingIds call.topic))) := by
  constructor
  · intro hafter hworks
    have htopic := hafter call.topic
    rwa [bindingIds_after, if_pos ⟨rfl, hworks⟩] at htopic
  · intro hafter topic
    rw [bindingIds_after]
    split
    next h =>
      rw [h.1]
      exact hafter h.2
    next => exact hbefore topic

theorem nodup_after_iff (call : BindingCall) (hbefore : ∀ topic, (cloud.bindingIds topic).Nodup) :
    (∀ topic, ((call.after cloud).bindingIds topic).Nodup) ↔ call.TakesFreeNumber cloud := by
  rw [forall_bindingIds_after call hbefore]
  cases call with
  | create topic group stream =>
      refine forall_congr' fun _ => ?_
      rw [relabel, ← List.concat_eq_append, List.nodup_concat]
      exact and_iff_left (hbefore topic)
  | delete topic id => exact iff_of_true (fun _ => (hbefore topic).filter _) trivial

theorem numbered_after_iff (call : BindingCall)
    (hbefore : ∀ topic, Numbered (cloud.bindingIds topic)) :
    (∀ topic, Numbered ((call.after cloud).bindingIds topic)) ↔ call.DeletesNewest cloud := by
  rw [forall_bindingIds_after call hbefore]
  cases call with
  | create topic group stream =>
      exact iff_of_true (fun _ => (Numbered.concat_iff _ _).2 ⟨hbefore topic, rfl⟩) trivial
  | delete topic id => exact forall_congr' fun _ => (hbefore topic).filter_iff (some id)

/-! ### Several calls -/

/-- `p` holds of each of the calls and the cloud that it finds. -/
def Throughout (p : BindingCall → Cloud → Prop) : List BindingCall → Cloud → Prop
  | [], _ => True
  | call :: calls, cloud => p call cloud ∧ Throughout p calls (call.after cloud)

instance {p : BindingCall → Cloud → Prop} [DecidableRel p] : DecidableRel (Throughout p) :=
  decideAll
where
  decideAll : (calls : List BindingCall) → (cloud : Cloud) → Decidable (Throughout p calls cloud)
    | [], _ => inferInstanceAs (Decidable True)
    | call :: calls, cloud =>
      have := decideAll calls (call.after cloud)
      inferInstanceAs (Decidable (_ ∧ _))

/-- A property of clouds that a call keeps just when `p` holds of it is kept through several calls
just when `p` holds throughout. -/
theorem forall_prefix_iff (inv : Cloud → Prop) {p : BindingCall → Cloud → Prop}
    (hstep : ∀ call cloud, inv cloud → (inv (call.after cloud) ↔ p call cloud))
    (hbefore : inv cloud) (calls : List BindingCall) :
    (∀ earlier, earlier <+: calls → inv (afterAll earlier cloud)) ↔ Throughout p calls cloud := by
  induction calls generalizing cloud with
  | nil =>
      refine iff_of_true (fun earlier h => ?_) trivial
      rw [List.prefix_nil.1 h]
      exact hbefore
  | cons call calls ih =>
      rw [Throughout, ← hstep call cloud hbefore]
      constructor
      · intro h
        have hafter : inv (call.after cloud) :=
          h [call] (List.cons_prefix_cons.2 ⟨rfl, List.nil_prefix⟩)
        refine ⟨hafter, (ih hafter).1 fun earlier hearlier => ?_⟩
        exact h (call :: earlier) (List.cons_prefix_cons.2 ⟨rfl, hearlier⟩)
      · rintro ⟨hafter, hrest⟩ earlier hearlier
        rcases List.prefix_cons_iff.1 hearlier with rfl | ⟨others, rfl, hothers⟩
        · exact hbefore
        · exact (ih hafter).2 hrest others hothers

theorem bindingIds_of_bare (hbare : ∀ topic, cloud.logtanksOf topic = []) (topic : String) :
    cloud.bindingIds topic = [] := by
  rw [Cloud.bindingIds, hbare]
  rfl

/-- The bindings of all topics are numbered without a gap as long as it is always the newest
binding of a topic that is deleted. -/
theorem numbered_iff (hbare : ∀ topic, cloud.logtanksOf topic = []) (calls : List BindingCall) :
    (∀ earlier, earlier <+: calls →
      ∀ topic, Numbered ((afterAll earlier cloud).bindingIds topic)) ↔
      Throughout DeletesNewest calls cloud := by
  have hbefore (topic : String) : Numbered (cloud.bindingIds topic) := by
    rw [bindingIds_of_bare hbare]
    rfl
  exact forall_prefix_iff (fun cloud => ∀ topic, Numbered (cloud.bindingIds topic))
    (fun call _ => call.numbered_after_iff) hbefore calls

/-- **When log bindings have distinct identifiers.** From a cloud without log bindings, whatever
calls are made and whichever of them are made to fail, the bindings of every topic have distinct
identifiers all the time if and only if every creation finds the number that comes after the count
of bindings free. That is so as long as it is always the newest binding of a topic that is
deleted. -/
theorem ids_distinct_iff (cloud : Cloud) (hbare : ∀ topic, cloud.logtanksOf topic = [])
    (calls : List BindingCall) :
    ((∀ earlier, earlier <+: calls →
      ∀ topic, ((afterAll earlier cloud).bindingIds topic).Nodup) ↔
      Throughout TakesFreeNumber calls cloud) ∧
    (Throughout DeletesNewest calls cloud →
      ∀ earlier, earlier <+: calls →
        ∀ topic, ((afterAll earlier cloud).bindingIds topic).Nodup) := by
  constructor
  · have hbefore (topic : String) : (cloud.bindingIds topic).Nodup := by
      rw [bindingIds_of_bare hbare]
      exact List.nodup_nil
    exact forall_prefix_iff (fun cloud => ∀ topic, (cloud.bindingIds topic).Nodup)
      (fun call _ => call.nodup_after_iff) hbefore calls
  · intro hnewest earlier hearlier topic
    exact ((numbered_iff hbare calls).2 hnewest earlier hearlier topic).nodup

/-- A binding is replaced by a newer one, which is given its number, and a binding of another topic
is numbered on its own. -/
theorem ids_distinct_after_replacement :
    let calls : List BindingCall := [.create "t-1" "lg-1" "ls-1", .create "t-1" "lg-1" "ls-2",
      .delete "t-1" "lts-2", .create "t-2" "lg-1" "ls-1", .create "t-1" "lg-1" "ls-3"]
    (∀ topic, ({} : Cloud).logtanksOf topic = []) ∧ Throughout DeletesNewest calls {} ∧
      (∀ topic, ((afterAll calls {}).bindingIds topic).Nodup) := by
  intro calls
  have hbare (topic : String) : ({} : Cloud).logtanksOf topic = [] := rfl
  have hnewest : Throughout DeletesNewest calls {} := by decide +kernel
  exact ⟨hbare, hnewest, (ids_distinct_iff {} hbare calls).2 hnewest calls (List.prefix_refl calls)⟩

/-- The older one of two bindings is deleted, and the next one is given the number of the other. The
action that deletes all bindings of the topic then deletes both at once and fails. -/
theorem ids_repeat_after_deletion :
    let calls : List BindingCall := [.create "t-1" "lg-1" "ls-1", .create "t-1" "lg-1" "ls-2",
      .delete "t-1" "lts-1", .create "t-1" "lg-1" "ls-3"]
    let topic : Resource := .ofRecord (.obj [("id", .string "t-1")])
    (∀ topic, ({} : Cloud).logtanksOf topic = []) ∧
      ¬ ((afterAll calls {}).bindingIds "t-1").Nodup ∧
      ((Action.deleteLoggingStep topic).run (afterAll calls {})).1 =
        .error (Cloud.notFound "smn" "delete_logtank" "lts-2") := by
  intro calls topic
  exact ⟨fun _ => rfl, by decide +kernel, rfl⟩

end BindingCall

/-! ### Deleting all bindings of a topic -/

namespace Action

open BindingCall

variable {cloud : Cloud} {topic : String}

theorem run_deleteLogtank (hworks : cloud.isFailing "delete_logtank" topic = false) (id : String) :
    (Cloud.deleteLogtank topic id).run cloud =
      (if some id ∈ cloud.bindingIds topic then .ok ()
        else .error (Cloud.notFound "smn" "delete_logtank" id), (delete topic id).after cloud) := by
  have hvain : ((cloud.logtanksOf topic).filter fun logtank =>
      !Cloud.isLogtank id logtank).length = (cloud.logtanksOf topic).length ↔
        some id ∉ cloud.bindingIds topic := by
    simp [Cloud.isLogtank, Cloud.bindingIds, List.length_filter_eq_length_iff]
  have hcheck (after : Cloud) {vain : Prop} [Decidable vain] (e : Error) :
      ((if vain then throw e else pure () : CloudM Unit).run after).1 =
        if vain then .error e else .ok () := by
    split <;> rfl
  refine Prod.ext ?_ (after_delete topic id cloud).symm
  rw [Cloud.deleteLogtank, Cloud.run_enter_bind, if_neg (by simp [hworks])]
  refine (hcheck _ _).trans ?_
  by_cases hbound : some id ∈ cloud.bindingIds topic
  · rw [if_pos hbound]
    exact if_neg fun h => hvain.1 h hbound
  · rw [if_neg hbound]
    exact if_pos (hvain.2 hbound)

/-- Bindings can be deleted one after the other if they are there and none is named twice. -/
theorem forEach_deleteLogtank_ok_iff (hworks : cloud.isFailing "delete_logtank" topic = false)
    (ids : List String) :
    (∃ after, (forEach (Cloud.deleteLogtank topic) ids).run cloud = (.ok (), after)) ↔
      ids.Nodup ∧ ∀ id ∈ ids, some id ∈ cloud.bindingIds topic := by
  induction ids generalizing cloud with
  | nil => exact iff_of_true ⟨cloud, rfl⟩ ⟨List.nodup_nil, nofun⟩
  | cons id ids ih =>
      have hdelete := run_deleteLogtank hworks id
      by_cases hbound : some id ∈ cloud.bindingIds topic
      · rw [if_pos hbound] at hdelete
        have hafter : ((delete topic id).after cloud).bindingIds topic =
            (cloud.bindingIds topic).filter fun other => other ≠ some id :=
          (bindingIds_after _ _ _).trans (if_pos ⟨rfl, hworks⟩)
        have hstill : (delete topic id).Works ((delete topic id).after cloud) := by
          rw [after_of_works (delete topic id) hworks]
          exact hworks
        rw [forEach, Steps.run_bind_of_ok hdelete, ih hstill, hafter]
        simp only [List.nodup_cons, List.forall_mem_cons, List.mem_filter]
        grind
      · rw [if_neg hbound] at hdelete
        refine iff_of_false ?_ fun h => hbound (h.2 id List.mem_cons_self)
        rintro ⟨after, h⟩
        rw [forEach, Steps.run_bind_of_error hdelete] at h
        cases h

/-- **Deleting all bindings of a topic.** The action on a topic comes to its end if and only if no
two bindings of the topic have one identifier; with two of them the second deletion finds
nothing. -/
theorem deleteLoggingStep_ok_iff {r : Resource} (hcached : (r.get? "lts").bind Json.array? = none)
    (hlists : cloud.isFailing "list_logtanks" r.topicUrn = false)
    (hworks : cloud.isFailing "delete_logtank" r.topicUrn = false) :
    (∃ step after, (deleteLoggingStep r).run cloud = (.ok step, after)) ↔
      (cloud.bindingIds r.topicUrn).reduceOption.Nodup := by
  let bound := cloud.logtanksOf r.topicUrn
  let listed := cloud.record "smn" "list_logtanks" r.topicUrn
  have hlist : (Filter.bindingsOf r).run cloud =
      (.ok (bound, r.set "lts" (.array bound)), listed) := by
    rw [Filter.bindingsOf, hcached, Cloud.listLogtanks]
    simp only [bind_assoc]
    rw [Cloud.run_enter_bind, if_neg (by simp [hlists])]
    rfl
  have hids : (bound.filterMap fun binding => binding.stringField? "id") =
      (cloud.bindingIds r.topicUrn).reduceOption := by
    rw [List.reduceOption, Cloud.bindingIds, List.filterMap_map]
    rfl
  have hrun : (deleteLoggingStep r).run cloud =
      (if bound.isEmpty then pure .skipped else do
        forEach (Cloud.deleteLogtank r.topicUrn) (cloud.bindingIds r.topicUrn).reduceOption
        return .done : CloudM Step).run listed := by
    rw [deleteLoggingStep, Steps.run_bind_of_ok hlist, ← hids]
  rw [hrun]
  by_cases hempty : bound.isEmpty = true
  · rw [if_pos hempty]
    refine iff_of_true ⟨.skipped, listed, rfl⟩ ?_
    rw [← hids, List.isEmpty_iff.1 hempty]
    exact List.nodup_nil
  · have hthere : ∀ id ∈ (cloud.bindingIds r.topicUrn).reduceOption,
        some id ∈ listed.bindingIds r.topicUrn := fun id hid => List.reduceOption_mem_iff.1 hid
    have hdeletes : listed.isFailing "delete_logtank" r.topicUrn = false := hworks
    rw [if_neg hempty]
    refine Iff.trans ?_ ((forEach_deleteLogtank_ok_iff hdeletes _).trans (and_iff_left hthere))
    constructor
    · rintro ⟨step, after, h⟩
      obtain ⟨_, middle, hmiddle, -⟩ := Steps.of_run_bind_eq_ok h
      exact ⟨middle, hmiddle⟩
    · rintro ⟨after, h⟩
      exact ⟨.done, after, by rw [Steps.run_bind_of_ok h]; rfl⟩

end Action

end CloudPolicy
