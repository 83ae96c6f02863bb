import Mathlib.Data.List.Nodup
import CloudPolicy.Proofs.Pool

/-! What a pool of workers has done when all of them have stopped, for tasks that may fail. The
shared state serves as a journal: it is what the task makes of it on some items in some order. Main
statement: under every interleaving the task is run once on each item of an initial part of the list
and on no other one, and the pool reports a failure exactly when there is one to report. -/

namespace CloudPolicy.Pool

variable {σ α : Type}

/-- The shared state after the task was run on the items at some positions, one after the other. -/
def effects (task : SharedTask σ α) (items : List α) (shared : σ) (order : List Nat) : σ :=
  (order.filterMap (items[·]?)).foldl (fun shared item => (task item shared).2) shared

theorem effects_append (task : SharedTask σ α) (items : List α) (shared : σ)
    (first second : List Nat) : effects task items shared (first ++ second) =
      effects task items (effects task items shared first) second := by
  simp only [effects, List.filterMap_append, List.foldl_append]

theorem effects_singleton {task : SharedTask σ α} {items : List α} {position : Nat} {item : α}
    (hitem : items[position]? = some item) (shared : σ) :
    effects task items shared [position] = (task item shared).2 := by
  simp only [effects, List.filterMap_cons, hitem, List.filterMap_nil, List.foldl_cons,
    List.foldl_nil]

/-- **A finished pool.** Of `items`, with the shared state in the beginning, the task was run on
those at the positions `order`, in this order, and this gave `result`. -/
structure Finishes (task : SharedTask σ α) (outcome : Task α) (items : List α) (shared : σ)
    (order : List Nat) (result : (List α × Option Error) × σ) : Prop where
  /-- No position stands twice, and they are the first ones. -/
  initial : order.Perm (List.range order.length)
  bound : order.length ≤ items.length
  journal : result.2 = effects task items shared order
  after : result.1.1 =
    (items.take order.length).map (fun item => (outcome item).1) ++ items.drop order.length
  ok_iff : result.1.2 = none ↔ ∀ item ∈ items, (outcome item).2 = none
  complete : result.1.2 = none → order.length = items.length
  genuine : ∀ e, result.1.2 = some e →
    ∃ item ∈ items.take order.length, (outcome item).2 = some e

/-- Without a failure the task was run on every item. -/
theorem Finishes.after_of_ok {task : SharedTask σ α} {outcome : Task α} {items : List α}
    {shared : σ} {order : List Nat} {result : (List α × Option Error) × σ}
    (hfinishes : Finishes task outcome items shared order result) (hok : result.1.2 = none) :
    result.1.1 = items.map fun item => (outcome item).1 := by
  rw [hfinishes.after, hfinishes.complete hok, List.take_length, List.drop_length, List.append_nil]

/-! ### Several workers -/

namespace State

variable {keeps : σ → Prop} {outcome : Task α} {task : SharedTask σ α} {items : List α}
  {state : State σ α} {index : Nat}

/-- A worker that turns to something else than an item handles the one that it held. -/
theorem isHandled_setWorker {old new : Worker} (hworker : state.workers[index]? = some old)
    (honce : ∀ (i j : Nat) position, state.workers[i]? = some (.holding position) →
      state.workers[j]? = some (.holding position) → i = j)
    (hbound : ∀ position, old = .holding position → position < state.taken)
    (hnew : ∀ position, new ≠ .holding position) (position : Nat) :
    (state.setWorker index new).IsHandled position ↔
      state.IsHandled position ∨ old = .holding position := by
  have hset := workers_set new hworker
  simp only [IsHandled, IsHeld, setWorker, hset]
  have := honce index
  grind

/-- A step handles the item that its worker holds, and no other one. -/
theorem Coherent.isHandled_step (hstate : Coherent keeps outcome items state)
    (index position : Nat) : (state.step task index).IsHandled position ↔
      state.IsHandled position ∨ state.workers[index]? = some (.holding position) := by
  have hmove {old new : Worker} (hworker : state.workers[index]? = some old)
      (hnew : ∀ position, new ≠ .holding position) :
      (state.setWorker index new).IsHandled position ↔
        state.IsHandled position ∨ state.workers[index]? = some (.holding position) := by
    rw [hworker, Option.some.injEq]
    exact isHandled_setWorker hworker hstate.held_once
      (fun held hheld => hstate.held_lt held ⟨index, hheld ▸ hworker⟩) hnew position
  rw [State.step]
  split
  next hworker =>
    refine hmove hworker fun position => ?_
    split <;> simp
  next hworker =>
    split
    next =>
      -- The taken item is not handled yet: it is held from now on.
      rw [isHandled_take hworker]
      simp [hworker]
    next => exact hmove hworker (by simp)
  next held hworker =>
    have hafter : ∀ result position, afterWork result ≠ .holding position := by
      intro result position
      cases result <;> simp [afterWork]
    rw [State.work]
    split
    next => exact hmove hworker (by simp)
    next item _ => exact hmove hworker (hafter (task item state.shared).1.2)
  next hworker => exact hmove hworker (by simp)
  next hworker => simp [hworker]
  next hworker => simp [hworker]

/-- A step changes the shared state by the task on the item that its worker holds, if it holds
one. -/
theorem Coherent.shared_step (task : SharedTask σ α)
    (hstate : Coherent keeps outcome items state) (index : Nat) :
    (∃ position, state.workers[index]? = some (.holding position) ∧
      (state.step task index).shared = effects task items state.shared [position]) ∨
    (∀ position, state.workers[index]? ≠ some (.holding position)) ∧
      (state.step task index).shared = state.shared := by
  rw [State.step]
  split
  next hworker => exact .inr ⟨by simp [hworker], rfl⟩
  next hworker =>
    refine .inr ⟨by simp [hworker], ?_⟩
    split <;> rfl
  next position hworker =>
    have hheld : state.IsHeld position := ⟨index, hworker⟩
    have hlt : position < items.length := Nat.lt_of_lt_of_le (hstate.held_lt _ hheld) hstate.bound
    have hgiven : items[position]? = some items[position] := List.getElem?_eq_getElem hlt
    have hitem : state.items[position]? = some items[position] := by
      rw [hstate.untouched position fun hhandled => hhandled.2 hheld, hgiven]
    refine .inl ⟨position, hworker, ?_⟩
    rw [work_of_getElem? hitem, effects_singleton hgiven]
    rfl
  next hworker => exact .inr ⟨by simp [hworker], rfl⟩
  next hworker => exact .inr ⟨by simp [hworker], rfl⟩
  next hworker => exact .inr ⟨by simp [hworker], rfl⟩

/-- The shared state is a journal of the positions `order`: the task was run on the items there, one
after the other, and on no item twice. -/
structure Journals (task : SharedTask σ α) (items : List α) (shared : σ) (order : List Nat)
    (state : State σ α) : Prop where
  nodup : order.Nodup
  handled : ∀ position, position ∈ order ↔ state.IsHandled position
  journal : state.shared = effects task items shared order

theorem Journals.step {shared : σ} {order : List Nat} (hstate : Coherent keeps outcome items state)
    (hjournals : Journals task items shared order state) (index : Nat) :
    ∃ later, Journals task items shared (order ++ later) (state.step task index) := by
  rcases hstate.shared_step task index with ⟨position, hworker, hshared⟩ | ⟨hidle, hshared⟩
  · refine ⟨[position], ?_, ?_, ?_⟩
    · have hfresh : position ∉ order := fun hmem =>
        ((hjournals.handled position).1 hmem).2 ⟨index, hworker⟩
      exact List.nodup_append.2 ⟨hjournals.nodup, List.nodup_singleton position, by grind⟩
    · intro other
      rw [hstate.isHandled_step, List.mem_append, hjournals.handled, hworker]
      simp [eq_comm]
    · rw [hshared, hjournals.journal, effects_append]
  · refine ⟨[], ?_, ?_, ?_⟩
    · rw [List.append_nil]
      exact hjournals.nodup
    · intro other
      rw [hstate.isHandled_step, List.append_nil, hjournals.handled, or_iff_left (hidle other)]
    · rw [hshared, hjournals.journal, List.append_nil]

theorem Journals.run (hsettles : Settles keeps outcome task) {shared : σ} {order : List Nat}
    (hstate : Coherent keeps outcome items state)
    (hjournals : Journals task items shared order state) (schedule : List Nat) :
    ∃ later, Journals task items shared (order ++ later) (state.run task schedule) := by
  induction schedule generalizing state order with
  | nil => exact ⟨[], (List.append_nil order).symm ▸ hjournals⟩
  | cons index schedule ih =>
      obtain ⟨first, hfirst⟩ := hjournals.step hstate index
      obtain ⟨rest, hrest⟩ := ih (hstate.step hsettles index) hfirst
      exact ⟨first ++ rest, List.append_assoc order first rest ▸ hrest⟩

theorem journals_start (task : SharedTask σ α) (shared : σ) (items : List α) (workers : Nat) :
    Journals task items shared [] (start shared items workers) where
  nodup := List.nodup_nil
  handled := fun position => ⟨nofun, fun hhandled => absurd hhandled.1 (Nat.not_lt_zero position)⟩
  journal := rfl

/-- A coherent pool whose workers have all stopped has finished. -/
theorem Coherent.finishes (hstate : Coherent keeps outcome items state) {shared : σ}
    {order : List Nat} (hjournals : Journals task items shared order state)
    (hworkers : 0 < state.workers.length)
    (hstopped : ∀ index < state.workers.length, state.workers[index]? = some .stopped) :
    Finishes task outcome items shared order ((state.items, state.failure), state.shared) := by
  have hidle : ∀ (index : Nat) worker, state.workers[index]? = some worker → worker = .stopped := by
    intro index worker hworker
    rw [hstopped index (lt_of_worker hworker), Option.some.injEq] at hworker
    exact hworker.symm
  have hhandled : ∀ position, state.IsHandled position ↔ position < state.taken := by
    refine fun position => and_iff_left ?_
    rintro ⟨index, hworker⟩
    cases hidle index _ hworker
  have hperm : order.Perm (List.range state.taken) := by
    refine (List.perm_ext_iff_of_nodup hjournals.nodup List.nodup_range).2 fun position => ?_
    rw [hjournals.handled, hhandled, List.mem_range]
  have hlength : order.length = state.taken := by
    rw [hperm.length_eq, List.length_range]
  have hgenuine : ∀ e, state.failure = some e →
      ∃ item ∈ items.take state.taken, (outcome item).2 = some e := by
    intro e he
    obtain ⟨position, item, hposition, hitem, hresult⟩ := hstate.genuine e (.inl he)
    refine ⟨item, List.mem_of_getElem? (i := position) ?_, hresult⟩
    rw [List.getElem?_take_of_lt ((hhandled position).1 hposition), hitem]
  -- Workers stop without a failure only when no item is left.
  have hcomplete : state.failure = none → state.taken = items.length := by
    intro hnone
    refine (hstate.exhausted 0 (hstopped 0 hworkers)).resolve_left fun hgivenUp => ?_
    rw [hstate.flagged, hnone] at hgivenUp
    cases hgivenUp
  constructor
  case initial => rwa [hlength]
  case bound =>
    rw [hlength]
    exact hstate.bound
  case journal => exact hjournals.journal
  case genuine => rwa [hlength]
  case after =>
    have htaken : ((items.take state.taken).map fun item => (outcome item).1).length =
        state.taken := by
      rw [List.length_map, List.length_take_of_le hstate.bound]
    refine List.ext_getElem? fun position => ?_
    rw [hlength]
    by_cases hposition : position < state.taken
    · rw [hstate.handled position ((hhandled position).2 hposition),
        List.getElem?_append_left (htaken.symm ▸ hposition), List.getElem?_map,
        List.getElem?_take_of_lt hposition]
    · have hle : state.taken ≤ position := Nat.le_of_not_lt hposition
      rw [hstate.untouched position (mt (hhandled position).1 hposition),
        List.getElem?_append_right (htaken.symm ▸ hle), htaken, List.getElem?_drop,
        Nat.add_sub_cancel' hle]
  case complete =>
    rw [hlength]
    exact hcomplete
  case ok_iff =>
    constructor
    · intro hnone item hitem
      have hall := hcomplete hnone
      have hnone : state.failure = none := hnone
      obtain ⟨position, hlt, hget⟩ := List.getElem_of_mem hitem
      refine Option.eq_none_iff_forall_ne_some.2 fun e he => ?_
      have hposition : state.IsHandled position := (hhandled position).2 (hall ▸ hlt)
      rcases hstate.reported position item e hposition (hget ▸ List.getElem?_eq_getElem hlt) he with
        hkept | ⟨other, index, hworker⟩
      · rw [hnone] at hkept
        cases hkept
      · cases hidle index _ hworker
    · intro hok
      refine Option.eq_none_iff_forall_ne_some.2 fun e he => ?_
      obtain ⟨item, hitem, hresult⟩ := hgenuine e he
      rw [hok item (List.mem_of_mem_take hitem)] at hresult
      cases hresult

end State

/-! ### One item after the other -/

variable {keeps : σ → Prop} {outcome : Task α} {task : SharedTask σ α}

theorem effects_cons (item : α) (items : List α) (shared : σ) (order : List Nat) :
    effects task (item :: items) shared (0 :: order.map (· + 1)) =
      effects task items (task item shared).2 order := by
  simp only [effects, List.filterMap_cons, List.getElem?_cons_zero, List.foldl_cons,
    List.filterMap_map, Function.comp_def, List.getElem?_cons_succ]

theorem inOrder_cons_of_ok {item after : α} {shared middle : σ}
    (htask : task item shared = ((after, none), middle)) (items : List α) :
    inOrder task (item :: items) shared = ((after :: (inOrder task items middle).1.1,
      (inOrder task items middle).1.2), (inOrder task items middle).2) := by
  simp only [inOrder, htask]
  rfl

theorem inOrder_cons_of_error {item after : α} {shared middle : σ} {e : Error}
    (htask : task item shared = ((after, some e), middle)) (items : List α) :
    inOrder task (item :: items) shared = ((after :: items, some e), middle) := by
  simp only [inOrder, htask]

theorem finishes_cons_of_ok {item after : α} {items : List α} {shared middle : σ}
    {order : List Nat} (hresult : outcome item = (after, none))
    (htask : task item shared = ((after, none), middle))
    (hrest : Finishes task outcome items middle order (inOrder task items middle)) :
    Finishes task outcome (item :: items) shared (0 :: order.map (· + 1))
      (inOrder task (item :: items) shared) := by
  have hlength : (0 :: order.map (· + 1)).length = order.length + 1 := by simp
  rw [inOrder_cons_of_ok htask]
  constructor
  case initial =>
    rw [hlength, List.range_succ_eq_map]
    exact (hrest.initial.map (· + 1)).cons 0
  case bound =>
    rw [hlength]
    exact Nat.succ_le_succ hrest.bound
  case journal => rw [effects_cons, htask, hrest.journal]
  case after =>
    rw [hlength, List.take_succ_cons, List.drop_succ_cons, List.map_cons, List.cons_append,
      hrest.after, hresult]
  case ok_iff => rw [List.forall_mem_cons, ← hrest.ok_iff, hresult, and_iff_right rfl]
  case complete =>
    intro hnone
    rw [hlength, hrest.complete hnone, List.length_cons]
  case genuine =>
    intro e he
    obtain ⟨other, hother, hfails⟩ := hrest.genuine e he
    rw [hlength, List.take_succ_cons]
    exact ⟨other, List.mem_cons_of_mem item hother, hfails⟩

/-- The first item that the task fails on is the last one that it is run on. -/
theorem finishes_cons_of_error {item after : α} {shared middle : σ} {e : Error}
    (hresult : outcome item = (after, some e))
    (htask : task item shared = ((after, some e), middle)) (items : List α) :
    Finishes task outcome (item :: items) shared [0] (inOrder task (item :: items) shared) := by
  rw [inOrder_cons_of_error htask]
  constructor
  case initial => exact .refl _
  case bound => exact Nat.succ_le_succ (Nat.zero_le _)
  case journal => rw [effects_singleton List.getElem?_cons_zero, htask]
  case after => simp [hresult]
  case ok_iff => simp [hresult]
  case complete => nofun
  case genuine =>
    rintro _ ⟨⟩
    exact ⟨item, List.mem_cons_self, by rw [hresult]⟩

theorem inOrder_finishes (hsettles : Settles keeps outcome task) (items : List α) {shared : σ}
    (hshared : keeps shared) :
    ∃ order, Finishes task outcome items shared order (inOrder task items shared) := by
  induction items generalizing shared with
  | nil => exact ⟨[], .refl _, Nat.le_refl _, rfl, rfl, ⟨nofun, fun _ => rfl⟩, fun _ => rfl, nofun⟩
  | cons item items ih =>
      obtain ⟨middle, htask, hmiddle⟩ := hsettles item shared hshared
      rcases hresult : outcome item with ⟨after, _ | e⟩
      all_goals rw [hresult] at htask
      · obtain ⟨order, horder⟩ := ih hmiddle
        exact ⟨_, finishes_cons_of_ok hresult htask horder⟩
      · exact ⟨_, finishes_cons_of_error hresult htask items⟩

/-! ### Every schedule -/

/-- When all workers have stopped, further steps change nothing. -/
theorem State.run_of_isDone {state : State σ α} (hdone : state.isDone) (schedule : List Nat) :
    state.run task schedule = state := by
  have hstep (index : Nat) : state.step task index = state := by
    rw [State.step]
    cases hworker : state.workers[index]? with
    | none => rfl
    | some worker =>
        have hstopped := List.all_eq_true.1 hdone worker (List.mem_of_getElem? hworker)
        rw [of_decide_eq_true hstopped]
  induction schedule with
  | nil => rfl
  | cons index schedule ih =>
      rw [State.run, List.foldl_cons, hstep]
      exact ih

/-- **A pool under every interleaving.** The task does to an item what `outcome` says, and to the
shared state anything. Then, for every list of items, every count of workers and every order of
their steps, the pool runs the task on the first items of the list, once on each, and on no other
one; it fails exactly when the task fails on some item, and then with the failure of an item that
the task was run on; and when it does not fail, it leaves the items as the work on one after the
other does. Orders in which every worker stops on its own are among those considered. -/
theorem fanOutWith_finishes (task : SharedTask σ α) (outcome : Task α)
    (htask : ∀ item shared, (task item shared).1 = outcome item) (items : List α) (workers : Nat)
    (schedule : List Nat) (shared : σ) :
    let result : (List α × Option Error) × σ := fanOutWith schedule task items workers shared
    let count := min (max workers 1) items.length
    let state := (State.start shared items count).run task schedule
    (∃ order, Finishes task outcome items shared order result) ∧
    (result.1.2 = none → result.1.1 = (inOrder task items shared).1.1) ∧
    (1 < count → state.isDone → result = ((state.items, state.failure), state.shared)) := by
  intro result count state
  have hsettles : Settles (fun _ => True) outcome task := fun item shared _ =>
    ⟨(task item shared).2, Prod.ext (htask item shared) rfl, trivial⟩
  obtain ⟨sequential, hsequential⟩ :
      ∃ order, Finishes task outcome items shared order (inOrder task items shared) :=
    inOrder_finishes hsettles items trivial
  have hfinishes : ∃ order, Finishes task outcome items shared order result := by
    by_cases hcount : count ≤ 1
    · refine ⟨sequential, ?_⟩
      simp only [result, fanOutWith]
      rwa [if_pos hcount]
    · let last := (State.start shared items count).run task
        (schedule ++ oneByOne items.length count)
      have hlast : result = ((last.items, last.failure), last.shared) := by
        simp only [result, fanOutWith]
        rw [if_neg hcount]
      have hstart : State.Coherent (fun _ => True) outcome items
          (State.start shared items count) := State.coherent_start trivial items count
      obtain ⟨order, hjournals⟩ := (State.journals_start task shared items count).run hsettles
        hstart (schedule ++ oneByOne items.length count)
      obtain ⟨hlength, hstopped⟩ := State.stopped_at_end task shared items count schedule
      rw [hlast]
      exact ⟨order, (hstart.run hsettles _).finishes hjournals (by rw [hlength]; omega)
        fun index hindex => hstopped index (hlength ▸ hindex)⟩
  refine ⟨hfinishes, fun hok => ?_, fun hcount hdone => ?_⟩
  · obtain ⟨order, horder⟩ := hfinishes
    have hnone := hsequential.ok_iff.2 (horder.ok_iff.1 hok)
    rw [horder.after_of_ok hok, hsequential.after_of_ok hnone]
  · have hmany : ¬ min (max workers 1) items.length ≤ 1 := Nat.not_le.2 hcount
    simp only [result, fanOutWith]
    rw [if_neg hmany, State.run_append, State.run_of_isDone hdone]

/-- The second of three items fails before the first one is worked on, and so the third one is not
taken. -/
theorem finishes_after_early_failure :
    let outcome : Task Nat := fun item =>
      (2 * item, if item = 20 then some (.execution "item 20") else none)
    let task : SharedTask (List Nat) Nat := fun item journal => (outcome item, journal ++ [item])
    let result : (List Nat × Option Error) × List Nat :=
      fanOutWith [0, 0, 1, 1, 1, 0, 1] task [10, 20, 30] 7 []
    (∀ item journal, (task item journal).1 = outcome item) ∧
      result = (([20, 40, 30], some (.execution "item 20")), [20, 10]) ∧
      ∃ order, Finishes task outcome [10, 20, 30] [] order result := by
  intro outcome task result
  have htask : ∀ item journal, (task item journal).1 = outcome item := fun _ _ => rfl
  exact ⟨htask, by decide +kernel, (fanOutWith_finishes task outcome htask _ _ _ _).1⟩

end CloudPolicy.Pool
