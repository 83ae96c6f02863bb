import CloudPolicy.Pool

/-! The pool of workers under every schedule. The workers share the list of items, the count of the
taken ones, the flag that gives the work up and the slot for a failure; one invariant ties these to
what each worker is about to do, and every step of every worker keeps it. The schedule that the pool
ends with lets each worker stop. -/

namespace CloudPolicy.Pool

variable {σ α : Type}

/-- What the task makes of an item is `outcome`, and does not depend on the shared state as long as
that has a property which the task keeps. -/
def Settles (keeps : σ → Prop) (outcome : Task α) (task : SharedTask σ α) : Prop :=
  ∀ item shared, keeps shared → ∃ after, task item shared = (outcome item, after) ∧ keeps after

namespace State

variable {keeps : σ → Prop} {outcome : Task α} {task : SharedTask σ α} {items : List α}
  {state : State σ α} {index : Nat}

/-- Some worker is about to work on the item at a position. -/
def IsHeld (state : State σ α) (position : Nat) : Prop :=
  ∃ index : Nat, state.workers[index]? = some (.holding position)

/-- Some worker is about to give the work up. -/
def IsFailing (state : State σ α) (e : Error) : Prop :=
  ∃ index : Nat, state.workers[index]? = some (.failing e)

/-- The task was run on the item at a position. -/
def IsHandled (state : State σ α) (position : Nat) : Prop :=
  position < state.taken ∧ ¬ state.IsHeld position

/-- The items are as they were, or as the task leaves those that it was run on. -/
structure Worked (keeps : σ → Prop) (outcome : Task α) (items : List α) (state : State σ α) :
    Prop where
  kept : keeps state.shared
  length : state.items.length = items.length
  untouched : ∀ position, ¬ state.IsHandled position → state.items[position]? = items[position]?
  handled : ∀ position, state.IsHandled position →
    state.items[position]? = items[position]?.map fun item => (outcome item).1

/-- How the shared parts of a pool fit the states of its workers. -/
structure Coherent (keeps : σ → Prop) (outcome : Task α) (items : List α) (state : State σ α) :
    Prop extends Worked keeps outcome items state where
  bound : state.taken ≤ items.length
  /-- A held item was taken, by one worker. -/
  held_lt : ∀ position, state.IsHeld position → position < state.taken
  held_once : ∀ (i j : Nat) position, state.workers[i]? = some (.holding position) →
    state.workers[j]? = some (.holding position) → i = j
  /-- A failure is kept or about to be kept, and each one that is comes from an item. -/
  reported : ∀ (position : Nat) item e, state.IsHandled position → items[position]? = some item →
    (outcome item).2 = some e → state.failure.isSome ∨ ∃ other, state.IsFailing other
  genuine : ∀ e, state.failure = some e ∨ state.IsFailing e → ∃ (position : Nat) (item : α),
    state.IsHandled position ∧ items[position]? = some item ∧ (outcome item).2 = some e
  /-- The work was given up exactly when a failure is kept. -/
  flagged : state.givenUp = state.failure.isSome
  /-- Without that, workers stop when all items are taken. -/
  exhausted : ∀ index : Nat, state.workers[index]? = some .stopped →
    state.givenUp = true ∨ state.taken = items.length

/-! ### Single steps -/

theorem lt_of_worker {worker : Worker} (hworker : state.workers[index]? = some worker) :
    index < state.workers.length :=
  (List.getElem?_eq_some_iff.1 hworker).1

theorem workers_set {worker : Worker} {workers : List Worker} (new : Worker)
    (hworker : workers[index]? = some worker) (other : Nat) :
    (workers.set index new)[other]? = if index = other then some new else workers[other]? := by
  have hindex : index < workers.length := (List.getElem?_eq_some_iff.1 hworker).1
  simp [List.getElem?_set, hindex]

/-- A step that runs the task on no item leaves the items as they are. -/
theorem Worked.congr (hstate : Worked keeps outcome items state) {next : State σ α}
    (hshared : next.shared = state.shared) (hitems : next.items = state.items)
    (hhandled : ∀ position, next.IsHandled position ↔ state.IsHandled position) :
    Worked keeps outcome items next where
  kept := by
    rw [hshared]
    exact hstate.kept
  length := by
    rw [hitems]
    exact hstate.length
  untouched := by
    intro position
    rw [hhandled, hitems]
    exact hstate.untouched position
  handled := by
    intro position
    rw [hhandled, hitems]
    exact hstate.handled position

/-- What a worker goes on to after it has worked on an item. -/
def afterWork : Option Error → Worker
  | some e => .failing e
  | none => .checking

theorem work_of_getElem? {position : Nat} {item : α} (hitem : state.items[position]? = some item) :
    state.work task index position =
      { state with
        shared := (task item state.shared).2
        items := state.items.set position (task item state.shared).1.1 }.setWorker index
          (afterWork (task item state.shared).1.2) := by
  simp only [work, hitem]
  rfl

/-- A worker that holds nothing goes on to hold nothing. -/
theorem Coherent.move (hstate : Coherent keeps outcome items state) {old new : Worker}
    (hworker : state.workers[index]? = some old) (hold : old = .checking ∨ old = .taking)
    (hnew : new = .taking ∨
      new = .stopped ∧ (state.givenUp = true ∨ state.taken = items.length)) :
    Coherent keeps outcome items (state.setWorker index new) := by
  have hset := workers_set new hworker
  have hheld : ∀ position, (state.setWorker index new).IsHeld position ↔ state.IsHeld position := by
    intro position
    simp only [IsHeld, setWorker, hset]
    grind
  have hfailing : ∀ e, (state.setWorker index new).IsFailing e ↔ state.IsFailing e := by
    intro e
    simp only [IsFailing, setWorker, hset]
    grind
  have hhandled : ∀ position,
      (state.setWorker index new).IsHandled position ↔ state.IsHandled position := by
    intro position
    simp only [IsHandled, hheld]
    rfl
  constructor
  case toWorked => exact hstate.toWorked.congr rfl rfl hhandled
  case bound => exact hstate.bound
  case held_lt =>
    intro position
    rw [hheld]
    exact hstate.held_lt position
  case held_once =>
    intro i j position
    simp only [setWorker, hset]
    have := hstate.held_once i j position
    grind
  case reported =>
    intro position item e
    simp only [hhandled, hfailing]
    exact hstate.reported position item e
  case genuine =>
    intro e
    simp only [hhandled, hfailing]
    exact hstate.genuine e
  case flagged => exact hstate.flagged
  case exhausted =>
    intro other
    simp only [setWorker, hset]
    have := hstate.exhausted other
    grind

/-- The item that a worker takes is held from then on. -/
theorem isHeld_take (hworker : state.workers[index]? = some .taking) (position : Nat) :
    ({ state with taken := state.taken + 1 }.setWorker index (.holding state.taken)).IsHeld
      position ↔ position = state.taken ∨ state.IsHeld position := by
  have hset := workers_set (.holding state.taken) hworker
  simp only [IsHeld, setWorker, hset]
  grind

theorem isHandled_take (hworker : state.workers[index]? = some .taking) (position : Nat) :
    ({ state with taken := state.taken + 1 }.setWorker index (.holding state.taken)).IsHandled
      position ↔ state.IsHandled position := by
  rw [IsHandled, IsHandled, isHeld_take hworker]
  show position < state.taken + 1 ∧ _ ↔ _
  grind

/-- A worker takes the next item. -/
theorem Coherent.take (hstate : Coherent keeps outcome items state)
    (hworker : state.workers[index]? = some .taking) (hleft : state.taken < items.length) :
    Coherent keeps outcome items
      ({ state with taken := state.taken + 1 }.setWorker index (.holding state.taken)) := by
  let next := { state with taken := state.taken + 1 }.setWorker index (.holding state.taken)
  have hset := workers_set (.holding state.taken) hworker
  have hheld : ∀ position,
      next.IsHeld position ↔ position = state.taken ∨ state.IsHeld position :=
    isHeld_take hworker
  have hfailing : ∀ e, next.IsFailing e ↔ state.IsFailing e := by
    intro e
    simp only [IsFailing, next, setWorker, hset]
    grind
  have hhandled : ∀ position, next.IsHandled position ↔ state.IsHandled position :=
    isHandled_take hworker
  show Coherent keeps outcome items next
  constructor
  case toWorked => exact hstate.toWorked.congr rfl rfl hhandled
  case bound => exact hleft
  case held_lt =>
    intro position hposition
    show position < state.taken + 1
    rcases (hheld position).1 hposition with rfl | hold
    · exact Nat.lt_succ_self _
    · exact Nat.lt_succ_of_lt (hstate.held_lt position hold)
  case held_once =>
    intro i j position
    simp only [next, setWorker, hset]
    -- No other worker holds the item that is taken now: held items were taken before.
    have hfresh : ∀ i : Nat, state.workers[i]? ≠ some (.holding state.taken) := fun i hi =>
      absurd (hstate.held_lt _ ⟨i, hi⟩) (Nat.lt_irrefl _)
    have := hstate.held_once i j position
    grind
  case reported =>
    intro position item e
    simp only [hhandled, hfailing]
    exact hstate.reported position item e
  case genuine =>
    intro e
    simp only [hhandled, hfailing]
    exact hstate.genuine e
  case flagged => exact hstate.flagged
  case exhausted =>
    intro other hother
    simp only [next, setWorker, hset] at hother
    show state.givenUp = true ∨ state.taken + 1 = items.length
    have := hstate.exhausted other
    grind

/-- A worker works on the item that it holds. -/
theorem Coherent.work (hsettles : Settles keeps outcome task)
    (hstate : Coherent keeps outcome items state) {position : Nat}
    (hworker : state.workers[index]? = some (.holding position)) :
    Coherent keeps outcome items (state.work task index position) := by
  have hheldAt : state.IsHeld position := ⟨index, hworker⟩
  have hlt : position < items.length := Nat.lt_of_lt_of_le (hstate.held_lt _ hheldAt) hstate.bound
  have hitem : state.items[position]? = some items[position] := by
    rw [hstate.untouched position fun hhandled => hhandled.2 hheldAt, List.getElem?_eq_getElem hlt]
  obtain ⟨after, htask, hafter⟩ := hsettles items[position] state.shared hstate.kept
  let result := outcome items[position]
  let next :=
    { state with shared := after, items := state.items.set position result.1 }.setWorker index
      (afterWork result.2)
  have hwork : state.work task index position = next := by
    rw [work_of_getElem? hitem, htask]
  have hfails : ∀ e, afterWork result.2 = .failing e ↔ result.2 = some e := by
    intro e
    cases result.2 <;> simp [afterWork]
  have hidle : (∀ held, afterWork result.2 ≠ .holding held) ∧ afterWork result.2 ≠ .stopped := by
    cases result.2 <;> simp [afterWork]
  rw [hwork]
  have hset := workers_set (afterWork result.2) hworker
  have hheld : ∀ other, next.IsHeld other ↔ other ≠ position ∧ state.IsHeld other := by
    intro other
    have honce := hstate.held_once index
    simp only [IsHeld, next, setWorker, hset]
    grind
  have hfailing : ∀ e, next.IsFailing e ↔ result.2 = some e ∨ state.IsFailing e := by
    intro e
    simp only [IsFailing, next, setWorker, hset]
    grind
  have hhandled : ∀ other, next.IsHandled other ↔ other = position ∨ state.IsHandled other := by
    intro other
    have hltaken := hstate.held_lt position hheldAt
    simp only [IsHandled, hheld]
    show other < state.taken ∧ _ ↔ _
    grind
  have hworked : Worked keeps outcome items next := by
    constructor
    case kept => exact hafter
    case length => simpa [next, setWorker] using hstate.length
    case untouched =>
      intro other hother
      rw [hhandled] at hother
      have hne : position ≠ other := fun heq => hother (.inl heq.symm)
      show (state.items.set position result.1)[other]? = _
      rw [List.getElem?_set_ne hne, hstate.untouched other fun h => hother (.inr h)]
    case handled =>
      intro other hother
      show (state.items.set position result.1)[other]? = _
      rcases (hhandled other).1 hother with rfl | hbefore
      · rw [List.getElem?_set_self (by rw [hstate.length]; exact hlt),
          List.getElem?_eq_getElem hlt]
        rfl
      · have hne : position ≠ other := fun heq => hbefore.2 (heq ▸ hheldAt)
        rw [List.getElem?_set_ne hne, hstate.handled other hbefore]
  constructor
  case toWorked => exact hworked
  case bound => exact hstate.bound
  case held_lt =>
    intro other hother
    exact hstate.held_lt other ((hheld other).1 hother).2
  case held_once =>
    intro i j other
    simp only [next, setWorker, hset]
    have := hstate.held_once i j other
    grind
  case reported =>
    intro other item e hother hget hresult
    show state.failure.isSome ∨ ∃ other, next.IsFailing other
    simp only [hfailing]
    rcases (hhandled other).1 hother with rfl | hbefore
    · rw [List.getElem?_eq_getElem hlt, Option.some.injEq] at hget
      subst hget
      exact .inr ⟨e, .inl hresult⟩
    · rcases hstate.reported other item e hbefore hget hresult with hkept | ⟨failing, hfailing⟩
      · exact .inl hkept
      · exact .inr ⟨failing, .inr hfailing⟩
  case genuine =>
    intro e he
    simp only [hhandled]
    rw [hfailing] at he
    rcases he with hkept | hresult | hbefore
    · obtain ⟨other, item, hother, hrest⟩ := hstate.genuine e (.inl hkept)
      exact ⟨other, item, .inr hother, hrest⟩
    · exact ⟨position, _, .inl rfl, List.getElem?_eq_getElem hlt, hresult⟩
    · obtain ⟨other, item, hother, hrest⟩ := hstate.genuine e (.inr hbefore)
      exact ⟨other, item, .inr hother, hrest⟩
  case flagged => exact hstate.flagged
  case exhausted =>
    intro other hother
    simp only [next, setWorker, hset] at hother
    show state.givenUp = true ∨ state.taken = items.length
    have := hstate.exhausted other
    grind

/-- A worker gives the work up and keeps its failure. -/
theorem Coherent.giveUp (hstate : Coherent keeps outcome items state) {e : Error}
    (hworker : state.workers[index]? = some (.failing e)) :
    Coherent keeps outcome items
      ({ state with givenUp := true, failure := state.failure.or (some e) }.setWorker index
        .stopped) := by
  let next :=
    { state with givenUp := true, failure := state.failure.or (some e) }.setWorker index .stopped
  have hset := workers_set .stopped hworker
  have hheld : ∀ position, next.IsHeld position ↔ state.IsHeld position := by
    intro position
    simp only [IsHeld, next, setWorker, hset]
    grind
  have hfailing : ∀ other, next.IsFailing other → state.IsFailing other := by
    intro other
    simp only [IsFailing, next, setWorker, hset]
    grind
  have hhandled : ∀ position, next.IsHandled position ↔ state.IsHandled position := by
    intro position
    simp only [IsHandled, hheld]
    rfl
  show Coherent keeps outcome items next
  constructor
  case toWorked => exact hstate.toWorked.congr rfl rfl hhandled
  case bound => exact hstate.bound
  case held_lt =>
    intro position
    rw [hheld]
    exact hstate.held_lt position
  case held_once =>
    intro i j position
    simp only [next, setWorker, hset]
    have := hstate.held_once i j position
    grind
  case reported =>
    intro position item other _ _ _
    exact .inl (by simp [next, setWorker])
  case genuine =>
    intro other hother
    simp only [hhandled]
    refine hstate.genuine other ?_
    rcases hother with hkept | hheld
    · cases hfailure : state.failure with
      | none =>
          simp only [next, setWorker, hfailure, Option.none_or, Option.some.injEq] at hkept
          exact .inr ⟨index, hkept ▸ hworker⟩
      | some first =>
          simp only [next, setWorker, hfailure, Option.some_or, Option.some.injEq] at hkept
          exact .inl (congrArg some hkept)
    · exact .inr (hfailing other hheld)
  case flagged => simp [next, setWorker]
  case exhausted => exact fun _ _ => .inl rfl

/-- **What every step keeps.** Whichever worker takes the next step, the pool stays coherent. -/
theorem Coherent.step (hsettles : Settles keeps outcome task)
    (hstate : Coherent keeps outcome items state) (index : Nat) :
    Coherent keeps outcome items (state.step task index) := by
  rw [State.step]
  split
  next hworker =>
    refine hstate.move hworker (.inl rfl) ?_
    by_cases hgivenUp : state.givenUp = true
    · simp [hgivenUp]
    · simp [hgivenUp]
  next hworker =>
    rw [hstate.length]
    split
    next hleft => exact hstate.take hworker hleft
    next hleft =>
      exact hstate.move hworker (.inr rfl)
        (.inr ⟨rfl, .inr (Nat.le_antisymm hstate.bound (Nat.le_of_not_lt hleft))⟩)
  next position hworker => exact hstate.work hsettles hworker
  next e hworker => exact hstate.giveUp hworker
  next => exact hstate
  next => exact hstate

theorem Coherent.run (hsettles : Settles keeps outcome task)
    (hstate : Coherent keeps outcome items state) (schedule : List Nat) :
    Coherent keeps outcome items (state.run task schedule) := by
  induction schedule generalizing state with
  | nil => exact hstate
  | cons index schedule ih => exact ih (hstate.step hsettles index)

theorem coherent_start {shared : σ} (hshared : keeps shared) (items : List α) (workers : Nat) :
    Coherent keeps outcome items (start shared items workers) := by
  have hchecking : ∀ (index : Nat) worker,
      (start shared items workers).workers[index]? = some worker → worker = .checking := by
    intro index worker hworker
    exact List.eq_of_mem_replicate (List.mem_of_getElem? hworker)
  have hheld : ∀ position, ¬ (start shared items workers).IsHeld position := by
    rintro position ⟨index, hindex⟩
    cases hchecking index _ hindex
  have hfailing : ∀ e, ¬ (start shared items workers).IsFailing e := by
    rintro e ⟨index, hindex⟩
    cases hchecking index _ hindex
  have hhandled : ∀ position, ¬ (start shared items workers).IsHandled position :=
    fun position hposition => Nat.not_lt_zero position hposition.1
  constructor
  case toWorked =>
    exact ⟨hshared, rfl, fun _ _ => rfl, fun position hposition =>
      absurd hposition (hhandled position)⟩
  case bound => exact Nat.zero_le _
  case held_lt => exact fun position hposition => absurd hposition (hheld position)
  case held_once => exact fun i _ position hi => absurd ⟨i, hi⟩ (hheld position)
  case reported => exact fun position _ _ hposition => absurd hposition (hhandled position)
  case genuine =>
    rintro e (hkept | he)
    · cases hkept
    · exact absurd he (hfailing e)
  case flagged => rfl
  case exhausted =>
    intro index hindex
    cases hchecking index _ hindex

/-! ### Stopping -/

/-- How many steps of its own a worker takes at most, when so many items are left. -/
def stepsLeft (left : Nat) : Worker → Nat
  | .checking => 3 * left + 2
  | .taking => 3 * left + 1
  | .holding _ => 3 * left + 3
  | .failing _ => 1
  | .stopped => 0

/-- A step of a worker leaves the other workers where they are. -/
theorem workers_step_of_ne {other : Nat} (hne : index ≠ other) :
    (state.step task index).workers[other]? = state.workers[other]? := by
  have hset : ∀ (workers : List Worker) worker,
      (workers.set index worker)[other]? = workers[other]? :=
    fun _ _ => List.getElem?_set_ne hne
  rw [step]
  split
  next => exact hset _ _
  next =>
    split
    next => exact hset _ _
    next => exact hset _ _
  next position _ =>
    rw [work]
    split
    next => exact hset _ _
    next => exact hset _ _
  next => exact hset _ _
  next => rfl
  next => rfl

@[simp] theorem length_workers_step :
    (state.step task index).workers.length = state.workers.length := by
  rw [step]
  split
  next => exact List.length_set
  next => split <;> exact List.length_set
  next => rw [work]; split <;> exact List.length_set
  next => exact List.length_set
  next => rfl
  next => rfl

@[simp] theorem length_items_step : (state.step task index).items.length = state.items.length := by
  rw [step]
  split
  next => rfl
  next => split <;> rfl
  next position _ =>
    cases hitem : state.items[position]? with
    | none => rw [work, hitem]; rfl
    | some item => rw [work_of_getElem? hitem]; exact List.length_set
  next => rfl
  next => rfl
  next => rfl

/-- A worker that has not stopped comes closer to it with each step of its own. -/
theorem stepsLeft_step (task : SharedTask σ α) {worker : Worker}
    (hworker : state.workers[index]? = some worker) (hrunning : worker ≠ .stopped) :
    ∃ next, (state.step task index).workers[index]? = some next ∧
      stepsLeft (state.items.length - (state.step task index).taken) next <
        stepsLeft (state.items.length - state.taken) worker := by
  have hset : ∀ new, (state.workers.set index new)[index]? = some new := by
    intro new
    rw [workers_set new hworker, if_pos rfl]
  cases worker with
  | checking =>
      refine ⟨if state.givenUp then .stopped else .taking, ?_, ?_⟩
      · simp only [step, hworker, setWorker, hset]
      · cases hgivenUp : state.givenUp <;> simp [step, hworker, setWorker, stepsLeft]
  | taking =>
      by_cases hleft : state.taken < state.items.length
      · refine ⟨.holding state.taken, ?_, ?_⟩
        · simp only [step, hworker, if_pos hleft, setWorker, hset]
        · simp only [step, hworker, if_pos hleft, setWorker, stepsLeft]
          omega
      · refine ⟨.stopped, ?_, ?_⟩
        · simp only [step, hworker, if_neg hleft, setWorker, hset]
        · simp only [stepsLeft]
          omega
  | holding position =>
      have htaken : (state.step task index).taken = state.taken := by
        simp only [step, hworker, work]
        split <;> rfl
      rw [htaken]
      cases hitem : state.items[position]? with
      | none =>
          refine ⟨.checking, ?_, ?_⟩
          · simp only [step, hworker, work, hitem, setWorker, hset]
          · simp only [stepsLeft]
            omega
      | some item =>
          refine ⟨afterWork (task item state.shared).1.2, ?_, ?_⟩
          · simp only [step, hworker, work_of_getElem? hitem, setWorker, hset]
          · cases (task item state.shared).1.2 <;> simp only [afterWork, stepsLeft] <;> omega
  | failing e =>
      refine ⟨.stopped, ?_, ?_⟩
      · simp only [step, hworker, setWorker, hset]
      · simp only [stepsLeft]
        omega
  | stopped => exact absurd rfl hrunning

theorem stopped_step {other : Nat} (hstopped : state.workers[other]? = some .stopped)
    (index : Nat) : (state.step task index).workers[other]? = some .stopped := by
  by_cases hsame : index = other
  · subst hsame
    simp only [step, hstopped]
  · rw [workers_step_of_ne hsame, hstopped]

/-- A worker that has stopped stays so, whatever steps follow. -/
theorem stopped_run {other : Nat} (hstopped : state.workers[other]? = some .stopped)
    (schedule : List Nat) : (state.run task schedule).workers[other]? = some .stopped := by
  induction schedule generalizing state with
  | nil => exact hstopped
  | cons index schedule ih => exact ih (stopped_step hstopped index)

theorem stopped_of_stepsLeft_le {worker : Worker} {count : Nat}
    (hworker : state.workers[index]? = some worker)
    (hcount : stepsLeft (state.items.length - state.taken) worker ≤ count) :
    (state.run task (List.replicate count index)).workers[index]? = some .stopped := by
  induction count generalizing state worker with
  | zero =>
      cases worker <;> simp only [stepsLeft] at hcount
      case stopped => exact hworker
      all_goals omega
  | succ count ih =>
      rw [List.replicate_succ]
      by_cases hrunning : worker = .stopped
      · exact stopped_run (hrunning ▸ hworker) _
      · obtain ⟨next, hnext, hless⟩ := stepsLeft_step task hworker hrunning
        refine ih hnext ?_
        rw [length_items_step]
        omega

theorem run_append (state : State σ α) (first second : List Nat) :
    state.run task (first ++ second) = (state.run task first).run task second :=
  List.foldl_append

theorem length_workers_run (schedule : List Nat) :
    (state.run task schedule).workers.length = state.workers.length := by
  induction schedule generalizing state with
  | nil => rfl
  | cons index schedule ih => exact ih.trans length_workers_step

theorem length_items_run (schedule : List Nat) :
    (state.run task schedule).items.length = state.items.length := by
  induction schedule generalizing state with
  | nil => rfl
  | cons index schedule ih => exact ih.trans length_items_step

/-- When one worker after the other goes on for long enough, all of them stop. -/
theorem stopped_oneByOne {workers : Nat} (hworkers : workers ≤ state.workers.length) {index : Nat}
    (hindex : index < workers) :
    (state.run task (oneByOne state.items.length workers)).workers[index]? = some .stopped := by
  induction workers with
  | zero => exact absurd hindex (Nat.not_lt_zero index)
  | succ workers ih =>
      have hsplit : oneByOne state.items.length (workers + 1) =
          oneByOne state.items.length workers ++
            List.replicate (3 * state.items.length + 3) workers := by
        simp [oneByOne, List.range_succ]
      rw [hsplit, run_append]
      rcases Nat.lt_succ_iff_lt_or_eq.1 hindex with hbefore | rfl
      · exact stopped_run (ih (Nat.le_of_succ_le hworkers) hbefore) _
      · have hlength :
            index < (state.run task (oneByOne state.items.length index)).workers.length := by
          rw [length_workers_run]
          exact hworkers
        refine stopped_of_stepsLeft_le (List.getElem?_eq_getElem hlength) ?_
        rw [length_items_run]
        cases (state.run task (oneByOne state.items.length index)).workers[index] <;>
          simp only [stepsLeft] <;> omega

/-- Whatever steps came before, all workers have stopped in the end. -/
theorem stopped_at_end (task : SharedTask σ α) (shared : σ) (items : List α) (count : Nat)
    (schedule : List Nat) :
    let state := (start shared items count).run task (schedule ++ oneByOne items.length count)
    state.workers.length = count ∧ ∀ index < count, state.workers[index]? = some .stopped := by
  intro state
  let middle := (start shared items count).run task schedule
  have hworkers : middle.workers.length = count := by
    rw [length_workers_run]
    exact List.length_replicate
  have hitems : middle.items.length = items.length := length_items_run schedule
  have hstate : state = middle.run task (oneByOne items.length count) := run_append _ _ _
  rw [hstate, length_workers_run]
  refine ⟨hworkers, fun index hindex => ?_⟩
  rw [← hitems]
  exact stopped_oneByOne (Nat.le_of_eq hworkers.symm) hindex

/-- A coherent pool whose workers have all stopped, when the task fails on no item, has done the
task on every item. -/
theorem Coherent.result (hstate : Coherent keeps outcome items state)
    (hok : ∀ item, (outcome item).2 = none) (hworkers : 0 < state.workers.length)
    (hstopped : ∀ index < state.workers.length, state.workers[index]? = some .stopped) :
    state.items = items.map (fun item => (outcome item).1) ∧ state.failure = none := by
  have hfailure : state.failure = none := by
    cases hkept : state.failure with
    | none => rfl
    | some e =>
        obtain ⟨-, item, -, -, hfails⟩ := hstate.genuine e (.inl hkept)
        rw [hok item] at hfails
        cases hfails
  have htaken : state.taken = items.length := by
    rcases hstate.exhausted 0 (hstopped 0 hworkers) with hgivenUp | htaken
    · rw [hstate.flagged, hfailure] at hgivenUp
      cases hgivenUp
    · exact htaken
  have hheld : ∀ position, ¬ state.IsHeld position := by
    rintro position ⟨index, hindex⟩
    rw [hstopped index (lt_of_worker hindex)] at hindex
    cases hindex
  refine ⟨List.ext_getElem? fun position => ?_, hfailure⟩
  rw [List.getElem?_map]
  by_cases hposition : position < items.length
  · exact hstate.handled position ⟨htaken ▸ hposition, hheld position⟩
  · rw [hstate.untouched position fun hhandled => hposition (htaken ▸ hhandled.1),
      List.getElem?_eq_none (Nat.le_of_not_lt hposition)]
    rfl

end State

/-! ### Whole runs -/

variable {keeps : σ → Prop} {outcome : Task α} {task : SharedTask σ α}

theorem inOrder_of_ok (hsettles : Settles keeps outcome task)
    (hok : ∀ item, (outcome item).2 = none) (items : List α) {shared : σ} (hshared : keeps shared) :
    ∃ after, inOrder task items shared = ((items.map fun item => (outcome item).1, none), after) ∧
      keeps after := by
  induction items generalizing shared with
  | nil => exact ⟨shared, rfl, hshared⟩
  | cons item items ih =>
      obtain ⟨middle, htask, hmiddle⟩ := hsettles item shared hshared
      obtain ⟨after, hitems, hafter⟩ := ih hmiddle
      refine ⟨after, ?_, hafter⟩
      have hresult : outcome item = ((outcome item).1, none) := by
        rw [← hok item]
      rw [hresult] at htask
      simp only [inOrder, htask, hitems, List.map_cons]

/-- **A task that fails on no item** is done on every item, in place and once, for every count of
workers and every order of their steps. -/
theorem fanOutWith_of_ok (hsettles : Settles keeps outcome task)
    (hok : ∀ item, (outcome item).2 = none) (schedule : List Nat) (items : List α) (workers : Nat)
    {shared : σ} (hshared : keeps shared) :
    ∃ after, fanOutWith schedule task items workers shared =
      ((items.map fun item => (outcome item).1, none), after) ∧ keeps after := by
  rw [fanOutWith]
  generalize min (max workers 1) items.length = count
  simp only
  split
  next => exact inOrder_of_ok hsettles hok items hshared
  next hcount =>
    let state := (State.start shared items count).run task
      (schedule ++ oneByOne items.length count)
    have hstate : State.Coherent keeps outcome items state :=
      (State.coherent_start hshared items count).run hsettles _
    obtain ⟨hlength, hstopped⟩ := State.stopped_at_end task shared items count schedule
    obtain ⟨hitems, hfailure⟩ := hstate.result hok (by rw [hlength]; omega)
      fun index hindex => hstopped index (hlength ▸ hindex)
    refine ⟨state.shared, ?_, hstate.kept⟩
    show ((state.items, state.failure), state.shared) = _
    rw [hitems, hfailure]

/-! ### Tasks that may fail -/

variable {β : Type} {view : α → β}

/-- Whether it fails or not, the task keeps a property of the shared state and what is seen of its
item. -/
def Respects (keeps : σ → Prop) (view : α → β) (task : SharedTask σ α) : Prop :=
  ∀ item shared, keeps shared →
    keeps (task item shared).2 ∧ view (task item shared).1.1 = view item

namespace State

variable {state : State σ α}

theorem step_respects (htask : Respects keeps view task) (hkeeps : keeps state.shared)
    (index : Nat) : keeps (state.step task index).shared ∧
      (state.step task index).items.map view = state.items.map view := by
  unfold step
  split
  next => exact ⟨hkeeps, rfl⟩
  next =>
    split
    next => exact ⟨hkeeps, rfl⟩
    next => exact ⟨hkeeps, rfl⟩
  next position hworker =>
    cases hitem : state.items[position]? with
    | none =>
        simp only [work, hitem]
        exact ⟨hkeeps, rfl⟩
    | some item =>
        obtain ⟨hshared, hview⟩ := htask item state.shared hkeeps
        have hseen : (state.items.map view)[position]? = some (view item) := by
          rw [List.getElem?_map, hitem]
          rfl
        rw [work_of_getElem? hitem]
        refine ⟨hshared, ?_⟩
        show (state.items.set position (task item state.shared).1.1).map view = _
        obtain ⟨hposition, hvalue⟩ := List.getElem?_eq_some_iff.1 hseen
        rw [List.map_set, hview, ← hvalue]
        exact List.set_getElem_self hposition
  next => exact ⟨hkeeps, rfl⟩
  next => exact ⟨hkeeps, rfl⟩
  next => exact ⟨hkeeps, rfl⟩

theorem run_respects (htask : Respects keeps view task) (hkeeps : keeps state.shared)
    (schedule : List Nat) : keeps (state.run task schedule).shared ∧
      (state.run task schedule).items.map view = state.items.map view := by
  induction schedule generalizing state with
  | nil => exact ⟨hkeeps, rfl⟩
  | cons index schedule ih =>
      obtain ⟨hstep, hitems⟩ := step_respects htask hkeeps index
      obtain ⟨hrun, hrest⟩ := ih hstep
      exact ⟨hrun, hrest.trans hitems⟩

end State

theorem inOrder_respects (htask : Respects keeps view task) (items : List α) {shared : σ}
    (hkeeps : keeps shared) : keeps (inOrder task items shared).2 ∧
      (inOrder task items shared).1.1.map view = items.map view := by
  induction items generalizing shared with
  | nil => exact ⟨hkeeps, rfl⟩
  | cons item items ih =>
      obtain ⟨hshared, hview⟩ := htask item shared hkeeps
      rcases hrun : task item shared with ⟨⟨after, _ | e⟩, middle⟩
      · rw [hrun] at hshared hview
        obtain ⟨hrest, hitems⟩ := ih hshared
        simp only [inOrder, hrun]
        rcases hlater : inOrder task items middle with ⟨⟨rest, failure⟩, last⟩
        rw [hlater] at hrest hitems
        refine ⟨hrest, ?_⟩
        show view after :: rest.map view = view item :: items.map view
        rw [hview, hitems]
      · rw [hrun] at hshared hview
        simp only [inOrder, hrun]
        exact ⟨hshared, congrArg (· :: items.map view) hview⟩

/-- What a task respects, a pool of workers respects under every schedule. -/
theorem fanOutWith_respects (htask : Respects keeps view task) (schedule : List Nat)
    (items : List α) (workers : Nat) {shared : σ} (hkeeps : keeps shared) :
    keeps (fanOutWith schedule task items workers shared).2 ∧
      (fanOutWith schedule task items workers shared).1.1.map view = items.map view := by
  rw [fanOutWith]
  generalize min (max workers 1) items.length = count
  simp only
  split
  next => exact inOrder_respects htask items hkeeps
  next =>
    have hstart : keeps (State.start shared items count).shared := hkeeps
    exact State.run_respects htask hstart _

end CloudPolicy.Pool
