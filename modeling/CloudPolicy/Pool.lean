import CloudPolicy.Error

/-! A pool of workers over a list of items. Workers take the items in order, each item is worked on
by one worker, and after a failure no further item is taken. Besides its item a task works on a
state that all workers share. The steps of the workers may come in any order; a schedule says in
which. -/

namespace CloudPolicy.Pool

/-- What is done with an item: its new state, and the failure if there is one. -/
abbrev Task (α : Type) := α → α × Option Error

/-- A task that also works on the shared state. -/
abbrev SharedTask (σ α : Type) := α → StateM σ (α × Option Error)

/-- A task that leaves the shared state alone. -/
def Task.shared {α : Type} (task : Task α) : SharedTask Unit α := fun item => pure (task item)

/-- One item after the other, up to the first failure. -/
def inOrder {σ α : Type} (task : SharedTask σ α) : List α → StateM σ (List α × Option Error)
  | [] => pure ([], none)
  | item :: items => fun shared =>
    match task item shared with
    | ((item, some e), shared) => ((item :: items, some e), shared)
    | ((item, none), shared) =>
      let ((items, failure), shared) := inOrder task items shared
      ((item :: items, failure), shared)

/-- What a worker does next. -/
inductive Worker where
  /-- It looks whether the work was given up. -/
  | checking
  /-- It takes the next item. -/
  | taking
  /-- It works on the item at a position. -/
  | holding (position : Nat)
  /-- It gives the work up and keeps its failure, unless one is kept. -/
  | failing (e : Error)
  | stopped
  deriving DecidableEq, Repr, Inhabited

/-- The state that the workers share, and the state of each of them. -/
structure State (σ α : Type) where
  shared : σ
  items : List α
  /-- How many items were taken. -/
  taken : Nat := 0
  givenUp : Bool := false
  failure : Option Error := none
  workers : List Worker

namespace State

variable {σ α : Type}

def start (shared : σ) (items : List α) (workers : Nat) : State σ α where
  shared := shared
  items := items
  workers := List.replicate workers .checking

/-- Put a worker into a new state. -/
def setWorker (state : State σ α) (index : Nat) (worker : Worker) : State σ α :=
  { state with workers := state.workers.set index worker }

/-- Work on the item at a position. -/
def work (task : SharedTask σ α) (state : State σ α) (index position : Nat) : State σ α :=
  match state.items[position]? with
  | none => state.setWorker index .checking
  | some item =>
    let ((item, failure), shared) := task item state.shared
    { state with shared, items := state.items.set position item }.setWorker index
      (match failure with
        | some e => .failing e
        | none => .checking)

/-- One step of one worker. A worker that has stopped does nothing. -/
def step (task : SharedTask σ α) (state : State σ α) (index : Nat) : State σ α :=
  match state.workers[index]? with
  | some .checking => state.setWorker index (if state.givenUp then .stopped else .taking)
  | some .taking =>
    if state.taken < state.items.length then
      { state with taken := state.taken + 1 }.setWorker index (.holding state.taken)
    else state.setWorker index .stopped
  | some (.holding position) => state.work task index position
  | some (.failing e) =>
    { state with givenUp := true, failure := state.failure.or (some e) }.setWorker index .stopped
  | some .stopped => state
  | none => state

/-- The steps of a schedule, which lists the workers by their positions. -/
def run (task : SharedTask σ α) (state : State σ α) (schedule : List Nat) : State σ α :=
  schedule.foldl (step task) state

def isDone (state : State σ α) : Bool := state.workers.all (· = .stopped)

end State

/-- The schedule in which one worker after the other goes on until it stops. -/
def oneByOne (items workers : Nat) : List Nat :=
  (List.range workers).flatMap fun index => List.replicate (3 * items + 3) index

/-- Do a task on every item with so many workers, one at least and no more than items. The steps of
several workers follow the schedule as far as it goes, and then come one worker after the other. -/
def fanOutWith {σ α : Type} (schedule : List Nat) (task : SharedTask σ α) (items : List α)
    (workers : Nat) : StateM σ (List α × Option Error) :=
  let workers := min (max workers 1) items.length
  if workers ≤ 1 then inOrder task items
  else fun shared =>
    let state := (State.start shared items workers).run task
      (schedule ++ oneByOne items.length workers)
    ((state.items, state.failure), state.shared)

/-- Do a task that shares nothing on every item. -/
def fanOut {α : Type} (task : Task α) (items : List α) (workers : Nat) : List α × Option Error :=
  (fanOutWith [] task.shared items workers ()).1

end CloudPolicy.Pool
