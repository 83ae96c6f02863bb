import CloudPolicy.Proofs.Effects
import CloudPolicy.Proofs.Ledger
import CloudPolicy.Proofs.Run

/-! What becomes of a run after it was sealed. Sealing a run is recorded beside the entries, and
only sealing asks whether it was done before; writing does not. So the entries of a sealed run are
the ones that it had, followed by one for each record that is written for it later, and they stay as
they were exactly as long as there is no such record. A run of a policy writes none for other
runs. -/

namespace CloudPolicy

/-- The record that a call writes for a run, if it does. -/
def LedgerCall.recordOf? (run : RunId) : LedgerCall → Option RunRecord
  | .write record => if record.runId = run then some record else none
  | .finalize _ => none

namespace Ledger

variable {hash : HashFunction} {run : RunId} {before middle after : Ledger}

def entriesOf (ledger : Ledger) (run : RunId) : List LedgerEntry :=
  ledger.entries.filter fun entry => entry.record.runId = run

/-- From one ledger to another, the entries of a run are kept and those with the given records are
added to them, and no seal is broken. -/
structure Extends (run : RunId) (before after : Ledger) (records : List RunRecord) : Prop where
  entries : ∃ added, after.entriesOf run = before.entriesOf run ++ added ∧
    added.map (·.record) = records
  seals : before.sealedRuns ⊆ after.sealedRuns

namespace Extends

theorem refl (ledger : Ledger) : Extends run ledger ledger [] :=
  ⟨⟨[], (List.append_nil _).symm, rfl⟩, List.Subset.refl _⟩

theorem trans {records more : List RunRecord} (h : Extends run before middle records)
    (h' : Extends run middle after more) : Extends run before after (records ++ more) := by
  obtain ⟨added, hadded, hrecords⟩ := h.entries
  obtain ⟨later, hlater, hmore⟩ := h'.entries
  refine ⟨⟨added ++ later, ?_, ?_⟩, List.Subset.trans h.seals h'.seals⟩
  · rw [hlater, hadded, List.append_assoc]
  · rw [List.map_append, hrecords, hmore]

/-- The entries are the same if there is no record for the run, and only then. -/
theorem entriesOf_eq_iff {records : List RunRecord} (h : Extends run before after records) :
    after.entriesOf run = before.entriesOf run ↔ records = [] := by
  obtain ⟨added, hadded, rfl⟩ := h.entries
  rw [hadded, List.append_right_eq_self, List.map_eq_nil_iff]

end Extends

theorem extends_write (ledger : Ledger) (record : RunRecord) :
    Extends run ledger (ledger.write hash record)
      (LedgerCall.recordOf? run (.write record)).toList := by
  refine ⟨⟨[ledger.nextEntry hash record].filter fun entry => entry.record.runId = run, ?_, ?_⟩,
    List.Subset.refl _⟩
  · rw [entriesOf, entries_write, List.filter_append]
    rfl
  · by_cases hrun : record.runId = run <;> simp [LedgerCall.recordOf?, nextEntry, hrun]

theorem extends_write_of_ne {record : RunRecord} (hother : record.runId ≠ run) (ledger : Ledger) :
    Extends run ledger (ledger.write hash record) [] := by
  have hextends : Extends run ledger (ledger.write hash record) _ := extends_write ledger record
  rwa [LedgerCall.recordOf?, if_neg hother] at hextends

theorem extends_finalize {other : RunId} (h : before.finalize other = .ok after) :
    Extends run before after [] := by
  rw [finalize] at h
  split at h
  next => cases h
  next =>
    cases h
    exact ⟨⟨[], (List.append_nil _).symm, rfl⟩, List.subset_append_left _ _⟩

theorem extends_after (ledger : Ledger) (call : LedgerCall) :
    Extends run ledger (ledger.after hash call) (call.recordOf? run).toList := by
  cases call with
  | write record => exact extends_write ledger record
  | finalize other =>
      rw [after, perform]
      cases h : ledger.finalize other with
      | ok sealed => exact extends_finalize h
      | error e => exact .refl ledger

theorem extends_foldl (calls : List LedgerCall) (ledger : Ledger) :
    Extends run ledger (calls.foldl (Ledger.after hash) ledger)
      (calls.filterMap (LedgerCall.recordOf? run)) := by
  induction calls generalizing ledger with
  | nil => exact .refl ledger
  | cons call calls ih =>
      have hrecords : (call :: calls).filterMap (LedgerCall.recordOf? run) =
          (call.recordOf? run).toList ++ calls.filterMap (LedgerCall.recordOf? run) := by
        cases hcall : call.recordOf? run <;> simp [hcall]
      rw [hrecords]
      exact (extends_after ledger call).trans (ih (ledger.after hash call))

theorem recordsOf_eq_nil_iff (calls : List LedgerCall) :
    calls.filterMap (LedgerCall.recordOf? run) = [] ↔
      ∀ record, .write record ∈ calls → record.runId ≠ run := by
  rw [List.filterMap_eq_nil_iff]
  constructor
  · intro h record hrecord hrun
    have hnone := h _ hrecord
    rw [LedgerCall.recordOf?, if_pos hrun] at hnone
    cases hnone
  · intro h call hcall
    cases call with
    | write record => exact if_neg (h record hcall)
    | finalize other => rfl

theorem mem_sealedRuns_of_finalize {ledger sealed : Ledger}
    (hseal : ledger.finalize run = .ok sealed) : run ∈ sealed.sealedRuns := by
  rw [finalize] at hseal
  split at hseal
  next => cases hseal
  next =>
    cases hseal
    exact List.mem_append_right _ (List.mem_singleton_self run)

/-- **A sealed run.** Whatever calls were made before a run was sealed and whatever calls are made
after it, the entries of the run are those that it had when it was sealed, followed by one for each
record that was written for it since, in their order. They are the same as before if and only if no
such record was written; and the run stays sealed. -/
theorem sealed_run_frozen_iff (hash : HashFunction) (calls : List LedgerCall) (run : RunId)
    (sealed : Ledger) (hseal : (replay hash calls).finalize run = .ok sealed)
    (later : List LedgerCall) (sealedAt now : Timestamp) :
    let before := (sealed.snapshot sealedAt).ofRun run
    let ledger := replay hash (calls ++ .finalize run :: later)
    let after := (ledger.snapshot now).ofRun run
    (∃ added, after = before ++ added ∧
      added.map (·.record) = later.filterMap (LedgerCall.recordOf? run)) ∧
    (after = before ↔ ∀ record, .write record ∈ later → record.runId ≠ run) ∧
    run ∈ ledger.sealedRuns := by
  intro before ledger after
  have hledger : ledger = later.foldl (Ledger.after hash) sealed := by
    have hafter : (replay hash calls).after hash (.finalize run) = sealed := by
      rw [Ledger.after, perform, hseal]
      rfl
    rw [← hafter]
    exact List.foldl_append
  have hextends : Extends run sealed ledger (later.filterMap (LedgerCall.recordOf? run)) := by
    rw [hledger]
    exact extends_foldl later sealed
  refine ⟨hextends.entries, ?_, hextends.seals (mem_sealedRuns_of_finalize hseal)⟩
  exact hextends.entriesOf_eq_iff.trans (recordsOf_eq_nil_iff later)

/-- What another run writes leaves a sealed run as it was. -/
theorem sealed_run_frozen_beside_another :
    let record (run : Nat) : RunRecord :=
      { (default : RunRecord) with runId := .ofNat run, policy := "p" }
    let calls : List LedgerCall := [.write (record 1)]
    let later : List LedgerCall := [.write (record 2), .finalize (.ofNat 2), .finalize (.ofNat 1)]
    ∃ sealed, (replay Sha256.hex calls).finalize (.ofNat 1) = .ok sealed ∧
      ((replay Sha256.hex (calls ++ .finalize (.ofNat 1) :: later)).snapshot ⟨0, 0⟩).ofRun
        (.ofNat 1) = (sealed.snapshot ⟨0, 0⟩).ofRun (.ofNat 1) := by
  intro record calls later
  have hseal : (replay Sha256.hex calls).finalize (.ofNat 1) = .ok _ :=
    finalize_fresh List.not_mem_nil
  have hother : ∀ other, .write other ∈ later → other.runId ≠ .ofNat 1 := by
    intro other hother
    have hwritten : other = record 2 := by simpa [later] using hother
    rw [hwritten]
    decide
  exact ⟨_, hseal,
    (sealed_run_frozen_iff Sha256.hex calls _ _ hseal later ⟨0, 0⟩ ⟨0, 0⟩).2.1.2 hother⟩

/-- A record that is written for a sealed run joins its entries. -/
theorem sealed_run_grows :
    let record : RunRecord := { (default : RunRecord) with runId := .ofNat 1, policy := "p" }
    let calls : List LedgerCall := [.write record, .finalize (.ofNat 1)]
    (∃ sealed, (replay Sha256.hex [.write record]).finalize (.ofNat 1) = .ok sealed) ∧
      (((replay Sha256.hex calls).snapshot ⟨0, 0⟩).ofRun (.ofNat 1)).map (·.sequence) = [0] ∧
      (((replay Sha256.hex (calls ++ [.write record])).snapshot ⟨0, 0⟩).ofRun
        (.ofNat 1)).map (·.sequence) = [0, 1] := by
  intro record calls
  exact ⟨⟨_, rfl⟩, rfl, rfl⟩

end Ledger

/-! ### Runs of policies -/

/-- The entries of a run are the same in both worlds, and no seal is broken. -/
def World.KeepsRun (run : RunId) (before after : World) : Prop :=
  Ledger.Extends run before.ledger after.ledger []

namespace Policy

open Steps (Within)
open World (KeepsRun)

variable {run runId : RunId} {hash : HashFunction}

instance : IsPreorder World (KeepsRun run) where
  refl := fun world => .refl world.ledger
  trans := fun _ _ _ h h' => h.trans h'

theorem inCloud_keepsRun {α : Type} (step : CloudM α) :
    Within (KeepsRun run) (fun _ => True) (RunM.inCloud step) where
  moves := fun world => .refl world.ledger
  gives := fun _ _ _ => trivial

theorem inLedger_keepsRun {step : Ledger → Except Error Ledger}
    (hstep : ∀ before after, step before = .ok after → Ledger.Extends run before after []) :
    Within (KeepsRun run) (fun _ => True) (RunM.inLedger step) where
  moves := by
    intro world
    rw [RunM.inLedger, ExceptT.run_mk, KeepsRun]
    cases h : step world.ledger with
    | ok ledger => exact hstep _ _ h
    | error e => exact .refl world.ledger
  gives := fun _ _ _ => trivial

theorem act_keepsRun (hother : runId ≠ run) (context : RunContext) (matched : List Resource)
    (actions : List Action) :
    Within (KeepsRun run) (fun _ => True) (act (.ledger hash) runId context matched actions) := by
  induction actions with
  | nil => exact .done _
  | cons action actions ih =>
      refine (inCloud_keepsRun _).andThen fun report => ?_
      refine (inLedger_keepsRun ?_).andThen fun _ => ih.andThen fun _ => .done _
      rintro before _ ⟨⟩
      exact Ledger.extends_write_of_ne hother before

/-- Whether a run of a policy comes to its end or not, it leaves the entries of every other run as
they were. -/
theorem run_keeps_other_runs (hash : HashFunction) (policy : Policy) (settings : Settings)
    (now : Timestamp) (event : Option Event) (schedule : List Nat) (hother : runId ≠ run)
    (world : World) :
    KeepsRun run world
      ((policy.run (.ledger hash) settings now runId event schedule).run world).2 := by
  have hwithin : Within (KeepsRun run) (fun _ => True)
      (policy.run (.ledger hash) settings now runId event schedule) := by
    rw [Policy.run]
    split
    next => exact .of_throw _
    next => exact .done _
    next seen _ =>
      refine (inCloud_keepsRun _).andThen fun matched => ?_
      refine (act_keepsRun hother _ matched _).andThen fun _ => ?_
      exact (inLedger_keepsRun fun _ _ => Ledger.extends_finalize).andThen fun _ => .done _
  exact hwithin.moves world

end Policy

end CloudPolicy
