import CloudPolicy.Ledger.Basic
import CloudPolicy.Proofs.Chain

/-! The ledger under any sequence of calls. Clones of a ledger share one state, so the calls that
are made through all of them, with the records of any number of runs, are one sequence of calls on
that state. Main statement: after every such sequence the chain verifies, the stored hash is that of
the last entry, no run is sealed twice, and the next call only appends or changes nothing. -/

namespace CloudPolicy

/-- What a ledger is asked for. -/
inductive LedgerCall where
  | write (record : RunRecord)
  | finalize (run : RunId)
  deriving DecidableEq, Inhabited

namespace Ledger

variable {hash : HashFunction}

/-- The answer to a call. -/
def perform (hash : HashFunction) (ledger : Ledger) : LedgerCall → Except Error Ledger
  | .write record => .ok (ledger.write hash record)
  | .finalize run => ledger.finalize run

/-- The ledger after a call; a failed call leaves the one that there was. -/
def after (hash : HashFunction) (ledger : Ledger) (call : LedgerCall) : Ledger :=
  (ledger.perform hash call).toOption.getD ledger

/-- The ledger after some calls, the first one on a fresh ledger. -/
def replay (hash : HashFunction) (calls : List LedgerCall) : Ledger := calls.foldl (after hash) {}

@[simp] theorem entries_write (ledger : Ledger) (record : RunRecord) :
    (ledger.write hash record).entries = ledger.entries ++ [ledger.nextEntry hash record] := rfl

@[simp] theorem lastHash_write (ledger : Ledger) (record : RunRecord) :
    (ledger.write hash record).lastHash = (ledger.nextEntry hash record).thisHash := rfl

@[simp] theorem sealedRuns_write (ledger : Ledger) (record : RunRecord) :
    (ledger.write hash record).sealedRuns = ledger.sealedRuns := rfl

theorem finalize_fresh {ledger : Ledger} {run : RunId} (hfresh : run ∉ ledger.sealedRuns) :
    ledger.finalize run = .ok { ledger with sealedRuns := ledger.sealedRuns ++ [run] } :=
  if_neg hfresh

theorem finalize_sealed {ledger : Ledger} {run : RunId} (hsealed : run ∈ ledger.sealedRuns) :
    ledger.finalize run = .error (.auditWrite ("run " ++ run.text ++ " is already sealed")) :=
  if_pos hsealed

/-- What holds of a ledger that is only used through its calls. -/
structure Sound (hash : HashFunction) (ledger : Ledger) : Prop where
  intact : ledger.verify hash = none
  lastHash : ledger.lastHash = Chain.reached Chain.genesis ledger.entries
  nodup : ledger.sealedRuns.Nodup

theorem sound_empty : Sound hash {} := ⟨rfl, rfl, List.nodup_nil⟩

theorem Sound.write {ledger : Ledger} (hsound : Sound hash ledger) (record : RunRecord) :
    Sound hash (ledger.write hash record) := by
  refine ⟨?_, by simp, hsound.nodup⟩
  have hlinked : Chain.linked hash ledger.entries.length
      (Chain.reached Chain.genesis ledger.entries) (ledger.nextEntry hash record) = true :=
    Chain.linked_iff.2 ⟨rfl, hsound.lastHash, rfl⟩
  rw [verify, entries_write, Chain.firstBreak, Chain.firstBreakFrom_append_eq_none_iff,
    Chain.firstBreakFrom_cons_eq_none_iff, Nat.zero_add]
  exact ⟨hsound.intact, hlinked, rfl⟩

theorem Sound.seal {ledger : Ledger} (hsound : Sound hash ledger) {run : RunId}
    (hfresh : run ∉ ledger.sealedRuns) :
    Sound hash { ledger with sealedRuns := ledger.sealedRuns ++ [run] } := by
  refine ⟨hsound.intact, hsound.lastHash, ?_⟩
  rw [List.nodup_append]
  refine ⟨hsound.nodup, List.pairwise_singleton _ run, ?_⟩
  intro other hother new hnew heq
  rw [List.mem_singleton] at hnew
  exact hfresh (hnew ▸ heq ▸ hother)

/-- Every call keeps what holds of a ledger. -/
theorem Sound.after {ledger : Ledger} (hsound : Sound hash ledger) (call : LedgerCall) :
    Sound hash (ledger.after hash call) := by
  cases call with
  | write record => exact hsound.write record
  | finalize run =>
      by_cases hrun : run ∈ ledger.sealedRuns
      · rw [Ledger.after, perform, finalize_sealed hrun]
        exact hsound
      · rw [Ledger.after, perform, finalize_fresh hrun]
        exact hsound.seal hrun

theorem sound_replay (hash : HashFunction) (calls : List LedgerCall) :
    Sound hash (replay hash calls) := by
  have hfold : ∀ (calls : List LedgerCall) (ledger : Ledger), Sound hash ledger →
      Sound hash (calls.foldl (after hash) ledger) := by
    intro calls
    induction calls with
    | nil => exact fun _ hsound => hsound
    | cons call calls ih => exact fun ledger hsound => ih _ (hsound.after call)
  exact hfold calls {} sound_empty

/-- The entries of a sound ledger are numbered by their places, and each names the hash of the one
before it. -/
theorem Sound.linked {ledger : Ledger} (hsound : Sound hash ledger) {index : Nat}
    {entry : LedgerEntry} (hentry : ledger.entries[index]? = some entry) :
    entry.sequence = index ∧
      entry.prevHash = Chain.reached Chain.genesis (ledger.entries.take index) := by
  have hlinked := Chain.linked_of_firstBreakFrom hsound.intact hentry
  rw [Nat.zero_add] at hlinked
  exact ⟨(Chain.linked_iff.1 hlinked).1, (Chain.linked_iff.1 hlinked).2.1⟩

theorem Sound.prevHash_succ {ledger : Ledger} (hsound : Sound hash ledger) {index : Nat}
    {before entry : LedgerEntry} (hbefore : ledger.entries[index]? = some before)
    (hentry : ledger.entries[index + 1]? = some entry) : entry.prevHash = before.thisHash := by
  calc entry.prevHash
      = Chain.reached Chain.genesis (ledger.entries.take (index + 1)) := (hsound.linked hentry).2
    _ = Chain.reached Chain.genesis (ledger.entries.take index ++ [before]) := by
      rw [List.take_add_one, hbefore, Option.toList_some]
    _ = before.thisHash := Chain.reached_append _ _ _

/-- A call appends to the entries. -/
theorem entries_prefix_after (ledger : Ledger) (call : LedgerCall) :
    ledger.entries <+: (ledger.after hash call).entries := by
  cases call with
  | write record => exact List.prefix_append ledger.entries [ledger.nextEntry hash record]
  | finalize run =>
      rw [after, perform, finalize]
      split <;> exact List.prefix_rfl

theorem after_of_error {ledger : Ledger} {call : LedgerCall} {e : Error}
    (herror : ledger.perform hash call = .error e) : ledger.after hash call = ledger := by
  rw [after, herror]
  rfl

/-- Only the sealing of a run that is sealed already fails. -/
theorem perform_fails_iff (ledger : Ledger) (call : LedgerCall) :
    (∃ e, ledger.perform hash call = .error e) ↔
      ∃ run, call = .finalize run ∧ run ∈ ledger.sealedRuns := by
  cases call with
  | write record => simp [perform]
  | finalize run =>
      by_cases hrun : run ∈ ledger.sealedRuns
      · simp [perform, finalize_sealed hrun, hrun]
      · simp [perform, finalize_fresh hrun, hrun]

/-- **The ledger after any calls.** Whatever was written and sealed before, in whatever order, the
chain verifies, the entries are numbered and chained from the genesis hash, the stored hash is that
of the last entry and the sealed runs differ. The next call keeps every entry, and if it fails,
which it does only when it seals a run again, it changes nothing. -/
theorem ledger_after_any_calls (hash : HashFunction) (calls : List LedgerCall) :
    let ledger := replay hash calls
    ledger.verify hash = none ∧
    (∀ (index : Nat) entry, ledger.entries[index]? = some entry → entry.sequence = index) ∧
    (∀ entry, ledger.entries[0]? = some entry → entry.prevHash = Chain.genesis) ∧
    (∀ (index : Nat) before entry, ledger.entries[index]? = some before →
      ledger.entries[index + 1]? = some entry → entry.prevHash = before.thisHash) ∧
    ledger.lastHash = (ledger.entries.getLast?.map (·.thisHash)).getD Chain.genesis ∧
    ledger.sealedRuns.Nodup ∧
    ∀ call, ledger.entries <+: (replay hash (calls ++ [call])).entries ∧
      ((∃ e, ledger.perform hash call = .error e) ↔
        ∃ run, call = .finalize run ∧ run ∈ ledger.sealedRuns) ∧
      ∀ e, ledger.perform hash call = .error e → replay hash (calls ++ [call]) = ledger := by
  intro ledger
  have hsound : Sound hash ledger := sound_replay hash calls
  have hnext : ∀ call, replay hash (calls ++ [call]) = ledger.after hash call := by
    intro call
    rw [replay, List.foldl_append]
    rfl
  refine ⟨hsound.intact, fun _ _ hentry => (hsound.linked hentry).1,
    fun _ hentry => (hsound.linked hentry).2, fun _ _ _ => hsound.prevHash_succ,
    hsound.lastHash.trans (Chain.reached_eq_getLast? _ _), hsound.nodup, ?_⟩
  intro call
  rw [hnext]
  exact ⟨entries_prefix_after ledger call, perform_fails_iff ledger call,
    fun _ herror => after_of_error herror⟩

end Ledger

end CloudPolicy
