import CloudPolicy.Ledger.Chain

/-! What the check of a hash chain decides: a chain without a break is one in which every entry
stands at its place, names the hash that the entries before it have reached, and carries the hash of
its own content. -/

namespace CloudPolicy.Chain

variable {hash : HashFunction}

/-- The hash that a chain from `prevHash` has reached after some entries. -/
def reached (prevHash : String) : List LedgerEntry → String
  | [] => prevHash
  | entry :: entries => reached entry.thisHash entries

@[simp] theorem reached_append (prevHash : String) (entries : List LedgerEntry)
    (entry : LedgerEntry) : reached prevHash (entries ++ [entry]) = entry.thisHash := by
  induction entries generalizing prevHash with
  | nil => rfl
  | cons first rest ih => exact ih first.thisHash

theorem reached_eq_getLast? (prevHash : String) (entries : List LedgerEntry) :
    reached prevHash entries = (entries.getLast?.map (·.thisHash)).getD prevHash := by
  rcases entries.eq_nil_or_concat with rfl | ⟨front, last, rfl⟩
  · rfl
  · simp

theorem linked_iff {position : Nat} {prevHash : String} {entry : LedgerEntry} :
    linked hash position prevHash entry = true ↔
      entry.sequence = position ∧ entry.prevHash = prevHash ∧
        entryHash hash entry.sequence entry.record entry.prevHash = entry.thisHash := by
  simp [linked]

theorem firstBreakFrom_cons_eq_none_iff {position : Nat} {prevHash : String} {entry : LedgerEntry}
    {entries : List LedgerEntry} :
    firstBreakFrom hash position prevHash (entry :: entries) = none ↔
      linked hash position prevHash entry = true ∧
        firstBreakFrom hash (position + 1) entry.thisHash entries = none := by
  rw [firstBreakFrom]
  by_cases hlinked : linked hash position prevHash entry = true <;> simp [hlinked]

/-- A chain can be checked in two parts: the second one goes on from the hash that the first one has
reached. -/
theorem firstBreakFrom_append_eq_none_iff {position : Nat} {prevHash : String}
    {front rest : List LedgerEntry} :
    firstBreakFrom hash position prevHash (front ++ rest) = none ↔
      firstBreakFrom hash position prevHash front = none ∧
        firstBreakFrom hash (position + front.length) (reached prevHash front) rest = none := by
  induction front generalizing position prevHash with
  | nil => simp [firstBreakFrom, reached]
  | cons entry entries ih =>
      have hplace : position + 1 + entries.length = position + (entry :: entries).length := by
        rw [List.length_cons]
        omega
      rw [List.cons_append, firstBreakFrom_cons_eq_none_iff, firstBreakFrom_cons_eq_none_iff, ih,
        hplace, reached, and_assoc]

/-- The entry at a place of an unbroken chain is linked to the entries before it. -/
theorem linked_of_firstBreakFrom {position index : Nat} {prevHash : String}
    {entries : List LedgerEntry} {entry : LedgerEntry}
    (hchain : firstBreakFrom hash position prevHash entries = none)
    (hentry : entries[index]? = some entry) :
    linked hash (position + index) (reached prevHash (entries.take index)) entry = true := by
  obtain ⟨hindex, hget⟩ := List.getElem?_eq_some_iff.1 hentry
  have hsplit : entries = entries.take index ++ entry :: entries.drop (index + 1) := by
    rw [← hget, List.getElem_cons_drop, List.take_append_drop]
  rw [hsplit, firstBreakFrom_append_eq_none_iff, firstBreakFrom_cons_eq_none_iff,
    List.length_take_of_le (Nat.le_of_lt hindex)] at hchain
  exact hchain.2.1

end CloudPolicy.Chain
