import CloudPolicy.Proofs.Tampering

/-! Single alterations. When one entry of an unbroken chain is replaced by another one, the chain
breaks where that stands; and where the new entry keeps its place, its link and a hash of its own,
the entry after it still names the hash of the entry that was there. -/

namespace CloudPolicy.Chain

variable {hash : HashFunction} {position : Nat} {prevHash : String}

/-- The check of a chain goes on from its unbroken front. -/
theorem firstBreakFrom_append {front : List LedgerEntry}
    (hfront : firstBreakFrom hash position prevHash front = none) (rest : List LedgerEntry) :
    firstBreakFrom hash position prevHash (front ++ rest) =
      firstBreakFrom hash (position + front.length) (reached prevHash front) rest := by
  induction front generalizing position prevHash with
  | nil => rfl
  | cons entry front ih =>
      obtain ⟨hlinked, hrest⟩ := firstBreakFrom_cons_eq_none_iff.1 hfront
      rw [List.cons_append, firstBreakFrom, if_pos hlinked, ih hrest, reached, List.length_cons,
        Nat.add_right_comm, Nat.add_assoc]

/-- At one place of a chain no two entries have one hash. -/
theorem entry_eq_of_linked {x y : LedgerEntry} (hx : linked hash position prevHash x = true)
    (hy : linked hash position prevHash y = true) (hcollision : NoCollision hash [x] [y])
    (hsame : x.thisHash = y.thisHash) : x = y := by
  obtain ⟨hxsequence, hxprev, hxhash⟩ := linked_iff.1 hx
  obtain ⟨hysequence, hyprev, hyhash⟩ := linked_iff.1 hy
  have hmessage : entryMessage x = entryMessage y :=
    hcollision x List.mem_cons_self y List.mem_cons_self (hxhash.trans (hsame.trans hyhash.symm))
  rw [entryMessage, entryMessage, hxsequence, hysequence, hxprev, hyprev] at hmessage
  obtain ⟨-, hrecord⟩ := message_injective rfl hmessage
  rcases x with ⟨_, _, _, _⟩
  rcases y with ⟨_, _, _, _⟩
  cases hxsequence
  cases hysequence
  cases hxprev
  cases hyprev
  cases hrecord
  cases hsame
  rfl

/-- An entry names the hash of one entry before it only. -/
theorem not_linked_of_ne {entry : LedgerEntry} {other : String}
    (hlinked : linked hash position prevHash entry = true) (hother : other ≠ prevHash) :
    linked hash position other entry = false := by
  by_contra hboth
  rw [Bool.not_eq_false] at hboth
  exact hother ((linked_iff.1 hboth).2.1.symm.trans (linked_iff.1 hlinked).2.1)

/-- A chain that goes on behind another entry than the one it was made for breaks at once. -/
theorem firstBreakFrom_of_ne {rest : List LedgerEntry} {other : String}
    (hrest : firstBreakFrom hash position prevHash rest = none) (hother : other ≠ prevHash) :
    firstBreakFrom hash position other rest = if rest = [] then none else some position := by
  cases rest with
  | nil => rfl
  | cons entry rest =>
      obtain ⟨hlinked, -⟩ := firstBreakFrom_cons_eq_none_iff.1 hrest
      rw [firstBreakFrom, not_linked_of_ne hlinked hother, if_neg Bool.false_ne_true,
        if_neg (List.cons_ne_nil entry rest)]

/-- **A single alteration is located.** Take an unbroken chain and replace one entry by any other
one, its sequence, record and hashes chosen at will, where the hash function does not take the two
messages to one text. The chain breaks at that entry, unless the new entry has the place, the
previous hash and the hash of its content that the check asks for; then it breaks at the next entry,
and not at all only if there is none. -/
theorem altered_entry_located (hash : HashFunction) {entries : List LedgerEntry}
    (hchain : firstBreak hash entries = none) {i : Nat} {original altered : LedgerEntry}
    (horiginal : entries[i]? = some original) (haltered : altered ≠ original)
    (hcollision : NoCollision hash [altered] [original]) :
    firstBreak hash (entries.set i altered) =
      if linked hash i (reached genesis (entries.take i)) altered then
        if i + 1 < entries.length then some (i + 1) else none
      else some i := by
  obtain ⟨hindex, hget⟩ := List.getElem?_eq_some_iff.1 horiginal
  have hlength : (entries.take i).length = i := List.length_take_of_le (Nat.le_of_lt hindex)
  have hsplit : entries = entries.take i ++ original :: entries.drop (i + 1) := by
    rw [← hget, List.getElem_cons_drop, List.take_append_drop]
  have hset : entries.set i altered = entries.take i ++ altered :: entries.drop (i + 1) :=
    List.set_eq_take_append_cons_drop.trans (if_pos hindex)
  -- What the check of the unaltered chain says of the parts before and after the entry.
  rw [firstBreak, hsplit, firstBreakFrom_append_eq_none_iff, firstBreakFrom_cons_eq_none_iff,
    hlength, Nat.zero_add] at hchain
  obtain ⟨hfront, hlinked, hrest⟩ := hchain
  rw [firstBreak, hset, firstBreakFrom_append hfront, hlength, Nat.zero_add, firstBreakFrom]
  by_cases hconsistent : linked hash i (reached genesis (entries.take i)) altered = true
  · have hhash : altered.thisHash ≠ original.thisHash := fun hsame =>
      haltered (entry_eq_of_linked hconsistent hlinked hcollision hsame)
    have hlast : entries.drop (i + 1) = [] ↔ ¬ i + 1 < entries.length := by
      rw [List.drop_eq_nil_iff, Nat.not_lt]
    rw [if_pos hconsistent, if_pos hconsistent, firstBreakFrom_of_ne hrest hhash]
    simp only [hlast, ite_not]
  · rw [if_neg hconsistent, if_neg hconsistent]

/-- In a ledger of three entries, under a hash that spells its message out, the second one is forged
with a hash of its own: the chain breaks at the third one. -/
theorem forged_entry_located :
    let hash : HashFunction := fun message => String.ofList (message.map Char.ofUInt8)
    let record (action : String) : RunRecord :=
      ⟨.ofNat 1, "retire", .function, { action }, ⟨0, 0⟩⟩
    let start := Ledger.replay hash [.write (record "tag")]
    let ledger := Ledger.replay hash
      [.write (record "tag"), .write (record "notify-message"), .write (record "delete")]
    let original := start.nextEntry hash (record "notify-message")
    let forged := start.nextEntry hash (record "untag")
    firstBreak hash ledger.entries = none ∧ ledger.entries[1]? = some original ∧
      forged ≠ original ∧ NoCollision hash [forged] [original] ∧
      firstBreak hash (ledger.entries.set 1 forged) = some 2 := by
  intro hash record start ledger original forged
  have hchain : firstBreak hash ledger.entries = none := (Ledger.sound_replay _ _).intact
  have hother : forged ≠ original := fun hsame =>
    absurd (congrArg (·.record.report.action) hsame) (by decide)
  have hbytes (a b : UInt8) (hsame : Char.ofUInt8 a = Char.ofUInt8 b) : a = b :=
    UInt8.toUInt32_inj.1 (congrArg Char.val hsame)
  have hcollision : NoCollision hash [forged] [original] := fun _ _ _ _ hsame =>
    (List.map_inj_right hbytes).1 (String.ofList_injective hsame)
  have hlocated := altered_entry_located hash hchain (i := 1) rfl hother hcollision
  have hlinked : linked hash 1 (reached genesis (ledger.entries.take 1)) forged = true :=
    linked_iff.2 ⟨rfl, rfl, rfl⟩
  rw [if_pos hlinked, if_pos (by decide)] at hlocated
  exact ⟨hchain, rfl, hother, hcollision, hlocated⟩

end CloudPolicy.Chain
