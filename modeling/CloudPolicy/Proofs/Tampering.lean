import CloudPolicy.Ledger.Basic
import CloudPolicy.Proofs.Ledger
import CloudPolicy.Proofs.RecordText

/-! Tamper evidence. The hash of one entry of an unbroken chain commits to that entry and to every
entry before it, as long as the hash function does not take two of the messages involved to one
text. -/

namespace CloudPolicy

namespace Chain

/-! ### Messages -/

theorem toList_loop (b : ByteArray) (index : Nat) (front : List UInt8) :
    ByteArray.toList.loop b index front = front.reverse ++ b.data.toList.drop index := by
  fun_induction ByteArray.toList.loop b index front with
  | case1 index front hindex ih =>
      have hplace : index < b.data.toList.length := by simpa using hindex
      have hget : b.get! index = b.data.toList.get ⟨index, hplace⟩ := by
        rw [List.get_eq_getElem, Array.getElem_toList]
        exact getElem!_pos b.data index _
      rw [ih, List.reverse_cons, List.append_assoc, List.singleton_append, hget,
        List.get_eq_getElem, List.getElem_cons_drop]
  | case2 index front hindex =>
      rw [List.drop_eq_nil_of_le (by simpa using hindex), List.append_nil]

theorem bytes_eq (text : String) : bytes text = text.toByteArray.data.toList := by
  rw [bytes, String.toUTF8_eq_toByteArray, ByteArray.toList, toList_loop, List.reverse_nil,
    List.nil_append, List.drop_zero]

theorem bytes_append (s t : String) : bytes (s ++ t) = bytes s ++ bytes t := by
  rw [bytes_eq, bytes_eq, bytes_eq, String.toByteArray_append, ByteArray.toList_data_append]

theorem bytes_injective {s t : String} (h : bytes s = bytes t) : s = t := by
  rw [bytes_eq, bytes_eq] at h
  exact String.toByteArray_inj.1 (ByteArray.ext (Array.toList_inj.1 h))

/-- A message at a place of the chain tells its record and the hash before it, when the hashes that
may stand there have one length. -/
theorem message_injective {sequence : Nat} {r s : RunRecord} {p q : String}
    (hlength : p.length = q.length) (h : message sequence r p = message sequence s q) :
    p = q ∧ r = s := by
  rw [message, message, ← bytes_append, ← bytes_append] at h
  have htext : p ++ r.canonical.text = q ++ s.canonical.text :=
    bytes_injective (List.append_cancel_left h)
  have hchars : p.toList ++ r.canonical.text.toList = q.toList ++ s.canonical.text.toList := by
    rw [← String.toList_append, htext, String.toList_append]
  obtain ⟨hprev, hrecord⟩ := List.append_inj hchars hlength
  exact ⟨String.toList_injective hprev,
    RunRecord.canonicalText_injective (String.toList_injective hrecord)⟩

/-! ### Unbroken chains -/

/-- What the hash of an entry covers. -/
def entryMessage (entry : LedgerEntry) : List UInt8 :=
  message entry.sequence entry.record entry.prevHash

/-- The hash function takes no two different messages, one of either chain, to one text. -/
def NoCollision (hash : HashFunction) (xs ys : List LedgerEntry) : Prop :=
  ∀ x ∈ xs, ∀ y ∈ ys, hash (entryMessage x) = hash (entryMessage y) →
    entryMessage x = entryMessage y

instance (hash : HashFunction) (xs ys : List LedgerEntry) : Decidable (NoCollision hash xs ys) :=
  inferInstanceAs (Decidable (∀ x ∈ xs, ∀ y ∈ ys, hash (entryMessage x) = hash (entryMessage y) →
    entryMessage x = entryMessage y))

variable {hash : HashFunction}

theorem length_reached (hlength : ∀ message, (hash message).length = 64) {position : Nat}
    {prevHash : String} {entries : List LedgerEntry} (hprev : prevHash.length = 64)
    (hchain : firstBreakFrom hash position prevHash entries = none) :
    (reached prevHash entries).length = 64 := by
  induction entries generalizing position prevHash with
  | nil => exact hprev
  | cons entry entries ih =>
      obtain ⟨hlinked, hrest⟩ := firstBreakFrom_cons_eq_none_iff.1 hchain
      refine ih ?_ hrest
      rw [← (linked_iff.1 hlinked).2.2]
      exact hlength _

/-- An entry of an unbroken chain stands at its place, has the hash of its message, and names a hash
of fixed length. -/
theorem entry_of_unbroken (hlength : ∀ message, (hash message).length = 64)
    {entries : List LedgerEntry} {index : Nat} {entry : LedgerEntry}
    (hchain : firstBreak hash entries = none) (hentry : entries[index]? = some entry) :
    entry.sequence = index ∧ entry.prevHash = reached genesis (entries.take index) ∧
      hash (entryMessage entry) = entry.thisHash ∧ entry.prevHash.length = 64 := by
  have hlinked := linked_of_firstBreakFrom hchain hentry
  rw [Nat.zero_add] at hlinked
  obtain ⟨hsequence, hprev, hthis⟩ := linked_iff.1 hlinked
  have hfront : firstBreakFrom hash 0 genesis (entries.take index) = none := by
    rw [firstBreak, ← List.take_append_drop index entries,
      firstBreakFrom_append_eq_none_iff] at hchain
    exact hchain.1
  exact ⟨hsequence, hprev, hthis, by rw [hprev, length_reached hlength rfl hfront]⟩

theorem exists_entry_before (hlength : ∀ message, (hash message).length = 64)
    {entries : List LedgerEntry} {index : Nat} {entry : LedgerEntry}
    (hchain : firstBreak hash entries = none) (hentry : entries[index + 1]? = some entry) :
    ∃ before, entries[index]? = some before ∧ before.thisHash = entry.prevHash := by
  have hindex : index < entries.length :=
    Nat.lt_of_succ_lt (List.getElem?_eq_some_iff.1 hentry).1
  refine ⟨entries[index], List.getElem?_eq_getElem hindex, ?_⟩
  calc entries[index].thisHash
      = reached genesis (entries.take index ++ [entries[index]]) := (reached_append _ _ _).symm
    _ = reached genesis (entries.take (index + 1)) := by
      rw [List.take_succ_eq_append_getElem hindex]
    _ = entry.prevHash := (entry_of_unbroken hlength hchain hentry).2.1.symm

/-- Entries at one place of two unbroken chains with one hash are equal. -/
theorem entry_eq_of_thisHash_eq (hlength : ∀ message, (hash message).length = 64)
    {xs ys : List LedgerEntry} {index : Nat} {x y : LedgerEntry} (hxs : firstBreak hash xs = none)
    (hys : firstBreak hash ys = none) (hcollision : NoCollision hash xs ys)
    (hx : xs[index]? = some x) (hy : ys[index]? = some y) (hsame : x.thisHash = y.thisHash) :
    x = y := by
  obtain ⟨hxsequence, -, hxhash, hxlength⟩ := entry_of_unbroken hlength hxs hx
  obtain ⟨hysequence, -, hyhash, hylength⟩ := entry_of_unbroken hlength hys hy
  have hmessage : entryMessage x = entryMessage y :=
    hcollision x (List.mem_of_getElem? hx) y (List.mem_of_getElem? hy)
      (hxhash.trans (hsame.trans hyhash.symm))
  rw [entryMessage, entryMessage, hxsequence, hysequence] at hmessage
  obtain ⟨hprev, hrecord⟩ := message_injective (hxlength.trans hylength.symm) hmessage
  rcases x with ⟨_, _, _, _⟩
  rcases y with ⟨_, _, _, _⟩
  cases hxsequence
  cases hysequence
  cases hprev
  cases hrecord
  cases hsame
  rfl

/-- **Tamper evidence.** Two unbroken chains whose entries at a place carry the same hash have the
same entries at that place and at every place before it, if the hash function gives texts of 64
characters and takes no two different messages of the chains to one text. -/
theorem entries_eq_of_thisHash_eq (hash : HashFunction)
    (hlength : ∀ message, (hash message).length = 64) {xs ys : List LedgerEntry}
    (hxs : firstBreak hash xs = none) (hys : firstBreak hash ys = none)
    (hcollision : NoCollision hash xs ys) {n : Nat} {x y : LedgerEntry} (hx : xs[n]? = some x)
    (hy : ys[n]? = some y) (hsame : x.thisHash = y.thisHash) :
    ∀ i ≤ n, ∃ entry, xs[i]? = some entry ∧ ys[i]? = some entry := by
  have heq := entry_eq_of_thisHash_eq hlength hxs hys hcollision hx hy hsame
  subst heq
  -- The equal entries name one previous hash, which the entries before them carry.
  induction n generalizing x with
  | zero =>
      intro i hi
      obtain rfl := Nat.le_zero.1 hi
      exact ⟨x, hx, hy⟩
  | succ n ih =>
      intro i hi
      rcases Nat.le_succ_iff.1 hi with hle | rfl
      · obtain ⟨x', hx', hxprev⟩ := exists_entry_before hlength hxs hx
        obtain ⟨y', hy', hyprev⟩ := exists_entry_before hlength hys hy
        have hprev : x'.thisHash = y'.thisHash := hxprev.trans hyprev.symm
        have heq := entry_eq_of_thisHash_eq hlength hxs hys hcollision hx' hy' hprev
        subst heq
        exact ih hx' hy' rfl i hle
      · exact ⟨x, hx, hy⟩

/-- A copy of a ledger and the ledger after one more record, under a hash that shows only the first
byte of a message, agree on the two entries that they share. -/
theorem entries_eq_of_copied :
    let record : RunRecord := ⟨.ofNat 1, "retire", .function, { action := "delete" }, ⟨0, 0⟩⟩
    let hash : HashFunction := fun message =>
      String.ofList (List.replicate 64 (Char.ofNat (48 + (message.headD 0).toNat)))
    let copy := Ledger.replay hash [.write record, .write record]
    let later := Ledger.replay hash [.write record, .write record, .write record]
    ∀ i ≤ 1, ∃ entry, copy.entries[i]? = some entry ∧ later.entries[i]? = some entry := by
  intro record hash copy later
  have hlength : ∀ message, (hash message).length = 64 := fun message => by
    rw [String.length_ofList, List.length_replicate]
  have hcollision : NoCollision hash copy.entries later.entries := by
    intro x hx y hy
    rcases List.mem_cons.1 hx with rfl | hx
    · rcases List.mem_cons.1 hy with rfl | hy
      · exact fun _ => rfl
      rcases List.mem_cons.1 hy with rfl | hy
      · exact fun hsame => absurd hsame (by decide +kernel)
      obtain rfl := List.mem_singleton.1 hy
      exact fun hsame => absurd hsame (by decide +kernel)
    · obtain rfl := List.mem_singleton.1 hx
      rcases List.mem_cons.1 hy with rfl | hy
      · exact fun hsame => absurd hsame (by decide +kernel)
      rcases List.mem_cons.1 hy with rfl | hy
      · exact fun _ => rfl
      obtain rfl := List.mem_singleton.1 hy
      exact fun hsame => absurd hsame (by decide +kernel)
  exact entries_eq_of_thisHash_eq hash hlength
    (Ledger.sound_replay hash [.write record, .write record]).intact
    (Ledger.sound_replay hash [.write record, .write record, .write record]).intact hcollision
    (n := 1) (x := (Ledger.replay hash [.write record]).nextEntry hash record) rfl rfl rfl

end Chain

end CloudPolicy
