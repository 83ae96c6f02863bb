import CloudPolicy.Hash.Sha256
import CloudPolicy.Ledger.Record

/-! The hash chain. An entry's hash covers its sequence number, the hash of the entry before it and
its record, so a change of any entry shows in its own hash or in the next entry. Everything here
holds for any hash function. -/

namespace CloudPolicy

/-- A hash of messages, as a text. -/
abbrev HashFunction := List UInt8 → String

namespace Chain

/-- The previous hash of the first entry. -/
def genesis : String := String.ofList (List.replicate 64 '0')

/-- The last `count` bytes of a number, the least significant one first. -/
def littleEndian : (count : Nat) → Nat → List UInt8
  | 0, _ => []
  | count + 1, n => UInt8.ofNat (n % 256) :: littleEndian count (n / 256)

def bytes (text : String) : List UInt8 := text.toUTF8.toList

/-- What the hash of an entry covers. -/
def message (sequence : Nat) (record : RunRecord) (prevHash : String) : List UInt8 :=
  littleEndian 8 sequence ++ (bytes prevHash ++ bytes record.canonical.text)

def entryHash (hash : HashFunction) (sequence : Nat) (record : RunRecord) (prevHash : String) :
    String :=
  hash (message sequence record prevHash)

/-- The entry stands at its place, follows `prevHash` and has the hash of its content. -/
def linked (hash : HashFunction) (position : Nat) (prevHash : String) (entry : LedgerEntry) :
    Bool :=
  entry.sequence = position ∧ entry.prevHash = prevHash ∧
    entryHash hash entry.sequence entry.record entry.prevHash = entry.thisHash

/-- The first position, counted from `position`, whose entry breaks the chain that has reached
`prevHash`. -/
def firstBreakFrom (hash : HashFunction) :
    (position : Nat) → (prevHash : String) → List LedgerEntry → Option Nat
  | _, _, [] => none
  | position, prevHash, entry :: entries =>
    if linked hash position prevHash entry then
      firstBreakFrom hash (position + 1) entry.thisHash entries
    else some position

def firstBreak (hash : HashFunction) (entries : List LedgerEntry) : Option Nat :=
  firstBreakFrom hash 0 genesis entries

/-- No entry breaks the chain. -/
def isIntact (hash : HashFunction) (entries : List LedgerEntry) : Bool :=
  (firstBreak hash entries).isNone

end Chain

end CloudPolicy
