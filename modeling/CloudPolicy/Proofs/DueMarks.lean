import CloudPolicy.Filter.Values
import CloudPolicy.Proofs.Calendar

/-! The date of a mark less the skew of a filter. It is an instant or it is out of range, whatever
the time at which the filter asks, and only in the first case the filter can say whether the date
has come. -/

namespace CloudPolicy

namespace DueOptions

variable {options : DueOptions} {r s : Resource}

/-- The dates that the filter has to compare for the resource are in range: there is one when the
resource has a readable mark for the operation. -/
def Reaches (options : DueOptions) (r : Resource) : Prop :=
  ∀ date, options.date? r = some date →
    (date.addSeconds (-options.skew.seconds)).isInRange = true

theorem not_reaches_iff : ¬ options.Reaches r ↔ ∃ date, options.date? r = some date ∧
    ¬ (date.addSeconds (-options.skew.seconds)).isInRange = true := by
  simp only [Reaches, Classical.not_forall, exists_prop]

/-- The resource has a readable mark for the operation, and its date less the skew has come. -/
def hasCome (options : DueOptions) (now : Timestamp) (r : Resource) : Bool :=
  (options.date? r).any fun date => (date.addSeconds (-options.skew.seconds)).notAfter now

/-- Marks are read off the tags. -/
theorem date?_congr (htags : s.tags = r.tags) : options.date? s = options.date? r := by
  rw [date?, date?, htags]

theorem reaches_congr (htags : s.tags = r.tags) : options.Reaches s ↔ options.Reaches r := by
  rw [Reaches, Reaches, date?_congr htags]

theorem hasCome_congr (htags : s.tags = r.tags) (now : Timestamp) :
    options.hasCome now s = options.hasCome now r := by
  rw [hasCome, hasCome, date?_congr htags]

end DueOptions

namespace Filter

variable {options : DueOptions} {r : Resource}

theorem isDue_of_reaches (h : options.Reaches r) (now : Timestamp) :
    isDue options now r = .ok (options.hasCome now r) := by
  rw [isDue, DueOptions.hasCome]
  cases hdate : options.date? r with
  | none => rfl
  | some date =>
      dsimp only
      rw [Timestamp.earlier, Timestamp.checked_of_isInRange (h date hdate)]
      rfl

theorem isDue_of_not_reaches (h : ¬ options.Reaches r) (now : Timestamp) :
    isDue options now r = .error Timestamp.tooFar := by
  obtain ⟨date, hdate, hfar⟩ := DueOptions.not_reaches_iff.1 h
  rw [isDue, hdate]
  dsimp only
  rw [Timestamp.earlier, Timestamp.checked_of_not_isInRange hfar]
  rfl

end Filter

end CloudPolicy
