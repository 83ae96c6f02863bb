import Mathlib.Order.Defs.Unbundled
import CloudPolicy.Cloud.Basic
import CloudPolicy.Proofs.Steps

/-! What a step may change, whether it comes to its end or fails. A relation between states that is
reflexive and transitive holds of every step that is put together from steps for which it holds, so
that it has to be shown of the single operations only. -/

namespace CloudPolicy.Steps

variable {σ α β : Type}

/-- However the step ends, `R` relates the state before it to the state after it, and what it gives
satisfies `P`. -/
structure Within (R : σ → σ → Prop) (P : α → Prop) (step : ExceptT Error (StateM σ) α) : Prop where
  moves : ∀ s, R s (step.run s).2
  gives : ∀ s a, (step.run s).1 = .ok a → P a

namespace Within

variable {R S : σ → σ → Prop} {P P' : α → Prop} {Q : β → Prop} {x : ExceptT Error (StateM σ) α}
  {f : α → ExceptT Error (StateM σ) β}

theorem mono (hx : Within R P x) (hR : ∀ s t, R s t → S s t) (hP : ∀ a, P a → P' a) :
    Within S P' x where
  moves := fun s => hR _ _ (hx.moves s)
  gives := fun s a ha => hP a (hx.gives s a ha)

theorem of_modify {g : σ → σ} (hg : ∀ s, R s (g s)) :
    Within R (fun _ => True) (modify g : ExceptT Error (StateM σ) PUnit) where
  moves := hg
  gives := fun _ _ _ => trivial

theorem of_lift {y : StateM σ α} (hmoves : ∀ s, R s (y s).2) (hgives : ∀ s, P (y s).1) :
    Within R P (ExceptT.lift y) where
  moves := hmoves
  gives := by
    intro s a ha
    cases ha
    exact hgives s

/-- A step that reads the state may go on by it. -/
theorem of_get_bind {g : σ → ExceptT Error (StateM σ) β} (hmoves : ∀ s, R s ((g s).run s).2)
    (hgives : ∀ s b, ((g s).run s).1 = .ok b → Q b) : Within R Q (get >>= g) where
  moves := hmoves
  gives := hgives

variable [IsPreorder σ R]

theorem of_pure {a : α} (ha : P a) : Within R P (pure a) where
  moves := refl_of R
  gives := by
    intro s b hb
    cases hb
    exact ha

theorem of_throw (e : Error) : Within R P (throw e : ExceptT Error (StateM σ) α) where
  moves := refl_of R
  gives := nofun

theorem of_get : Within R (fun _ => True) (get : ExceptT Error (StateM σ) σ) where
  moves := refl_of R
  gives := fun _ _ _ => trivial

theorem bind (hx : Within R P x) (hf : ∀ a, P a → Within R Q (f a)) : Within R Q (x >>= f) where
  moves := by
    intro s
    have hfirst := hx.moves s
    rcases hrun : x.run s with ⟨e | a, t⟩
    · rw [hrun] at hfirst
      rw [run_bind_of_error hrun]
      exact hfirst
    · have ha : P a := hx.gives s a (by rw [hrun])
      rw [hrun] at hfirst
      rw [run_bind_of_ok hrun]
      exact trans_of R hfirst ((hf a ha).moves t)
  gives := by
    intro s b hb
    rcases hrun : x.run s with ⟨e | a, t⟩
    · rw [run_bind_of_error hrun] at hb
      cases hb
    · have ha : P a := hx.gives s a (by rw [hrun])
      rw [run_bind_of_ok hrun] at hb
      exact (hf a ha).gives t b hb

theorem done (a : α) : Within R (fun _ => True) (pure a) := of_pure trivial

theorem andThen (hx : Within R (fun _ => True) x) (hf : ∀ a, Within R (fun _ => True) (f a)) :
    Within R (fun _ => True) (x >>= f) :=
  hx.bind fun a _ => hf a

/-- A first part that may be left out. -/
theorem ite_andThen {condition : Prop} [Decidable condition]
    {first : ExceptT Error (StateM σ) PUnit}
    {rest : PUnit → ExceptT Error (StateM σ) β} (hfirst : Within R (fun _ => True) first)
    (hrest : ∀ u, Within R (fun _ => True) (rest u)) :
    Within R (fun _ => True) (if condition then first >>= rest else rest ⟨⟩) := by
  split
  next => exact hfirst.andThen hrest
  next => exact hrest ⟨⟩

/-- A check at the end. -/
theorem throw_if {condition : Prop} [Decidable condition] (e : Error) :
    Within R (fun _ => True)
      (if condition then throw e else pure ⟨⟩ : ExceptT Error (StateM σ) PUnit) := by
  split
  next => exact of_throw e
  next => exact done _

/-- What comes after a first part goes on from where that part ended. -/
theorem moves_bind (hf : ∀ a, Within R Q (f a)) (s : σ) : R (x.run s).2 ((x >>= f).run s).2 := by
  rcases hrun : x.run s with ⟨e | a, t⟩
  · rw [run_bind_of_error hrun]
    exact refl_of R t
  · rw [run_bind_of_ok hrun]
    exact (hf a).moves t

/-- What a handler does after a failure counts as well. -/
theorem catch_with {handler : Error → ExceptT Error (StateM σ) α} (hx : Within R P x)
    (hhandler : ∀ e, Within R P (handler e)) : Within R P (tryCatch x handler) where
  moves := by
    intro s
    have hfirst := hx.moves s
    rw [ExceptT.run_tryCatch]
    simp only [Bind.bind, StateT.bind]
    rcases hrun : x.run s with ⟨e | a, t⟩
    · rw [hrun] at hfirst
      exact trans_of R hfirst ((hhandler e).moves t)
    · rw [hrun] at hfirst
      exact hfirst
  gives := by
    intro s a ha
    rw [ExceptT.run_tryCatch] at ha
    simp only [Bind.bind, StateT.bind] at ha
    rcases hrun : x.run s with ⟨e | b, t⟩
    · rw [hrun] at ha
      exact (hhandler e).gives t a ha
    · rw [hrun] at ha
      exact hx.gives s a (by rw [hrun]; exact ha)

end Within

end CloudPolicy.Steps

namespace CloudPolicy.Cloud

open Steps (Within)

/-- Nothing but the call log is different, and that was only added to. -/
def LogsOnly (before after : Cloud) : Prop :=
  ∃ calls, after = { before with calls := before.calls ++ calls }

instance : IsPreorder Cloud LogsOnly where
  refl := fun cloud => ⟨[], by rw [List.append_nil]⟩
  trans := by
    rintro before middle after ⟨calls, rfl⟩ ⟨later, rfl⟩
    exact ⟨calls ++ later, by rw [List.append_assoc]⟩

theorem logsOnly_record (cloud : Cloud) (service operation target : String) :
    LogsOnly cloud (cloud.record service operation target) := ⟨_, rfl⟩

theorem run_enter (service operation target : String) (cloud : Cloud) :
    (enter service operation target).run cloud =
      (if cloud.isFailing operation target then
        .error (.serviceCall service operation ("injected failure for '" ++ target ++ "'"))
        else .ok (), cloud.record service operation target) := by
  show (if cloud.isFailing operation target then (throw _ : CloudM Unit) else pure ()).run
    (cloud.record service operation target) = _
  split <;> rfl

theorem run_enter_bind {α : Type} (service operation target : String) (rest : Unit → CloudM α)
    (cloud : Cloud) :
    (enter service operation target >>= rest).run cloud =
      if cloud.isFailing operation target then
        (.error (.serviceCall service operation ("injected failure for '" ++ target ++ "'")),
          cloud.record service operation target)
      else (rest ()).run (cloud.record service operation target) := by
  have henter := run_enter service operation target cloud
  split at henter
  next hfails => rw [Steps.run_bind_of_error henter, if_pos hfails]
  next hworks => rw [Steps.run_bind_of_ok henter, if_neg hworks]

theorem run_enter_bind_of_works {cloud : Cloud} (hfailures : cloud.failures = []) {α : Type}
    (service operation target : String) (rest : Unit → CloudM α) :
    (enter service operation target >>= rest).run cloud =
      (rest ()).run (cloud.record service operation target) := by
  rw [run_enter_bind, if_neg (by simp [isFailing, hfailures])]

theorem enter_logs (service operation target : String) :
    Within LogsOnly (fun _ => True) (enter service operation target) where
  moves := by
    intro cloud
    rw [run_enter]
    exact logsOnly_record cloud service operation target
  gives := fun _ _ _ => trivial

/-- An outcome that needs no cloud. -/
theorem ofExcept_within {α : Type} {R : Cloud → Cloud → Prop} [IsPreorder Cloud R]
    (outcome : Except Error α) : Within R (fun _ => True) (CloudM.ofExcept outcome) := by
  cases outcome with
  | ok value => exact .done _
  | error e => exact .of_throw e

theorem of_run_ofExcept {α : Type} {outcome : Except Error α} {a : α} {before after : Cloud}
    (h : (CloudM.ofExcept outcome).run before = (.ok a, after)) :
    outcome = .ok a ∧ after = before := by
  cases outcome with
  | error e => cases h
  | ok value =>
      cases h
      exact ⟨rfl, rfl⟩

/-- An operation that succeeds goes on from the cloud with its call. -/
theorem of_run_enter_bind {α : Type} {service operation target : String} {rest : Unit → CloudM α}
    {before after : Cloud} {a : α}
    (h : (enter service operation target >>= rest).run before = (.ok a, after)) :
    (rest ()).run (before.record service operation target) = (.ok a, after) := by
  rw [run_enter_bind] at h
  split at h
  next => cases h
  next => exact h

end CloudPolicy.Cloud
