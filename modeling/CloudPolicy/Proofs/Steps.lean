import CloudPolicy.Error

/-! Steps that change a state and may fail: what a step that is put together does follows from what
its parts do, one after the other up to the first failure. -/

namespace CloudPolicy.Steps

variable {σ α β : Type} {x : ExceptT Error (StateM σ) α} {f : α → ExceptT Error (StateM σ) β}
  {s t : σ}

theorem run_pure (a : α) (s : σ) :
    (pure a : ExceptT Error (StateM σ) α).run s = (.ok a, s) := rfl

theorem run_map (h : α → β) (x : ExceptT Error (StateM σ) α) (s : σ) :
    (h <$> x).run s = ((x.run s).1.map h, (x.run s).2) := by
  rw [ExceptT.run_map]
  rfl

theorem run_get_bind (g : σ → ExceptT Error (StateM σ) β) (s : σ) :
    (get >>= g).run s = (g s).run s := rfl

theorem run_bind_of_ok {a : α} (hx : x.run s = (.ok a, t)) :
    (x >>= f).run s = (f a).run t := by
  rw [ExceptT.run_bind]
  simp only [bind, StateT.bind, hx]

theorem run_bind_of_error {e : Error} (hx : x.run s = (.error e, t)) :
    (x >>= f).run s = (.error e, t) := by
  rw [ExceptT.run_bind]
  simp only [bind, StateT.bind, hx]
  rfl

/-- A step in two parts comes to its end only when both do. -/
theorem of_run_bind_eq_ok {b : β} (h : (x >>= f).run s = (.ok b, t)) :
    ∃ a middle, x.run s = (.ok a, middle) ∧ (f a).run middle = (.ok b, t) := by
  rcases hx : x.run s with ⟨e | a, middle⟩
  · rw [run_bind_of_error hx] at h
    cases h
  · rw [run_bind_of_ok hx] at h
    exact ⟨a, middle, rfl, h⟩

/-- A computation in two parts gives a value only when both do. -/
theorem of_bind_eq_ok {ε : Type} {x : Except ε α} {f : α → Except ε β} {b : β}
    (h : x >>= f = .ok b) : ∃ a, x = .ok a ∧ f a = .ok b := by
  cases x with
  | error e => cases h
  | ok a => exact ⟨a, rfl, h⟩

/-- A computation in two parts fails when one of them does. -/
theorem of_bind_eq_error {ε : Type} {x : Except ε α} {f : α → Except ε β} {e : ε}
    (h : x >>= f = .error e) : x = .error e ∨ ∃ a, x = .ok a ∧ f a = .error e := by
  cases x with
  | error e =>
      cases h
      exact .inl rfl
  | ok a => exact .inr ⟨a, rfl, h⟩

/-- That a computation gives a value can be decided when values can be compared. -/
theorem eq_ok_of_toOption {ε : Type} {x : Except ε α} {a : α} (h : x.toOption = some a) :
    x = .ok a := by
  cases x with
  | error e => cases h
  | ok b =>
      cases h
      rfl

theorem eq_ok_of_fst {ε τ : Type} {result : Except ε α × τ} {a : α} (h : result.1 = .ok a) :
    result = (.ok a, result.2) := by
  rw [← h]

/-- What a computation gives for the elements of a list, it gave for one of them. -/
theorem exists_of_mem_mapM {ε : Type} {f : α → Except ε β} {as : List α} {bs : List β}
    (h : as.mapM f = .ok bs) {b : β} (hb : b ∈ bs) : ∃ a ∈ as, f a = .ok b := by
  induction as generalizing bs with
  | nil =>
      rw [List.mapM_nil] at h
      cases h
      exact absurd hb List.not_mem_nil
  | cons a as ih =>
      rw [List.mapM_cons] at h
      obtain ⟨first, hfirst, h⟩ := of_bind_eq_ok h
      obtain ⟨rest, hrest, h⟩ := of_bind_eq_ok h
      cases h
      rcases List.mem_cons.1 hb with rfl | hb
      · exact ⟨a, List.mem_cons_self, hfirst⟩
      · obtain ⟨a', ha', hf⟩ := ih hrest hb
        exact ⟨a', List.mem_cons_of_mem _ ha', hf⟩

variable {g : α → ExceptT Error (StateM σ) β} {u : σ}

theorem run_mapM_nil : (([] : List α).mapM g).run s = (.ok [], s) := by
  rw [List.mapM_nil]
  rfl

theorem run_mapM_cons {a : α} {as : List α} {b : β} {bs : List β} (ha : (g a).run s = (.ok b, t))
    (has : (as.mapM g).run t = (.ok bs, u)) : ((a :: as).mapM g).run s = (.ok (b :: bs), u) := by
  rw [List.mapM_cons, run_bind_of_ok ha, run_bind_of_ok has]
  rfl

theorem run_mapM_append {as later : List α} {bs rest : List β} (has : (as.mapM g).run s = (.ok bs, t))
    (hlater : (later.mapM g).run t = (.ok rest, u)) :
    ((as ++ later).mapM g).run s = (.ok (bs ++ rest), u) := by
  rw [List.mapM_append, run_bind_of_ok has, run_bind_of_ok hlater]
  rfl

/-- When the steps for all elements come to their end, each went on from where the one before it
stopped. -/
theorem of_run_mapM_cons_eq_ok {a : α} {as : List α} {bs : List β}
    (h : ((a :: as).mapM g).run s = (.ok bs, u)) : ∃ b rest t, bs = b :: rest ∧
      (g a).run s = (.ok b, t) ∧ (as.mapM g).run t = (.ok rest, u) := by
  rw [List.mapM_cons] at h
  obtain ⟨b, t, ha, hrest⟩ := of_run_bind_eq_ok h
  obtain ⟨rest, last, has, hpure⟩ := of_run_bind_eq_ok hrest
  cases hpure
  exact ⟨b, rest, t, rfl, ha, has⟩

/-- Of the steps for some elements, all come to their end or one is the first to fail. -/
theorem run_mapM_cases (g : α → ExceptT Error (StateM σ) β) (as : List α) (s : σ) :
    (∃ bs t, (as.mapM g).run s = (.ok bs, t)) ∨
      ∃ before a later bs middle e t, as = before ++ a :: later ∧
        (before.mapM g).run s = (.ok bs, middle) ∧ (g a).run middle = (.error e, t) := by
  induction as generalizing s with
  | nil => exact .inl ⟨[], s, run_mapM_nil⟩
  | cons a as ih =>
      rcases ha : (g a).run s with ⟨e | b, t⟩
      · exact .inr ⟨[], a, as, [], s, e, t, rfl, run_mapM_nil, ha⟩
      · rcases ih t with ⟨bs, u, has⟩ | ⟨before, x, later, bs, middle, e, u, rfl, hbefore, hx⟩
        · exact .inl ⟨b :: bs, u, run_mapM_cons ha has⟩
        · refine .inr ⟨a :: before, x, later, b :: bs, middle, e, u, rfl, ?_, hx⟩
          exact run_mapM_cons ha hbefore

end CloudPolicy.Steps
