/-
Taking apart what succeeded. A chain of steps that gave a value had a value at
every step, so a proof about a function that can refuse goes from its last step
back to its first.
-/

namespace MockApi

variable {ε ε' α β : Type}

/-- A step and what follows it give a value if both do. -/
theorem bind_eq_ok {x : Except ε α} {f : α → Except ε β} {b : β} :
    x >>= f = .ok b ↔ ∃ a, x = .ok a ∧ f a = .ok b := by
  cases x with
  | error e =>
    constructor
    · intro h
      exact nomatch h
    · rintro ⟨a, h, -⟩
      exact nomatch h
  | ok a =>
    constructor
    · intro h
      exact ⟨a, rfl, h⟩
    · rintro ⟨a', h, hf⟩
      rw [Except.ok.inj h]
      exact hf

/-- The renaming of errors leaves the results as they are. -/
theorem mapError_eq_ok {x : Except ε α} {f : ε → ε'} {a : α} :
    x.mapError f = .ok a ↔ x = .ok a := by
  cases x with
  | error e =>
    constructor
    · intro h
      exact nomatch h
    · intro h
      exact nomatch h
  | ok a' =>
    constructor
    · intro h
      rw [Except.ok.inj h]
    · intro h
      rw [Except.ok.inj h]
      rfl

/-- A mapped result comes of a result. -/
theorem map_eq_ok {x : Except ε α} {f : α → β} {b : β} :
    x.map f = .ok b ↔ ∃ a, x = .ok a ∧ f a = b := by
  cases x with
  | error e =>
    constructor
    · intro h
      exact nomatch h
    · rintro ⟨a, h, -⟩
      exact nomatch h
  | ok a =>
    constructor
    · intro h
      exact ⟨a, rfl, Except.ok.inj h⟩
    · rintro ⟨a', h, rfl⟩
      rw [Except.ok.inj h]
      rfl

-- ============================================================ having a value

theorem not_isOk_error (e : ε) : ¬(Except.error e : Except ε α).isOk = true :=
  Bool.false_ne_true

theorem isOk_map (f : α → β) (x : Except ε α) : (x.map f).isOk = x.isOk := by
  cases x with
  | error e => rfl
  | ok a => rfl

theorem isOk_mapError (f : ε → ε') (x : Except ε α) : (x.mapError f).isOk = x.isOk := by
  cases x with
  | error e => rfl
  | ok a => rfl

/-- What follows a step and never fails does not matter. -/
theorem isOk_bind_pure (f : α → β) (x : Except ε α) :
    (x >>= fun a => pure (f a)).isOk = x.isOk := by
  cases x with
  | error e => rfl
  | ok a => rfl

/-- An outcome is a success if it has a value. -/
theorem isOk_iff_exists {x : Except ε α} : x.isOk = true ↔ ∃ a, x = .ok a := by
  cases x with
  | error e =>
    refine iff_of_false (not_isOk_error e) ?_
    rintro ⟨a, h⟩
    cases h
  | ok a => exact iff_of_true rfl ⟨a, rfl⟩

theorem exists_of_isOk {x : Except ε α} (h : x.isOk = true) : ∃ a, x = .ok a :=
  isOk_iff_exists.1 h

/-- An outcome that is none has an error. -/
theorem exists_error_of_isOk {x : Except ε α} (h : x.isOk = false) : ∃ e, x = .error e := by
  cases x with
  | error e => exact ⟨e, rfl⟩
  | ok a => cases h

theorem toOption_eq_some {x : Except ε α} {a : α} : x.toOption = some a ↔ x = .ok a := by
  cases x with
  | error e => exact iff_of_false nofun nofun
  | ok a' =>
    constructor
    · intro h
      rw [Option.some.inj h]
    · intro h
      rw [Except.ok.inj h]
      rfl

/-- A step and what follows it have a value if the step has one, from which the
rest has one. -/
theorem isOk_bind_iff {x : Except ε α} {f : α → Except ε β} :
    (x >>= f).isOk = true ↔ ∃ a, x = .ok a ∧ (f a).isOk = true := by
  cases x with
  | error e =>
    refine iff_of_false (not_isOk_error e) ?_
    rintro ⟨a, h, -⟩
    cases h
  | ok a =>
    constructor
    · intro h
      exact ⟨a, rfl, h⟩
    · rintro ⟨a', ha, h⟩
      rw [Except.ok.inj ha]
      exact h

-- ============================================================= ways to fail

/-- Whatever a step fails with is a cause of this kind. -/
def FailsOnly (P : ε → Prop) (x : Except ε α) : Prop := ∀ e, x = .error e → P e

theorem failsOnly_ok (P : ε → Prop) (a : α) : FailsOnly P (.ok a) := nofun

theorem failsOnly_error {P : ε → Prop} {e : ε} (h : P e) :
    FailsOnly P (.error e : Except ε α) := by
  rintro e' he
  rwa [← Except.error.inj he]

/-- A step and what follows it fail as one of them does. -/
theorem FailsOnly.bind {P : ε → Prop} {x : Except ε α} {f : α → Except ε β}
    (hx : FailsOnly P x) (hf : ∀ a, x = .ok a → FailsOnly P (f a)) : FailsOnly P (x >>= f) := by
  intro e he
  cases x with
  | error cause =>
    rw [← Except.error.inj he]
    exact hx cause rfl
  | ok a => exact hf a rfl e he

/-- Errors that are renamed stay within what is allowed if their new names do. -/
theorem FailsOnly.mapError {P : ε' → Prop} {f : ε → ε'} {x : Except ε α}
    (h : FailsOnly (fun e => P (f e)) x) : FailsOnly P (x.mapError f) := by
  intro e he
  cases x with
  | error cause =>
    rw [← Except.error.inj he]
    exact h cause rfl
  | ok a => cases he

/-- A result that is mapped brings no new error. -/
theorem FailsOnly.map {P : ε → Prop} {x : Except ε α} (h : FailsOnly P x) (f : α → β) :
    FailsOnly P (x.map f) := by
  intro e he
  cases x with
  | error cause =>
    rw [← Except.error.inj he]
    exact h cause rfl
  | ok a => cases he

-- =========================================================== one after another

/-- Where every step succeeds, what the steps give is listed. -/
theorem mapM_eq_ok {f : α → Except ε β} {g : α → β} {items : List α}
    (h : ∀ a ∈ items, f a = .ok (g a)) : items.mapM f = .ok (items.map g) := by
  induction items with
  | nil => rfl
  | cons a rest ih =>
    obtain ⟨ha, hrest⟩ := List.forall_mem_cons.1 h
    rw [List.mapM_cons, ha, ih hrest]
    rfl

/-- What is listed was given by a step. -/
theorem exists_of_mem_mapM {f : α → Except ε β} {items : List α} {listed : List β}
    (h : items.mapM f = .ok listed) {b : β} (hb : b ∈ listed) : ∃ a ∈ items, f a = .ok b := by
  induction items generalizing listed with
  | nil =>
    obtain rfl := Except.ok.inj h
    cases hb
  | cons a rest ih =>
    rw [List.mapM_cons] at h
    obtain ⟨first, hfirst, h⟩ := bind_eq_ok.1 h
    obtain ⟨others, hothers, h⟩ := bind_eq_ok.1 h
    obtain rfl := Except.ok.inj h
    cases List.mem_cons.1 hb with
    | inl heq => exact ⟨a, List.mem_cons_self, heq ▸ hfirst⟩
    | inr hmem =>
      obtain ⟨a', ha', hgiven⟩ := ih hothers hmem
      exact ⟨a', List.mem_cons_of_mem a ha', hgiven⟩

end MockApi
