import Mathlib.Data.List.Forall2

namespace DatapackAuthoring

variable {ε α β : Type}

@[simp] theorem ok_bind (a : α) (next : α → Except ε β) : (Except.ok a >>= next) = next a := rfl

@[simp] theorem error_bind (fault : ε) (next : α → Except ε β) :
    (Except.error fault >>= next) = .error fault := rfl

@[simp] theorem pure_eq_ok (a : α) : (pure a : Except ε α) = .ok a := rfl

@[simp] theorem throw_eq_error (fault : ε) : (throw fault : Except ε α) = .error fault := rfl

theorem bind_eq_ok_iff {step : Except ε α} {next : α → Except ε β} {b : β} :
    (step >>= next) = .ok b ↔ ∃ a, step = .ok a ∧ next a = .ok b := by
  cases step with
  | ok a => simp
  | error fault => simp

theorem bind_eq_error_iff {step : Except ε α} {next : α → Except ε β} {fault : ε} :
    (step >>= next) = .error fault ↔
      step = .error fault ∨ ∃ a, step = .ok a ∧ next a = .error fault := by
  cases step with
  | ok a => simp
  | error other => simp

@[simp] theorem bind_error_ne_ok (step : Except ε α) (fault : α → ε) (b : β) :
    (step >>= fun a => .error (fault a)) ≠ .ok b := by
  cases step with
  | ok a => simp
  | error fault => simp

theorem map_eq_ok_iff {result : Except ε α} {f : α → β} {b : β} :
    result.map f = .ok b ↔ ∃ a, result = .ok a ∧ f a = b := by
  cases result with
  | ok a => simp [Except.map]
  | error fault => simp [Except.map]

theorem map_eq_error_iff {result : Except ε α} {f : α → β} {fault : ε} :
    result.map f = .error fault ↔ result = .error fault := by
  cases result with
  | ok a => simp [Except.map]
  | error other => simp [Except.map]

theorem exists_map_eq_ok_iff {result : Except ε α} {f : α → β} {P : β → Prop} :
    (∃ b, result.map f = .ok b ∧ P b) ↔ ∃ a, result = .ok a ∧ P (f a) := by
  cases result with
  | ok a => simp [Except.map]
  | error fault => simp [Except.map]

theorem mapM_cons_eq_ok_iff {f : α → Except ε β} {a : α} {rest : List α} {results : List β} :
    (a :: rest).mapM f = .ok results ↔
      ∃ b others, f a = .ok b ∧ rest.mapM f = .ok others ∧ results = b :: others := by
  rw [List.mapM_cons, bind_eq_ok_iff]
  constructor
  · rintro ⟨b, first, later⟩
    obtain ⟨others, found, whole⟩ := bind_eq_ok_iff.mp later
    exact ⟨b, others, first, found, (Except.ok.inj whole).symm⟩
  · rintro ⟨b, others, first, found, rfl⟩
    exact ⟨b, first, by simp [found]⟩

theorem forall₂_of_mapM {f : α → Except ε β} {items : List α} {results : List β}
    (run : items.mapM f = .ok results) :
    List.Forall₂ (fun item result => f item = .ok result) items results := by
  induction items generalizing results with
  | nil =>
    cases run
    exact .nil
  | cons item rest ih =>
    obtain ⟨result, others, first, later, rfl⟩ := mapM_cons_eq_ok_iff.mp run
    exact .cons first (ih later)

theorem exists_of_mapM_eq_error {f : α → Except ε β} {items : List α} {fault : ε}
    (stopped : items.mapM f = .error fault) :
    ∃ before item after, items = before ++ item :: after ∧
      (∀ earlier ∈ before, ∃ result, f earlier = .ok result) ∧ f item = .error fault := by
  induction items with
  | nil => cases stopped
  | cons item rest ih =>
    rw [List.mapM_cons] at stopped
    obtain failed | ⟨result, passed, later⟩ := bind_eq_error_iff.mp stopped
    · exact ⟨[], item, rest, rfl, List.forall_mem_nil _, failed⟩
    · have later : rest.mapM f = .error fault := by simpa [bind_eq_error_iff] using later
      obtain ⟨before, last, after, rfl, others, failed⟩ := ih later
      exact ⟨item :: before, last, after, rfl,
        List.forall_mem_cons.mpr ⟨⟨result, passed⟩, others⟩, failed⟩

theorem mapM_of_error {f : α → Except ε β} {before : List α} {item : α} {fault : ε}
    (passed : ∀ earlier ∈ before, ∃ result, f earlier = .ok result)
    (failed : f item = .error fault) (after : List α) :
    (before ++ item :: after).mapM f = .error fault := by
  induction before with
  | nil => rw [List.nil_append, List.mapM_cons, failed, error_bind]
  | cons head rest ih =>
    obtain ⟨⟨result, first⟩, others⟩ := List.forall_mem_cons.mp passed
    rw [List.cons_append, List.mapM_cons, first, ok_bind, ih others, error_bind]

/-- A walk stops at the first item that fails. -/
theorem mapM_eq_error_iff {f : α → Except ε β} {items : List α} {fault : ε} :
    items.mapM f = .error fault ↔
      ∃ before item after, items = before ++ item :: after ∧
        (∀ earlier ∈ before, ∃ result, f earlier = .ok result) ∧ f item = .error fault := by
  constructor
  · exact exists_of_mapM_eq_error
  · rintro ⟨before, item, after, rfl, passed, failed⟩
    exact mapM_of_error passed failed after

instance decidableForallOk {P : α → Prop} [∀ a, Decidable (P a)] (result : Except ε α) :
    Decidable (∀ a, result = .ok a → P a) :=
  match result with
  | .ok a => decidable_of_iff (P a) (by simp)
  | .error _ => .isTrue (by simp)

end DatapackAuthoring
