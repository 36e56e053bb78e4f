import Mathlib.Data.List.Forall2

/-! # Outcomes in sequence

A sequence of steps that can fail succeeds where each step does, and fails where one of them does.
-/

namespace StoreSchema.Outcome

variable {ε α β : Type}

theorem bind_eq_ok {first : Except ε α} {next : α → Except ε β} {result : β} :
    (first >>= next) = .ok result ↔ ∃ value, first = .ok value ∧ next value = .ok result := by
  cases first with
  | error fault => simp [bind, Except.bind]
  | ok value => simp [bind, Except.bind]

theorem pure_eq_ok {value result : α} : (pure value : Except ε α) = .ok result ↔ value = result := by
  simp [pure, Except.pure]

@[simp] theorem ok_bind (value : α) (next : α → Except ε β) :
    ((Except.ok value : Except ε α) >>= next) = next value := rfl

theorem isOk_iff {first : Except ε α} : first.isOk ↔ ∃ value, first = .ok value := by
  cases first <;> simp [Except.isOk, Except.toBool]

theorem bind_eq_error {first : Except ε α} {next : α → Except ε β} {fault : ε} :
    (first >>= next) = .error fault ↔
      first = .error fault ∨ ∃ value, first = .ok value ∧ next value = .error fault := by
  cases first with
  | error other => simp [bind, Except.bind]
  | ok value => simp [bind, Except.bind]

theorem toOption_bind (first : Except ε α) (next : α → Except ε β) :
    (first >>= next).toOption = first.toOption.bind fun value => (next value).toOption := by
  cases first <;> rfl

@[simp] theorem toOption_pure (value : α) : (pure value : Except ε α).toOption = some value := rfl

theorem toOption_eq_some {first : Except ε α} {value : α} :
    first.toOption = some value ↔ first = .ok value := by
  cases first <;> simp [Except.toOption]

theorem mapError_bind {δ : Type} (f : ε → δ) (first : Except ε α) (next : α → Except ε β) :
    (first >>= next).mapError f = first.mapError f >>= fun value => (next value).mapError f := by
  cases first <;> rfl

theorem mapM_eq_ok {step : α → Except ε β} {values : List α} {results : List β} :
    values.mapM step = .ok results ↔
      List.Forall₂ (fun value result => step value = .ok result) values results := by
  induction values generalizing results with
  | nil =>
      rw [List.mapM_nil, pure_eq_ok, List.forall₂_nil_left_iff, eq_comm]
  | cons value rest ih =>
      rw [List.mapM_cons, bind_eq_ok, List.forall₂_cons_left_iff]
      refine exists_congr fun result => ?_
      simp only [bind_eq_ok, pure_eq_ok, ih, exists_and_left, @eq_comm _ results]

theorem mapM_eq_error {step : α → Except ε β} {values : List α} {fault : ε}
    (fails : values.mapM step = .error fault) : ∃ value ∈ values, step value = .error fault := by
  induction values with
  | nil => cases fails
  | cons value rest ih =>
      rw [List.mapM_cons] at fails
      rcases bind_eq_error.mp fails with here | ⟨result, -, later⟩
      · exact ⟨value, List.mem_cons_self, here⟩
      · rcases bind_eq_error.mp later with there | ⟨others, -, done⟩
        · obtain ⟨other, inside, found⟩ := ih there
          exact ⟨other, List.mem_cons_of_mem value inside, found⟩
        · cases done

/-! ## Outcomes with the same image -/

section

variable {γ : Type} {f : α → γ} {g : β → γ} {first : Except ε α} {second : Except ε β}

theorem error_iff_of_map_eq (same : first.map f = second.map g) {fault : ε} :
    first = .error fault ↔ second = .error fault := by
  cases first <;> cases second <;> simp_all [Except.map]

theorem ok_of_map_eq (same : first.map f = second.map g) {value : α} (done : first = .ok value) :
    ∃ other, second = .ok other ∧ f value = g other := by
  subst done
  cases second with
  | error fault => cases same
  | ok other => exact ⟨other, rfl, Except.ok.inj same⟩

end

/-- Two outcomes that are the same but for their faults. -/
inductive Alike {δ : Type} (f : ε → δ) : Except ε α → Except ε α → Prop where
  | ok (value : α) : Alike f (.ok value) (.ok value)
  | error {one other : ε} (same : f one = f other) : Alike f (.error one) (.error other)

theorem alike_of_mapError_eq {δ : Type} {f : ε → δ} {first second : Except ε α}
    (same : first.mapError f = second.mapError f) : Alike f first second := by
  cases first with
  | error one =>
      cases second with
      | error other => exact .error (Except.error.inj same)
      | ok value => cases same
  | ok value =>
      cases second with
      | error other => cases same
      | ok other => exact Except.ok.inj same ▸ .ok value

end StoreSchema.Outcome
