import Mathlib.Data.List.Forall2

/-!
# Steps that may fail

How a sequence of steps that may fail can end, told from its steps.
-/

namespace SentenceGraph.Fallible

variable {Error Input Final : Type}

@[simp]
theorem ok_bind (value : Input) (next : Input → Except Error Final) :
    (Except.ok value >>= next) = next value := rfl

@[simp]
theorem error_bind (fault : Error) (next : Input → Except Error Final) :
    (Except.error fault >>= next) = .error fault := rfl

@[simp]
theorem pure_eq_ok (value : Input) : (pure value : Except Error Input) = .ok value := rfl

theorem bind_eq_ok_iff {step : Except Error Input} {next : Input → Except Error Final}
    {result : Final} :
    (step >>= next) = .ok result ↔ ∃ value, step = .ok value ∧ next value = .ok result := by
  cases step with
  | error fault => simp
  | ok value => simp

theorem bind_eq_error_iff {step : Except Error Input} {next : Input → Except Error Final}
    {fault : Error} :
    (step >>= next) = .error fault ↔
      step = .error fault ∨ ∃ value, step = .ok value ∧ next value = .error fault := by
  cases step with
  | error other => simp
  | ok value => simp

theorem toOption_eq_some_iff {step : Except Error Final} {result : Final} :
    step.toOption = some result ↔ step = .ok result := by
  cases step with
  | error fault => simp [Except.toOption]
  | ok value => simp [Except.toOption]

/-- A step for each item succeeds with the results of all of them, in order. -/
theorem mapM_eq_ok_iff {step : Input → Except Error Final} {items : List Input}
    {results : List Final} :
    items.mapM step = .ok results ↔
      List.Forall₂ (fun item result => step item = .ok result) items results := by
  induction items generalizing results with
  | nil => simp [eq_comm]
  | cons item items inductionHypothesis =>
      rw [List.mapM_cons, bind_eq_ok_iff, List.forall₂_cons_left_iff]
      constructor
      · rintro ⟨result, here, rest⟩
        rcases bind_eq_ok_iff.mp rest with ⟨others, there, same⟩
        cases same
        exact ⟨result, others, here, inductionHypothesis.mp there, rfl⟩
      · rintro ⟨result, others, here, there, rfl⟩
        exact ⟨result, here, bind_eq_ok_iff.mpr ⟨others, inductionHypothesis.mpr there, rfl⟩⟩

theorem exists_mapM_eq_ok_iff {step : Input → Except Error Final} {items : List Input} :
    (∃ results, items.mapM step = .ok results) ↔
      ∀ item ∈ items, ∃ result, step item = .ok result := by
  induction items with
  | nil => exact ⟨by simp, fun _ => ⟨[], rfl⟩⟩
  | cons item items inductionHypothesis =>
      simp only [mapM_eq_ok_iff, List.forall₂_cons_left_iff] at inductionHypothesis ⊢
      rw [List.forall_mem_cons, ← inductionHypothesis]
      constructor
      · rintro ⟨_, result, others, here, there, rfl⟩
        exact ⟨⟨result, here⟩, others, there⟩
      · rintro ⟨⟨result, here⟩, others, there⟩
        exact ⟨_, result, others, here, there, rfl⟩

/-- A step for each item fails at the first item whose step fails. -/
theorem mapM_eq_error_iff {step : Input → Except Error Final} {items : List Input} {fault : Error} :
    items.mapM step = .error fault ↔
      ∃ before item after, items = before ++ item :: after ∧
        (∀ other ∈ before, ∃ result, step other = .ok result) ∧ step item = .error fault := by
  induction items with
  | nil => simp
  | cons item items inductionHypothesis =>
      rw [List.mapM_cons, bind_eq_error_iff]
      constructor
      · rintro (here | ⟨result, here, rest⟩)
        · exact ⟨[], item, items, rfl, by simp, here⟩
        · rcases bind_eq_error_iff.mp rest with there | ⟨_, _, impossible⟩
          · rcases inductionHypothesis.mp there with ⟨before, other, after, rfl, succeed, fails⟩
            refine ⟨item :: before, other, after, rfl, ?_, fails⟩
            intro earlier earlier_mem
            rcases List.mem_cons.mp earlier_mem with rfl | deeper
            · exact ⟨result, here⟩
            · exact succeed earlier deeper
          · contradiction
      · rintro ⟨before, other, after, split, succeed, fails⟩
        rcases List.cons_eq_append_iff.mp split with ⟨rfl, same⟩ | ⟨before, rfl, rfl⟩
        · cases same
          exact Or.inl fails
        · rcases succeed item (by simp) with ⟨result, here⟩
          refine Or.inr ⟨result, here, bind_eq_error_iff.mpr (Or.inl ?_)⟩
          apply inductionHypothesis.mpr
          exact ⟨before, other, after, rfl,
            fun earlier earlier_mem => succeed earlier (List.mem_cons_of_mem _ earlier_mem), fails⟩

end SentenceGraph.Fallible
