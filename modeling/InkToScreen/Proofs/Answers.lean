namespace InkToScreen
variable {ε δ α β : Type} {value : β}

theorem bind_eq_ok_iff {answer : Except ε α} {next : α → Except ε β} :
    (answer >>= next) = .ok value ↔ ∃ first, answer = .ok first ∧ next first = .ok value := by
  cases answer with
  | ok first => simp [bind, Except.bind]
  | error reason => simp [bind, Except.bind]

theorem map_eq_ok_iff {answer : Except ε α} {change : α → β} :
    answer.map change = .ok value ↔ ∃ first, answer = .ok first ∧ change first = value := by
  cases answer with
  | ok first => simp [Except.map]
  | error reason => simp [Except.map]

theorem mapError_eq_ok_iff {answer : Except ε β} {change : ε → δ} :
    answer.mapError change = .ok value ↔ answer = .ok value := by
  cases answer with
  | ok other =>
    change Except.ok other = .ok value ↔ _
    rw [Except.ok.injEq, Except.ok.injEq]
  | error reason =>
    constructor
    · intro impossible
      cases impossible
    · intro impossible
      cases impossible

theorem bind_eq_error_iff {answer : Except ε α} {next : α → Except ε β} {reason : ε} :
    (answer >>= next) = .error reason ↔
      answer = .error reason ∨ ∃ first, answer = .ok first ∧ next first = .error reason := by
  cases answer with
  | ok first => simp [bind, Except.bind]
  | error other => simp [bind, Except.bind]

/-- A list of questions is answered if each of them is, where a question that is answered has one
reply. -/
theorem mapM_eq_ok_iff {ask : α → Except ε β} {fair : α → Prop} {reply : α → β}
    (each : ∀ question answer, ask question = .ok answer ↔ fair question ∧ answer = reply question)
    {questions : List α} {answers : List β} :
    questions.mapM ask = .ok answers ↔
      (∀ question ∈ questions, fair question) ∧ answers = questions.map reply := by
  induction questions generalizing answers with
  | nil => simp [pure, Except.pure, eq_comm]
  | cons question rest ih =>
    rw [List.mapM_cons]
    simp only [bind_eq_ok_iff, each, ih, List.forall_mem_cons, List.map_cons]
    constructor
    · rintro ⟨_, ⟨first, rfl⟩, _, ⟨others, rfl⟩, given⟩
      cases given
      exact ⟨⟨first, others⟩, rfl⟩
    · rintro ⟨⟨first, others⟩, rfl⟩
      exact ⟨_, ⟨first, rfl⟩, _, ⟨others, rfl⟩, rfl⟩

end InkToScreen
