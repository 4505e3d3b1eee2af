import RecordQuery.Source.Table

/-!
# What a table selects

Folding constants away keeps the outcome of a condition on every row (`Condition.outcome_folded`)
and adds no literal (`Condition.literals_folded`). So a table selects exactly the rows on which its
condition has a positive outcome (`TableSource.selected_eq`), and without a sort key they are read
as they were stored (`TableSource.all_eq`).
-/

namespace RecordQuery

/-! ## Outcomes -/

section Outcomes

variable (o p : Option Bool)

@[simp]
theorem bothOutcomes_false_left : bothOutcomes (some false) o = some false := by
  rcases o with _ | _ | _ <;> rfl

@[simp]
theorem bothOutcomes_false_right : bothOutcomes o (some false) = some false := by
  rcases o with _ | _ | _ <;> rfl

@[simp]
theorem bothOutcomes_true_left : bothOutcomes (some true) o = o := by
  rcases o with _ | _ | _ <;> rfl

@[simp]
theorem bothOutcomes_true_right : bothOutcomes o (some true) = o := by
  rcases o with _ | _ | _ <;> rfl

@[simp]
theorem eitherOutcome_true_left : eitherOutcome (some true) o = some true := by
  rcases o with _ | _ | _ <;> rfl

@[simp]
theorem eitherOutcome_true_right : eitherOutcome o (some true) = some true := by
  rcases o with _ | _ | _ <;> rfl

@[simp]
theorem eitherOutcome_false_left : eitherOutcome (some false) o = o := by
  rcases o with _ | _ | _ <;> rfl

@[simp]
theorem eitherOutcome_false_right : eitherOutcome o (some false) = o := by
  rcases o with _ | _ | _ <;> rfl

variable {o p}

/-- Both outcomes are positive. -/
theorem bothOutcomes_eq_true : bothOutcomes o p = some true ↔ o = some true ∧ p = some true := by
  rcases o with _ | _ | _ <;> rcases p with _ | _ | _ <;> simp [bothOutcomes]

/-- One of the outcomes is positive. -/
theorem eitherOutcome_eq_true : eitherOutcome o p = some true ↔ o = some true ∨ p = some true := by
  rcases o with _ | _ | _ <;> rcases p with _ | _ | _ <;> simp [eitherOutcome]

end Outcomes

namespace Condition

variable {α : Type} [Readable α]

/-! ## Folding constants away -/

/-- The outcome of both conditions without constants. -/
theorem outcome_both (left right : Condition) (row : α) :
    (both left right).outcome row = bothOutcomes (left.outcome row) (right.outcome row) := by
  unfold both
  split <;> simp [outcome]

/-- The outcome of one of the conditions without constants. -/
theorem outcome_either (left right : Condition) (row : α) :
    (either left right).outcome row = eitherOutcome (left.outcome row) (right.outcome row) := by
  unfold either
  split <;> simp [outcome]

/-- Folding constants away keeps the outcome. -/
theorem outcome_folded (c : Condition) (row : α) : c.folded.outcome row = c.outcome row := by
  induction c with
  | const b => rfl
  | compare f operator literal => rfl
  | and left right ihl ihr => rw [folded, outcome_both, ihl, ihr, outcome]
  | or left right ihl ihr => rw [folded, outcome_either, ihl, ihr, outcome]

@[simp]
theorem both_true_left (c : Condition) : both (const true) c = c := by
  cases c with
  | const b => cases b <;> rfl
  | _ => rfl

/-- The literals of both conditions without constants. -/
theorem literals_both (left right : Condition) :
    (both left right).literals ⊆ left.literals ++ right.literals := by
  unfold both
  split <;> simp [literals]

/-- The literals of one of the conditions without constants. -/
theorem literals_either (left right : Condition) :
    (either left right).literals ⊆ left.literals ++ right.literals := by
  unfold either
  split <;> simp [literals]

/-- Folding constants away adds no literal. -/
theorem literals_folded (c : Condition) : c.folded.literals ⊆ c.literals := by
  induction c with
  | const b => exact List.Subset.refl _
  | compare f operator literal => exact List.Subset.refl _
  | and left right ihl ihr =>
    intro v hv
    rcases List.mem_append.1 (literals_both _ _ hv) with h | h
    · exact List.mem_append_left _ (ihl h)
    · exact List.mem_append_right _ (ihr h)
  | or left right ihl ihr =>
    intro v hv
    rcases List.mem_append.1 (literals_either _ _ hv) with h | h
    · exact List.mem_append_left _ (ihl h)
    · exact List.mem_append_right _ (ihr h)

end Condition

/-! ## Reading a table -/

namespace TableSource

variable {α : Type} [Readable α] {t : TableSource α}

/-- The rows on which the condition of a table has a positive outcome are selected, if the literals
that are left without constants fit into 64 bits. -/
theorem selected_of_folded (hliterals : ∀ v ∈ t.condition.folded.literals, v.fitsWord = true) :
    t.selected = .ok (t.rows.filter fun row => t.condition.outcome row = some true) := by
  rw [selected, runnable, if_pos (List.all_eq_true.2 hliterals)]
  simp only [bind, Except.bind, pure, Except.pure, Condition.outcome_folded]

/-- No row is selected if one of these literals does not fit. -/
theorem selected_eq_error {v : Value} (hv : v ∈ t.condition.folded.literals)
    (hfits : v.fitsWord = false) : t.selected = .error .outOfRange := by
  have hall : ¬ t.condition.folded.literals.all Value.fitsWord = true := fun hall =>
    Bool.false_ne_true (hfits.symm.trans (List.all_eq_true.1 hall v hv))
  rw [selected, runnable, if_neg hall]
  rfl

/-- The rows on which the condition of a table has a positive outcome are selected. -/
theorem selected_eq (hliterals : ∀ v ∈ t.condition.literals, v.fitsWord = true) :
    t.selected = .ok (t.rows.filter fun row => t.condition.outcome row = some true) :=
  selected_of_folded fun v hv => hliterals v (t.condition.literals_folded hv)

/-- A table can be read if the literals that are left without constants fit into 64 bits. -/
theorem exists_all (hliterals : ∀ v ∈ t.condition.folded.literals, v.fitsWord = true) :
    ∃ rows, t.all = .ok rows := by
  rw [all, selected_of_folded hliterals]
  exact ⟨_, rfl⟩

/-- Without a sort key the selected rows are read as they were stored. -/
theorem all_eq (hkeys : t.keys = [])
    (hliterals : ∀ v ∈ t.condition.literals, v.fitsWord = true) :
    t.all = .ok (t.rows.filter fun row => t.condition.outcome row = some true) := by
  have hsorted {rows : List α} :
      rows.Pairwise fun r s => (compareBy t.keys r s != .gt) = true := by
    rw [hkeys]
    exact List.pairwise_of_forall fun _ _ => rfl
  rw [all, selected_eq hliterals]
  simp only [bind, Except.bind, pure, Except.pure, List.mergeSort_of_pairwise hsorted]

/-- The selected rows are counted. -/
theorem count_eq (hliterals : ∀ v ∈ t.condition.literals, v.fitsWord = true) :
    t.count = .ok (t.rows.filter fun row => t.condition.outcome row = some true).length := by
  rw [count, selected_eq hliterals]
  rfl

end TableSource

end RecordQuery
