import RecordQuery.Condition.Compile
import RecordQuery.Proofs.Fault

/-!
# Criteria one by one

Criteria that are joined by `and` are decided one by one (`Condition.ofCriteria_and`), and one that
has no condition leaves the whole filter without one (`Condition.ofCriteria_error`).
-/

namespace RecordQuery

variable {α : Type} [Readable α] {schema : Schema} {cs : List Criterion}

/-- The condition can be decided, and among the rows it holds of those that pass a test. -/
structure Condition.Decides (rows : List α) (condition : Condition) (p : α → Bool) : Prop where
  isComparable : condition.isComparable = true
  holds : ∀ r ∈ rows, condition.holds r = .ok (p r)

/-- The condition of a criterion alone holds of a record. -/
def Criterion.selects (schema : Schema) (c : Criterion) (r : α) : Bool :=
  match Condition.ofCriterion schema c with
  | .ok condition =>
    match condition.holds r with
    | .ok b => b
    | .error _ => false
  | .error _ => false

namespace Condition

variable {rows : List α} {before last condition : Condition} {p q : α → Bool}

/-- Two conditions together pass what both of them pass. -/
theorem Decides.and (h : before.Decides rows p) (h' : last.Decides rows q) :
    (Condition.and before last).Decides rows (fun r => p r && q r) where
  isComparable := by
    rw [Condition.isComparable, h.isComparable, h'.isComparable]
    rfl
  holds r hr := by
    rw [Condition.holds, h.holds r hr, h'.holds r hr]
    cases p r <;> rfl

/-- The condition of a criterion passes the records that the criterion selects. -/
theorem decides_selects {c : Criterion} (hok : ofCriterion schema c = .ok condition)
    (hcomparable : condition.isComparable = true)
    (hholds : ∀ r ∈ rows, ∃ b, condition.holds r = .ok b) :
    condition.Decides rows (c.selects schema) where
  isComparable := hcomparable
  holds r hr := by
    obtain ⟨b, hb⟩ := hholds r hr
    simp only [Criterion.selects, hok, hb]

/-- Behind a condition, criteria without `or` are decided one by one. -/
theorem foldlM_and (hbefore : before.Decides rows p) (hand : ∀ c ∈ cs, c.connective ≠ .or)
    (h : ∀ c ∈ cs, ∃ condition, ofCriterion schema c = .ok condition ∧
      condition.Decides rows (c.selects schema)) :
    ∃ condition, cs.foldlM (fun before c => do
        return join c.connective before (← ofCriterion schema c)) before = .ok condition ∧
      condition.Decides rows (fun r => p r && cs.all (·.selects schema r)) := by
  induction cs generalizing before p with
  | nil => exact ⟨before, rfl, by simpa using hbefore⟩
  | cons d cs ih =>
    obtain ⟨hd, hand⟩ := List.forall_mem_cons.1 hand
    obtain ⟨⟨last, hlast, hdecides⟩, h⟩ := List.forall_mem_cons.1 h
    have hjoin : join d.connective before last = .and before last := if_neg hd
    obtain ⟨condition, hok, hcondition⟩ := ih (hbefore.and hdecides) hand h
    refine ⟨condition, ?_, by simpa [Bool.and_assoc] using hcondition⟩
    rw [List.foldlM_cons, hlast, ← hok, ← hjoin]
    rfl

/-- Criteria without `or` are decided one by one. -/
theorem ofCriteria_and (hand : ∀ c ∈ cs, c.connective ≠ .or)
    (h : ∀ c ∈ cs, ∃ condition, ofCriterion schema c = .ok condition ∧
      condition.Decides rows (c.selects schema)) :
    ∃ condition, ofCriteria schema cs = .ok condition ∧
      condition.Decides rows (fun r => cs.all (·.selects schema r)) := by
  cases cs with
  | nil => exact ⟨.const true, rfl, rfl, fun r _ => rfl⟩
  | cons c cs =>
    obtain ⟨-, hand⟩ := List.forall_mem_cons.1 hand
    obtain ⟨⟨first, hfirst, hdecides⟩, h⟩ := List.forall_mem_cons.1 h
    obtain ⟨condition, hok, hcondition⟩ := foldlM_and hdecides hand h
    refine ⟨condition, ?_, hcondition⟩
    rw [ofCriteria, hfirst]
    exact hok

/-- A criterion without a condition leaves the criteria without one. -/
theorem ofCriteria_error {c : Criterion} {e : Failure} (hc : c ∈ cs)
    (he : ofCriterion schema c = .error e) : ∃ e, ofCriteria schema cs = .error e := by
  cases cs with
  | nil => simp at hc
  | cons d cs =>
    rw [ofCriteria]
    cases hd : ofCriterion schema d with
    | error e' => exact ⟨e', rfl⟩
    | ok first =>
      rcases List.mem_cons.1 hc with rfl | hc
      · rw [hd] at he
        cases he
      · refine foldlM_error hc (fun before condition hok => ?_) first
        obtain ⟨last, hlast, -⟩ := exists_of_bind_ok hok
        rw [he] at hlast
        cases hlast

end Condition

end RecordQuery
