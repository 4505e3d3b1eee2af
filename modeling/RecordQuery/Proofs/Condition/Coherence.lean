import RecordQuery.Proofs.Condition.Answer

/-!
# The six comparisons agree

The answers to the six comparisons of a value with a literal are those of one linear order
(`Schema.answers_coherent`): one of below, equal and above holds, the other three follow from these,
and what is above a literal is above what this literal is above.
-/

namespace RecordQuery

variable {α : Type} [Readable α] {schema : Schema} {property text : String} {f : Field}
  {kind : OrderKind} {v w : Value} {r s : α}

/-! ## Operators on orders -/

namespace Operator

/-- Of below, equal and above, the one of the order is met. -/
theorem existsUnique_isMet (o : Ordering) :
    ∃! operator, operator ∈ [lessThan, equals, greaterThan] ∧ operator.isMet o = true := by
  have hunique (own : Operator) (hown : own ∈ [lessThan, equals, greaterThan])
      (hmet : own.isMet o = true)
      (hother : ∀ other ∈ [lessThan, equals, greaterThan], other.isMet o = true → other = own) :
      ∃! operator, operator ∈ [lessThan, equals, greaterThan] ∧ operator.isMet o = true :=
    ⟨own, ⟨hown, hmet⟩, fun other h => hother other h.1 h.2⟩
  cases o with
  | lt => exact hunique lessThan (by decide) rfl (by decide)
  | eq => exact hunique equals (by decide) rfl (by decide)
  | gt => exact hunique greaterThan (by decide) rfl (by decide)

/-- The operators that ask for a value above the literal. -/
def upward : List Operator := [greaterThan, greaterThanOrEqual]

theorem isRelational_of_mem_upward {operator : Operator} (h : operator ∈ upward) :
    operator.isRelational = true := by
  revert operator
  decide

/-- The stricter one of two upward operators. -/
def stricter (first second : Operator) : Operator :=
  if first = greaterThan then greaterThan else second

theorem stricter_mem_upward {first second : Operator} (hsecond : second ∈ upward) :
    first.stricter second ∈ upward := by
  unfold stricter
  split
  · exact List.mem_cons_self
  · exact hsecond

/-- What is above a value that is above a third one is above the third one. -/
theorem isMet_cmp_trans {β : Type} [LinearOrder β] {a b c : β} {first second : Operator}
    (hfirst : first ∈ upward) (hsecond : second ∈ upward) (hab : first.isMet (cmp a b) = true)
    (hbc : second.isMet (cmp b c) = true) :
    (first.stricter second).isMet (cmp a c) = true := by
  have hgt {x y : β} : greaterThan.isMet (cmp x y) = true ↔ y < x := by
    rw [(isMet_cmp x y).2.2.1, decide_eq_true_eq]
  have hge {x y : β} : greaterThanOrEqual.isMet (cmp x y) = true ↔ y ≤ x := by
    rw [(isMet_cmp x y).2.2.2, decide_eq_true_eq]
  simp only [upward, List.mem_cons, List.not_mem_nil, or_false] at hfirst hsecond
  rcases hfirst with rfl | rfl
  · rcases hsecond with rfl | rfl
    · exact hgt.2 ((hgt.1 hbc).trans (hgt.1 hab))
    · exact hgt.2 ((hge.1 hbc).trans_lt (hgt.1 hab))
  · rcases hsecond with rfl | rfl
    · exact hgt.2 ((hgt.1 hbc).trans_le (hge.1 hab))
    · exact hge.2 ((hge.1 hbc).trans (hge.1 hab))

end Operator

/-! ## Answers -/

/-- The answers about a property with a type that has an order, by the literal of a text that is not
NaN. If a record holds a value of the type, its value is either below the literal or equal to it or
above it, and the other three operators are answered accordingly. If it holds no value, only
inequality is affirmed. The literal itself is equal to the literal. And what is above the literal is
above any other literal that the literal is above, strictly if one of the two is. -/
theorem Schema.answers_coherent (hresolve : schema.resolve? property = some f)
    (hkind : f.orderKind? = some kind) (hliteral : f.literal text = .ok v) (hv : v.isNaN = false) :
    (∀ (r : α) x, f.read r = .ok x → f.IsOwn x → ∃ holds : Operator → Bool,
      (∀ operator, operator.isRelational = true →
        schema.answer property operator text r = .ok (holds operator)) ∧
      (∃! operator, operator ∈ [.lessThan, .equals, .greaterThan] ∧ holds operator = true) ∧
      holds .greaterThanOrEqual = (holds .greaterThan || holds .equals) ∧
      holds .lessThanOrEqual = (holds .lessThan || holds .equals) ∧
      holds .notEquals = !holds .equals) ∧
    (∀ r : α, f.read r = .ok .null → ∀ operator, operator.isRelational = true →
      schema.answer property operator text r = .ok (decide (operator = .notEquals))) ∧
    (∀ r : α, f.read r = .ok v →
      ∀ operator ∈ [.equals, .greaterThanOrEqual, .lessThanOrEqual],
        schema.answer property operator text r = .ok true) ∧
    ∀ (r s : α) x w other, f.read r = .ok x → f.IsOwn x → f.read s = .ok v →
      f.literal other = .ok w → w.isNaN = false → ∀ first ∈ Operator.upward,
        ∀ second ∈ Operator.upward, schema.answer property first text r = .ok true →
          schema.answer property second other s = .ok true →
            schema.answer property (first.stricter second) other r = .ok true := by
  obtain ⟨β, _, key, hkey⟩ := Value.exists_key kind
  have hproper : v.IsProper kind := ⟨Field.orderKind?_literal hkind hliteral, hv⟩
  refine ⟨fun r x hread hx => ?_, fun r hread operator hoperator => ?_,
    fun r hread operator hoperator => ?_,
    fun r s x w other hread hx hs hother hw first hfirst second hsecond hab hbc => ?_⟩
  · obtain ⟨x', hnormal, hx'⟩ := hx.exists_readNormal hread hkind
    refine ⟨fun operator => operator.isMet (cmp (key x') (key v)), fun operator hoperator =>
      answer_eq_cmp hresolve hliteral hoperator hkey hkind hv hnormal hx',
      Operator.existsUnique_isMet _, ?_⟩
    cases cmp (key x') (key v) <;> exact ⟨rfl, rfl, rfl⟩
  · exact answer_null hresolve hliteral hoperator hread
  · have hlist : ∀ operator ∈ [Operator.equals, .greaterThanOrEqual, .lessThanOrEqual],
        operator.isRelational = true ∧ operator.isMet .eq = true := by
      decide
    obtain ⟨hrelational, hmet⟩ := hlist operator hoperator
    rw [answer_eq_cmp hresolve hliteral hrelational hkey hkind hv
      (Field.readNormal_literal hread hliteral) hproper, cmp_self_eq_eq, hmet]
  · obtain ⟨x', hnormal, hx'⟩ := hx.exists_readNormal hread hkind
    have hboth : first.stricter second ∈ Operator.upward := Operator.stricter_mem_upward hsecond
    rw [answer_eq_cmp hresolve hliteral (Operator.isRelational_of_mem_upward hfirst) hkey hkind hv
      hnormal hx', Except.ok.injEq] at hab
    rw [answer_eq_cmp hresolve hother (Operator.isRelational_of_mem_upward hsecond) hkey hkind hw
      (Field.readNormal_literal hs hliteral) hproper, Except.ok.injEq] at hbc
    rw [answer_eq_cmp hresolve hother (Operator.isRelational_of_mem_upward hboth) hkey hkind hw
      hnormal hx', Operator.isMet_cmp_trans hfirst hsecond hab hbc]

/-- A field that holds any numbers. -/
def amountField : Field := ⟨"amount", .numeric, none, true, .attribute, false⟩

/-- A schema with this field alone. -/
def payments : Schema where
  name := "Payment"
  fields := [amountField]
  distinct := by
    unfold DistinctKeys
    decide

/-- A floating-point number against a decimal, and that decimal against an integer. -/
theorem Schema.answers_coherent_amount :
    let half : Value := .float (.ofRatio false 1 2)
    let tenth : Value := .decimal (.finite false 1 (-1))
    let r : Record := ⟨[("amount", half)]⟩
    let s : Record := ⟨[("amount", tenth)]⟩
    payments.resolve? "Amount" = some amountField ∧ amountField.orderKind? = some .number ∧
      amountField.literal "0,1" = .ok tenth ∧ tenth.isNaN = false ∧ amountField.IsOwn half ∧
      payments.answer "Amount" .greaterThan "0,1" r = .ok true ∧
      payments.answer "Amount" .lessThanOrEqual "0,1" r = .ok false ∧
      payments.answer "Amount" .equals "0,1" s = .ok true ∧
      payments.answer "Amount" .greaterThanOrEqual "0" s = .ok true ∧
      payments.answer "Amount" .greaterThan "0" r = .ok true := by
  intro half tenth r s
  have hresolve : payments.resolve? "Amount" = some amountField := by decide
  have hliteral : amountField.literal "0,1" = .ok tenth := by decide
  have hown : amountField.IsOwn half := ⟨⟨.number, rfl, rfl⟩, trivial, by decide +kernel⟩
  have habove : payments.answer "Amount" .greaterThan "0,1" r = .ok true := by decide +kernel
  have hatLeast : payments.answer "Amount" .greaterThanOrEqual "0" s = .ok true := by decide +kernel
  have hzero : amountField.literal "0" = .ok (.int 0) := by decide
  obtain ⟨hcoherent, -, hself, htrans⟩ := answers_coherent (α := Record) hresolve rfl hliteral rfl
  obtain ⟨holds, hanswers, hunique, -, hle, -⟩ := hcoherent r half rfl hown
  have hgt : holds .greaterThan = true := Except.ok.inj ((hanswers _ rfl).symm.trans habove)
  have hnot : holds .lessThanOrEqual = false := by
    rw [hle, Bool.or_eq_false_iff]
    refine ⟨Bool.eq_false_iff.2 fun hlt => ?_, Bool.eq_false_iff.2 fun heq => ?_⟩
    · cases hunique.unique ⟨by decide, hgt⟩ ⟨by decide, hlt⟩
    · cases hunique.unique ⟨by decide, hgt⟩ ⟨by decide, heq⟩
  refine ⟨hresolve, rfl, hliteral, rfl, hown, habove, ?_, hself s rfl _ (by decide), hatLeast, ?_⟩
  · rw [hanswers _ rfl, hnot]
  · exact htrans r s half (.int 0) "0" rfl hown rfl hzero rfl .greaterThan (by decide)
      .greaterThanOrEqual (by decide) habove hatLeast

end RecordQuery
