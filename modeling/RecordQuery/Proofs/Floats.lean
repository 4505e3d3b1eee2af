import RecordQuery.Proofs.Condition.Coherence
import RecordQuery.Proofs.Condition.OneOf
import RecordQuery.Proofs.Number.ReadBack

/-!
# Floating-point numbers and their texts

The text of a floating-point number, with a point or with a comma, is a literal for the number in a
field of floating-point numbers (`Field.literal_float`). In a field of numbers of any type it is a
literal for the decimal that it shows (`Field.literal_of_spells`), and a record with the number is
read as the same decimal. The decimals of two numbers stand to each other as the numbers do
(`Value.relate_toDecimal`), so whatever is asked about a number and the text of another is answered
as for the two numbers (`Schema.answers_floats`).
-/

namespace RecordQuery

open Number Text

variable {α : Type} [Readable α] {schema : Schema} {property text : String} {texts : List String}
  {f : Field} {x y : Binary64} {r : α} {b : Bool}

namespace Number.Binary64

/-- The text of a number, or the same text with a comma for the point. -/
def Spells (x : Binary64) (text : String) : Prop :=
  text.toList = x.text ∨ text.toList = x.text.map fun c => if c = '.' then ',' else c

/-- A text of a number is read with a point, and there is nothing to trim. -/
theorem Spells.read (h : x.Spells text) :
    (trim text.toList).map (fun c => if c = ',' then '.' else c) = x.text := by
  have hplain (c : Char) (hc : c ∈ x.text) : isBlank c = false ∧ c ≠ ',' := by
    have := isPlain_text x c hc
    simp only [isPlain, Bool.and_eq_true, Bool.not_eq_true', decide_eq_true_eq] at this
    exact this.1
  rcases h with h | h
  · rw [h, trim_eq_self fun c hc => (hplain c hc).1]
    refine (List.map_congr_left fun c hc => if_neg (hplain c hc).2).trans ?_
    exact List.map_id' _
  · have hblank : ∀ c ∈ text.toList, isBlank c = false := by
      intro c hc
      rw [h] at hc
      obtain ⟨d, hd, rfl⟩ := List.mem_map.1 hc
      split
      · decide
      · exact (hplain d hd).1
    rw [trim_eq_self hblank, h, List.map_map]
    refine (List.map_congr_left fun c hc => ?_).trans (List.map_id _)
    rw [Function.comp_apply]
    split
    · next hpoint => exact (if_pos rfl).trans hpoint.symm
    · exact if_neg (hplain c hc).2

/-- A text of a number is not blank, and its number is that of the text with a point. -/
theorem Spells.number?_eq (h : x.Spells text) (type? : Option FieldType) :
    Literal.number? type? text.toList = Literal.numberOf type? x.text := by
  have hne : x.text ≠ [] := by
    intro hnil
    have hread := binary64?_text x
    rw [hnil] at hread
    cases hread
  simp only [Literal.number?, h.read, List.isEmpty_iff, if_neg hne]

end Number.Binary64

namespace Value

theorem isProper_float (hx : x ≠ .nan) : (float x).IsProper .number :=
  ⟨rfl, by cases x <;> first | rfl | exact absurd rfl hx⟩

theorem isProper_toDecimal (hx : x ≠ .nan) : (decimal x.toDecimal).IsProper .number :=
  ⟨rfl, Field.isNaN_toDecimal (isProper_float hx).isNaN⟩

/-- The decimals of numbers stand to each other as the numbers do. -/
theorem relate_toDecimal (hx : x ≠ .nan) (hy : y ≠ .nan) :
    (decimal x.toDecimal).relate (decimal y.toDecimal) =
      .ordered (cmp (float x).place (float y).place) := by
  have hvalue {z : Binary64} (hz : z ≠ .nan) :
      ∃ m n, z.value? = some m ∧ z.toDecimal.value? = some n := by
    cases z with
    | nan => exact absurd rfl hz
    | infinity => exact ⟨_, _, rfl, rfl⟩
    | finite => exact ⟨_, _, rfl, rfl⟩
  obtain ⟨m, m', hm, hm'⟩ := hvalue hx
  obtain ⟨n, n', hn, hn'⟩ := hvalue hy
  have hplace {v : Value} {z : Extended} (hv : v.extended? = some z) : v.place = z.place := by
    rw [place, hv]
    rfl
  rw [relate_eq_cmp_place (isProper_toDecimal hx) (isProper_toDecimal hy),
    hplace (v := decimal x.toDecimal) hm', hplace (v := decimal y.toDecimal) hn',
    hplace (v := float x) hm, hplace (v := float y) hn, ← Extended.compare_eq_cmp,
    ← Extended.compare_eq_cmp, Binary64.compare_toDecimal hm hn hm' hn']

end Value

/-- In a field of floating-point numbers, the text of a number is a literal for the number, and a
record with the number keeps it. -/
theorem Field.literal_float (hkind : f.kind = .numeric) (htype : f.type? = some .float)
    (htext : x.Spells text) :
    f.literal text = .ok (.float x) ∧ f.normalize (.float x) = .ok (.float x) := by
  constructor
  · rw [literal, hkind, htype]
    show Literal.number? _ _ = _
    rw [htext.number?_eq, Literal.numberOf, Binary64.binary64?_text]
    rfl
  · simp only [normalize, hkind, htype, Option.isNone_some, Bool.false_eq_true, if_false]

section Answers

variable (hkind : f.kind = .numeric) (htype : f.type? = none)

include hkind htype

/-- A text of a number is a literal for its decimal. -/
theorem Field.literal_of_spells (hx : x ≠ .nan) (htext : x.Spells text) :
    f.literal text = .ok (.decimal x.toDecimal) := by
  rw [literal, hkind, htype]
  show Literal.number? _ _ = _
  rw [htext.number?_eq, Literal.numberOf, Binary64.integer?_text, Binary64.ofText?_text hx]
  rfl

theorem Field.normalize_float (x : Binary64) :
    f.normalize (.float x) = .ok (.decimal x.toDecimal) := by
  simp only [normalize, hkind, htype, Option.isNone_none, if_true]

theorem Field.readNormal_float (hread : f.read r = .ok (.float x)) :
    f.readNormal r = .ok (.decimal x.toDecimal) := by
  rw [readNormal, hread]
  exact normalize_float hkind htype x

namespace Schema

variable (hresolve : schema.resolve? property = some f) (hx : x ≠ .nan)
  (hread : f.read r = .ok (.float x))

include hresolve hx hread

/-- A comparison with a text of a number is answered as for the two numbers. -/
theorem answer_eq_isMet_place {operator : Operator} (hy : y ≠ .nan) (htext : y.Spells text)
    (hoperator : operator.isRelational = true) :
    schema.answer property operator text r =
      .ok (operator.isMet (cmp (Value.float x).place (Value.float y).place)) := by
  exact answer_eq_isMet hresolve (Field.literal_of_spells hkind htype hy htext) hoperator
    (Field.readNormal_float hkind htype hread) rfl (Value.relate_toDecimal hx hy)

/-- The question for one of the numbers that some texts spell is answered as for the numbers. -/
theorem answerAny_eq_ok_iff_place (hne : texts ≠ [])
    (htexts : ∀ text ∈ texts, ∃ y : Binary64, y ≠ .nan ∧ y.Spells text) :
    schema.answerAny property texts r = .ok b ↔
      (b = true ↔ ∃ text ∈ texts, ∃ y : Binary64, y ≠ .nan ∧ y.Spells text ∧
        (Value.float x).place = (Value.float y).place) := by
  have hliteral {y : Binary64} {text : String} (hy : y ≠ .nan) (htext : y.Spells text) :
      f.literal text = .ok (.decimal y.toDecimal) := Field.literal_of_spells hkind htype hy htext
  have hequal {y : Binary64} (hy : y ≠ .nan) :
      ((Value.decimal x.toDecimal).relate (.decimal y.toDecimal)).equal =
        .ok (decide ((Value.float x).place = (Value.float y).place)) := by
    rw [Value.relate_toDecimal hx hy, Relation.equal, ← (Operator.isMet_cmp _ _).2.1]
    rfl
  have hall : ∀ text ∈ texts, ∃ w, f.literal text = .ok w := by
    intro text hmem
    obtain ⟨y, hy, htext⟩ := htexts text hmem
    exact ⟨_, hliteral hy htext⟩
  rw [answerAny_eq_ok_iff hresolve hne (Field.readNormal_float hkind htype hread),
    and_iff_right hall]
  · refine iff_congr Iff.rfl (exists_congr fun text => and_congr_right fun hmem => ?_)
    constructor
    · rintro ⟨w, hw, htrue⟩
      obtain ⟨y, hy, htext⟩ := htexts text hmem
      cases hw.symm.trans (hliteral hy htext)
      rw [hequal hy, Except.ok.injEq, decide_eq_true_eq] at htrue
      exact ⟨y, hy, htext, htrue⟩
    · rintro ⟨y, hy, htext, hplace⟩
      exact ⟨_, hliteral hy htext, by rw [hequal hy, decide_eq_true hplace]⟩
  · intro text hmem w hw
    obtain ⟨y, hy, htext⟩ := htexts text hmem
    cases hw.symm.trans (hliteral hy htext)
    exact ⟨_, hequal hy⟩

end Schema

end Answers

namespace Schema

/-- In a field of numbers of any type, the text of a floating-point number other than NaN, with a
point or a comma, is coerced to what a record with the number is brought to. Of a record with a
number, all six comparisons with a text of another number are answered as for the two numbers, and
it is one of several such texts if one of these spells a number equal to its own. So it is equal to
its own text and not beyond it on either side. -/
theorem answers_floats (hresolve : schema.resolve? property = some f) (hkind : f.kind = .numeric)
    (htype : f.type? = none) :
    (∀ (x : Binary64) text, x ≠ .nan → x.Spells text → ∀ c?, ∃ v, f.coerce text c? = .ok v ∧
      f.normalize (.float x) = .ok v ∧ v.relate v = .ordered .eq) ∧
    (∀ (r : α) (x y : Binary64) text, x ≠ .nan → y ≠ .nan → f.read r = .ok (.float x) →
      y.Spells text → ∃ o, (Value.float x).relate (.float y) = .ordered o ∧
        o = cmp (Value.float x).place (Value.float y).place ∧
        ∀ operator, operator.isRelational = true →
          schema.answer property operator text r = .ok (operator.isMet o)) ∧
    (∀ (r : α) (x : Binary64) texts b, x ≠ .nan → f.read r = .ok (.float x) → texts ≠ [] →
      (∀ text ∈ texts, ∃ y : Binary64, y ≠ .nan ∧ y.Spells text) →
        (schema.answerAny property texts r = .ok b ↔
          (b = true ↔ ∃ text ∈ texts, ∃ y : Binary64, y ≠ .nan ∧ y.Spells text ∧
            (Value.float x).place = (Value.float y).place))) ∧
    ∀ (r : α) (x : Binary64) text, x ≠ .nan → f.read r = .ok (.float x) → x.Spells text →
      schema.answerAny property [text] r = .ok true ∧
      (∀ operator ∈ [.equals, .greaterThanOrEqual, .lessThanOrEqual],
        schema.answer property operator text r = .ok true) ∧
      ∀ operator ∈ [.notEquals, .greaterThan, .lessThan],
        schema.answer property operator text r = .ok false := by
  refine ⟨fun x text hx htext c? => ?_, fun r x y text hx hy hread htext => ?_,
    fun r x texts b hx hread hne htexts => ?_, fun r x text hx hread htext => ⟨?_, ?_, ?_⟩⟩
  · refine ⟨_, Field.coerce_eq_ok_iff.2 (Field.literal_of_spells hkind htype hx htext),
      Field.normalize_float hkind htype x, ?_⟩
    rw [Value.relate_toDecimal hx hx, cmp_self_eq_eq]
  · exact ⟨_, Value.relate_eq_cmp_place (Value.isProper_float hx) (Value.isProper_float hy), rfl,
      fun operator => answer_eq_isMet_place hkind htype hresolve hx hread hy htext⟩
  · exact answerAny_eq_ok_iff_place hkind htype hresolve hx hread hne htexts
  · refine (answerAny_eq_ok_iff_place hkind htype hresolve hx hread (by simp) ?_).2 ?_
    · exact List.forall_mem_singleton.2 ⟨x, hx, htext⟩
    · exact iff_of_true rfl ⟨text, List.mem_singleton_self text, x, hx, htext, rfl⟩
  · have hmet : ∀ operator ∈ [Operator.equals, .greaterThanOrEqual, .lessThanOrEqual],
        operator.isRelational = true ∧ operator.isMet .eq = true := by
      decide
    intro operator hmem
    obtain ⟨hrelational, hmet⟩ := hmet operator hmem
    rw [answer_eq_isMet_place hkind htype hresolve hx hread hx htext hrelational, cmp_self_eq_eq,
      hmet]
  · have hunmet : ∀ operator ∈ [Operator.notEquals, .greaterThan, .lessThan],
        operator.isRelational = true ∧ operator.isMet .eq = false := by
      decide
    intro operator hmem
    obtain ⟨hrelational, hunmet⟩ := hunmet operator hmem
    rw [answer_eq_isMet_place hkind htype hresolve hx hread hx htext hrelational, cmp_self_eq_eq,
      hunmet]

/-- A tenth is written with a comma, and the least number above zero with an exponent. -/
theorem answers_floats_tenth :
    let tenth : Binary64 := .ofRatio false 1 10
    let least : Binary64 := .finite false 1 0 (by decide)
    let r : Record := ⟨[("amount", .float tenth)]⟩
    payments.resolve? "amount" = some amountField ∧ amountField.kind = .numeric ∧
      amountField.type? = none ∧ tenth ≠ .nan ∧ least ≠ .nan ∧ tenth.Spells "0,1" ∧
      least.Spells "5e-324" ∧ payments.answer "amount" .lessThanOrEqual "0,1" r = .ok true ∧
      payments.answerAny "amount" ["0,1"] r = .ok true ∧
      payments.answer "amount" .greaterThan "5e-324" r = .ok true := by
  intro tenth least r
  have hresolve : payments.resolve? "amount" = some amountField := by decide
  have htenth : tenth ≠ .nan := by decide +kernel
  have hleast : least ≠ .nan := by decide
  have htext : tenth.Spells "0,1" := .inr (by decide +kernel)
  have hother : least.Spells "5e-324" := .inl (by decide +kernel)
  obtain ⟨-, hcompare, -, hown⟩ := answers_floats (α := Record) hresolve rfl rfl
  obtain ⟨hone, hupward, -⟩ := hown r tenth "0,1" htenth rfl htext
  obtain ⟨o, hrelate, -, hanswer⟩ := hcompare r tenth least "5e-324" htenth hleast rfl hother
  have hgt : (Value.float tenth).relate (.float least) = .ordered .gt := by decide +kernel
  cases hrelate.symm.trans hgt
  exact ⟨hresolve, rfl, rfl, htenth, hleast, htext, hother, hupward _ (by decide), hone,
    hanswer .greaterThan rfl⟩

end Schema

end RecordQuery
