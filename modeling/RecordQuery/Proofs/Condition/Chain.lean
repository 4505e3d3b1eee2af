import Mathlib.Data.List.Induction
import RecordQuery.Document.Basic
import RecordQuery.Proofs.Condition.Meaning

/-!
# Criteria in a row

Criteria join strictly from the left, so the last one decides first: joined by `or` it may hold
alone, and otherwise it has to hold besides what stands before it
(`Criterion.chainHolds_append_singleton`). By induction from the end a row of criteria holds if one
of them does that is the first or joined by `or`, and with it all behind it that are not joined by
`or` (`Condition.holds_ofCriteria_iff`).
-/

namespace RecordQuery

variable {α : Type} [Readable α] {schema : Schema} {r : α} {cs : List Criterion} {c d : Criterion}
  {p : Criterion → Prop}

/-- One of the criteria holds that is the first or joined by `or`, and so do all behind it that are
not joined by `or`. -/
def Criterion.ChainHolds (p : Criterion → Prop) (cs : List Criterion) : Prop :=
  ∃ (i : Nat) (c : Criterion), cs[i]? = some c ∧ p c ∧ (i = 0 ∨ c.connective = .or) ∧
    ∀ (j : Nat) (d : Criterion), i < j → cs[j]? = some d → d.connective ≠ .or → p d

namespace Criterion

theorem chainHolds_singleton : ChainHolds p [c] ↔ p c := by
  constructor
  · rintro ⟨i, d, hd, hp, -, -⟩
    cases i with
    | zero =>
      cases hd
      exact hp
    | succ i => cases hd
  · intro hp
    refine ⟨0, c, rfl, hp, .inl rfl, fun j d hj hd => ?_⟩
    obtain ⟨k, rfl⟩ := Nat.exists_eq_succ_of_ne_zero (Nat.ne_of_gt hj)
    cases hd

/-- A last criterion that is joined by `or` may hold alone; any other has to hold besides what
stands before it. -/
theorem chainHolds_append_singleton (hne : cs ≠ []) : ChainHolds p (cs ++ [d]) ↔
    if d.connective = .or then ChainHolds p cs ∨ p d else ChainHolds p cs ∧ p d := by
  have hlast : (cs ++ [d])[cs.length]? = some d := List.getElem?_concat_length
  have hfront {i : Nat} (hi : i < cs.length) : (cs ++ [d])[i]? = cs[i]? :=
    List.getElem?_append_left hi
  have hpos : 0 < cs.length := List.length_pos_iff.2 hne
  constructor
  · rintro ⟨i, c, hc, hp, hjoined, hafter⟩
    have hi : i < cs.length + 1 := by
      have := (List.getElem?_eq_some_iff.1 hc).1
      simpa using this
    rcases Nat.lt_succ_iff_lt_or_eq.1 hi with hi | rfl
    · have hchain : ChainHolds p cs := by
        refine ⟨i, c, hfront hi ▸ hc, hp, hjoined, fun j e hj he => ?_⟩
        have hlt : j < cs.length := (List.getElem?_eq_some_iff.1 he).1
        exact hafter j e hj (hfront hlt ▸ he)
      split
      · exact .inl hchain
      · next hd => exact ⟨hchain, hafter cs.length d hi hlast hd⟩
    · rw [hlast] at hc
      cases hc
      have hor : d.connective = .or := hjoined.resolve_left (Nat.ne_of_gt hpos)
      rw [if_pos hor]
      exact .inr hp
  · -- what holds of the front goes on holding, as the last criterion only adds to what is behind it
    have hkeep (hchain : ChainHolds p cs) (hd : d.connective ≠ .or → p d) :
        ChainHolds p (cs ++ [d]) := by
      obtain ⟨i, c, hc, hp, hjoined, hafter⟩ := hchain
      have hi : i < cs.length := (List.getElem?_eq_some_iff.1 hc).1
      refine ⟨i, c, (hfront hi).trans hc, hp, hjoined, fun j e hj he hconnective => ?_⟩
      rcases Nat.lt_or_ge j cs.length with hlt | hge
      · exact hafter j e hj (hfront hlt ▸ he) hconnective
      · have hlt : j < cs.length + 1 := by
          have := (List.getElem?_eq_some_iff.1 he).1
          simpa using this
        obtain rfl : j = cs.length := by omega
        rw [hlast] at he
        cases he
        exact hd hconnective
    split
    · next hor =>
      rintro (hchain | hp)
      · exact hkeep hchain fun hnot => absurd hor hnot
      · refine ⟨cs.length, d, hlast, hp, .inr hor, fun j e hj he => ?_⟩
        have hlt : j < cs.length + 1 := by
          have := (List.getElem?_eq_some_iff.1 he).1
          simpa using this
        omega
    · rintro ⟨hchain, hp⟩
      exact hkeep hchain fun _ => hp

end Criterion

namespace Condition

variable {condition before last : Condition}

/-- The condition of criteria with one more is theirs joined with its own. -/
theorem ofCriteria_append_singleton (hne : cs ≠ []) : ofCriteria schema (cs ++ [d]) = do
    let before ← ofCriteria schema cs
    return join d.connective before (← ofCriterion schema d) := by
  cases cs with
  | nil => exact absurd rfl hne
  | cons c cs =>
    rw [List.cons_append, ofCriteria, ofCriteria, bind_assoc]
    refine bind_congr fun first => ?_
    rw [List.foldlM_append]
    refine bind_congr fun before => ?_
    rw [List.foldlM_cons]
    simp

theorem ofCriteria_singleton : ofCriteria schema [c] = ofCriterion schema c := by
  rw [ofCriteria]
  simp

theorem IsSafe.of_join (h : (join c.connective before last).IsSafe r) :
    before.IsSafe r ∧ last.IsSafe r := by
  unfold join at h
  split at h
  · exact h
  · exact h

theorem holds_join_iff (hbefore : before.IsSafe r) :
    (join c.connective before last).holds r = .ok true ↔
      if c.connective = .or then before.holds r = .ok true ∨ last.holds r = .ok true
      else before.holds r = .ok true ∧ last.holds r = .ok true := by
  unfold join
  split
  · exact holds_or_iff hbefore
  · exact holds_and_iff

/-- The condition of a row of criteria holds if the row does, and each criterion has a condition
that holds if the criterion does. -/
theorem holds_ofCriteria_iff (hne : cs ≠ []) (h : ofCriteria schema cs = .ok condition)
    (hsafe : condition.IsSafe r) :
    (condition.holds r = .ok true ↔ Criterion.ChainHolds (·.HoldsOf schema r) cs) ∧
      ∀ c ∈ cs, ∃ own, ofCriterion schema c = .ok own ∧
        (own.holds r = .ok true ↔ c.HoldsOf schema r) := by
  induction cs using List.reverseRecOn generalizing condition with
  | nil => exact absurd rfl hne
  | append_singleton cs d ih =>
    rcases eq_or_ne cs [] with rfl | hcs
    · rw [List.nil_append, ofCriteria_singleton] at h
      have hd := holds_ofCriterion_iff h hsafe
      rw [List.nil_append, Criterion.chainHolds_singleton]
      refine ⟨hd, fun c hc => ?_⟩
      cases List.mem_singleton.1 hc
      exact ⟨condition, h, hd⟩
    · rw [ofCriteria_append_singleton hcs] at h
      obtain ⟨before, hbefore, h⟩ := exists_of_bind_ok h
      obtain ⟨last, hlast, h⟩ := exists_of_bind_ok h
      cases h
      obtain ⟨hsafe, hsafe'⟩ := hsafe.of_join
      obtain ⟨hchain, heach⟩ := ih hcs hbefore hsafe
      have hd := holds_ofCriterion_iff hlast hsafe'
      rw [holds_join_iff hsafe, Criterion.chainHolds_append_singleton hcs, hchain, hd]
      refine ⟨Iff.rfl, fun c hc => ?_⟩
      rcases List.mem_append.1 hc with hc | hc
      · exact heach c hc
      · cases List.mem_singleton.1 hc
        exact ⟨last, hlast, hd⟩

end Condition

namespace Criterion

/-- A list of values says that the field has one of them. -/
theorem holdsOf_oneOf_iff {f : Field} {items : List String}
    (hresolve : schema.resolve? c.property = some f) (hoperator : c.operator = .oneOf)
    (hoperand : c.operand = .list items) :
    c.HoldsOf schema r ↔ ∃ s ∈ items, ∃ v w, f.readNormal r = .ok v ∧ f.coerce s c = .ok w ∧
      (v.relate w).equal = .ok true := by
  rw [HoldsOf, hresolve, hoperator, hoperand]
  constructor
  · rintro ⟨g, hg, hmeaning⟩
    cases hg
    cases hmeaning with
    | oneOf hread hitem hliteral hequal =>
      exact ⟨_, hitem, _, _, hread, Field.coerce_eq_ok_iff.2 hliteral, hequal⟩
  · rintro ⟨s, hs, v, w, hread, hw, hequal⟩
    exact ⟨f, rfl, .oneOf hread hs (Field.coerce_eq_ok_iff.1 hw) hequal⟩

end Criterion

namespace Selection

variable {selection : Selection}

/-- A selection by criteria decides every record on which no comparison fails: it selects the record
if there are no criteria, or if one of them holds of it that is the first or joined by `or` and so
do all behind it that are not joined by `or`. Each criterion holds as its own condition does; a list
of values holds of a field with one of them, and of a field without a value nothing with a literal
holds but inequality. -/
theorem selects_iff_chainHolds (h : ofCriteria schema cs = .ok selection)
    (hsafe : selection.condition.IsSafe r) :
    (∃ selected, selection.selects r = .ok selected ∧
      (selected = true ↔ cs = [] ∨ Criterion.ChainHolds (·.HoldsOf schema r) cs)) ∧
    ∀ c ∈ cs, ∃ f own, schema.resolve? c.property = some f ∧
      Condition.ofCriterion schema c = .ok own ∧
      (own.holds r = .ok true ↔ c.HoldsOf schema r) ∧
      (c.operator = .oneOf → ∃ items, c.operand = .list items ∧
        (c.HoldsOf schema r ↔ ∃ s ∈ items, ∃ v w, f.readNormal r = .ok v ∧ f.coerce s c = .ok w ∧
          (v.relate w).equal = .ok true)) ∧
      (f.read r = .ok .null → c.operand ≠ .absent → c.operator.isNullCheck = false →
        (c.HoldsOf schema r ↔ c.operator = .notEquals)) := by
  have hcondition := condition_of_ofCriteria h
  constructor
  · obtain ⟨selected, hselected⟩ := hsafe.holds
    refine ⟨selected, hselected, ?_⟩
    rcases eq_or_ne cs [] with rfl | hne
    · have htrue : selection.condition = .const true :=
        Except.ok.inj (hcondition.symm.trans rfl)
      rw [htrue] at hselected
      cases hselected
      simp
    · rw [← (Condition.holds_ofCriteria_iff hne hcondition hsafe).1, hselected]
      simp [hne]
  · intro c hc
    have hne : cs ≠ [] := List.ne_nil_of_mem hc
    obtain ⟨own, hown, hiff⟩ := (Condition.holds_ofCriteria_iff hne hcondition hsafe).2 c hc
    obtain ⟨f, hf, hfield⟩ := exists_of_bind_ok hown
    rw [Condition.require_eq_ok_iff] at hf
    refine ⟨f, own, hf, hown, hiff, fun hoperator => ?_, fun hread hoperand hcheck => ?_⟩
    · rw [Condition.ofField, hoperator] at hfield
      simp only [Condition.ofItems] at hfield
      split at hfield
      · next item items hoperand =>
        exact ⟨item :: items, hoperand, Criterion.holdsOf_oneOf_iff hf hoperator hoperand⟩
      · cases hfield
    · rw [Criterion.HoldsOf, hf, ← Criterion.meaning_null_iff hfield hread hoperand hcheck]
      simp

/-- A document without a customer: inequality with a customer holds of it, and joined by `or` it
makes up for the name that does not hold; the list of sizes behind it has to hold as well. -/
theorem selects_iff_chainHolds_mixed :
    let d : Document := ⟨some ⟨1, by decide⟩, some "b.pdf", some "application/pdf", some .contract,
      some .digital, none, some .received, none, some 2, none, none, none, none, none, none, none,
      none⟩
    let cs : List Criterion :=
      [⟨"filename", .contains, .text "a", .none⟩, ⟨"customerId", .notEquals, .text "c-1", .or⟩,
       ⟨"size", .oneOf, .list ["1", "2"], .and⟩, ⟨"customerId", .equals, .absent, .and⟩,
       ⟨"url", .greaterThan, .text "x", .or⟩]
    let size := Document.column "size" (some .int) false
    let customerId := Document.column "customer_id" (some .text) true
    let selection : Selection := ⟨"Document",
      .or
        (.and
          (.and
            (.or (.compare (Document.column "filename" (some .text) false) .contains (.text "a"))
              (.compare customerId .notEquals (.text "c-1")))
            (.or (.compare size .equals (.int 1)) (.compare size .equals (.int 2))))
          (.compare customerId .isNull .null))
        (.compare (Document.column "url" (some .text) true) .greaterThan (.text "x")), rfl⟩
    ofCriteria Document.schema cs = .ok selection ∧ selection.condition.IsSafe d ∧
      ∃ selected, selection.selects d = .ok selected ∧
        (selected = true ↔
          cs = [] ∨ Criterion.ChainHolds (·.HoldsOf Document.schema d) cs) := by
  intro d cs size customerId selection
  have hselection : ofCriteria Document.schema cs = .ok selection := rfl
  have hsafe : selection.condition.IsSafe d := by
    dsimp only [selection, size, customerId, d]
    exact ⟨⟨⟨⟨⟨false, rfl⟩, true, rfl⟩, ⟨false, rfl⟩, true, rfl⟩, true, rfl⟩, false, rfl⟩
  exact ⟨hselection, hsafe, (selects_iff_chainHolds hselection hsafe).1⟩

end Selection

end RecordQuery
