import RecordQuery.Proofs.Choice
import RecordQuery.Proofs.Condition.Refusal

/-!
# Asking a record for one of several values

A record is asked whether the value of a property is one of those that some texts stand for
(`Schema.answerAny`). It answers if and only if each of the texts is a literal, and then in the
affirmative if the value is equal to one of them (`Schema.answerAny_eq_ok_iff`). For a field of a
choice type this is one of the members that the texts name first, which need not be those that they
denote (`Schema.answerAny_denoted_iff`).
-/

namespace RecordQuery

variable {α : Type} [Readable α] {schema : Schema} {property : String} {texts names : List String}
  {f : Field} {t : Choice} {m : Member} {v : Value} {r : α} {b : Bool}

/-- The value of a property is one of those that the texts stand for. -/
def Criterion.isOneOf (property : String) (texts : List String) : Criterion :=
  ⟨property, .oneOf, .list texts, .none⟩

/-- Whether the value of a property of a record is one of those that the texts stand for. -/
def Schema.answerAny (schema : Schema) (property : String) (texts : List String) (r : α) :
    Except Failure Bool := do
  let selection ← Selection.ofCriteria schema [.isOneOf property texts]
  (selection.selects r).mapError .faulty

/-- A condition for one of several values is safe where each equality with one has an outcome. -/
theorem Condition.isSafe_anyOf {first : Value} {others : List Value}
    (h : ∀ w ∈ first :: others, ∃ b, Comparison.holds f .equals w r = .ok b) :
    (anyOf f first others).IsSafe r := by
  obtain ⟨hfirst, hothers⟩ := List.forall_mem_cons.1 h
  unfold anyOf
  refine List.foldlRecOn (motive := fun found : Condition => found.IsSafe r) others _ hfirst
    fun found hfound w hw => ?_
  exact ⟨hfound, hothers w hw⟩

/-- The condition of a list of texts is safe where the equalities with their literals have
outcomes. -/
theorem Condition.isSafe_ofItems {c : Criterion} {condition : Condition}
    (h : ofItems f c = .ok condition) (hoperand : c.operand = .list texts)
    (hequal : ∀ text ∈ texts, ∀ w, f.literal text = .ok w →
      ∃ b, Comparison.holds f .equals w r = .ok b) : condition.IsSafe r := by
  rw [ofItems, hoperand] at h
  cases texts with
  | nil => cases h
  | cons item items =>
    obtain ⟨first, hfirst, h⟩ := exists_of_bind_ok h
    obtain ⟨others, hothers, h⟩ := exists_of_bind_ok h
    cases h
    refine isSafe_anyOf (List.forall_mem_cons.2
      ⟨hequal item (by simp) _ (Field.coerce_eq_ok_iff.1 hfirst), fun w hw => ?_⟩)
    obtain ⟨text, hmem, htext⟩ := (mem_of_mapM_ok hothers).2 w hw
    exact hequal text (by simp [hmem]) _ (Field.coerce_eq_ok_iff.1 htext)

/-- A list of texts makes a selection if and only if each of them is a literal. -/
theorem Selection.exists_ofCriteria_oneOf_iff (hresolve : schema.resolve? property = some f)
    (hne : texts ≠ []) :
    (∃ s, ofCriteria schema [.isOneOf property texts] = .ok s) ↔
      ∀ text ∈ texts, ∃ w, f.literal text = .ok w := by
  have hfails (e : Failure) : ofCriteria schema [.isOneOf property texts] = .error e ↔
      FailsFirst (fun text => f.coerce text (Criterion.isOneOf property texts)) texts e := by
    have htexts : (Criterion.isOneOf property texts).literalTexts = texts := rfl
    rw [ofCriteria_singleton_eq_error_iff, Condition.ofCriterion_eq_error_iff, Criterion.FailsWith]
    simp only [Criterion.failsOn_oneOf_iff (c := .isOneOf property texts) rfl, htexts]
    simp [Criterion.isOneOf, hresolve, hne]
  have hcoerce (text : String) (c : Criterion) : (∃ e, f.coerce text c = .error e) ↔
      ¬ ∃ w, f.literal text = .ok w := by
    simp only [← @Field.coerce_eq_ok_iff f text c]
    cases f.coerce text c <;> simp
  have hexists : (∃ s, ofCriteria schema [.isOneOf property texts] = .ok s) ↔
      ¬ ∃ e, ofCriteria schema [.isOneOf property texts] = .error e := by
    cases ofCriteria schema [.isOneOf property texts] <;> simp
  rw [hexists]
  simp only [hfails, exists_failsFirst_iff, hcoerce]
  push Not
  rfl

namespace Schema

/-- What a record is asked has an answer if and only if each of the texts is a literal. It is
affirmed if the value of the record is equal to one of them. -/
theorem answerAny_eq_ok_iff (hresolve : schema.resolve? property = some f) (hne : texts ≠ [])
    (hread : f.readNormal r = .ok v)
    (hequal : ∀ text ∈ texts, ∀ w, f.literal text = .ok w →
      ∃ b, (v.relate w).equal = .ok b) :
    schema.answerAny property texts r = .ok b ↔
      (∀ text ∈ texts, ∃ w, f.literal text = .ok w) ∧
      (b = true ↔ ∃ text ∈ texts, ∃ w, f.literal text = .ok w ∧ (v.relate w).equal = .ok true) := by
  rw [← Selection.exists_ofCriteria_oneOf_iff hresolve hne, answerAny, bind_eq_ok_iff,
    ← exists_and_right]
  refine exists_congr fun s => and_congr_right fun hs => ?_
  have hcriterion := Selection.condition_of_ofCriteria hs
  rw [Condition.ofCriteria_singleton] at hcriterion
  have hsafe : s.condition.IsSafe r := by
    obtain ⟨g, hg, hitems⟩ := exists_of_bind_ok hcriterion
    cases hresolve.symm.trans (Condition.require_eq_ok_iff.1 hg)
    refine Condition.isSafe_ofItems hitems rfl fun text hmem w hliteral => ?_
    obtain ⟨b, hb⟩ := hequal text hmem w hliteral
    exact ⟨b, bind_eq_ok_iff.2 ⟨v, hread, hb⟩⟩
  have htrue : s.condition.holds r = .ok true ↔
      ∃ text ∈ texts, ∃ w, f.literal text = .ok w ∧ (v.relate w).equal = .ok true := by
    rw [Condition.holds_ofCriterion_iff hcriterion hsafe,
      Criterion.holdsOf_oneOf_iff (c := .isOneOf property texts) hresolve rfl rfl]
    simp [hread, Field.coerce_eq_ok_iff]
  obtain ⟨outcome, houtcome⟩ := hsafe.holds
  rw [mapError_eq_ok_iff, ← htrue, Selection.selects, houtcome, Except.ok.injEq, Except.ok.injEq,
    Bool.eq_iff_iff]
  exact ⟨Iff.symm, Iff.symm⟩

/-! ## Choices -/

section Choices

variable (hresolve : schema.resolve? property = some f) (hkind : f.kind = .choice)
  (htype : f.type? = some (.choice t)) (hne : names ≠ []) (hread : f.read r = .ok (.member m))
  (hm : m ∈ t.members)

include hresolve hkind htype hne hread hm

/-- A record with a member is asked for the members that the texts name first. -/
theorem answerAny_choice_eq_ok_iff : schema.answerAny property names r = .ok b ↔
    (∀ name ∈ names, ∃ k, t.IsFirstNamed name k) ∧
    (b = true ↔ ∃ name ∈ names, t.IsFirstNamed name m) := by
  have hnormal : f.readNormal r = .ok (.member m) := by
    rw [Field.readNormal, hread]
    exact Field.normalize_member f m
  have hliteral (name : String) (w : Value) :
      f.literal name = .ok w ↔ ∃ k, t.IsFirstNamed name k ∧ w = .member k :=
    Field.literal_choice_iff hkind htype
  have hequal {name : String} {k : Member} (hk : t.IsFirstNamed name k) :
      ((Value.member m).relate (.member k)).equal = .ok (decide (m = k)) :=
    Value.equal_relate_member hm hk.mem
  rw [answerAny_eq_ok_iff hresolve hne hnormal]
  · simp only [hliteral]
    refine and_congr (forall₂_congr fun name _ => ?_) (iff_congr Iff.rfl ?_)
    · rw [exists_comm]
      exact exists_congr fun k => by simp
    · refine exists_congr fun name => and_congr_right fun _ => ⟨?_, fun h => ?_⟩
      · rintro ⟨w, ⟨k, hk, rfl⟩, htrue⟩
        rw [hequal hk, Except.ok.injEq, decide_eq_true_eq] at htrue
        rwa [htrue]
      · exact ⟨_, ⟨m, h, rfl⟩, by rw [hequal h, decide_eq_true rfl]⟩
  · intro name _ w hw
    obtain ⟨k, hk, rfl⟩ := (hliteral name w).1 hw
    exact ⟨_, hequal hk⟩

/-- The answer is that for the members which the names denote if and only if each name is first in
lower case for some member, and this is the member of the record for one of the names just if one of
them denotes it. So it is for names of members, no two of which are the same in lower case; another
name of a member is no such name. -/
theorem answerAny_denoted_iff :
    (schema.answerAny property names r = .ok (names.any fun name => t.denoted? name = some m) ↔
      (∀ name ∈ names, ∃ k, t.IsFirstNamed name k) ∧
      ((∃ name ∈ names, t.IsFirstNamed name m) ↔ ∃ name ∈ names, t.denoted? name = some m)) ∧
    ((t.entries.map Prod.fst).Nodup → (t.members.map fun k => Text.lower k.name.toList).Nodup →
      (∀ name ∈ names, (∃ k ∈ t.members, k.name = name) ∧ Text.trim name.toList = name.toList) →
      schema.answerAny property names r = .ok (names.any fun name => t.denoted? name = some m)) := by
  have hiff : schema.answerAny property names r =
        .ok (names.any fun name => t.denoted? name = some m) ↔
      (∀ name ∈ names, ∃ k, t.IsFirstNamed name k) ∧
      ((∃ name ∈ names, t.IsFirstNamed name m) ↔ ∃ name ∈ names, t.denoted? name = some m) := by
    rw [answerAny_choice_eq_ok_iff hresolve hkind htype hne hread hm]
    simp only [List.any_eq_true, decide_eq_true_eq]
    exact and_congr_right fun _ => Iff.comm
  refine ⟨hiff, fun hentries hmembers hnames => hiff.2 ⟨fun name hname => ?_, ?_⟩⟩
  · obtain ⟨hmember, htrim⟩ := hnames name hname
    obtain ⟨k, hk, rfl⟩ := hmember
    exact ⟨k, (Choice.isFirstNamed_iff_denoted hentries hmembers ⟨k, hk, rfl⟩ htrim).2
      (Choice.denoted?_of_mem hentries hk)⟩
  · refine exists_congr fun name => and_congr_right fun hname => ?_
    obtain ⟨hmember, htrim⟩ := hnames name hname
    exact Choice.isFirstNamed_iff_denoted hentries hmembers hmember htrim

end Choices

/-- A type with another name for one of its members. -/
def grades : Choice :=
  ⟨"Grade", false, [("LOW", .whole 1), ("MID", .whole 2), ("HIGH", .whole 3), ("TOP", .whole 3)]⟩

/-- A textual type with two members whose names differ in the case of their letters only. -/
def shades : Choice :=
  ⟨"Shade", true, [("light", .text "m"), ("PALE", .text "a"), ("pale", .text "b")]⟩

/-- A field that holds a grade. -/
def gradeField : Field := ⟨"grade", .choice, some (.choice grades), false, .attribute, false⟩

/-- A field that holds a shade. -/
def shadeField : Field := ⟨"shade", .choice, some (.choice shades), false, .attribute, false⟩

/-- A schema with a grade and a shade. -/
def paints : Schema where
  name := "Paint"
  fields := [gradeField, shadeField]
  distinct := by
    unfold DistinctKeys
    decide

/-- The grades that the names of two members denote. -/
theorem answerAny_denoted_grades :
    let mid : Member := ⟨"Grade", "MID", .whole 2, false⟩
    let r : Record := ⟨[("grade", .member mid)]⟩
    paints.resolve? "grade" = some gradeField ∧ mid ∈ grades.members ∧
      (grades.entries.map Prod.fst).Nodup ∧
      (grades.members.map fun k => Text.lower k.name.toList).Nodup ∧
      (∀ name ∈ ["HIGH", "LOW"],
        (∃ k ∈ grades.members, k.name = name) ∧ Text.trim name.toList = name.toList) ∧
      paints.answerAny "grade" ["HIGH", "LOW"] r = .ok false ∧
      ((∀ name ∈ ["MID", "TOP"], ∃ k, grades.IsFirstNamed name k) ∧
        ((∃ name ∈ ["MID", "TOP"], grades.IsFirstNamed name mid) ↔
          ∃ name ∈ ["MID", "TOP"], grades.denoted? name = some mid) ↔
        paints.answerAny "grade" ["MID", "TOP"] r = .ok true) := by
  intro mid r
  have hresolve : paints.resolve? "grade" = some gradeField := by decide
  have hmid : mid ∈ grades.members := by decide
  have hentries : (grades.entries.map Prod.fst).Nodup := by decide
  have hmembers : (grades.members.map fun k => Text.lower k.name.toList).Nodup := by decide
  have hnames : ∀ name ∈ ["HIGH", "LOW"],
      (∃ k ∈ grades.members, k.name = name) ∧ Text.trim name.toList = name.toList := by
    decide
  refine ⟨hresolve, hmid, hentries, hmembers, hnames, ?_, ?_⟩
  · exact (answerAny_denoted_iff hresolve rfl rfl (by decide) rfl hmid).2 hentries hmembers hnames
  · exact (answerAny_denoted_iff hresolve rfl rfl (by decide) rfl hmid).1.symm

/-- Another name of a member is refused, and of two names that differ in the case of their letters
only the second stands for the member of the first. -/
theorem not_answerAny_denoted :
    let high : Member := ⟨"Grade", "HIGH", .whole 3, false⟩
    let capital : Member := ⟨"Shade", "PALE", .text "a", true⟩
    let small : Member := ⟨"Shade", "pale", .text "b", true⟩
    let r : Record := ⟨[("grade", .member high), ("shade", .member small)]⟩
    grades.denoted? "TOP" = some high ∧
      paints.answerAny "grade" ["TOP"] r =
        .error (.refused ⟨.badLiteral "Grade" "TOP" "grade", some (.isOneOf "grade" ["TOP"])⟩) ∧
      shades.denoted? "pale" = some small ∧ paints.answerAny "shade" ["pale"] r = .ok false ∧
      paints.answerAny "shade" ["pale"] (⟨[("shade", .member capital)]⟩ : Record) = .ok true := by
  decide

end Schema

end RecordQuery
