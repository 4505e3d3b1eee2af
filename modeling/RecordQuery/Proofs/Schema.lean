import Mathlib.Data.List.Pairwise
import Mathlib.Logic.Relation
import RecordQuery.Proofs.Text.Lower
import RecordQuery.Schema

/-!
# Fields by their names

A list of fields makes a schema exactly if no key repeats, and otherwise the first field that
repeats the key of an earlier one is refused (`Schema.of?_eq_error_iff`). In a schema a name stands
for the one field that has its key (`Schema.resolve?_eq_some_iff`). The key of an ASCII name
outlasts every change of letter case, every underscore put in or taken out, and every blank put
around it (`fieldKey_eq_of_respelled`): each of these leaves the trimmed name without underscores as
it is, up to the case of its letters, so any number of them does.
-/

namespace RecordQuery

open Text

/-! ## The spellings of a name -/

/-- One change to the spelling of a name. -/
inductive Respelling : List Char → List Char → Prop where
  /-- A letter becomes the same letter in another case. -/
  | letter {before after : List Char} {c d : Char} (h : c.toLower = d.toLower) :
    Respelling (before ++ c :: after) (before ++ d :: after)
  /-- An underscore is put in. -/
  | insert {before after : List Char} : Respelling (before ++ after) (before ++ '_' :: after)
  /-- An underscore is taken out. -/
  | remove {before after : List Char} : Respelling (before ++ '_' :: after) (before ++ after)
  /-- A blank is put in front of the name. -/
  | front {s : List Char} {c : Char} (h : isBlank c = true) : Respelling s (c :: s)
  /-- A blank is put behind the name. -/
  | back {s : List Char} {c : Char} (h : isBlank c = true) : Respelling s (s ++ [c])

/-- One name becomes the other by changes to its spelling. -/
def Respelled : List Char → List Char → Prop := Relation.ReflTransGen Respelling

/-- What the key of a name is made of, up to the case of its letters. -/
def keyLetters (s : List Char) : List Char := (trim (s.filter (· ≠ '_'))).map Char.toLower

variable {s t : List Char} {c : Char}

theorem toLower_eq_underscore_iff : c.toLower = '_' ↔ c = '_' :=
  ⟨fun h => eq_of_toLower_eq (c := '_') rfl h, by rintro rfl; rfl⟩

theorem keyLetters_eq (s : List Char) :
    keyLetters s = trim ((s.map Char.toLower).filter (· ≠ '_')) := by
  have hword : (fun c => decide (c ≠ '_')) ∘ Char.toLower = fun c => decide (c ≠ '_') := by
    funext c
    simp [toLower_eq_underscore_iff]
  rw [keyLetters, ← trim_map_toLower, List.filter_map, hword]

/-- A change of spelling keeps the letters of the key. -/
theorem keyLetters_respelling (h : Respelling s t) : keyLetters t = keyLetters s := by
  cases h with
  | letter h => rw [keyLetters_eq, keyLetters_eq, List.map_append, List.map_append, List.map_cons,
      List.map_cons, h]
  | insert | remove => simp [keyLetters]
  | @front _ c h =>
    have hword : c ≠ '_' := by
      rintro rfl
      revert h
      decide
    rw [keyLetters, List.filter_cons_of_pos (by simpa using hword), trim_cons_of_isBlank h,
      keyLetters]
  | @back _ c h =>
    have hword : c ≠ '_' := by
      rintro rfl
      revert h
      decide
    have hpad := trimBy_append (p := isBlank) (s := s.filter (· ≠ '_')) (a := []) (b := [c])
      (by simp) (by simpa using h)
    rw [keyLetters, List.filter_append, List.filter_cons_of_pos (by simpa using hword)]
    exact congrArg (List.map Char.toLower) hpad

theorem keyLetters_respelled (h : Respelled s t) : keyLetters t = keyLetters s := by
  induction h with
  | refl => rfl
  | tail _ hstep ih => rw [keyLetters_respelling hstep, ih]

/-- A name keeps its key under any changes to its spelling, if it was ASCII before them. -/
theorem fieldKey_eq_of_respelled {n m : String} (hascii : ∀ c ∈ n.toList, c.toNat < 0x80)
    (h : Respelled n.toList m.toList) : fieldKey m = fieldKey n := by
  let letters (s : List Char) : List Char := trim (s.filter (· ≠ '_'))
  have hsmall : (letters m.toList).map Char.toLower = (letters n.toList).map Char.toLower :=
    keyLetters_respelled h
  have hn : ∀ c ∈ letters n.toList, c.toNat < 0x80 := fun c hc =>
    hascii c (List.mem_filter.1 (mem_of_mem_trim hc)).1
  have hm : ∀ c ∈ letters m.toList, c.toNat < 0x80 := by
    intro c hc
    have hmem := List.mem_map_of_mem (f := Char.toLower) hc
    rw [hsmall] at hmem
    obtain ⟨d, hd, heq⟩ := List.mem_map.1 hmem
    exact toNat_lt_of_toLower (heq ▸ (lowerChar_of_ascii (hn d hd)).2)
  calc fieldKey m = (letters m.toList).map Char.toLower := lowerAfter_of_ascii hm
    _ = (letters n.toList).map Char.toLower := hsmall
    _ = fieldKey n := (lowerAfter_of_ascii hn).symm

/-! ## Lists of fields -/

namespace Schema

variable {name : String} {fields : List Field} {f : Field} {keys : List (List Char)}

theorem hasKey_cons_eq_true {key other : List Char} :
    hasKey (key :: keys) other = true ↔ key = other ∨ hasKey keys other = true := by
  simp [hasKey]

/-- The first field is found whose key is among the given keys or is that of a field before it. -/
theorem firstRepeat?_eq_some_iff : firstRepeat? keys fields = some f ↔
    ∃ before after, fields = before ++ f :: after ∧ DistinctKeys before ∧
      (∀ g ∈ before, hasKey keys g.key = false) ∧
      (hasKey keys f.key = true ∨ ∃ g ∈ before, g.key = f.key) := by
  induction fields generalizing keys with
  | nil => simp [firstRepeat?]
  | cons g fields ih =>
    rw [firstRepeat?]
    split
    · next hg =>
      constructor
      · intro h
        cases h
        exact ⟨[], fields, rfl, .nil, by simp, .inl hg⟩
      · rintro ⟨before, after, hsplit, -, hnew, -⟩
        cases before with
        | nil =>
          cases hsplit
          rfl
        | cons g' before =>
          cases hsplit
          rw [hnew g (by simp)] at hg
          cases hg
    · next hg =>
      rw [Bool.not_eq_true] at hg
      rw [ih]
      constructor
      · rintro ⟨before, after, rfl, hdistinct, hnew, hf⟩
        simp only [hasKey_cons_eq_false] at hnew
        refine ⟨g :: before, after, rfl, .cons (fun h hh => (hnew h hh).1) hdistinct, ?_, ?_⟩
        · exact List.forall_mem_cons.2 ⟨hg, fun h hh => (hnew h hh).2⟩
        · rw [hasKey_cons_eq_true] at hf
          rcases hf with (hf | hf) | ⟨h, hh, hf⟩
          · exact .inr ⟨g, by simp, hf⟩
          · exact .inl hf
          · exact .inr ⟨h, by simp [hh], hf⟩
      · rintro ⟨before, after, hsplit, hdistinct, hnew, hf⟩
        cases before with
        | nil =>
          cases hsplit
          rw [hg] at hf
          simp at hf
        | cons g' before =>
          cases hsplit
          obtain ⟨hfirst, hdistinct⟩ := List.pairwise_cons.1 hdistinct
          obtain ⟨-, hnew⟩ := List.forall_mem_cons.1 hnew
          refine ⟨before, after, rfl, hdistinct, fun h hh => ?_, ?_⟩
          · exact hasKey_cons_eq_false.2 ⟨hfirst h hh, hnew h hh⟩
          · rw [hasKey_cons_eq_true]
            rcases hf with hf | ⟨h, hh, hf⟩
            · exact .inl (.inr hf)
            · rcases List.mem_cons.1 hh with rfl | hh
              · exact .inl (.inl hf)
              · exact .inr ⟨h, hh, hf⟩

/-- Refused is the first field with the key of an earlier one. -/
theorem of?_eq_error_iff : of? name fields = .error f ↔
    ∃ before after, fields = before ++ f :: after ∧ DistinctKeys before ∧
      ∃ g ∈ before, g.key = f.key := by
  have hrepeat : of? name fields = .error f ↔ firstRepeat? [] fields = some f := by
    unfold of?
    split
    · next g hg => simp [hg]
    · next hnone => simp [hnone]
  rw [hrepeat, firstRepeat?_eq_some_iff]
  simp [hasKey]

/-- The fields make a schema that holds them as they are, if no key repeats. -/
theorem of?_eq_ok_iff {s : Schema} :
    of? name fields = .ok s ↔ DistinctKeys fields ∧ s.name = name ∧ s.fields = fields := by
  constructor
  · intro h
    unfold of? at h
    split at h
    · cases h
    · next hnone =>
      cases h
      exact ⟨(firstRepeat?_eq_none hnone).2, rfl, rfl⟩
  · rintro ⟨hdistinct, rfl, rfl⟩
    cases h : of? s.name s.fields with
    | error f =>
      obtain ⟨before, after, hsplit, -, g, hg, hkey⟩ := of?_eq_error_iff.1 h
      rw [hsplit] at hdistinct
      exact absurd hkey ((List.pairwise_append.1 hdistinct).2.2 g hg f (by simp))
    | ok t =>
      unfold of? at h
      split at h
      · cases h
      · cases h
        rfl

/-- Fields of one key are the same field. -/
theorem eq_of_key_eq (hdistinct : DistinctKeys fields) {g : Field} (hf : f ∈ fields)
    (hg : g ∈ fields) (hkey : f.key = g.key) : f = g := by
  by_contra hne
  have hsymm : Std.Symm fun f g : Field => f.key ≠ g.key := ⟨fun _ _ h => h.symm⟩
  exact hdistinct.forall hf hg hne hkey

/-- A name stands for the one field that has its key. -/
theorem resolve?_eq_some_iff {s : Schema} {n : String} : s.resolve? n = some f ↔
    f ∈ s.fields ∧ f.key = fieldKey n ∧ ∀ g ∈ s.fields, g.key = fieldKey n → g = f := by
  constructor
  · intro h
    have hf := List.mem_of_find?_eq_some h
    have hkey : f.key = fieldKey n := by simpa using List.find?_some h
    exact ⟨hf, hkey, fun g hg hgkey => eq_of_key_eq s.distinct hg hf (hgkey.trans hkey.symm)⟩
  · rintro ⟨hf, hkey, honly⟩
    cases h : s.resolve? n with
    | none =>
      have hnone := List.find?_eq_none.1 h f hf
      simp [hkey] at hnone
    | some g =>
      have hgkey : g.key = fieldKey n := by simpa using List.find?_some h
      rw [honly g (List.mem_of_find?_eq_some h) hgkey]

/-- A name stands for no field exactly if no field has its key. -/
theorem resolve?_eq_none_iff {s : Schema} {n : String} :
    s.resolve? n = none ↔ ∀ f ∈ s.fields, f.key ≠ fieldKey n := by
  rw [resolve?, List.find?_eq_none]
  simp

/-- A list of fields makes a schema if and only if their keys are pairwise distinct, and otherwise
the first field is refused that has the key of an earlier one. The schema has the fields in their
order. A name stands for the one field that has its key, and for none if no field has it. An ASCII
name stands for the same field in every spelling: with its letters in either case, with more or
fewer underscores, and with blanks around it. -/
theorem of?_resolves (name : String) (fields : List Field) :
    ((∃ s, of? name fields = .ok s) ↔ DistinctKeys fields) ∧
    (∀ f, of? name fields = .error f ↔ ∃ before after, fields = before ++ f :: after ∧
      DistinctKeys before ∧ ∃ g ∈ before, g.key = f.key) ∧
    ∀ s, of? name fields = .ok s → s.name = name ∧ s.fieldNames = fields.map Field.name ∧
      ∀ n,
        (∀ f, s.resolve? n = some f ↔ f ∈ fields ∧ f.key = fieldKey n ∧
          ∀ g ∈ fields, g.key = fieldKey n → g = f) ∧
        (s.resolve? n = none ↔ ∀ f ∈ fields, f.key ≠ fieldKey n) ∧
        ((∀ c ∈ n.toList, c.toNat < 0x80) → ∀ m, Respelled n.toList m.toList →
          s.resolve? m = s.resolve? n) := by
  refine ⟨?_, fun f => of?_eq_error_iff, fun s hs => ?_⟩
  · constructor
    · rintro ⟨s, hs⟩
      exact (of?_eq_ok_iff.1 hs).1
    · intro hdistinct
      exact ⟨⟨name, fields, hdistinct⟩, of?_eq_ok_iff.2 ⟨hdistinct, rfl, rfl⟩⟩
  · obtain ⟨-, hname, rfl⟩ := of?_eq_ok_iff.1 hs
    refine ⟨hname, rfl, fun n => ⟨fun f => resolve?_eq_some_iff, resolve?_eq_none_iff, ?_⟩⟩
    intro hascii m hrespelled
    rw [resolve?, resolve?, fieldKey_eq_of_respelled hascii hrespelled]

/-- The name of the moment of an upload with a capital in front, between blanks and behind an
underscore. -/
theorem of?_resolves_capitals :
    let size : Field := ⟨"size", .numeric, some .int, false, .attribute, false⟩
    let moment : Field := ⟨"up_at", .dateTime, some .dateTime, true, .attribute, false⟩
    ∃ s, of? "Upload" [size, moment] = .ok s ∧
      (∀ c ∈ "upAt".toList, c.toNat < 0x80) ∧ Respelled "upAt".toList "_\u3000UpAt\t".toList ∧
      s.resolve? "upAt" = some moment ∧ s.resolve? "_\u3000UpAt\t" = some moment := by
  intro size moment
  have hnew : firstRepeat? [] [size, moment] = none := by decide
  have hdistinct := (firstRepeat?_eq_none hnew).2
  have hs : of? "Upload" [size, moment] = .ok ⟨"Upload", _, hdistinct⟩ :=
    of?_eq_ok_iff.2 ⟨hdistinct, rfl, rfl⟩
  have hall : "upAt".toList.all (·.toNat < 0x80) = true := by decide
  have hascii : ∀ c ∈ "upAt".toList, c.toNat < 0x80 := fun c hc =>
    of_decide_eq_true (List.all_eq_true.1 hall c hc)
  have hrespelled : Respelled "upAt".toList "_\u3000UpAt\t".toList := by
    have hletter : Respelling "upAt".toList "UpAt".toList :=
      @Respelling.letter [] "pAt".toList 'u' 'U' (by decide)
    have hfront : Respelling "UpAt".toList "\u3000UpAt".toList := .front (by decide)
    have hback : Respelling "\u3000UpAt".toList "\u3000UpAt\t".toList := .back (by decide)
    have hinsert : Respelling "\u3000UpAt\t".toList "_\u3000UpAt\t".toList :=
      @Respelling.insert [] _
    exact (((Relation.ReflTransGen.single hletter).tail hfront).tail hback).tail hinsert
  obtain ⟨-, -, hspelling⟩ := ((of?_resolves "Upload" [size, moment]).2.2 _ hs).2.2 "upAt"
  have hmoment : [size, moment].find? (·.key = fieldKey "upAt") = some moment := by decide
  exact ⟨_, hs, hascii, hrespelled, hmoment, (hspelling hascii _ hrespelled).trans hmoment⟩

end Schema

end RecordQuery
