import Mathlib.Data.List.Nodup
import RecordQuery.Proofs.Value.Kind
import RecordQuery.Value.Relation

/-!
# The members of a choice type

The members of a choice type have pairwise distinct values (`Choice.nodup_payload`), so a
comparison tells any two of them apart, whether they stand for their values or not
(`Value.equal_relate_member`). A text is read as the first member that it names
(`Field.literal_choice_iff`). That is the member which the text denotes if no two members differ in
the case of their letters only and the text is the name of a member, but no other name of one
(`Choice.isFirstNamed_iff_denoted`).
-/

namespace RecordQuery

open Text

variable {t : Choice} {m k : Member} {name : String}

/-- Among elements with distinct keys, the first that has a key is the one that has it. -/
theorem find?_key_eq_some_iff {α κ : Type} [DecidableEq κ] {key : α → κ} {xs : List α} {x : α}
    {wanted : κ} (hkeys : (xs.map key).Nodup) :
    xs.find? (fun y => key y = wanted) = some x ↔ x ∈ xs ∧ key x = wanted := by
  constructor
  · intro h
    exact ⟨List.mem_of_find?_eq_some h, by simpa using List.find?_some h⟩
  · rintro ⟨hx, rfl⟩
    obtain ⟨y, hy⟩ : ∃ y, xs.find? (fun y => key y = key x) = some y :=
      Option.isSome_iff_exists.1 (List.find?_isSome.2 ⟨x, hx, by simp⟩)
    have hkey : key y = key x := by simpa using List.find?_some hy
    rw [hy, List.inj_on_of_nodup_map hkeys (List.mem_of_find?_eq_some hy) hx hkey]

namespace Choice

/-- A member stems from an entry of the declaration. -/
theorem exists_member_eq (h : m ∈ t.members) : ∃ entry ∈ t.entries, m = t.member entry := by
  revert m
  unfold members
  refine List.foldlRecOn
    (motive := fun found => ∀ {m}, m ∈ found → ∃ entry ∈ t.entries, m = t.member entry)
    t.entries _ (by simp) fun found hfound entry hentry m hm => ?_
  split at hm
  · exact hfound hm
  · rcases List.mem_append.1 hm with hm | hm
    · exact hfound hm
    · exact ⟨entry, hentry, List.mem_singleton.1 hm⟩

/-- No two members have the same value. -/
theorem nodup_payload : (t.members.map Member.payload).Nodup := by
  unfold members
  refine List.foldlRecOn (motive := fun found : List Member => (found.map Member.payload).Nodup)
    t.entries _ List.nodup_nil fun found hfound entry _ => ?_
  split
  · exact hfound
  · next hnew =>
    simp only [List.any_eq_true, decide_eq_true_eq, not_exists, not_and] at hnew
    simpa [List.nodup_append, hfound] using hnew

/-- Members of the same value are the same. -/
theorem payload_inj (hm : m ∈ t.members) (hk : k ∈ t.members) : m.payload = k.payload ↔ m = k :=
  ⟨List.inj_on_of_nodup_map nodup_payload hm hk, congrArg Member.payload⟩

/-- The name of a member denotes it. -/
theorem denoted?_of_mem (hentries : (t.entries.map Prod.fst).Nodup) (hm : m ∈ t.members) :
    t.denoted? m.name = some m := by
  obtain ⟨entry, hentry, rfl⟩ := exists_member_eq hm
  have hfind : t.entries.find? (·.1 = (t.member entry).name) = some entry :=
    (find?_key_eq_some_iff hentries).2 ⟨hentry, rfl⟩
  rw [denoted?, hfind]
  exact (find?_key_eq_some_iff nodup_payload).2 ⟨hm, rfl⟩

/-- The member is the first whose name is the text, in letters of either case and without the blanks
around the text. -/
def IsFirstNamed (t : Choice) (text : String) (m : Member) : Prop :=
  ∃ before after, t.members = before ++ m :: after ∧
    lower m.name.toList = lower (trim text.toList) ∧
    ∀ k ∈ before, lower k.name.toList ≠ lower (trim text.toList)

theorem member?_eq_some_iff :
    Literal.member? t (trim name.toList) = some m ↔ t.IsFirstNamed name m := by
  rw [Literal.member?, List.find?_eq_some_iff_append, IsFirstNamed]
  simp only [decide_eq_true_eq, Bool.not_eq_true', decide_eq_false_iff_not, ← exists_and_left]
  exact exists_congr fun before => exists_congr fun after => and_left_comm

theorem IsFirstNamed.mem (h : t.IsFirstNamed name m) : m ∈ t.members := by
  obtain ⟨before, after, hsplit, -, -⟩ := h
  rw [hsplit]
  simp

/-- A text names a member if and only if it denotes the member, provided that it is the name of a
member without blanks around it and that no two names of members are the same in lower case. -/
theorem isFirstNamed_iff_denoted (hentries : (t.entries.map Prod.fst).Nodup)
    (hmembers : (t.members.map fun m => lower m.name.toList).Nodup)
    (hname : ∃ k ∈ t.members, k.name = name) (htrim : trim name.toList = name.toList) :
    t.IsFirstNamed name m ↔ t.denoted? name = some m := by
  obtain ⟨k, hk, rfl⟩ := hname
  rw [denoted?_of_mem hentries hk, Option.some.injEq, ← member?_eq_some_iff, htrim, Literal.member?,
    find?_key_eq_some_iff hmembers]
  constructor
  · rintro ⟨hm, hlower⟩
    exact List.inj_on_of_nodup_map hmembers hk hm hlower.symm
  · rintro rfl
    exact ⟨hk, rfl⟩

/-- The members of a textual type stand for the texts that are their values. -/
theorem exists_text?_eq (htextual : t.textual = true) (hm : m ∈ t.members) :
    ∃ s, m.payload = .text s ∧ (Value.member m).text? = some s := by
  obtain ⟨⟨name, payload⟩, -, rfl⟩ := exists_member_eq hm
  simp only [member, htextual]
  cases payload with
  | text s => exact ⟨s, rfl, rfl⟩
  | whole n =>
    have hpayload : t.payload (.whole n) = .text (String.ofList (integerText n)) := if_pos htextual
    rw [hpayload]
    exact ⟨_, rfl, rfl⟩

/-- The members of another type stand for no texts. -/
theorem text?_eq_none (htextual : t.textual = false) (hm : m ∈ t.members) :
    (Value.member m).text? = none := by
  obtain ⟨entry, -, rfl⟩ := exists_member_eq hm
  simp only [member, htextual]
  cases t.payload entry.2 <;> rfl

end Choice

/-- Two members of a type are equal only if they are the same. -/
theorem Value.equal_relate_member (hm : m ∈ t.members) (hk : k ∈ t.members) :
    ((member m).relate (member k)).equal = .ok (decide (m = k)) := by
  have hrelate : (member m).relate (member k) = (member m).relateOthers (member k) := rfl
  cases htextual : t.textual with
  | false =>
    simp only [hrelate, relateOthers, Choice.text?_eq_none htextual hm,
      Choice.text?_eq_none htextual hk, Relation.equal, member.injEq]
  | true =>
    obtain ⟨s, hs, hstext⟩ := Choice.exists_text?_eq htextual hm
    obtain ⟨s', hs', hstext'⟩ := Choice.exists_text?_eq htextual hk
    have hsame : (compare s s' == .eq) = decide (m = k) := by
      rw [Bool.eq_iff_iff, beq_iff_eq, decide_eq_true_eq, ← Choice.payload_inj hm hk, hs, hs',
        Payload.text.injEq, Std.compare_eq_iff_eq]
    simp only [hrelate, relateOthers, hstext, hstext', Relation.equal, hsame]

/-- A member has the shape that literals have. -/
theorem Field.normalize_member (f : Field) (m : Member) :
    f.normalize (.member m) = .ok (.member m) := by
  obtain ⟨name, kind, type?, nullable, accessor, stored⟩ := f
  cases kind <;> rfl

/-- A choice is read from a text as the first member that it names. -/
theorem Field.literal_choice_iff {f : Field} {text : String} {v : Value} (hkind : f.kind = .choice)
    (htype : f.type? = some (.choice t)) :
    f.literal text = .ok v ↔ ∃ m, t.IsFirstNamed text m ∧ v = .member m := by
  rw [literal, hkind, htype]
  simp only [Literal.choice, ← Choice.member?_eq_some_iff]
  cases Literal.member? t (trim text.toList) with
  | none => simp [orMalformed]
  | some m => simp [orMalformed, eq_comm]

end RecordQuery
