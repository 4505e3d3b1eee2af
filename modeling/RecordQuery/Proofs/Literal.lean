import Mathlib.Data.List.Basic
import RecordQuery.Literal
import RecordQuery.Proofs.Fault
import RecordQuery.Proofs.Text.Blank
import RecordQuery.Proofs.Time.Calendar
import RecordQuery.Proofs.Time.RoundTrip

/-!
# Literals of written moments

`Field.coerce_text_iff`: a field of date-times reads the text of a date-time as its instant at
offset zero if and only if its offset, where it has one, is zero or a second at least, and a field
of dates reads the text of a date as the date. Blanks around a text do not count.
-/

namespace RecordQuery

open Text Time

/-! ## The characters of moments -/

namespace Time

/-- The characters of written moments. -/
def IsIsoChar (c : Char) : Prop :=
  c.isDigit = true ∨ c = '-' ∨ c = ':' ∨ c = '.' ∨ c = '+' ∨ c = 'T'

theorem isIsoChar_of_mem_digits {width n : Nat} {c : Char} (hc : c ∈ digits width n) :
    IsIsoChar c := .inl (isDigit_of_mem_digits hc)

/-- No blank is among them. -/
theorem IsIsoChar.isBlank {c : Char} (h : IsIsoChar c) : isBlank c = false := by
  rcases h with h | rfl | rfl | rfl | rfl | rfl
  · exact isBlank_of_isDigit h
  all_goals decide

/-- They are characters of ASCII, and the letter Z is not among them. -/
theorem IsIsoChar.ascii {c : Char} (h : IsIsoChar c) : c.toNat < 0x80 ∧ c ≠ 'Z' := by
  rcases h with h | rfl | rfl | rfl | rfl | rfl
  · refine ⟨?_, by rintro rfl; simp at h⟩
    simp only [Char.isDigit, Bool.and_eq_true, decide_eq_true_eq] at h
    exact Nat.lt_of_le_of_lt (UInt32.le_iff_toNat_le.1 h.2) (by decide)
  all_goals decide

/-- The characters of a date are digits and hyphens. -/
theorem Date.mem_text {d : Date} {c : Char} (hc : c ∈ d.text) : c.isDigit = true ∨ c = '-' := by
  rw [text_eq, digits] at hc
  simp only [List.mem_append, List.mem_cons] at hc
  rcases hc with hc | hc | hc | hc | hc
  · exact .inl (isDigit_of_mem_digits hc)
  · exact .inr hc
  · exact .inl (isDigit_of_mem_digits hc)
  · exact .inr hc
  · exact .inl (isDigit_of_mem_digits hc)

theorem TimeOfDay.isIsoChar_of_mem_text {t : TimeOfDay} {c : Char} (hc : c ∈ t.text) :
    IsIsoChar c := by
  have hcolon : IsIsoChar ':' := .inr (by decide)
  rw [text_eq, clockDigits, fractionDigits] at hc
  simp only [List.mem_append, List.mem_cons] at hc
  rcases hc with (hc | rfl | hc | rfl | hc) | hc
  · exact isIsoChar_of_mem_digits hc
  · exact hcolon
  · exact isIsoChar_of_mem_digits hc
  · exact hcolon
  · exact isIsoChar_of_mem_digits hc
  · split at hc
    · cases hc
    · rcases List.mem_cons.1 hc with rfl | hc
      · exact .inr (by decide)
      · exact isIsoChar_of_mem_digits hc

theorem Offset.isIsoChar_of_mem_text {o : Offset} {c : Char} (hc : c ∈ o.text) : IsIsoChar c := by
  rw [text_eq] at hc
  rcases List.mem_cons.1 hc with rfl | hc
  · rw [sign]
    split <;> exact .inr (by decide)
  · split at hc
    · rcases List.mem_append.1 hc with hc | hc
      · exact isIsoChar_of_mem_digits hc
      · rcases List.mem_cons.1 hc with rfl | hc
        · exact .inr (by decide)
        · exact isIsoChar_of_mem_digits hc
    · exact TimeOfDay.isIsoChar_of_mem_text hc

/-- What the characters of the text of a date-time are. -/
theorem DateTime.isIsoChar_of_mem_text {t : DateTime} {c : Char} (hc : c ∈ t.text 'T') :
    IsIsoChar c := by
  rw [text] at hc
  simp only [List.mem_append, List.mem_cons] at hc
  rcases hc with (hc | rfl | hc) | hc
  · exact (Date.mem_text hc).imp_right fun h => by simp [h]
  · exact .inr (by decide)
  · exact TimeOfDay.isIsoChar_of_mem_text hc
  · cases ho : t.offset? with
    | none => simp [ho] at hc
    | some o =>
      rw [ho] at hc
      exact Offset.isIsoChar_of_mem_text hc

end Time

/-! ## Reading a written moment -/

namespace Literal

/-- A text without the letter Z is left as it is. -/
theorem spellZulu_eq_self {s : List Char} (h : ∀ c ∈ s, c ≠ 'Z') : spellZulu s = s := by
  have hsingle : ∀ c ∈ s, (if c = 'Z' then "+00:00".toList else [c]) = [c] :=
    fun c hc => if_neg (h c hc)
  rw [spellZulu, List.flatMap_congr hsingle, List.flatMap_singleton']

/-- The text of a date-time is read as the date-time. -/
theorem dateTimeText?_text (t : DateTime) : dateTimeText? (t.text 'T') = some t.read := by
  have hT : 'T' ∈ t.text 'T' := by simp [DateTime.text]
  rw [dateTimeText?, if_neg fun h => h.1 hT,
    spellZulu_eq_self fun c hc => (DateTime.isIsoChar_of_mem_text hc).ascii.2, t.ofText?_text]

/-- The letter Z at the end of a text is read as offset zero. -/
theorem dateTimeText?_zulu {t : DateTime} (h : t.offset? = some .utc) :
    dateTimeText? (t.date.text ++ 'T' :: t.time.text ++ ['Z']) = some t := by
  have htext : t.text 'T' = t.date.text ++ 'T' :: t.time.text ++ "+00:00".toList := by
    rw [DateTime.text, h]
    rfl
  have hZ : ∀ c ∈ t.date.text ++ 'T' :: t.time.text, c ≠ 'Z' := fun c hc =>
    (DateTime.isIsoChar_of_mem_text (htext ▸ List.mem_append_left _ hc)).ascii.2
  have hspell : spellZulu (t.date.text ++ 'T' :: t.time.text ++ ['Z']) = t.text 'T' := by
    rw [htext, spellZulu, List.flatMap_append, ← spellZulu, spellZulu_eq_self hZ]
    rfl
  have hread : t.read = t := by
    rw [DateTime.read_eq_self_iff, h]
    rintro o ⟨⟩
    exact .inl rfl
  rw [dateTimeText?, if_neg fun hnot => hnot.1 (by simp), hspell, t.ofText?_text, hread]

/-- The text of a date is read as its midnight. -/
theorem dateTimeText?_dateText (d : Date) :
    dateTimeText? d.text = some ⟨d, .midnight, none⟩ := by
  have hchar : ∀ c ∈ d.text, IsIsoChar c := fun c hc =>
    (Date.mem_text hc).imp_right fun h => by simp [h]
  have hT : 'T' ∉ d.text := fun hc => by simpa using Date.mem_text hc
  have hspace : ' ' ∉ d.text := fun hc => by simpa using Date.mem_text hc
  have hlength : d.text.length = 10 := by rw [d.text_eq, d.length_digits]
  have hascii : d.text.all (·.toNat < 0x80) = true := by
    rw [List.all_eq_true]
    exact fun c hc => decide_eq_true (hchar c hc).ascii.1
  rw [dateTimeText?, if_pos ⟨hT, hspace, hlength⟩, if_pos hascii, d.ofText?_text]
  rfl

/-- What is read of a date-time comes to its instant at offset zero if and only if the date-time is
read back as it is. -/
theorem universal_read_eq_iff {t u : DateTime} (h : t.toUtc? = some u) :
    universal t.read = .ok (.dateTime u) ↔ t.read = t := by
  refine ⟨fun hread => ?_, fun hself => by rw [hself, universal, h]⟩
  have hmoved : t.read.toUtc? = some u := by
    rw [universal] at hread
    split at hread
    · next v hv =>
      obtain rfl : v = u := by simpa using hread
      exact hv
    · cases hread
  exact DateTime.read_eq_self_of_instant_eq
    ((DateTime.instant_toUtc? hmoved).2.symm.trans (DateTime.instant_toUtc? h).2)

end Literal

namespace Field

variable {f : Field}

/-- A literal that a criterion needs is what its text stands for. -/
theorem coerce_eq_ok_iff {text : String} {criterion? : Option Criterion} {v : Value} :
    f.coerce text criterion? = .ok v ↔ f.literal text = .ok v := by
  rw [coerce]
  split
  · next w hw => rw [hw, Except.ok.injEq, Except.ok.injEq]
  · next hw => simp [hw]
  · next hw => simp [hw]

/-- A field of moments reads the date-time of a text as its date or as its instant at offset zero.
-/
theorem literal_of_dateTimeText? (hkind : f.kind = .dateTime) {s : List Char} {t : DateTime}
    (h : Literal.dateTimeText? (trim s) = some t) :
    f.literal (String.ofList s) =
      if f.type? = some .date then .ok (.date t.date)
      else (Literal.universal t).mapError .faulty := by
  simp [literal, hkind, Literal.dateTime, h, orMalformed, bind, Except.bind]

/-- A field of date-times reads the text of a date-time, perhaps between blanks, as its instant at
offset zero if and only if its offset is zero or a second at least; the letter Z may stand for the
offset zero. A field of dates reads the text of a date as the date. -/
theorem coerce_text_iff (hkind : f.kind = .dateTime) {before after : List Char}
    (hbefore : ∀ c ∈ before, isBlank c = true) (hafter : ∀ c ∈ after, isBlank c = true)
    (criterion? : Option Criterion) :
    (f.type? = some .dateTime → ∀ t u : DateTime, t.toUtc? = some u →
      (f.coerce (String.ofList (before ++ t.text 'T' ++ after)) criterion? = .ok (.dateTime u) ↔
        ∀ o ∈ t.offset?, o.micros = 0 ∨ secondMicros ≤ o.micros.natAbs) ∧
      (t.offset? = some .utc →
        f.coerce (String.ofList
          (before ++ (t.date.text ++ 'T' :: t.time.text ++ ['Z']) ++ after)) criterion? =
            .ok (.dateTime u))) ∧
    (f.type? = some .date → ∀ d : Date,
      f.coerce (String.ofList (before ++ d.text ++ after)) criterion? = .ok (.date d)) := by
  have hliteral {s : List Char} {t : DateTime} (hs : ∀ c ∈ s, isBlank c = false)
      (h : Literal.dateTimeText? s = some t) :
      f.literal (String.ofList (before ++ s ++ after)) =
        if f.type? = some .date then .ok (.date t.date)
        else (Literal.universal t).mapError .faulty :=
    literal_of_dateTimeText? hkind (by rw [trim_between hbefore hafter hs, h])
  have hplain (t : DateTime) : ∀ c ∈ t.text 'T', isBlank c = false :=
    fun c hc => (DateTime.isIsoChar_of_mem_text hc).isBlank
  refine ⟨fun htype t u hu => ⟨?_, fun hutc => ?_⟩, fun htype d => ?_⟩
  · rw [coerce_eq_ok_iff, hliteral (hplain t) (Literal.dateTimeText?_text t),
      if_neg (by simp [htype]), mapError_eq_ok_iff, Literal.universal_read_eq_iff hu,
      DateTime.read_eq_self_iff]
  · have hzulu : ∀ c ∈ t.date.text ++ 'T' :: t.time.text ++ ['Z'], isBlank c = false := by
      intro c hc
      rcases List.mem_append.1 hc with hc | hc
      · exact hplain t c (List.mem_append_left _ hc)
      · rw [List.mem_singleton.1 hc]
        decide
    rw [coerce_eq_ok_iff, hliteral hzulu (Literal.dateTimeText?_zulu hutc),
      if_neg (by simp [htype]), mapError_eq_ok_iff, Literal.universal, hu]
  · have hdate : ∀ c ∈ d.text, isBlank c = false := by
      intro c hc
      rcases Date.mem_text hc with hc | rfl
      · exact isBlank_of_isDigit hc
      · decide
    rw [coerce_eq_ok_iff, hliteral hdate (Literal.dateTimeText?_dateText d), if_pos htype]

/-- A quarter of a second past half past midnight on the first of March, at an offset of five and a
half hours and a microsecond, lies on the leap day before. -/
theorem coerce_text_leapDay :
    let moment : Field := ⟨"at", .dateTime, some .dateTime, false, .entry, true⟩
    let day : Field := ⟨"day", .dateTime, some .date, false, .entry, true⟩
    let leapDay : Date := ⟨2024, 2, 29, by decide⟩
    let evening : DateTime := ⟨leapDay, ⟨68400249999, by decide⟩, some .utc⟩
    moment.coerce "\t2024-03-01T00:30:00.250000+05:30:00.000001 " none = .ok (.dateTime evening) ∧
      moment.coerce "\t2024-02-29T19:00:00.249999Z " none = .ok (.dateTime evening) ∧
      day.coerce "\t2024-02-29 " none = .ok (.date leapDay) := by
  intro moment day leapDay evening
  let t : DateTime := ⟨⟨2024, 3, 1, by decide⟩, ⟨1800250000, by decide⟩,
    some ⟨19800000001, by decide, by decide⟩⟩
  have htab : ∀ c ∈ ['\t'], isBlank c = true := List.forall_mem_singleton.2 rfl
  have hspace : ∀ c ∈ [' '], isBlank c = true := List.forall_mem_singleton.2 rfl
  have ht : t.toUtc? = some evening := by decide
  have hevening : evening.toUtc? = some evening := by decide
  have htext : String.ofList (['\t'] ++ t.text 'T' ++ [' ']) =
      "\t2024-03-01T00:30:00.250000+05:30:00.000001 " := by decide +kernel
  have hzulu : String.ofList
      (['\t'] ++ (evening.date.text ++ 'T' :: evening.time.text ++ ['Z']) ++ [' ']) =
        "\t2024-02-29T19:00:00.249999Z " := by decide
  have hdate : String.ofList (['\t'] ++ leapDay.text ++ [' ']) = "\t2024-02-29 " := by
    decide
  obtain ⟨hmoment, -⟩ := coerce_text_iff (f := moment) rfl htab hspace none
  obtain ⟨-, hday⟩ := coerce_text_iff (f := day) rfl htab hspace none
  rw [← htext, ← hzulu, ← hdate]
  exact ⟨(hmoment rfl t evening ht).1.2 (by decide), (hmoment rfl evening evening hevening).2 rfl,
    hday rfl leapDay⟩

/-- Noon at an offset of a microsecond is read as noon at universal time, a microsecond late. -/
theorem coerce_text_microsecond :
    let moment : Field := ⟨"at", .dateTime, some .dateTime, false, .entry, true⟩
    let noon : DateTime := ⟨⟨2024, 1, 10, by decide⟩, ⟨43200000000, by decide⟩,
      some ⟨1, by decide, by decide⟩⟩
    String.ofList (noon.text 'T') = "2024-01-10T12:00:00+00:00:00.000001" ∧
      ∃ u, noon.toUtc? = some u ∧ u.time.micros = 43199999999 ∧
        ¬ moment.coerce (String.ofList (noon.text 'T')) none = .ok (.dateTime u) := by
  intro moment noon
  have hmoved : noon.toUtc? = some ⟨noon.date, ⟨43199999999, by decide⟩, some .utc⟩ := by
    decide
  refine ⟨?_, _, hmoved, ?_, ?_⟩ <;> decide

end Field

end RecordQuery
