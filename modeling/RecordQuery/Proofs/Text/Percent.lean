import RecordQuery.Proofs.Text.Utf8
import RecordQuery.Text.Percent

/-!
# Reading percent escapes back

`percentDecode_percentEncode_append`: what `percentEncode` writes is read back as it was, whatever
follows it. Text without a percent or plus sign is its own encoding, so a text put together from
such text and encoded parts is the encoding of the whole.
-/

namespace RecordQuery.Text

/-! ## Single pieces -/

/-- A character other than the plus sign stands for itself. -/
theorem lone_ofChar {c : Char} (hc : c ≠ '+') : Utf8.Lone (Piece.ofChar c) c := by
  unfold Piece.ofChar
  rw [if_neg hc]
  split
  · next hlt =>
    have hlone := Utf8.Lone.octet (b := c.toNat) (by omega)
    rwa [Char.ofNat_toNat] at hlone
  · exact .plain c

/-- A character other than the percent sign begins no escape. -/
theorem percentPieces_cons {c : Char} (hc : c ≠ '%') (s : List Char) :
    percentPieces (c :: s) = Piece.ofChar c :: percentPieces s :=
  percentPieces.eq_3 c s fun _ _ _ h _ => hc h

/-! ## Encoded text -/

/-- An escaped character is read back, whatever follows it. -/
theorem percentDecode_percentEscape_append (c : Char) (t : List Char) :
    percentDecode (percentEscape c ++ t) = c :: percentDecode t := by
  unfold percentEscape percentDecode
  split
  · next h => subst h; exact (Utf8.Lone.octet (b := 0x25) (by decide)).decode_cons _
  · next hpercent =>
    split
    · next h => subst h; exact (Utf8.Lone.octet (b := 0x2B) (by decide)).decode_cons _
    · next hplus =>
      rw [List.singleton_append, percentPieces_cons hpercent, (lone_ofChar hplus).decode_cons]

/-- Encoded text is read back, whatever follows it. -/
theorem percentDecode_percentEncode_append (s t : List Char) :
    percentDecode (percentEncode s ++ t) = s ++ percentDecode t := by
  induction s with
  | nil => rfl
  | cons c s ih =>
    rw [percentEncode, List.flatMap_cons, List.append_assoc, percentDecode_percentEscape_append,
      ← percentEncode, ih, List.cons_append]

/-- Encoded text is read back. -/
theorem percentDecode_percentEncode (s : List Char) : percentDecode (percentEncode s) = s := by
  have h := percentDecode_percentEncode_append s []
  rwa [List.append_nil, show percentDecode [] = [] from rfl, List.append_nil] at h

/-- Texts are encoded one by one. -/
theorem percentEncode_append (s t : List Char) :
    percentEncode (s ++ t) = percentEncode s ++ percentEncode t := List.flatMap_append

/-- A text that holds neither a percent nor a plus sign is its own encoding. -/
theorem percentEncode_eq_self {s : List Char} (h : ∀ c ∈ s, c ≠ '%' ∧ c ≠ '+') :
    percentEncode s = s := by
  induction s with
  | nil => rfl
  | cons c s ih =>
    obtain ⟨hpercent, hplus⟩ := h c (by simp)
    rw [percentEncode, List.flatMap_cons, ← percentEncode, ih fun d hd => h d (by simp [hd]),
      percentEscape, if_neg hpercent, if_neg hplus, List.singleton_append]

/-- Such a text is decoded to itself. -/
theorem percentDecode_eq_self {s : List Char} (h : ∀ c ∈ s, c ≠ '%' ∧ c ≠ '+') :
    percentDecode s = s := by
  have hdecode := percentDecode_percentEncode s
  rwa [percentEncode_eq_self h] at hdecode

end RecordQuery.Text
