import RecordQuery.Proofs.Text.Blank
import RecordQuery.Proofs.Text.Percent

/-!
# Characters that belong to no escape

A character is inert if it is neither a percent nor a plus sign nor a hexadecimal digit. No escape
reaches over such a character and no UTF-8 sequence does, so the texts on either side of it are
decoded on their own (`percentDecode_append_cons`), whatever unfinished escape or sequence the one
ends with or the other begins with. Every other character decodes differently somewhere
(`percentDecode_append_cons_iff`). Blanks are inert (`IsInert.of_isBlank`).
-/

namespace RecordQuery.Text

/-- A character that belongs to no escape. -/
structure IsInert (c : Char) : Prop where
  /-- It begins no escape. -/
  ne_percent : c ≠ '%'
  /-- It stands for no space. -/
  ne_plus : c ≠ '+'
  /-- It is no digit of an escape. -/
  no_digit : hexValue? c = none

theorem hexValue?_lt {c : Char} {n : Nat} (h : hexValue? c = some n) : n < 16 := by
  unfold hexValue? at h
  grind

/-- A blank belongs to no escape. -/
theorem IsInert.of_isBlank {c : Char} (hc : isBlank c = true) : IsInert c where
  ne_percent := by rintro rfl; revert hc; decide
  ne_plus := by rintro rfl; revert hc; decide
  no_digit := by
    have hranges : ¬(0x30 ≤ c.toNat ∧ c.toNat ≤ 0x39) ∧ ¬(0x61 ≤ c.toNat ∧ c.toNat ≤ 0x66) ∧
        ¬(0x41 ≤ c.toNat ∧ c.toNat ≤ 0x46) :=
      forall_blank (p := fun n => ¬(0x30 ≤ n ∧ n ≤ 0x39) ∧ ¬(0x61 ≤ n ∧ n ≤ 0x66) ∧
        ¬(0x41 ≤ n ∧ n ≤ 0x46)) (by decide) hc
    obtain ⟨hdecimal, hsmall, hcapital⟩ := hranges
    rw [hexValue?, if_neg hdecimal, if_neg hsmall, if_neg hcapital]

/-! ## Escapes on either side -/

/-- The text begins with two hexadecimal digits. -/
def beginsWithDigits : List Char → Bool
  | x :: y :: _ => (hexValue? x).isSome && (hexValue? y).isSome
  | _ => false

theorem exists_of_beginsWithDigits {s : List Char} (h : beginsWithDigits s = true) :
    ∃ x y rest m n, s = x :: y :: rest ∧ hexValue? x = some m ∧ hexValue? y = some n := by
  unfold beginsWithDigits at h
  split at h
  · next x y rest =>
    rw [Bool.and_eq_true, Option.isSome_iff_exists, Option.isSome_iff_exists] at h
    obtain ⟨⟨m, hx⟩, n, hy⟩ := h
    exact ⟨x, y, rest, m, n, rfl, hx, hy⟩
  · exact absurd h Bool.false_ne_true

/-- A percent sign in front of anything but two digits begins no escape. -/
theorem percentPieces_percent {s : List Char} (h : beginsWithDigits s = false) :
    percentPieces ('%' :: s) = Piece.ofChar '%' :: percentPieces s := by
  match s, h with
  | [], _ => rfl
  | [_], _ => rfl
  | x :: y :: s, h =>
    rw [percentPieces]
    split
    · next hx hy => simp [beginsWithDigits, hx, hy] at h
    · rfl

variable {w : Char}

/-- Whether digits begin a text is not changed by what stands from an inert character on. -/
theorem beginsWithDigits_append_cons (hw : IsInert w) (s t : List Char) :
    beginsWithDigits (s ++ w :: t) = beginsWithDigits s := by
  match s with
  | [] => cases t <;> simp [beginsWithDigits, hw.no_digit]
  | [x] => simp [beginsWithDigits, hw.no_digit]
  | _ :: _ :: _ => rfl

/-- No escape reaches over an inert character. -/
theorem percentPieces_append_cons (hw : IsInert w) (a b : List Char) :
    percentPieces (a ++ w :: b) = percentPieces a ++ Piece.ofChar w :: percentPieces b := by
  fun_induction percentPieces a with
  | case1 => exact percentPieces_cons hw.ne_percent b
  | case2 x y rest m n hx hy ih => simp [percentPieces, hx, hy, ih]
  | case3 x y rest hdigits ih =>
    have hno : beginsWithDigits (x :: y :: rest) = false := by
      refine Bool.eq_false_iff.2 fun h => ?_
      obtain ⟨_, _, _, m, n, heq, hx, hy⟩ := exists_of_beginsWithDigits h
      cases heq
      exact hdigits m n hx hy
    rw [← beginsWithDigits_append_cons hw _ b] at hno
    rw [List.cons_append, percentPieces_percent hno, ih, List.cons_append]
  | case4 c rest hshort ih =>
    by_cases hc : c = '%'
    · have hno : beginsWithDigits rest = false := by
        refine Bool.eq_false_iff.2 fun h => ?_
        obtain ⟨x, y, rest', _, _, heq, -, -⟩ := exists_of_beginsWithDigits h
        exact hshort x y rest' hc heq
      rw [← beginsWithDigits_append_cons hw _ b] at hno
      rw [hc, List.cons_append, percentPieces_percent hno, ih, List.cons_append]
    · rw [List.cons_append, percentPieces_cons hc, ih, List.cons_append]

/-! ## Texts on either side -/

/-- The texts on either side of an inert character are decoded on their own. -/
theorem percentDecode_append_cons (hw : IsInert w) (a b : List Char) :
    percentDecode (a ++ w :: b) = percentDecode a ++ w :: percentDecode b := by
  rw [percentDecode, percentPieces_append_cons hw, (lone_ofChar hw.ne_plus).decode_append_cons]
  rfl

/-- A digit behind a percent sign and a zero is taken for an escape. -/
theorem percentDecode_digit {n : Nat} (hw : hexValue? w = some n) :
    percentDecode ['%', '0', w] = [Char.ofNat n] := by
  have hn : n < 16 := hexValue?_lt hw
  have hpieces : percentPieces ['%', '0', w] = [.octet (16 * 0 + n)] := by
    simp [percentPieces, hw, show hexValue? '0' = some 0 from rfl]
  rw [percentDecode, hpieces, (Utf8.Lone.octet (by omega)).decode_cons, Nat.mul_zero, Nat.zero_add]
  rfl

/-- The inert characters are those on whose two sides every text is decoded on its own. -/
theorem percentDecode_append_cons_iff :
    (∀ a b, percentDecode (a ++ w :: b) = percentDecode a ++ w :: percentDecode b) ↔
      IsInert w := by
  refine ⟨fun h => ⟨?_, ?_, ?_⟩, fun hw => percentDecode_append_cons hw⟩
  · rintro rfl
    exact absurd (h [] ['4', '1']) (by decide)
  · rintro rfl
    exact absurd (h [] []) (by decide)
  · cases hw : hexValue? w with
    | none => rfl
    | some n =>
      -- one character on the left, three on the right
      have hlength := congrArg List.length (h ['%', '0'] [])
      rw [List.cons_append, List.cons_append, List.nil_append, percentDecode_digit hw] at hlength
      simp [show percentDecode ['%', '0'] = ['%', '0'] from rfl] at hlength

/-- Decoding reads every encoded text back, and it reads the texts on either side of a blank on
their own, whatever the one ends and the other begins with. It does so at every inert character and
at no other one. -/
theorem percentDecode_inverts_and_separates :
    (∀ s, percentDecode (percentEncode s) = s) ∧
      (∀ w, isBlank w = true →
        ∀ a b, percentDecode (a ++ w :: b) = percentDecode a ++ w :: percentDecode b) ∧
      ∀ w, (∀ a b, percentDecode (a ++ w :: b) = percentDecode a ++ w :: percentDecode b) ↔
        IsInert w :=
  ⟨percentDecode_percentEncode, fun _ hw => percentDecode_append_cons (.of_isBlank hw),
    fun _ => percentDecode_append_cons_iff⟩

/-- A text that looks encoded is read back, and a blank between the octets of a euro sign leaves
neither half a character. -/
theorem percentDecode_inverts_and_separates_euro :
    percentDecode (percentEncode "50%41 a+b %C3é%".toList) = "50%41 a+b %C3é%".toList ∧
      isBlank ' ' = true ∧
      percentDecode ("%4%E2%82".toList ++ ' ' :: "%AC1%".toList) =
        percentDecode "%4%E2%82".toList ++ ' ' :: percentDecode "%AC1%".toList ∧
      percentDecode "%4%E2%82".toList = "%4\uFFFD".toList ∧
      percentDecode "%AC1%".toList = "\uFFFD1%".toList :=
  ⟨percentDecode_inverts_and_separates.1 _, by decide,
    percentDecode_inverts_and_separates.2.1 ' ' (by decide) _ _, by decide, by decide⟩

end RecordQuery.Text
