import RecordQuery.Text.Utf8

/-!
# Pieces that are characters

An unfinished character only takes octets from 0x80 on (`awaitsHigh_step`), so a lower octet puts an
end to it and is a character itself, as a plain character is. What stands in front of such a piece
and what stands behind it are read on their own (`Lone.decode_append_cons`).
-/

namespace RecordQuery.Text.Utf8

/-- An unfinished character takes no octet below 0x80. -/
def AwaitsHigh (state : Option Partial) : Prop := ∀ p ∈ state, 0x80 ≤ p.low

/-- A piece that is a character, whatever was read before it. -/
inductive Lone : Piece → Char → Prop where
  /-- An octet below 0x80. -/
  | octet {b : Nat} : b ≤ 0x7F → Lone (.octet b) (Char.ofNat b)
  /-- A plain character. -/
  | plain (c : Char) : Lone (.plain c) c

variable {state : Option Partial} {piece : Piece} {c : Char}

theorem awaitsHigh_none : AwaitsHigh none := fun _ h => nomatch h

theorem awaitsHigh_begin (b : Nat) : AwaitsHigh (begin b).2 := by
  intro p hp
  unfold begin at hp
  grind

/-- After every octet, whatever was read before it, a further octet below 0x80 is not taken. -/
theorem awaitsHigh_step (state : Option Partial) (b : Nat) : AwaitsHigh (step state b).2 := by
  cases state with
  | none => exact awaitsHigh_begin b
  | some p =>
    by_cases htaken : p.low ≤ b ∧ b ≤ p.high
    · simp only [step, if_pos htaken]
      split
      · exact awaitsHigh_none
      · rintro q ⟨⟩
        exact Nat.le_refl 0x80
    · simp only [step, if_neg htaken]
      exact awaitsHigh_begin b

/-- An octet below 0x80 puts an end to an unfinished character. -/
theorem step_of_le (hstate : AwaitsHigh state) {b : Nat} (hb : b ≤ 0x7F) :
    step state b = (flush state ++ [Char.ofNat b], none) := by
  have hbegin : begin b = ([Char.ofNat b], none) := if_pos hb
  cases state with
  | none => exact hbegin
  | some p =>
    have hlow : ¬(p.low ≤ b ∧ b ≤ p.high) := by
      have := hstate p rfl
      omega
    simp only [step, if_neg hlow, hbegin]
    rfl

namespace Lone

theorem decodeFrom_cons (h : Lone piece c) (hstate : AwaitsHigh state) (rest : List Piece) :
    decodeFrom state (piece :: rest) = flush state ++ c :: decodeFrom none rest := by
  cases h with
  | octet hb =>
    rw [decodeFrom, step_of_le hstate hb]
    simp
  | plain => rfl

theorem decode_cons (h : Lone piece c) (rest : List Piece) :
    decode (piece :: rest) = c :: decode rest := h.decodeFrom_cons awaitsHigh_none rest

/-- Whatever was read before, the pieces on either side of a lone one are read on their own. -/
theorem decodeFrom_append_cons (h : Lone piece c) (hstate : AwaitsHigh state)
    (before rest : List Piece) :
    decodeFrom state (before ++ piece :: rest) =
      decodeFrom state before ++ c :: decodeFrom none rest := by
  induction before generalizing state with
  | nil => exact h.decodeFrom_cons hstate rest
  | cons first before ih =>
    cases first with
    | octet b => simp [decodeFrom, ih (awaitsHigh_step state b)]
    | plain d => simp [decodeFrom, ih awaitsHigh_none]

theorem decode_append_cons (h : Lone piece c) (before rest : List Piece) :
    decode (before ++ piece :: rest) = decode before ++ c :: decode rest :=
  h.decodeFrom_append_cons awaitsHigh_none before rest

end Lone

end RecordQuery.Text.Utf8
