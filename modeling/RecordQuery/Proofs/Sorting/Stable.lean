import RecordQuery.Proofs.Fault
import RecordQuery.Sorting.Stable

/-!
# What sorting keeps

Sorting a list gives its elements in some order, whatever the comparison says
(`perm_of_sortStably`), and it succeeds where no comparison of two elements of the list fails
(`sortStably_perm`). Elements that are sorted by their images are sorted as the images are
(`sortStably_map`).
-/

namespace RecordQuery.Sorting

variable {κ ε : Type} {precedes : κ → κ → Except ε Bool} {p : κ → Prop}

/-! ## The elements of a sorted list -/

theorem append_of_ascendingRun {x : κ} {ys run rest : List κ}
    (h : ascendingRun precedes x ys = .ok (run, rest)) : run ++ rest = ys := by
  induction ys generalizing x run with
  | nil =>
    cases h
    rfl
  | cons y ys ih =>
    rw [ascendingRun] at h
    obtain ⟨r, -, h⟩ := exists_of_bind_ok h
    cases r with
    | true =>
      cases h
      rfl
    | false =>
      obtain ⟨⟨run', rest'⟩, hrun, h⟩ := exists_of_bind_ok h
      cases h
      rw [List.cons_append, ih hrun]

theorem append_of_descendingRun {x : κ} {ys run rest : List κ}
    (h : descendingRun precedes x ys = .ok (run, rest)) : run ++ rest = ys := by
  induction ys generalizing x run with
  | nil =>
    cases h
    rfl
  | cons y ys ih =>
    rw [descendingRun] at h
    obtain ⟨r, -, h⟩ := exists_of_bind_ok h
    cases r with
    | false =>
      cases h
      rfl
    | true =>
      obtain ⟨⟨run', rest'⟩, hrun, h⟩ := exists_of_bind_ok h
      cases h
      rw [List.cons_append, ih hrun]

/-- The run at the front ascends, or it is a descending one in reverse. -/
theorem frontRun_cases {x : κ} {xs run rest : List κ}
    (h : frontRun precedes (x :: xs) = .ok (run, rest)) :
    (∃ others, ascendingRun precedes x xs = .ok (others, rest) ∧ run = x :: others) ∨
      ∃ others, descendingRun precedes x xs = .ok (others, rest) ∧ run = (x :: others).reverse := by
  cases xs with
  | nil =>
    cases h
    exact .inl ⟨[], rfl, rfl⟩
  | cons y ys =>
    rw [frontRun] at h
    obtain ⟨r, hr, h⟩ := exists_of_bind_ok h
    cases r with
    | true =>
      obtain ⟨⟨others, behind⟩, hothers, h⟩ := exists_of_bind_ok h
      cases h
      refine .inr ⟨y :: others, ?_, rfl⟩
      rw [descendingRun, hr]
      exact bind_eq_ok_iff.2 ⟨true, rfl, bind_eq_ok_iff.2 ⟨_, hothers, rfl⟩⟩
    | false =>
      obtain ⟨⟨others, behind⟩, hothers, h⟩ := exists_of_bind_ok h
      cases h
      refine .inl ⟨y :: others, ?_, rfl⟩
      rw [ascendingRun, hr]
      exact bind_eq_ok_iff.2 ⟨false, rfl, bind_eq_ok_iff.2 ⟨_, hothers, rfl⟩⟩

theorem perm_of_frontRun {xs run rest : List κ} (h : frontRun precedes xs = .ok (run, rest)) :
    (run ++ rest).Perm xs := by
  cases xs with
  | nil =>
    cases h
    exact .refl _
  | cons x xs =>
    rcases frontRun_cases h with ⟨others, hothers, rfl⟩ | ⟨others, hothers, rfl⟩
    · rw [← append_of_ascendingRun hothers]
      exact .refl _
    · rw [← append_of_descendingRun hothers]
      exact (List.reverse_perm _).append_right rest

/-- An element is placed before or behind an element of the list, in what is left on that side. -/
theorem place_cases {x : κ} {xs ys : List κ} (h : place precedes x xs = .ok ys) :
    (xs = [] ∧ ys = [x]) ∨ ∃ before middle after placed, xs = before ++ middle :: after ∧
      (precedes x middle = .ok true ∧ place precedes x before = .ok placed ∧
          ys = placed ++ middle :: after ∨
        precedes x middle = .ok false ∧ place precedes x after = .ok placed ∧
          ys = before ++ middle :: placed) := by
  have hsplit := List.take_append_drop (xs.length / 2) xs
  rw [place] at h
  split at h
  · next hdrop =>
    -- the upper half is empty only if the list is
    have hnil : xs = [] := by
      have := List.length_drop (i := xs.length / 2) (l := xs)
      rw [hdrop, List.length_nil] at this
      exact List.length_eq_zero_iff.1 (by omega)
    cases h
    exact .inl ⟨hnil, rfl⟩
  · next middle after hdrop =>
    rw [hdrop] at hsplit
    obtain ⟨r, hr, h⟩ := exists_of_bind_ok h
    cases r with
    | true =>
      obtain ⟨placed, hplaced, h⟩ := exists_of_bind_ok h
      cases h
      exact .inr ⟨_, middle, after, placed, hsplit.symm, .inl ⟨hr, hplaced, rfl⟩⟩
    | false =>
      obtain ⟨placed, hplaced, h⟩ := exists_of_bind_ok h
      cases h
      exact .inr ⟨_, middle, after, placed, hsplit.symm, .inr ⟨hr, hplaced, rfl⟩⟩

/-- Placing an element adds it to the list. -/
theorem perm_of_place {x : κ} {xs ys : List κ} (h : place precedes x xs = .ok ys) :
    ys.Perm (x :: xs) := by
  induction hn : xs.length using Nat.strongRecOn generalizing xs ys with
  | ind n ih =>
    subst hn
    rcases place_cases h with ⟨rfl, rfl⟩ |
      ⟨before, middle, after, placed, rfl, ⟨-, hplaced, rfl⟩ | ⟨-, hplaced, rfl⟩⟩
    · exact .refl _
    · have hperm := ih before.length (by simp) hplaced rfl
      exact hperm.append_right (middle :: after)
    · have hperm := ih after.length (by simp; omega) hplaced rfl
      have := (hperm.cons middle).trans (.swap ..)
      exact (this.append_left before).trans List.perm_middle

/-- Placing elements one after the other adds them to the list. -/
theorem perm_of_foldlM_place {run rest ys : List κ}
    (h : rest.foldlM (fun sorted x => place precedes x sorted) run = .ok ys) :
    ys.Perm (run ++ rest) := by
  induction rest generalizing run with
  | nil =>
    cases h
    rw [List.append_nil]
  | cons x rest ih =>
    rw [List.foldlM_cons] at h
    obtain ⟨sorted, hsorted, h⟩ := exists_of_bind_ok h
    exact (ih h).trans (((perm_of_place hsorted).append_right rest).trans List.perm_middle.symm)

/-- A sorted list has the elements of the list. -/
theorem perm_of_sortStably {xs ys : List κ} (h : sortStably precedes xs = .ok ys) :
    ys.Perm xs := by
  obtain ⟨⟨run, rest⟩, hrun, h⟩ := exists_of_bind_ok h
  exact (perm_of_foldlM_place h).trans (perm_of_frontRun hrun)

/-! ## Lists that can be sorted -/

/-- No comparison of two elements of the class fails. -/
def Comparable (precedes : κ → κ → Except ε Bool) (p : κ → Prop) : Prop :=
  ∀ a b, p a → p b → ∃ r, precedes a b = .ok r

theorem ascendingRun_ok (h : Comparable precedes p) {x : κ} {ys : List κ} (hx : p x)
    (hys : ∀ y ∈ ys, p y) : ∃ parts, ascendingRun precedes x ys = .ok parts := by
  induction ys generalizing x with
  | nil => exact ⟨_, rfl⟩
  | cons y ys ih =>
    have hy : p y := hys y (by simp)
    obtain ⟨r, hr⟩ := h y x hy hx
    obtain ⟨parts, hparts⟩ := ih hy fun z hz => hys z (by simp [hz])
    rw [ascendingRun, hr]
    cases r with
    | true => exact ⟨_, rfl⟩
    | false => exact ⟨_, bind_eq_ok_iff.2 ⟨_, rfl, bind_eq_ok_iff.2 ⟨parts, hparts, rfl⟩⟩⟩

theorem descendingRun_ok (h : Comparable precedes p) {x : κ} {ys : List κ} (hx : p x)
    (hys : ∀ y ∈ ys, p y) : ∃ parts, descendingRun precedes x ys = .ok parts := by
  induction ys generalizing x with
  | nil => exact ⟨_, rfl⟩
  | cons y ys ih =>
    have hy : p y := hys y (by simp)
    obtain ⟨r, hr⟩ := h y x hy hx
    obtain ⟨parts, hparts⟩ := ih hy fun z hz => hys z (by simp [hz])
    rw [descendingRun, hr]
    cases r with
    | false => exact ⟨_, rfl⟩
    | true => exact ⟨_, bind_eq_ok_iff.2 ⟨_, rfl, bind_eq_ok_iff.2 ⟨parts, hparts, rfl⟩⟩⟩

theorem frontRun_ok (h : Comparable precedes p) {xs : List κ} (hxs : ∀ x ∈ xs, p x) :
    ∃ parts, frontRun precedes xs = .ok parts := by
  match xs with
  | [] => exact ⟨_, rfl⟩
  | [x] => exact ⟨_, rfl⟩
  | x :: y :: ys =>
    have hy : p y := hxs y (by simp)
    have hys : ∀ z ∈ ys, p z := fun z hz => hxs z (by simp [hz])
    obtain ⟨r, hr⟩ := h y x hy (hxs x (by simp))
    rw [frontRun, hr]
    cases r with
    | true =>
      obtain ⟨parts, hparts⟩ := descendingRun_ok h hy hys
      exact ⟨_, bind_eq_ok_iff.2 ⟨_, rfl, bind_eq_ok_iff.2 ⟨parts, hparts, rfl⟩⟩⟩
    | false =>
      obtain ⟨parts, hparts⟩ := ascendingRun_ok h hy hys
      exact ⟨_, bind_eq_ok_iff.2 ⟨_, rfl, bind_eq_ok_iff.2 ⟨parts, hparts, rfl⟩⟩⟩

theorem place_ok (h : Comparable precedes p) {x : κ} {xs : List κ} (hx : p x)
    (hxs : ∀ y ∈ xs, p y) : ∃ ys, place precedes x xs = .ok ys := by
  induction hn : xs.length using Nat.strongRecOn generalizing xs with
  | ind n ih =>
    subst hn
    rw [place]
    split
    · exact ⟨_, rfl⟩
    · next middle after hdrop =>
      have hmem : ∀ y ∈ middle :: after, p y := fun y hy =>
        hxs y (List.mem_of_mem_drop (hdrop ▸ hy))
      have hlen := congrArg List.length hdrop
      simp only [List.length_drop, List.length_cons] at hlen
      obtain ⟨r, hr⟩ := h x middle hx (hmem middle (by simp))
      rw [hr]
      cases r with
      | true =>
        obtain ⟨ys, hys⟩ := ih (xs.take (xs.length / 2)).length
          (by rw [List.length_take]; omega) (fun y hy => hxs y (List.mem_of_mem_take hy)) rfl
        exact ⟨_, bind_eq_ok_iff.2 ⟨_, rfl, bind_eq_ok_iff.2 ⟨ys, hys, rfl⟩⟩⟩
      | false =>
        obtain ⟨ys, hys⟩ := ih after.length (by omega) (fun y hy => hmem y (by simp [hy])) rfl
        exact ⟨_, bind_eq_ok_iff.2 ⟨_, rfl, bind_eq_ok_iff.2 ⟨ys, hys, rfl⟩⟩⟩

theorem foldlM_place_ok (h : Comparable precedes p) {run rest : List κ}
    (hmem : ∀ x ∈ run ++ rest, p x) :
    ∃ ys, rest.foldlM (fun sorted x => place precedes x sorted) run = .ok ys := by
  induction rest generalizing run with
  | nil => exact ⟨run, rfl⟩
  | cons x rest ih =>
    have hrun : ∀ y ∈ run, p y := fun y hy => hmem y (by simp [hy])
    obtain ⟨sorted, hsorted⟩ := place_ok h (hmem x (by simp)) hrun
    have hmiddle : (sorted ++ rest).Perm (run ++ x :: rest) :=
      ((perm_of_place hsorted).append_right rest).trans List.perm_middle.symm
    obtain ⟨ys, hys⟩ := ih fun y hy => hmem y (hmiddle.mem_iff.1 hy)
    exact ⟨ys, by rw [List.foldlM_cons, hsorted]; exact hys⟩

/-- A list of which no comparison fails is sorted to a list of the same elements. -/
theorem sortStably_perm (h : Comparable precedes p) {xs : List κ} (hxs : ∀ x ∈ xs, p x) :
    ∃ ys, sortStably precedes xs = .ok ys ∧ ys.Perm xs := by
  obtain ⟨⟨run, rest⟩, hrun⟩ := frontRun_ok h hxs
  obtain ⟨ys, hys⟩ := foldlM_place_ok h fun x hx => hxs x ((perm_of_frontRun hrun).mem_iff.1 hx)
  have hsorted : sortStably precedes xs = .ok ys := bind_eq_ok_iff.2 ⟨(run, rest), hrun, hys⟩
  exact ⟨ys, hsorted, perm_of_sortStably hsorted⟩

/-! ## Sorting by images -/

/-- An element is placed in the empty list. -/
theorem place_nil {x : κ} : place precedes x [] = .ok [x] := by
  rw [place]
  split
  · rfl
  · next h => simp at h

/-- An element is placed on the side of the middle to which the comparison sends it. -/
theorem place_of_drop {x middle : κ} {xs after : List κ}
    (h : xs.drop (xs.length / 2) = middle :: after) :
    place precedes x xs = do
      if ← precedes x middle then
        return (← place precedes x (xs.take (xs.length / 2))) ++ middle :: after
      else return xs.take (xs.length / 2) ++ middle :: (← place precedes x after) := by
  rw [place]
  split
  · next hnil => cases hnil.symm.trans h
  · next hcons =>
    cases hcons.symm.trans h
    rfl

section Image

variable {ι : Type} (f : ι → κ) {x : ι} {xs ys : List ι}

theorem ascendingRun_map :
    ascendingRun precedes (f x) (ys.map f) =
      (ascendingRun (fun a b => precedes (f a) (f b)) x ys).map
        (Prod.map (List.map f) (List.map f)) := by
  induction ys generalizing x with
  | nil => rfl
  | cons y ys ih =>
    rw [List.map_cons, ascendingRun, ascendingRun, ih]
    cases precedes (f y) (f x) with
    | error e => rfl
    | ok r =>
      cases r with
      | true => rfl
      | false => cases ascendingRun (fun a b => precedes (f a) (f b)) y ys <;> rfl

theorem descendingRun_map :
    descendingRun precedes (f x) (ys.map f) =
      (descendingRun (fun a b => precedes (f a) (f b)) x ys).map
        (Prod.map (List.map f) (List.map f)) := by
  induction ys generalizing x with
  | nil => rfl
  | cons y ys ih =>
    rw [List.map_cons, descendingRun, descendingRun, ih]
    cases precedes (f y) (f x) with
    | error e => rfl
    | ok r =>
      cases r with
      | false => rfl
      | true => cases descendingRun (fun a b => precedes (f a) (f b)) y ys <;> rfl

theorem frontRun_map :
    frontRun precedes (xs.map f) =
      (frontRun (fun a b => precedes (f a) (f b)) xs).map
        (Prod.map (List.map f) (List.map f)) := by
  match xs with
  | [] => rfl
  | [x] => rfl
  | x :: y :: ys =>
    rw [List.map_cons, List.map_cons, frontRun, frontRun, ascendingRun_map, descendingRun_map]
    cases precedes (f y) (f x) with
    | error e => rfl
    | ok r =>
      cases r with
      | true =>
        cases descendingRun (fun a b => precedes (f a) (f b)) y ys with
        | error e => rfl
        | ok parts => simp [Except.map, bind, Except.bind, pure, Except.pure]
      | false => cases ascendingRun (fun a b => precedes (f a) (f b)) y ys <;> rfl

theorem place_map :
    place precedes (f x) (xs.map f) =
      (place (fun a b => precedes (f a) (f b)) x xs).map (List.map f) := by
  induction hn : xs.length using Nat.strongRecOn generalizing xs with
  | ind n ih =>
    subst hn
    have hmap : (xs.map f).drop ((xs.map f).length / 2) = (xs.drop (xs.length / 2)).map f := by
      rw [List.length_map, List.map_drop]
    cases hdrop : xs.drop (xs.length / 2) with
    | nil =>
      have hnil : xs = [] := by
        have hlen := congrArg List.length hdrop
        rw [List.length_drop, List.length_nil] at hlen
        exact List.length_eq_zero_iff.1 (by omega)
      rw [hnil, List.map_nil, place_nil, place_nil]
      rfl
    | cons middle after =>
      have hlen := congrArg List.length hdrop
      simp only [List.length_drop, List.length_cons] at hlen
      have htake := ih (xs.take (xs.length / 2)).length (by rw [List.length_take]; omega) rfl
      have hafter := ih after.length (by omega) rfl
      rw [hdrop, List.map_cons] at hmap
      rw [place_of_drop hmap, place_of_drop hdrop, List.length_map, ← List.map_take, htake, hafter]
      cases precedes (f x) (f middle) with
      | error e => rfl
      | ok r =>
        cases r with
        | true =>
          cases place (fun a b => precedes (f a) (f b)) x (xs.take (xs.length / 2)) with
          | error e => rfl
          | ok placed => simp [Except.map, bind, Except.bind, pure, Except.pure]
        | false =>
          cases place (fun a b => precedes (f a) (f b)) x after with
          | error e => rfl
          | ok placed => simp [Except.map, bind, Except.bind, pure, Except.pure]

theorem foldlM_place_map {run : List ι} :
    (xs.map f).foldlM (fun sorted x => place precedes x sorted) (run.map f) =
      (xs.foldlM (fun sorted x => place (fun a b => precedes (f a) (f b)) x sorted) run).map
        (List.map f) := by
  induction xs generalizing run with
  | nil => rfl
  | cons x xs ih =>
    rw [List.map_cons, List.foldlM_cons, List.foldlM_cons, place_map]
    cases place (fun a b => precedes (f a) (f b)) x run with
    | error e => rfl
    | ok sorted => exact ih

/-- The images of a list are sorted as the list is by what its elements are mapped to. -/
theorem sortStably_map :
    sortStably precedes (xs.map f) =
      (sortStably (fun a b => precedes (f a) (f b)) xs).map (List.map f) := by
  rw [sortStably, sortStably, frontRun_map]
  cases frontRun (fun a b => precedes (f a) (f b)) xs with
  | error e => rfl
  | ok parts => exact foldlM_place_map f

end Image

end RecordQuery.Sorting
