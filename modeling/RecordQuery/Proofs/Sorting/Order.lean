import RecordQuery.Proofs.Sorting.Stable

/-!
# Sorting by an order

Where the comparison is an order of the elements that are sorted, ties allowed (`IsOrder`), the
sorted list is in order (`pairwise_of_sortStably`), and of the elements of one class that tie the
first comes first (`filter_of_sortStably`). A list in order is determined by its classes of ties
(`eq_of_pairwise_of_filter`), so sorting by halving gives what sorting by merging does
(`sortStably_eq_mergeSort`).
-/

namespace RecordQuery.Sorting

variable {κ ε : Type} {precedes : κ → κ → Except ε Bool} {p : κ → Prop} {q : κ → Bool}

/-- The second element does not precede the first. -/
def InOrder (precedes : κ → κ → Except ε Bool) (a b : κ) : Prop := precedes b a = .ok false

/-- The comparison is an order of the elements of the class, in which elements may tie. -/
structure IsOrder (precedes : κ → κ → Except ε Bool) (p : κ → Prop) : Prop where
  /-- No comparison fails. -/
  comparable : Comparable precedes p
  /-- Of two elements only one precedes the other. -/
  asymm : ∀ {a b}, p a → p b → precedes a b = .ok true → InOrder precedes a b
  /-- An element in order with one that is in order with a third is in order with the third. -/
  trans : ∀ {a b c}, p a → p b → p c → InOrder precedes a b → InOrder precedes b c →
    InOrder precedes a c

/-- No element of the class precedes another one. -/
def Ties (precedes : κ → κ → Except ε Bool) (p : κ → Prop) (q : κ → Bool) : Prop :=
  ∀ {a b}, p a → p b → q a = true → q b = true → InOrder precedes a b

namespace IsOrder

variable (h : IsOrder precedes p) {a b c : κ} (ha : p a) (hb : p b) (hc : p c)

include h ha hb

theorem precedes_or_inOrder : precedes a b = .ok true ∨ InOrder precedes b a := by
  obtain ⟨r, hr⟩ := h.comparable a b ha hb
  cases r with
  | true => exact .inl hr
  | false => exact .inr hr

include hc

theorem precedes_trans (hab : precedes a b = .ok true) (hbc : InOrder precedes b c) :
    precedes a c = .ok true := by
  rcases h.precedes_or_inOrder ha hc with hac | hca
  · exact hac
  · have hba : InOrder precedes b a := h.trans hb hc ha hbc hca
    cases hab.symm.trans hba

end IsOrder

/-! ## The run at the front -/

/-- In a strictly descending list there is at most one element of a class that ties. -/
theorem filter_reverse_of_descending (hq : Ties precedes p q) {xs : List κ} (hxs : ∀ x ∈ xs, p x)
    (hpairs : xs.Pairwise fun a b => precedes b a = .ok true) :
    xs.reverse.filter q = xs.filter q := by
  induction xs with
  | nil => rfl
  | cons x xs ih =>
    obtain ⟨hx, hxs⟩ := List.forall_mem_cons.1 hxs
    obtain ⟨hfirst, hpairs⟩ := List.pairwise_cons.1 hpairs
    rw [List.reverse_cons, List.filter_append, ih hxs hpairs, List.filter_cons]
    cases hqx : q x with
    | false => simp [hqx]
    | true =>
      have hnone : xs.filter q = [] := List.filter_eq_nil_iff.2 fun z hz hqz => by
        cases (hfirst z hz).symm.trans (hq hx (hxs z hz) hqx hqz)
      simp [hnone, hqx]

section FrontRun

variable (h : IsOrder precedes p)

include h

theorem pairwise_of_ascendingRun {x : κ} {ys run rest : List κ} (hx : p x) (hys : ∀ y ∈ ys, p y)
    (hrun : ascendingRun precedes x ys = .ok (run, rest)) :
    (x :: run).Pairwise (InOrder precedes) := by
  induction ys generalizing x run with
  | nil =>
    cases hrun
    exact List.pairwise_singleton _ x
  | cons y ys ih =>
    obtain ⟨hy, hys⟩ := List.forall_mem_cons.1 hys
    rw [ascendingRun] at hrun
    obtain ⟨r, hr, hrun⟩ := exists_of_bind_ok hrun
    cases r with
    | true =>
      cases hrun
      exact List.pairwise_singleton _ x
    | false =>
      obtain ⟨⟨others, behind⟩, hothers, hrun⟩ := exists_of_bind_ok hrun
      cases hrun
      have hpairs := ih hy hys hothers
      have hmem : ∀ z ∈ others, p z := fun z hz =>
        hys z (append_of_ascendingRun hothers ▸ List.mem_append_left rest hz)
      refine List.pairwise_cons.2 ⟨List.forall_mem_cons.2 ⟨hr, fun z hz => ?_⟩, hpairs⟩
      exact h.trans hx hy (hmem z hz) hr ((List.pairwise_cons.1 hpairs).1 z hz)

theorem pairwise_of_descendingRun {x : κ} {ys run rest : List κ} (hx : p x) (hys : ∀ y ∈ ys, p y)
    (hrun : descendingRun precedes x ys = .ok (run, rest)) :
    (x :: run).Pairwise fun a b => precedes b a = .ok true := by
  induction ys generalizing x run with
  | nil =>
    cases hrun
    exact List.pairwise_singleton _ x
  | cons y ys ih =>
    obtain ⟨hy, hys⟩ := List.forall_mem_cons.1 hys
    rw [descendingRun] at hrun
    obtain ⟨r, hr, hrun⟩ := exists_of_bind_ok hrun
    cases r with
    | false =>
      cases hrun
      exact List.pairwise_singleton _ x
    | true =>
      obtain ⟨⟨others, behind⟩, hothers, hrun⟩ := exists_of_bind_ok hrun
      cases hrun
      have hpairs := ih hy hys hothers
      have hmem : ∀ z ∈ others, p z := fun z hz =>
        hys z (append_of_descendingRun hothers ▸ List.mem_append_left rest hz)
      refine List.pairwise_cons.2 ⟨List.forall_mem_cons.2 ⟨hr, fun z hz => ?_⟩, hpairs⟩
      have hzy := (List.pairwise_cons.1 hpairs).1 z hz
      exact h.precedes_trans (hmem z hz) hy hx hzy (h.asymm hy hx hr)

/-- The run at the front is in order. -/
theorem pairwise_of_frontRun {xs run rest : List κ} (hxs : ∀ x ∈ xs, p x)
    (hrun : frontRun precedes xs = .ok (run, rest)) : run.Pairwise (InOrder precedes) := by
  cases xs with
  | nil =>
    cases hrun
    exact .nil
  | cons x xs =>
    obtain ⟨hx, hxs⟩ := List.forall_mem_cons.1 hxs
    rcases frontRun_cases hrun with ⟨others, hothers, rfl⟩ | ⟨others, hothers, rfl⟩
    · exact pairwise_of_ascendingRun h hx hxs hothers
    · have hmem : ∀ z ∈ x :: others, p z := List.forall_mem_cons.2 ⟨hx, fun z hz =>
        hxs z (append_of_descendingRun hothers ▸ List.mem_append_left rest hz)⟩
      refine List.pairwise_reverse.2 ((pairwise_of_descendingRun h hx hxs hothers).imp_of_mem ?_)
      exact fun ha hb hba => h.asymm (hmem _ hb) (hmem _ ha) hba

/-- The run at the front keeps the order of the elements of a class that ties. -/
theorem filter_of_frontRun (hq : Ties precedes p q) {xs run rest : List κ} (hxs : ∀ x ∈ xs, p x)
    (hrun : frontRun precedes xs = .ok (run, rest)) : (run ++ rest).filter q = xs.filter q := by
  cases xs with
  | nil =>
    cases hrun
    rfl
  | cons x xs =>
    obtain ⟨hx, hxs'⟩ := List.forall_mem_cons.1 hxs
    rcases frontRun_cases hrun with ⟨others, hothers, rfl⟩ | ⟨others, hothers, rfl⟩
    · rw [List.cons_append, append_of_ascendingRun hothers]
    · have happend := append_of_descendingRun hothers
      have hmem : ∀ z ∈ x :: others, p z := List.forall_mem_cons.2 ⟨hx, fun z hz =>
        hxs' z (happend ▸ List.mem_append_left rest hz)⟩
      have hdescending := pairwise_of_descendingRun h hx hxs' hothers
      rw [List.filter_append, filter_reverse_of_descending hq hmem hdescending,
        ← List.filter_append, List.cons_append, happend]

end FrontRun

/-! ## Placing an element -/

section Place

variable (h : IsOrder precedes p)

include h

/-- Placing an element keeps a list in order. -/
theorem pairwise_of_place {x : κ} {xs ys : List κ} (hx : p x) (hxs : ∀ y ∈ xs, p y)
    (hpairs : xs.Pairwise (InOrder precedes)) (hplace : place precedes x xs = .ok ys) :
    ys.Pairwise (InOrder precedes) := by
  induction hn : xs.length using Nat.strongRecOn generalizing xs ys with
  | ind n ih =>
    subst hn
    rcases place_cases hplace with ⟨rfl, rfl⟩ |
      ⟨before, middle, after, placed, rfl, ⟨hr, hplaced, rfl⟩ | ⟨hr, hplaced, rfl⟩⟩
    · exact List.pairwise_singleton _ x
    all_goals
      have hbefore : ∀ y ∈ before, p y := fun y hy => hxs y (by simp [hy])
      have hmiddle : p middle := hxs middle (by simp)
      have hafter : ∀ y ∈ after, p y := fun y hy => hxs y (by simp [hy])
      obtain ⟨hpbefore, hpairs', hcross⟩ := List.pairwise_append.1 hpairs
      obtain ⟨hfirst, hpafter⟩ := List.pairwise_cons.1 hpairs'
    · -- the element comes before the middle, so it is in order with all behind it
      have hpplaced := ih before.length (by simp) hbefore hpbefore hplaced rfl
      refine List.pairwise_append.2 ⟨hpplaced, hpairs', fun a ha b hb => ?_⟩
      rcases List.mem_cons.1 ((perm_of_place hplaced).mem_iff.1 ha) with rfl | ha
      · have hxm := h.asymm hx hmiddle hr
        rcases List.mem_cons.1 hb with rfl | hb
        · exact hxm
        · exact h.trans hx hmiddle (hafter b hb) hxm (hfirst b hb)
      · exact hcross a ha b hb
    · -- the middle is in order with the element, and so is all before it
      have hpplaced := ih after.length (by simp; omega) hafter hpafter hplaced rfl
      have hmem (b : κ) (hb : b ∈ placed) : b = x ∨ b ∈ after :=
        List.mem_cons.1 ((perm_of_place hplaced).mem_iff.1 hb)
      refine List.pairwise_append.2 ⟨hpbefore, List.pairwise_cons.2 ⟨fun b hb => ?_, hpplaced⟩,
        fun a ha b hb => ?_⟩
      · rcases hmem b hb with rfl | hb
        · exact hr
        · exact hfirst b hb
      · have ham := hcross a ha middle (by simp)
        rcases List.mem_cons.1 hb with rfl | hb
        · exact ham
        · rcases hmem b hb with rfl | hb
          · exact h.trans (hbefore a ha) hmiddle hx ham hr
          · exact hcross a ha b (by simp [hb])

/-- An element is placed behind the elements that it ties with. -/
theorem filter_of_place (hq : Ties precedes p q) {x : κ} {xs ys : List κ} (hx : p x)
    (hxs : ∀ y ∈ xs, p y) (hpairs : xs.Pairwise (InOrder precedes))
    (hplace : place precedes x xs = .ok ys) : ys.filter q = xs.filter q ++ [x].filter q := by
  induction hn : xs.length using Nat.strongRecOn generalizing xs ys with
  | ind n ih =>
    subst hn
    rcases place_cases hplace with ⟨rfl, rfl⟩ |
      ⟨before, middle, after, placed, rfl, ⟨hr, hplaced, rfl⟩ | ⟨hr, hplaced, rfl⟩⟩
    · rfl
    all_goals
      have hbefore : ∀ y ∈ before, p y := fun y hy => hxs y (by simp [hy])
      have hmiddle : p middle := hxs middle (by simp)
      have hafter : ∀ y ∈ after, p y := fun y hy => hxs y (by simp [hy])
      obtain ⟨hpbefore, hpairs', -⟩ := List.pairwise_append.1 hpairs
      obtain ⟨hfirst, hpafter⟩ := List.pairwise_cons.1 hpairs'
    · have hfilter := ih before.length (by simp) hbefore hpbefore hplaced rfl
      rw [List.filter_append, hfilter, List.filter_append, List.append_assoc, List.append_assoc]
      refine congrArg _ ?_
      cases hqx : q x with
      | false => simp [hqx]
      | true =>
        -- the element precedes the middle and all behind it, so none of them ties with it
        have hnone : (middle :: after).filter q = [] := List.filter_eq_nil_iff.2 fun b hb hqb => by
          have hb' : p b ∧ precedes x b = .ok true := by
            rcases List.mem_cons.1 hb with rfl | hb
            · exact ⟨hmiddle, hr⟩
            · exact ⟨hafter b hb, h.precedes_trans hx hmiddle (hafter b hb) hr (hfirst b hb)⟩
          cases hb'.2.symm.trans (hq hb'.1 hx hqb hqx)
        rw [hnone, List.append_nil, List.nil_append]
    · have hfilter := ih after.length (by simp; omega) hafter hpafter hplaced rfl
      rw [List.filter_append, List.filter_append, List.filter_cons, hfilter,
        List.filter_cons (x := middle)]
      cases q middle <;> simp

/-- Placing elements one after the other keeps a list in order, and the order of the elements of a
class that ties. -/
theorem pairwise_of_foldlM_place {run rest ys : List κ} (hmem : ∀ x ∈ run ++ rest, p x)
    (hpairs : run.Pairwise (InOrder precedes))
    (hfold : rest.foldlM (fun sorted x => place precedes x sorted) run = .ok ys) :
    ys.Pairwise (InOrder precedes) ∧
      (Ties precedes p q → ys.filter q = (run ++ rest).filter q) := by
  induction rest generalizing run with
  | nil =>
    cases hfold
    exact ⟨hpairs, fun _ => by rw [List.append_nil]⟩
  | cons x rest ih =>
    rw [List.foldlM_cons] at hfold
    obtain ⟨sorted, hsorted, hfold⟩ := exists_of_bind_ok hfold
    have hrun : ∀ y ∈ run, p y := fun y hy => hmem y (by simp [hy])
    have hx : p x := hmem x (by simp)
    have hsorted' : ∀ y ∈ sorted ++ rest, p y := by
      intro y hy
      rcases List.mem_append.1 hy with hy | hy
      · rcases List.mem_cons.1 ((perm_of_place hsorted).mem_iff.1 hy) with rfl | hy
        · exact hx
        · exact hrun y hy
      · exact hmem y (by simp [hy])
    obtain ⟨hpys, hfilter⟩ := ih hsorted' (pairwise_of_place h hx hrun hpairs hsorted) hfold
    refine ⟨hpys, fun hq => ?_⟩
    rw [hfilter hq, List.filter_append, filter_of_place h hq hx hrun hpairs hsorted,
      ← List.filter_append, ← List.filter_append, List.append_assoc, List.singleton_append]

end Place

/-! ## The sorted list -/

section Sorted

variable (h : IsOrder precedes p) {xs ys : List κ} (hxs : ∀ x ∈ xs, p x)
  (hys : sortStably precedes xs = .ok ys)

include h hxs hys

/-- A sorted list is in order. -/
theorem pairwise_of_sortStably : ys.Pairwise (InOrder precedes) := by
  obtain ⟨⟨run, rest⟩, hrun, hfold⟩ := exists_of_bind_ok hys
  have hmem : ∀ x ∈ run ++ rest, p x := fun x hx => hxs x ((perm_of_frontRun hrun).mem_iff.1 hx)
  exact (pairwise_of_foldlM_place (q := fun _ => false) h hmem
    (pairwise_of_frontRun h hxs hrun) hfold).1

/-- Sorting keeps the order of the elements of a class that ties. -/
theorem filter_of_sortStably (hq : Ties precedes p q) : ys.filter q = xs.filter q := by
  obtain ⟨⟨run, rest⟩, hrun, hfold⟩ := exists_of_bind_ok hys
  have hmem : ∀ x ∈ run ++ rest, p x := fun x hx => hxs x ((perm_of_frontRun hrun).mem_iff.1 hx)
  rw [(pairwise_of_foldlM_place h hmem (pairwise_of_frontRun h hxs hrun) hfold).2 hq,
    filter_of_frontRun h hq hxs hrun]

end Sorted

/-! ## Sorting by merging -/

section Merge

variable {le : κ → κ → Bool} {xs ys zs : List κ}

variable (le) in
/-- A list in order is determined by its elements and its classes of ties. -/
theorem eq_of_pairwise_of_filter (hrefl : ∀ a, le a a = true)
    (hys : ys.Pairwise fun a b => le a b = true) (hzs : zs.Pairwise fun a b => le a b = true)
    (hperm : ys.Perm zs) (hfilter : ∀ a, ys.filter (fun b => le a b && le b a) =
      zs.filter fun b => le a b && le b a) : ys = zs := by
  induction ys generalizing zs with
  | nil => exact hperm.nil_eq
  | cons y ys ih =>
    cases zs with
    | nil => cases hperm.eq_nil
    | cons z zs =>
      obtain ⟨hfirst, hys'⟩ := List.pairwise_cons.1 hys
      obtain ⟨hfirst', hzs'⟩ := List.pairwise_cons.1 hzs
      -- the two first elements tie, so they are the first elements of one class
      have hyz : le y z = true := by
        rcases List.mem_cons.1 (hperm.mem_iff.2 (List.mem_cons_self ..)) with rfl | hz
        · exact hrefl z
        · exact hfirst z hz
      have hzy : le z y = true := by
        rcases List.mem_cons.1 (hperm.mem_iff.1 (List.mem_cons_self ..)) with rfl | hy
        · exact hrefl y
        · exact hfirst' y hy
      have hhead := hfilter y
      simp only [List.filter_cons, hrefl, hyz, hzy, Bool.and_self, if_true] at hhead
      obtain ⟨rfl, -⟩ := List.cons.inj hhead
      refine congrArg _ (ih hys' hzs' hperm.cons_inv fun a => ?_)
      have hclass := hfilter a
      simp only [List.filter_cons] at hclass
      split at hclass
      · exact (List.cons.inj hclass).2
      · exact hclass

variable (htrans : ∀ a b c, le a b = true → le b c = true → le a c = true)
  (htotal : ∀ a b, (le a b || le b a) = true)

include htrans

/-- Two elements that tie with a third are in order. -/
theorem le_of_ties {a b c : κ} (hb : (le a b && le b a) = true) (hc : (le a c && le c a) = true) :
    le b c = true := by
  rw [Bool.and_eq_true] at hb hc
  exact htrans b a c hb.2 hc.1

include htotal

/-- Sorting by merging keeps the order of the elements of a class that ties. -/
theorem filter_mergeSort (hq : ∀ a ∈ xs, ∀ b ∈ xs, q a = true → q b = true → le a b = true) :
    (xs.mergeSort le).filter q = xs.filter q := by
  have hpairs : (xs.filter q).Pairwise fun a b => le a b = true :=
    List.pairwise_of_forall_mem_list fun a ha b hb =>
      hq a (List.mem_filter.1 ha).1 b (List.mem_filter.1 hb).1 (List.mem_filter.1 ha).2
        (List.mem_filter.1 hb).2
  have hsub := (List.sublist_mergeSort htrans htotal hpairs List.filter_sublist).filter q
  rw [List.filter_filter] at hsub
  simp only [Bool.and_self] at hsub
  exact (hsub.eq_of_length ((xs.mergeSort_perm le).filter q).length_eq.symm).symm

/-- An order that is told by a total test is an order of any class. -/
theorem isOrder_of_total (hprecedes : ∀ a b, p a → p b → precedes a b = .ok !le b a) :
    IsOrder precedes p where
  comparable a b ha hb := ⟨_, hprecedes a b ha hb⟩
  asymm {a b} ha hb hab := by
    rw [hprecedes a b ha hb, Except.ok.injEq, Bool.not_eq_true'] at hab
    have := htotal a b
    rw [hab, Bool.or_false] at this
    rw [InOrder, hprecedes b a hb ha, this]
    rfl
  trans {a b c} ha hb hc hab hbc := by
    rw [InOrder, hprecedes b a hb ha, Except.ok.injEq, Bool.not_eq_false'] at hab
    rw [InOrder, hprecedes c b hc hb, Except.ok.injEq, Bool.not_eq_false'] at hbc
    rw [InOrder, hprecedes c a hc ha, htrans a b c hab hbc]
    rfl

/-- Sorting by halving gives what sorting by merging gives. -/
theorem sortStably_eq_mergeSort
    (hprecedes : ∀ a ∈ xs, ∀ b ∈ xs, precedes a b = .ok !le b a) :
    sortStably precedes xs = .ok (xs.mergeSort le) := by
  have hagree : ∀ a b, a ∈ xs → b ∈ xs → precedes a b = .ok !le b a := fun a b ha hb =>
    hprecedes a ha b hb
  have horder := isOrder_of_total htrans htotal hagree
  obtain ⟨ys, hys, hperm⟩ := sortStably_perm horder.comparable fun x hx => hx
  have hmem {a : κ} (ha : a ∈ ys) : a ∈ xs := hperm.mem_iff.1 ha
  have hinOrder {a b : κ} (ha : a ∈ xs) (hb : b ∈ xs) : InOrder precedes a b ↔ le a b = true := by
    rw [InOrder, hprecedes b hb a ha]
    simp
  have hpairs : ys.Pairwise fun a b => le a b = true :=
    (pairwise_of_sortStably horder (fun x hx => hx) hys).imp_of_mem fun ha hb hab =>
      (hinOrder (hmem ha) (hmem hb)).1 hab
  have hrefl (a : κ) : le a a = true := by simpa using htotal a a
  rw [hys, eq_of_pairwise_of_filter le hrefl hpairs (List.pairwise_mergeSort htrans htotal xs)
    (hperm.trans (xs.mergeSort_perm le).symm) fun a => ?_]
  rw [filter_mergeSort htrans htotal fun b _ c _ => le_of_ties htrans]
  exact filter_of_sortStably horder (fun x hx => hx) hys fun hb hc hqb hqc =>
    (hinOrder hb hc).2 (le_of_ties htrans hqb hqc)

/-- Sorting the reversed list and reversing the result sorts by the opposite order. -/
theorem reverse_mergeSort_reverse :
    (xs.reverse.mergeSort le).reverse = xs.mergeSort fun a b => le b a := by
  have htrans' : ∀ a b c, le b a = true → le c b = true → le c a = true := fun a b c hba hcb =>
    htrans c b a hcb hba
  have htotal' : ∀ a b, (le b a || le a b) = true := fun a b => htotal b a
  have hpairs := List.pairwise_reverse.2 (List.pairwise_mergeSort htrans htotal xs.reverse)
  have hpairs' := List.pairwise_mergeSort htrans' htotal' xs
  refine eq_of_pairwise_of_filter (fun a b => le b a) (fun a => by simpa using htotal a a)
    hpairs hpairs' ?_ fun a => ?_
  · exact (List.reverse_perm _).trans ((List.mergeSort_perm ..).trans
      ((List.reverse_perm xs).trans (List.mergeSort_perm ..).symm))
  · have hclass (b c : κ) (hb : (le b a && le a b) = true) (hc : (le c a && le a c) = true) :
        le b c = true := by
      rw [Bool.and_eq_true] at hb hc
      exact htrans b a c hb.1 hc.2
    rw [List.filter_reverse, filter_mergeSort htrans htotal fun b _ c _ => hclass b c,
      List.filter_reverse, List.reverse_reverse,
      filter_mergeSort htrans' htotal' fun b _ c _ hb hc => hclass c b hc hb]

/-- Filtering a list sorted by merging gives what sorting the filtered list gives. -/
theorem mergeSort_filter : (xs.filter q).mergeSort le = (xs.mergeSort le).filter q := by
  refine eq_of_pairwise_of_filter le (fun a => by simpa using htotal a a)
    (List.pairwise_mergeSort htrans htotal _)
    ((List.pairwise_mergeSort htrans htotal xs).filter q)
    ((List.mergeSort_perm ..).trans ((xs.mergeSort_perm le).filter q).symm) fun a => ?_
  let ties : κ → Bool := fun b => le a b && le b a
  have hclass (ys : List κ) : (ys.mergeSort le).filter ties = ys.filter ties :=
    filter_mergeSort htrans htotal fun b _ c _ => le_of_ties htrans
  have hswap (ys : List κ) : (ys.filter q).filter ties = (ys.filter ties).filter q := by
    rw [List.filter_filter, List.filter_filter]
    exact List.filter_congr fun b _ => Bool.and_comm ..
  calc ((xs.filter q).mergeSort le).filter ties
      = (xs.filter q).filter ties := hclass _
    _ = (xs.filter ties).filter q := hswap xs
    _ = ((xs.mergeSort le).filter ties).filter q := by rw [hclass]
    _ = ((xs.mergeSort le).filter q).filter ties := (hswap _).symm

end Merge

end RecordQuery.Sorting
