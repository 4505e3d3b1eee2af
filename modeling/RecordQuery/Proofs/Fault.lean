/-!
# Results without a fault

A computation that has a result has one at each of its steps (`exists_of_bind_ok`). Over a list, a
test that does not fail filters (`filterM_ok`), and no other does (`exists_of_filterM_ok`); a
function that does not fail maps (`mapM_ok`), and a fold keeps what each of its steps keeps
(`foldlM_ok`), but has no result if one of its steps has none (`foldlM_error`). Whatever goes
through a list fails as its first element does that has no result (`FailsFirst`).
-/

namespace RecordQuery

variable {α β ε : Type}

/-- A computation in two steps with a result has one after the first step. -/
theorem exists_of_bind_ok {e : Except ε α} {f : α → Except ε β} {b : β} (h : e >>= f = .ok b) :
    ∃ a, e = .ok a ∧ f a = .ok b := by
  cases e with
  | error e => cases h
  | ok a => exact ⟨a, rfl, h⟩

theorem bind_eq_ok_iff {e : Except ε α} {f : α → Except ε β} {b : β} :
    e >>= f = .ok b ↔ ∃ a, e = .ok a ∧ f a = .ok b := by
  refine ⟨exists_of_bind_ok, ?_⟩
  rintro ⟨a, rfl, h⟩
  exact h

theorem mapError_ok {δ : Type} {f : ε → δ} {a : α} : (Except.ok a).mapError f = .ok a := rfl

theorem mapError_eq_ok_iff {δ : Type} {f : ε → δ} {e : Except ε α} {a : α} :
    e.mapError f = .ok a ↔ e = .ok a := by
  cases e with
  | error e => exact iff_of_false (fun h => by cases h) fun h => by cases h
  | ok b => rw [mapError_ok, Except.ok.injEq, Except.ok.injEq]

/-- A test that does not fail filters. -/
theorem filterM_ok {f : α → Except ε Bool} {g : α → Bool} {xs : List α}
    (h : ∀ x ∈ xs, f x = .ok (g x)) : xs.filterM f = .ok (xs.filter g) := by
  have haux (acc : List α) : xs.filterAuxM f acc = .ok ((xs.filter g).reverse ++ acc) := by
    induction xs generalizing acc with
    | nil => rfl
    | cons x xs ih =>
      have hxs := ih fun y hy => h y (by simp [hy])
      simp only [List.filterAuxM, h x (by simp), bind, Except.bind, hxs]
      cases hg : g x <;> simp [hg]
  rw [List.filterM, haux]
  simp [bind, Except.bind, pure, Except.pure]

/-- A list is filtered only by a test that fails on none of its elements. -/
theorem exists_of_filterM_ok {f : α → Except ε Bool} {xs ys : List α} (h : xs.filterM f = .ok ys) :
    ∀ x ∈ xs, ∃ b, f x = .ok b := by
  obtain ⟨zs, hzs, -⟩ := exists_of_bind_ok h
  clear h
  generalize [] = acc at hzs
  induction xs generalizing acc with
  | nil => simp
  | cons x xs ih =>
    rw [List.filterAuxM] at hzs
    obtain ⟨b, hb, hzs⟩ := exists_of_bind_ok hzs
    exact List.forall_mem_cons.2 ⟨⟨b, hb⟩, ih _ hzs⟩

/-- A function that does not fail maps a list. -/
theorem mapM_ok {f : α → Except ε β} {xs : List α} (h : ∀ x ∈ xs, ∃ y, f x = .ok y) :
    ∃ ys, xs.mapM f = .ok ys := by
  induction xs with
  | nil => exact ⟨[], rfl⟩
  | cons x xs ih =>
    obtain ⟨y, hy⟩ := h x (by simp)
    obtain ⟨ys, hys⟩ := ih fun z hz => h z (by simp [hz])
    refine ⟨y :: ys, ?_⟩
    rw [List.mapM_cons, hy]
    simp only [bind, Except.bind, hys]
    rfl

/-- The images of a list are those of its elements. -/
theorem mem_of_mapM_ok {f : α → Except ε β} {xs : List α} {ys : List β}
    (h : xs.mapM f = .ok ys) :
    (∀ x ∈ xs, ∃ y ∈ ys, f x = .ok y) ∧ ∀ y ∈ ys, ∃ x ∈ xs, f x = .ok y := by
  induction xs generalizing ys with
  | nil =>
    cases h
    simp
  | cons x xs ih =>
    rw [List.mapM_cons] at h
    obtain ⟨y, hx, h⟩ := exists_of_bind_ok h
    obtain ⟨zs, hxs, h⟩ := exists_of_bind_ok h
    cases h
    obtain ⟨hto, hfrom⟩ := ih hxs
    constructor
    · intro w hw
      rcases List.mem_cons.1 hw with rfl | hw
      · exact ⟨y, by simp, hx⟩
      · obtain ⟨z, hz, hwz⟩ := hto w hw
        exact ⟨z, by simp [hz], hwz⟩
    · intro z hz
      rcases List.mem_cons.1 hz with rfl | hz
      · exact ⟨x, by simp, hx⟩
      · obtain ⟨w, hw, hwz⟩ := hfrom z hz
        exact ⟨w, by simp [hw], hwz⟩

/-- A fold over a list keeps what each of its steps keeps. -/
theorem foldlM_ok {p : β → Prop} {f : β → α → Except ε β} {xs : List α} {b c : β}
    (hstep : ∀ x ∈ xs, ∀ b c, p b → f b x = .ok c → p c) (hb : p b)
    (h : xs.foldlM f b = .ok c) : p c := by
  induction xs generalizing b with
  | nil =>
    cases h
    exact hb
  | cons x xs ih =>
    rw [List.foldlM_cons] at h
    obtain ⟨d, hd, hc⟩ := exists_of_bind_ok h
    exact ih (fun y hy => hstep y (by simp [hy])) (hstep x (by simp) b d hb hd) hc

/-- A fold whose step fails at an element of the list fails. -/
theorem foldlM_error {f : β → α → Except ε β} {xs : List α} {x : α} (hx : x ∈ xs)
    (hfail : ∀ b c, f b x ≠ .ok c) (b : β) : ∃ e, xs.foldlM f b = .error e := by
  induction xs generalizing b with
  | nil => simp at hx
  | cons y ys ih =>
    rw [List.foldlM_cons]
    cases hstep : f b y with
    | error e => exact ⟨e, rfl⟩
    | ok c =>
      rcases List.mem_cons.1 hx with rfl | hx
      · exact absurd hstep (hfail b c)
      · exact ih hx c

/-! ## The first failure -/

theorem bind_eq_error_iff {x : Except ε α} {f : α → Except ε β} {e : ε} :
    x >>= f = .error e ↔ x = .error e ∨ ∃ a, x = .ok a ∧ f a = .error e := by
  cases x with
  | error d => simp [bind, Except.bind]
  | ok a => simp [bind, Except.bind]

/-- The first element of the list on which the function has no result fails with the error. -/
def FailsFirst (f : α → Except ε β) (xs : List α) (e : ε) : Prop :=
  ∃ before x after, xs = before ++ x :: after ∧ (∀ y ∈ before, ∃ b, f y = .ok b) ∧ f x = .error e

section FailsFirst

variable {f : α → Except ε β} {x : α} {xs : List α} {e : ε}

theorem not_failsFirst_nil : ¬ FailsFirst f [] e := by
  rintro ⟨before, x, after, hnil, -, -⟩
  simp at hnil

/-- Either the first element fails, or it does not and the first of the others does that fails. -/
theorem failsFirst_cons :
    FailsFirst f (x :: xs) e ↔ f x = .error e ∨ (∃ b, f x = .ok b) ∧ FailsFirst f xs e := by
  constructor
  · rintro ⟨before, y, after, hsplit, hbefore, hy⟩
    cases before with
    | nil =>
      cases hsplit
      exact .inl hy
    | cons z before =>
      obtain ⟨rfl, rfl⟩ := List.cons.inj hsplit
      obtain ⟨hz, hbefore⟩ := List.forall_mem_cons.1 hbefore
      exact .inr ⟨hz, before, y, after, rfl, hbefore, hy⟩
  · rintro (hx | ⟨hx, before, y, after, rfl, hbefore, hy⟩)
    · exact ⟨[], x, xs, rfl, by simp, hx⟩
    · exact ⟨x :: before, y, after, rfl, List.forall_mem_cons.2 ⟨hx, hbefore⟩, hy⟩

/-- Some element of a list is the first that fails if and only if one of them fails. -/
theorem exists_failsFirst_iff :
    (∃ e, FailsFirst f xs e) ↔ ∃ x ∈ xs, ∃ e, f x = .error e := by
  induction xs with
  | nil => simp [not_failsFirst_nil]
  | cons x xs ih =>
    simp only [failsFirst_cons, exists_or, exists_and_left, ih, List.mem_cons, exists_eq_or_imp]
    cases f x with
    | error e => simp
    | ok b => simp

/-- Functions that fail alike fail first at the same element. -/
theorem failsFirst_congr {γ : Type} {g : α → Except ε γ}
    (h : ∀ x e, f x = .error e ↔ g x = .error e) : FailsFirst f xs e ↔ FailsFirst g xs e := by
  have hok (x : α) : (∃ b, f x = .ok b) ↔ ∃ b, g x = .ok b := by
    have hx := h x
    cases hf : f x <;> cases hg : g x <;> simp_all
  simp only [FailsFirst, h, hok]

/-- Mapping a list fails as its first element does that has no image. -/
theorem mapM_eq_error_iff : xs.mapM f = .error e ↔ FailsFirst f xs e := by
  induction xs with
  | nil => exact iff_of_false (by simp [pure, Except.pure]) not_failsFirst_nil
  | cons x xs ih =>
    rw [List.mapM_cons, bind_eq_error_iff, failsFirst_cons, ← ih]
    refine or_congr_right ?_
    simp only [bind_eq_error_iff]
    constructor
    · rintro ⟨b, hb, hxs | ⟨bs, -, hpure⟩⟩
      · exact ⟨⟨b, hb⟩, hxs⟩
      · cases hpure
    · rintro ⟨⟨b, hb⟩, hxs⟩
      exact ⟨b, hb, .inl hxs⟩

/-- A fold over the results of a function fails as the first element does that has none. -/
theorem foldlM_eq_error_iff {γ : Type} (join : γ → α → β → γ) {c : γ} :
    xs.foldlM (fun c x => do return join c x (← f x)) c = .error e ↔ FailsFirst f xs e := by
  induction xs generalizing c with
  | nil => exact iff_of_false (by simp [pure, Except.pure]) not_failsFirst_nil
  | cons x xs ih =>
    rw [List.foldlM_cons, bind_eq_error_iff, failsFirst_cons]
    simp only [ih]
    constructor
    · rintro (hstep | ⟨d, hstep, hxs⟩)
      · rcases bind_eq_error_iff.1 hstep with hx | ⟨b, -, hpure⟩
        · exact .inl hx
        · cases hpure
      · obtain ⟨b, hb, -⟩ := exists_of_bind_ok hstep
        exact .inr ⟨⟨b, hb⟩, hxs⟩
    · rintro (hx | ⟨⟨b, hb⟩, hxs⟩)
      · exact .inl (bind_eq_error_iff.2 (.inl hx))
      · exact .inr ⟨_, bind_eq_ok_iff.2 ⟨b, hb, rfl⟩, hxs⟩

end FailsFirst

end RecordQuery
