/-! Steps that can fail, one after another, and lists walked by them: the walk gives all results, or
the first error. A walk that goes on after errors ends in the state that each element leaves behind. -/
namespace SeriesExport
set_option autoImplicit false

variable {α β ε σ : Type}

theorem map_eq_error_iff {f : α → β} {x : Except ε α} {e : ε} :
    x.map f = .error e ↔ x = .error e := by
  cases x with
  | error e' =>
    constructor
    · intro h
      exact congrArg Except.error (Except.error.inj h)
    · intro h
      rw [h]
      rfl
  | ok y => exact ⟨nofun, nofun⟩

theorem bind_eq_ok_iff {x : Except ε α} {f : α → Except ε β} {y : β} :
    x >>= f = .ok y ↔ ∃ a, x = .ok a ∧ f a = .ok y := by
  cases x with
  | error e =>
    constructor
    · intro h
      cases h
    · rintro ⟨_, h, _⟩
      cases h
  | ok a =>
    constructor
    · exact fun h => ⟨a, rfl, h⟩
    · rintro ⟨_, ⟨⟩, h⟩
      exact h

theorem map_eq_ok_iff {x : Except ε α} {f : α → β} {y : β} :
    f <$> x = .ok y ↔ ∃ a, x = .ok a ∧ f a = y := by
  cases x with
  | error e => exact ⟨nofun, nofun⟩
  | ok a =>
    constructor
    · intro h
      exact ⟨a, rfl, Except.ok.inj h⟩
    · rintro ⟨_, ⟨⟩, rfl⟩
      rfl

theorem mapM_cons_ok {f : α → Except ε β} {x : α} {y : β} (hx : f x = .ok y) (xs : List α) :
    (x :: xs).mapM f = (xs.mapM f).map (y :: ·) := by
  rw [List.mapM_cons, hx]
  cases xs.mapM f <;> rfl

theorem mapM_cons_error {f : α → Except ε β} {x : α} {e : ε} (hx : f x = .error e) (xs : List α) :
    (x :: xs).mapM f = .error e := by
  rw [List.mapM_cons, hx]
  rfl

/-- A walk without an error gives what each element gives. -/
theorem mapM_eq_map {f : α → Except ε β} {g : α → β} {xs : List α} (h : ∀ x ∈ xs, f x = .ok (g x)) :
    xs.mapM f = .ok (xs.map g) := by
  induction xs with
  | nil => rfl
  | cons x xs ih =>
    rw [mapM_cons_ok (h x List.mem_cons_self), ih fun y hy => h y (List.mem_cons_of_mem x hy)]
    rfl

theorem length_of_mapM {f : α → Except ε β} {xs : List α} {ys : List β} (h : xs.mapM f = .ok ys) :
    ys.length = xs.length := by
  induction xs generalizing ys with
  | nil =>
    cases h
    rfl
  | cons x xs ih =>
    rw [List.mapM_cons] at h
    obtain ⟨y, _, hys⟩ := bind_eq_ok_iff.1 h
    obtain ⟨rest, hrest, hcons⟩ := bind_eq_ok_iff.1 hys
    cases hcons
    rw [List.length_cons, List.length_cons, ih hrest]

/-- The error of a walk is that of the first element with one. -/
theorem mapM_eq_error_iff {f : α → Except ε β} {xs : List α} {e : ε} :
    xs.mapM f = .error e ↔ ∃ before x after, xs = before ++ x :: after ∧
      (∀ y ∈ before, ∃ z, f y = .ok z) ∧ f x = .error e := by
  induction xs with
  | nil =>
    constructor
    · intro h
      cases h
    · rintro ⟨before, x, after, h, _⟩
      simp at h
  | cons x xs ih =>
    cases hx : f x with
    | error e' =>
      rw [mapM_cons_error hx]
      constructor
      · intro h
        cases h
        exact ⟨[], x, xs, rfl, nofun, hx⟩
      · rintro ⟨before, y, after, hsplit, hbefore, hy⟩
        cases before with
        | nil =>
          cases hsplit
          rw [hx] at hy
          rw [Except.error.inj hy]
        | cons z before =>
          cases hsplit
          obtain ⟨v, hv⟩ := hbefore x List.mem_cons_self
          rw [hx] at hv
          cases hv
    | ok v =>
      rw [mapM_cons_ok hx, map_eq_error_iff, ih]
      constructor
      · rintro ⟨before, y, after, rfl, hbefore, hy⟩
        refine ⟨x :: before, y, after, rfl, ?_, hy⟩
        intro z hz
        rcases List.mem_cons.1 hz with rfl | hz
        · exact ⟨v, hx⟩
        · exact hbefore z hz
      · rintro ⟨before, y, after, hsplit, hbefore, hy⟩
        cases before with
        | nil =>
          cases hsplit
          rw [hx] at hy
          cases hy
        | cons z before =>
          cases hsplit
          exact ⟨before, y, after, rfl, fun w hw => hbefore w (List.mem_cons_of_mem x hw), hy⟩

/-! ## Going on after errors -/

/-- Tries every element in the state that is left by the one before, and undoes nothing. -/
def attemptAll (f : α → EStateM ε σ Unit) : List α → σ → σ
  | [], s => s
  | x :: xs, s =>
    match f x s with
    | .ok _ t => attemptAll f xs t
    | .error _ t => attemptAll f xs t

theorem attemptAll_eq_foldl {f : α → EStateM ε σ Unit} {next : σ → α → σ}
    (h : ∀ x s, f x s = .ok () (next s x) ∨ ∃ e, f x s = .error e (next s x)) (xs : List α) (s : σ) :
    attemptAll f xs s = xs.foldl next s := by
  induction xs generalizing s with
  | nil => rfl
  | cons x xs ih =>
    rw [attemptAll, List.foldl_cons, ← ih (next s x)]
    obtain hx | ⟨e, hx⟩ := h x s
    · rw [hx]
    · rw [hx]

end SeriesExport
