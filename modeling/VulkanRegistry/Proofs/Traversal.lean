import Mathlib.Data.List.Forall2

/-!
# Traversals that may fail

A traversal of a list in document order succeeds when it succeeds at every
element, and then its result answers the list element by element.
-/

namespace VulkanRegistry

variable {α β ε : Type}

/-- A traversal succeeds with the list of what it finds at each element. -/
theorem mapM_eq_ok_iff_forall₂ {f : α → Except ε β} {as : List α}
    {bs : List β} :
    as.mapM f = .ok bs ↔ List.Forall₂ (fun a b => f a = .ok b) as bs := by
  induction as generalizing bs with
  | nil =>
      rw [List.mapM_nil, List.forall₂_nil_left_iff]
      exact ⟨fun h => (Except.ok.inj h).symm, fun h => by rw [h]; rfl⟩
  | cons a rest ih =>
      rw [List.mapM_cons]
      constructor
      · intro h
        cases hfirst : f a with
        | error e =>
            rw [hfirst] at h
            cases h
        | ok b =>
            cases hrest : rest.mapM f with
            | error e =>
                rw [hfirst, hrest] at h
                cases h
            | ok found =>
                rw [hfirst, hrest] at h
                cases h
                exact List.Forall₂.cons hfirst (ih.mp hrest)
      · intro h
        obtain ⟨b, found, hfirst, hrest, rfl⟩ :=
          List.forall₂_cons_left_iff.mp h
        rw [hfirst, ih.mpr hrest]
        rfl

/-- A traversal succeeds exactly when it succeeds at every element. -/
theorem exists_mapM_eq_ok_iff {f : α → Except ε β} {as : List α} :
    (∃ bs, as.mapM f = .ok bs) ↔ ∀ a ∈ as, ∃ b, f a = .ok b := by
  simp only [mapM_eq_ok_iff_forall₂]
  induction as with
  | nil => simp
  | cons a rest ih =>
      simp only [List.forall₂_cons_left_iff, List.forall_mem_cons, ← ih]
      constructor
      · rintro ⟨_, b, found, hfirst, hrest, rfl⟩
        exact ⟨⟨b, hfirst⟩, found, hrest⟩
      · rintro ⟨⟨b, hfirst⟩, found, hrest⟩
        exact ⟨_, b, found, hfirst, hrest, rfl⟩

theorem mapM_cons_eq_error_iff {f : α → Except ε β} {a : α} {rest : List α}
    {e : ε} :
    (a :: rest).mapM f = .error e ↔
      f a = .error e ∨ (∃ b, f a = .ok b) ∧ rest.mapM f = .error e := by
  rw [List.mapM_cons]
  cases hfirst : f a with
  | error found => simp [bind, Except.bind]
  | ok b =>
      cases rest.mapM f with
      | error found => simp [bind, Except.bind]
      | ok bs => simp [bind, Except.bind, pure, Except.pure]

/-- A traversal fails the way it does at the first element at which it fails. -/
theorem mapM_eq_error_iff {f : α → Except ε β} {as : List α} {e : ε} :
    as.mapM f = .error e ↔
      ∃ before a after, as = before ++ a :: after ∧
        (∀ earlier ∈ before, ∃ b, f earlier = .ok b) ∧ f a = .error e := by
  induction as with
  | nil =>
      constructor
      · intro h
        cases h
      · rintro ⟨before, a, after, h, -⟩
        simp at h
  | cons first rest ih =>
      rw [mapM_cons_eq_error_iff, ih]
      constructor
      · rintro (hfirst | ⟨hfirst, before, a, after, rfl, hbefore, ha⟩)
        · exact ⟨[], first, rest, rfl, by simp, hfirst⟩
        · exact ⟨first :: before, a, after, rfl,
            List.forall_mem_cons.mpr ⟨hfirst, hbefore⟩, ha⟩
      · rintro ⟨before, a, after, hsplit, hbefore, ha⟩
        cases before with
        | nil =>
            obtain ⟨rfl, -⟩ := List.cons.inj hsplit
            exact .inl ha
        | cons earlier before =>
            obtain ⟨rfl, rfl⟩ := List.cons.inj hsplit
            obtain ⟨hfirst, hothers⟩ := List.forall_mem_cons.mp hbefore
            exact .inr ⟨hfirst, before, a, after, rfl, hothers, ha⟩

/-- A traversal that succeeds at every element finds what each element gives. -/
theorem mapM_eq_some_map {f : α → Option β} {g : α → β} {as : List α}
    (h : ∀ a ∈ as, f a = some (g a)) : as.mapM f = some (as.map g) := by
  induction as with
  | nil => rfl
  | cons a rest ih =>
      obtain ⟨hfirst, hrest⟩ := List.forall_mem_cons.mp h
      rw [List.mapM_cons, hfirst, ih hrest]
      rfl

/-- A renaming of a successful result is the result of a success. -/
theorem map_eq_ok_iff {f : α → β} {result : Except ε α} {b : β} :
    result.map f = .ok b ↔ ∃ a, result = .ok a ∧ f a = b := by
  cases result with
  | error e => simp [Except.map]
  | ok a => simp [Except.map]

/-- A renaming of a result fails the way the result does. -/
theorem map_eq_error_iff {f : α → β} {result : Except ε α} {e : ε} :
    result.map f = .error e ↔ result = .error e := by
  cases result with
  | error found => simp [Except.map]
  | ok a => simp [Except.map]

/-- A sequence of two steps succeeds when both do. -/
theorem bind_eq_ok_iff {first : Except ε α} {next : α → Except ε β} {b : β} :
    (first >>= next) = .ok b ↔ ∃ a, first = .ok a ∧ next a = .ok b := by
  cases first with
  | error e => simp [bind, Except.bind]
  | ok a => simp [bind, Except.bind]

theorem exists_map_eq_ok_iff {f : α → β} {result : Except ε α} :
    (∃ b, result.map f = .ok b) ↔ ∃ a, result = .ok a := by
  simp only [map_eq_ok_iff]
  constructor
  · rintro ⟨_, a, ha, -⟩
    exact ⟨a, ha⟩
  · rintro ⟨a, ha⟩
    exact ⟨f a, a, ha, rfl⟩

/-! ## The error of a failure -/

/-- The error of a result that is a failure. -/
def errorOf : Except ε α → Option ε
  | .error e => some e
  | .ok _ => none

@[simp] theorem errorOf_eq_some_iff {result : Except ε α} {e : ε} :
    errorOf result = some e ↔ result = .error e := by
  cases result <;> simp [errorOf]

@[simp] theorem errorOf_map (f : α → β) (result : Except ε α) :
    errorOf (result.map f) = errorOf result := by
  cases result <;> rfl

@[simp] theorem errorOf_bind_pure (f : α → β) (result : Except ε α) :
    errorOf (result >>= fun a => pure (f a)) = errorOf result :=
  errorOf_map f result

/-- Of two independent steps the first failure counts. -/
theorem errorOf_bind {γ δ : Type} (first : Except ε α) (second : Except ε γ)
    (combine : α → γ → δ) :
    errorOf (do
      let a ← first
      let c ← second
      return combine a c) = (errorOf first).or (errorOf second) := by
  cases first with
  | error e => rfl
  | ok a => cases second <;> rfl

/-- Of a traversal the first failure counts. -/
theorem errorOf_mapM (f : α → Except ε β) (as : List α) :
    errorOf (as.mapM f) = as.findSome? fun a => errorOf (f a) := by
  apply Option.ext
  intro e
  induction as with
  | nil => simp [pure, Except.pure]
  | cons a rest ih =>
      rw [errorOf_eq_some_iff] at ih
      rw [errorOf_eq_some_iff, mapM_cons_eq_error_iff, ih, List.findSome?_cons]
      cases f a <;> simp [errorOf]

end VulkanRegistry
