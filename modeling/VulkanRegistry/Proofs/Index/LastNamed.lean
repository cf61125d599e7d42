import Mathlib.Data.List.Forall2
import VulkanRegistry.Proofs.Index.Canonical

/-!
# The last declaration of a name

Of several declarations of a name the last one counts.  This module says which
one that is without mention of an index, and shows that an index which is
filled in the order of the declarations finds it.  It also shows that the
choice is kept by every translation of declarations that keeps their names.
-/

namespace VulkanRegistry

variable {α β : Type}

/-- The last declaration that has a given name, if there is one. -/
def lastNamed (nameOf : α → Option String) (declarations : List α)
    (name : String) : Option α :=
  (declarations.filter fun declaration =>
    nameOf declaration = some name).getLast?

theorem lastNamed_eq_none_iff {nameOf : α → Option String}
    {declarations : List α} {name : String} :
    lastNamed nameOf declarations name = none ↔
      ∀ declaration ∈ declarations, nameOf declaration ≠ some name := by
  simp [lastNamed]

theorem mem_of_lastNamed_eq_some {nameOf : α → Option String}
    {declarations : List α} {name : String} {declaration : α}
    (h : lastNamed nameOf declarations name = some declaration) :
    declaration ∈ declarations ∧ nameOf declaration = some name := by
  have hmem := List.mem_of_getLast? h
  simpa using List.mem_filter.mp hmem

theorem lastNamed_congr {nameOf otherName : α → Option String}
    {declarations : List α} {name : String}
    (h : ∀ declaration ∈ declarations,
      nameOf declaration = some name ↔ otherName declaration = some name) :
    lastNamed nameOf declarations name =
      lastNamed otherName declarations name := by
  rw [lastNamed, lastNamed, List.filter_congr]
  intro declaration hmem
  exact decide_eq_decide.mpr (h declaration hmem)

theorem lastNamed_append (nameOf : α → Option String)
    (before after : List α) (name : String) :
    lastNamed nameOf (before ++ after) name =
      (lastNamed nameOf after name).or (lastNamed nameOf before name) := by
  simp [lastNamed, List.getLast?_append]

theorem lastNamed_singleton (nameOf : α → Option String)
    (declaration : α) (name : String) :
    lastNamed nameOf [declaration] name =
      if nameOf declaration = some name then some declaration else none := by
  by_cases h : nameOf declaration = some name <;> simp [lastNamed, h]

/-- The last declaration of a name is the one that no other of the name comes
after. -/
theorem lastNamed_eq_some_iff {nameOf : α → Option String}
    {declarations : List α} {name : String} {declaration : α} :
    lastNamed nameOf declarations name = some declaration ↔
      ∃ before after, declarations = before ++ declaration :: after ∧
        nameOf declaration = some name ∧
        ∀ later ∈ after, nameOf later ≠ some name := by
  constructor
  · intro h
    obtain ⟨kept, hkept⟩ := List.getLast?_eq_some_iff.mp h
    obtain ⟨before, rest, rfl, -, hrest⟩ :=
      List.filter_eq_append_iff.mp hkept
    obtain ⟨skipped, after, rfl, -, hname, hafter⟩ :=
      List.filter_eq_cons_iff.mp hrest
    refine ⟨before ++ skipped, after, by simp, by simpa using hname, ?_⟩
    simpa [List.filter_eq_nil_iff] using hafter
  · rintro ⟨before, after, rfl, hname, hafter⟩
    have hnone : lastNamed nameOf after name = none :=
      lastNamed_eq_none_iff.mpr hafter
    rw [lastNamed_append, ← List.singleton_append, lastNamed_append, hnone,
      lastNamed_singleton, if_pos hname]
    simp

theorem lookup_reverse_named (nameOf : α → Option String)
    (declarations : List α) (name : String) :
    (declarations.filterMap fun declaration =>
        (nameOf declaration).map fun found =>
          (found, declaration)).reverse.lookup name =
      lastNamed nameOf declarations name := by
  induction declarations with
  | nil => rfl
  | cons first rest ih =>
      rw [← List.singleton_append, lastNamed_append, lastNamed_singleton,
        List.filterMap_append, List.reverse_append, List.lookup_append, ih]
      congr 1
      cases h : nameOf first with
      | none => simp [h]
      | some found =>
          by_cases hname : name = found
          · simp [h, hname]
          · simp [h, hname, Ne.symm hname]

/-- An index of declarations by name finds the last declaration. -/
theorem Index.get?_ofList_named (nameOf : α → Option String)
    (declarations : List α) (name : String) :
    (Index.ofList (declarations.filterMap fun declaration =>
        (nameOf declaration).map fun found => (found, declaration))).get?
          name =
      lastNamed nameOf declarations name := by
  rw [Index.get?_ofList, lookup_reverse_named]

/-! ## Translations of declarations -/

theorem rel_getLast? {R : α → β → Prop} {left : List α} {right : List β}
    (h : List.Forall₂ R left right) :
    Option.Rel R left.getLast? right.getLast? := by
  rw [List.getLast?_eq_head?_reverse, List.getLast?_eq_head?_reverse]
  have hreverse : List.Forall₂ R left.reverse right.reverse :=
    List.rel_reverse h
  generalize left.reverse = lefts, right.reverse = rights at hreverse
  cases hreverse with
  | nil => exact Option.Rel.none
  | cons hfirst _ => exact Option.Rel.some hfirst

/-- A translation that keeps names translates the last declaration of a name
into the last declaration of that name. -/
theorem rel_lastNamed {R : α → β → Prop} (leftName : α → Option String)
    (rightName : β → Option String)
    (hname : ∀ a b, R a b → leftName a = rightName b)
    {left : List α} {right : List β} (h : List.Forall₂ R left right)
    (name : String) :
    Option.Rel R (lastNamed leftName left name)
      (lastNamed rightName right name) := by
  apply rel_getLast?
  apply List.rel_filter _ h
  intro a b hab
  simp [hname a b hab]

/-- What a translation finds is unique when the translation is a function. -/
theorem eq_of_rel_of_rel {R : α → β → Prop}
    (hfunction : ∀ a b c, R a b → R a c → b = c) {source : Option α}
    {left right : Option β} (hleft : Option.Rel R source left)
    (hright : Option.Rel R source right) : left = right := by
  cases hleft with
  | none =>
      cases hright
      rfl
  | some hab =>
      cases hright with
      | some hac => rw [hfunction _ _ _ hab hac]

/-- What two related sources are read as is related, too. -/
theorem rel_of_readings {γ δ : Type} {P : α → β → Prop} {R : α → γ → Prop}
    {S : β → δ → Prop} {Q : γ → δ → Prop}
    (hstep : ∀ a b c d, P a b → R a c → S b d → Q c d)
    {a : Option α} {b : Option β} {c : Option γ} {d : Option δ}
    (hsame : Option.Rel P a b) (hleft : Option.Rel R a c)
    (hright : Option.Rel S b d) : Option.Rel Q c d := by
  cases hsame with
  | none =>
      cases hleft
      cases hright
      exact Option.Rel.none
  | some hab =>
      cases hleft with
      | some hac =>
          cases hright with
          | some hbd => exact Option.Rel.some (hstep _ _ _ _ hab hac hbd)

end VulkanRegistry
