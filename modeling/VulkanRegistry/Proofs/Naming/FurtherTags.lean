import VulkanRegistry.Proofs.Naming.VariantName

/-!
# Further vendor tags

When more vendor tags are known, the name of a variant can only get shorter at
its end.  A token that becomes a tag is dropped, and a `BIT` that stood before
it is dropped as well, so up to two tokens are lost.  The larger set of tags
never keeps a token that the smaller one drops: the only token of a name is no
tag for either of them, and where the smaller set drops a `BIT` at the end, the
larger one drops the same token as a tag or as a `BIT`.
-/

namespace VulkanRegistry.Naming

open Text

/-! ## Trims -/

section Trims

variable {tags more tokens : List String}

theorem KeepsTag.of_subset (h : KeepsTag more tokens) (hsubset : tags ⊆ more) :
    KeepsTag tags tokens := by
  intro front tag hsplit hfront htag
  exact h front tag hsplit hfront (hsubset htag)

/-- With further tags the tokens are the same or lack one more at their end. -/
theorem trimTag_of_subset (hsubset : tags ⊆ more) (tokens : List String) :
    trimTag tags tokens = trimTag more tokens ∨
      ∃ tag, trimTag tags tokens = trimTag more tokens ++ [tag] := by
  have hmore : DropsTag more tokens (trimTag more tokens) :=
    dropsTag_iff.mpr rfl
  generalize trimTag more tokens = kept at hmore ⊢
  cases hmore with
  | @dropped front tag hfront htag =>
      by_cases hknown : tag ∈ tags
      · exact Or.inl (trimTag_append_tag hknown hfront)
      · refine Or.inr ⟨tag, trimTag_of_not_mem ?_⟩
        intro token htoken
        rw [List.getLast?_concat] at htoken
        obtain rfl := Option.some.inj htoken
        exact hknown
  | kept hkept =>
      exact Or.inl (trimTag_of_keepsTag (hkept.of_subset hsubset))

theorem exists_trimBit_append (tokens : List String) :
    ∃ lost : List String, lost.length ≤ 1 ∧
      trimBit tokens ++ lost = tokens := by
  have hbit : DropsBit tokens (trimBit tokens) := dropsBit_iff.mpr rfl
  generalize trimBit tokens = kept at hbit ⊢
  cases hbit with
  | dropped => exact ⟨["BIT"], by simp, rfl⟩
  | kept => exact ⟨[], by simp, List.append_nil _⟩

/-- A token more at the end costs at most two tokens after the trim: it stays,
and a `BIT` before it is protected by it. -/
theorem exists_trimBit_concat (front : List String) (token : String) :
    ∃ lost : List String, lost.length ≤ 2 ∧
      trimBit front ++ lost = trimBit (front ++ [token]) := by
  obtain ⟨lost, hlength, hlost⟩ := exists_trimBit_append front
  by_cases hbit : token = "BIT"
  · refine ⟨lost, Nat.le_succ_of_le hlength, ?_⟩
    rw [hbit, trimBit_append_bit, hlost]
  · refine ⟨lost ++ [token], ?_, ?_⟩
    · rw [List.length_append, List.length_singleton]
      omega
    · have hlast : (front ++ [token]).getLast? ≠ some "BIT" := by
        rw [List.getLast?_concat]
        exact fun hlast => hbit (Option.some.inj hlast)
      rw [trimBit_of_ne_bit hlast, ← List.append_assoc, hlost]

theorem exists_lost_of_subset (hsubset : tags ⊆ more) (tokens : List String) :
    ∃ lost : List String, lost.length ≤ 2 ∧
      trimBit (trimTag more tokens) ++ lost =
        trimBit (trimTag tags tokens) := by
  rcases trimTag_of_subset hsubset tokens with hsame | ⟨tag, htag⟩
  · refine ⟨[], Nat.zero_le _, ?_⟩
    rw [hsame, List.append_nil]
  · rw [htag]
    exact exists_trimBit_concat _ tag

end Trims

/-! ## Names -/

/-- Two names of which the shorter one joins some of the given tokens in their
order, and the longer one joins the same tokens and at most two behind them. -/
def LosesAtEnd (available : List String) (longer shorter : String) : Prop :=
  ∃ kept lost : List String, (kept ++ lost).Sublist available ∧
    lost.length ≤ 2 ∧ longer = "_".intercalate (kept ++ lost) ∧
    shorter = "_".intercalate kept

theorem differingTokens_sublist (owners tokens : List String) :
    (differingTokens owners tokens).Sublist tokens := by
  fun_induction differingTokens owners tokens with
  | case1 => exact List.Sublist.refl _
  | case2 rest ih => exact ih.cons _
  | case3 token rest hnonempty ih => exact ih.cons_cons token
  | case4 owners token rest ih => exact ih.cons token
  | case5 owner owners token rest hne ih => exact ih.cons_cons token

theorem losesAtEnd_variantName {tags more : List String}
    (hsubset : tags ⊆ more) (owner enumerant : String) :
    LosesAtEnd (tokens enumerant) (variantName tags owner enumerant)
      (variantName more owner enumerant) := by
  have hown := differingTokens_sublist (tokens (shouty owner))
    (tokens enumerant)
  rw [variantName, variantName]
  generalize differingTokens (tokens (shouty owner)) (tokens enumerant) = own
    at hown ⊢
  obtain ⟨lost, hlength, hlost⟩ := exists_lost_of_subset hsubset own
  have hbegins : trimBit (trimTag tags own) <+: own :=
    Trims.isPrefix (trims_iff.mpr rfl)
  refine ⟨trimBit (trimTag more own), lost, ?_, hlength, ?_, rfl⟩
  · rw [hlost]
    exact hbegins.sublist.trans hown
  · rw [hlost]

end VulkanRegistry.Naming
