import Mathlib.Data.List.Infix
import VulkanRegistry.Naming.VariantName

/-!
# Comparing and trimming tokens

What a variant's name keeps of the tokens of an enumerant: a shared beginning
goes, tokens that meet nothing equal stay, and each trim takes at most the last
token.  Each trim is also told case by case, as a relation between the tokens
before and after it.
-/

namespace VulkanRegistry.Naming

/-! ## Tokens that differ -/

/-- A shared beginning is dropped. -/
theorem differingTokens_append_left (shared owners tokens : List String) :
    differingTokens (shared ++ owners) (shared ++ tokens) =
      differingTokens owners tokens := by
  induction shared with
  | nil => rfl
  | cons token shared ih =>
      rw [List.cons_append, List.cons_append, differingTokens, if_pos rfl, ih]

/-- An owner without tokens left drops nothing but empty tokens. -/
theorem differingTokens_nil {tokens : List String}
    (htokens : ∀ token ∈ tokens, token ≠ "") :
    differingTokens [] tokens = tokens := by
  induction tokens with
  | nil => rfl
  | cons token rest ih =>
      obtain ⟨htoken, hrest⟩ := List.forall_mem_cons.mp htokens
      rw [differingTokens, if_neg htoken, ih hrest]

/-- A token that does not meet its like is kept. -/
theorem differingTokens_cons_of_ne {owners : List String} {token : String}
    (htoken : token ≠ "") (howner : owners.head? ≠ some token)
    (tokens : List String) :
    differingTokens owners (token :: tokens) =
      token :: differingTokens owners.tail tokens := by
  cases owners with
  | nil => rw [differingTokens, if_neg htoken, List.tail_nil]
  | cons owner owners =>
      have hne : owner ≠ token := by
        intro hequal
        exact howner (congrArg some hequal)
      rw [differingTokens, if_neg hne, List.tail_cons]

/-- Tokens of which none meets an equal token of the owner at its place are
kept, and the comparison goes on behind them. -/
theorem differingTokens_append_of_distinct {own owners : List String}
    (hown : ∀ token ∈ own, token ≠ "")
    (hplace : ∀ (i : Nat) (token : String), own[i]? = some token →
      owners[i]? ≠ some token)
    (tokens : List String) :
    differingTokens owners (own ++ tokens) =
      own ++ differingTokens (owners.drop own.length) tokens := by
  induction own generalizing owners with
  | nil => rfl
  | cons token own ih =>
      obtain ⟨htoken, hrest⟩ := List.forall_mem_cons.mp hown
      have hfirst : owners.head? ≠ some token := by
        rw [List.head?_eq_getElem?]
        exact hplace 0 token rfl
      have hlater : ∀ (i : Nat) (other : String),
          own[i]? = some other → owners.tail[i]? ≠ some other := by
        intro i other hother
        rw [List.getElem?_tail]
        exact hplace (i + 1) other hother
      rw [List.cons_append, differingTokens_cons_of_ne htoken hfirst,
        ih hrest hlater, List.cons_append, List.length_cons,
        List.drop_tail]

/-! ## Places -/

/-- The tokens that do not meet an equal token of the owner at their place. -/
def unmatchedTokens (owners tokens : List String) : List String :=
  (tokens.zipIdx.filter fun entry =>
    owners[entry.2]? ≠ some entry.1).map Prod.fst

theorem unmatchedTokens_sublist (owners tokens : List String) :
    (unmatchedTokens owners tokens).Sublist tokens := by
  have hkept := (List.filter_sublist (l := tokens.zipIdx)
    (p := fun entry => owners[entry.2]? ≠ some entry.1)).map Prod.fst
  rwa [List.zipIdx_map_fst] at hkept

/-- Every token meets its like exactly when the owner begins with the tokens. -/
theorem unmatchedTokens_eq_nil_iff {owners tokens : List String} :
    unmatchedTokens owners tokens = [] ↔ tokens <+: owners := by
  rw [unmatchedTokens, List.map_eq_nil_iff, List.filter_eq_nil_iff,
    List.prefix_iff_getElem?]
  simp only [List.mem_zipIdx_iff_getElem?, decide_not, Bool.not_eq_true',
    Bool.not_eq_false, decide_eq_true_eq, Prod.forall]
  constructor
  · intro h place hplace
    exact h _ place (List.getElem?_eq_getElem hplace)
  · intro h token place htoken
    obtain ⟨hplace, rfl⟩ := List.getElem?_eq_some_iff.mp htoken
    exact h place hplace

theorem unmatchedTokens_cons (owners : List String) (token : String)
    (rest : List String) :
    unmatchedTokens owners (token :: rest) =
      if owners.head? = some token then unmatchedTokens owners.tail rest
      else token :: unmatchedTokens owners.tail rest := by
  have hlater : ((rest.zipIdx 1).filter fun entry =>
      owners[entry.2]? ≠ some entry.1).map Prod.fst =
        unmatchedTokens owners.tail rest := by
    rw [unmatchedTokens, List.zipIdx_succ, List.filter_map, List.map_map]
    simp [Function.comp_def]
  rw [unmatchedTokens, List.zipIdx_cons, List.filter_cons,
    ← List.head?_eq_getElem?]
  split <;> simp_all

/-- The comparison keeps the tokens that do not meet their like. -/
theorem differingTokens_eq_unmatchedTokens {tokens : List String}
    (htokens : ∀ token ∈ tokens, token ≠ "") (owners : List String) :
    differingTokens owners tokens = unmatchedTokens owners tokens := by
  induction tokens generalizing owners with
  | nil => cases owners <;> rfl
  | cons token rest ih =>
      obtain ⟨htoken, hrest⟩ := List.forall_mem_cons.mp htokens
      rw [unmatchedTokens_cons]
      split
      · rename_i hhead
        obtain ⟨others, rfl⟩ := List.head?_eq_some_iff.mp hhead
        rw [differingTokens, if_pos rfl, ih hrest, List.tail_cons]
      · rename_i hhead
        rw [differingTokens_cons_of_ne htoken hhead, ih hrest]

/-! ## The last token -/

section Trims

variable {tags tokens : List String}

/-- No vendor tag stands behind other tokens. -/
def KeepsTag (tags tokens : List String) : Prop :=
  ∀ front tag, tokens = front ++ [tag] → front ≠ [] → tag ∉ tags

/-- The tokens do not end in `BIT`. -/
def KeepsBit (tokens : List String) : Prop :=
  ∀ front, tokens ≠ front ++ ["BIT"]

theorem keepsTag_singleton (tags : List String) (token : String) :
    KeepsTag tags [token] := by
  rintro (_ | ⟨first, front⟩) tag hsplit hfront
  · exact absurd rfl hfront
  · simp at hsplit

theorem keepsBit_singleton {token : String} (hne : token ≠ "BIT") :
    KeepsBit [token] := by
  rintro (_ | ⟨first, front⟩) hsplit
  · exact hne (List.singleton_inj.mp hsplit)
  · simp at hsplit

/-- What tokens are without a vendor tag behind them. -/
inductive DropsTag (tags : List String) : List String → List String → Prop
  | dropped {front : List String} {tag : String} (hfront : front ≠ [])
      (htag : tag ∈ tags) : DropsTag tags (front ++ [tag]) front
  | kept {tokens : List String} (hkept : KeepsTag tags tokens) :
      DropsTag tags tokens tokens

/-- What tokens are without a `BIT` at their end. -/
inductive DropsBit : List String → List String → Prop
  | dropped (front : List String) : DropsBit (front ++ ["BIT"]) front
  | kept {tokens : List String} (hkept : KeepsBit tokens) :
      DropsBit tokens tokens

/-- What tokens are without a vendor tag behind them, and then without a `BIT`
at their end. -/
def Trims (tags tokens kept : List String) : Prop :=
  ∃ untagged, DropsTag tags tokens untagged ∧ DropsBit untagged kept

theorem trimTag_append_tag {tag : String} (htag : tag ∈ tags)
    (hnonempty : tokens ≠ []) : trimTag tags (tokens ++ [tag]) = tokens := by
  have hlength : 0 < tokens.length := List.length_pos_iff.mpr hnonempty
  simp [trimTag, htag, hlength]

theorem trimTag_of_keepsTag (h : KeepsTag tags tokens) :
    trimTag tags tokens = tokens := by
  rcases List.eq_nil_or_concat' tokens with rfl | ⟨front, tag, rfl⟩
  · rfl
  · by_cases hfront : front = []
    · simp [trimTag, hfront]
    · simp [trimTag, h front tag rfl hfront]

theorem trimTag_of_not_mem
    (hlast : ∀ token, tokens.getLast? = some token → token ∉ tags) :
    trimTag tags tokens = tokens := by
  apply trimTag_of_keepsTag
  rintro front tag rfl -
  exact hlast tag List.getLast?_concat

theorem trimBit_append_bit : trimBit (tokens ++ ["BIT"]) = tokens := by
  simp [trimBit]

theorem trimBit_of_ne_bit (hlast : tokens.getLast? ≠ some "BIT") :
    trimBit tokens = tokens := by
  rw [trimBit, if_neg hlast]

theorem trimBit_of_keepsBit (h : KeepsBit tokens) :
    trimBit tokens = tokens := by
  apply trimBit_of_ne_bit
  intro hlast
  obtain ⟨front, hfront⟩ := List.getLast?_eq_some_iff.mp hlast
  exact h front hfront

theorem dropsTag_iff {kept : List String} :
    DropsTag tags tokens kept ↔ trimTag tags tokens = kept := by
  constructor
  · rintro (⟨hfront, htag⟩ | hkept)
    · exact trimTag_append_tag htag hfront
    · exact trimTag_of_keepsTag hkept
  · rintro rfl
    by_cases hkept : KeepsTag tags tokens
    · rw [trimTag_of_keepsTag hkept]
      exact .kept hkept
    · simp only [KeepsTag, not_forall, not_not] at hkept
      obtain ⟨front, tag, rfl, hfront, htag⟩ := hkept
      rw [trimTag_append_tag htag hfront]
      exact .dropped hfront htag

theorem dropsBit_iff {kept : List String} :
    DropsBit tokens kept ↔ trimBit tokens = kept := by
  constructor
  · rintro (_ | hkept)
    · exact trimBit_append_bit
    · exact trimBit_of_keepsBit hkept
  · rintro rfl
    by_cases hkept : KeepsBit tokens
    · rw [trimBit_of_keepsBit hkept]
      exact .kept hkept
    · simp only [KeepsBit, not_forall, not_not] at hkept
      obtain ⟨front, rfl⟩ := hkept
      rw [trimBit_append_bit]
      exact .dropped front

theorem trims_iff {kept : List String} :
    Trims tags tokens kept ↔ trimBit (trimTag tags tokens) = kept := by
  simp [Trims, dropsTag_iff, dropsBit_iff]

theorem trims_self (htag : KeepsTag tags tokens) (hbit : KeepsBit tokens) :
    Trims tags tokens tokens :=
  ⟨tokens, .kept htag, .kept hbit⟩

/-- Each trim takes from the end. -/
theorem Trims.isPrefix {kept : List String} (h : Trims tags tokens kept) :
    kept <+: tokens := by
  obtain ⟨untagged, htag, hbit⟩ := h
  have huntagged : untagged <+: tokens := by
    rcases htag with _ | _
    · exact List.prefix_append _ _
    · exact List.prefix_rfl
  rcases hbit with _ | _
  · exact (List.prefix_append _ _).trans huntagged
  · exact huntagged

/-- The trims take everything only from a lone `BIT`, with a vendor tag behind
it or without. -/
theorem trims_nil_iff :
    Trims tags tokens [] ↔
      tokens = [] ∨ tokens = ["BIT"] ∨ ∃ tag ∈ tags, tokens = ["BIT", tag] := by
  constructor
  · rintro ⟨untagged, htag, hbit⟩
    rcases hbit with _ | _
    · rcases htag with ⟨-, htag⟩ | _
      · exact Or.inr (Or.inr ⟨_, htag, rfl⟩)
      · exact Or.inr (Or.inl rfl)
    · rcases htag with ⟨hfront, -⟩ | _
      · exact absurd rfl hfront
      · exact Or.inl rfl
  · rintro (rfl | rfl | ⟨tag, htag, rfl⟩)
    · exact trims_iff.mpr rfl
    · exact trims_iff.mpr rfl
    · have htagged : DropsTag tags (["BIT"] ++ [tag]) ["BIT"] :=
        .dropped (List.cons_ne_nil _ _) htag
      exact ⟨["BIT"], htagged, .dropped []⟩

end Trims

end VulkanRegistry.Naming
