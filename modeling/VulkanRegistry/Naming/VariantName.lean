import VulkanRegistry.Naming.Words

/-!
# The names of variants

The name of an enumerant repeats the words of its group, in capitals.  A variant
is named by the tokens in which it differs from its group, place by place, less
a vendor tag at the end when another token is left, and then less a `BIT` at the
end.
-/

namespace VulkanRegistry.Naming

/-- The tokens that differ from the owner's token at the same place.  An owner
that has run out of tokens has empty ones. -/
def differingTokens : List String → List String → List String
  | _, [] => []
  | [], token :: rest =>
      if token = "" then differingTokens [] rest
      else token :: differingTokens [] rest
  | owner :: owners, token :: rest =>
      if owner = token then differingTokens owners rest
      else token :: differingTokens owners rest

/-- The tokens without the last one if that is a vendor tag and not the only
token. -/
def trimTag (tags : List String) (tokens : List String) : List String :=
  match tokens.getLast? with
  | none => []
  | some token =>
      if 1 < tokens.length ∧ token ∈ tags then tokens.dropLast else tokens

/-- The tokens without the last one if that is `BIT`. -/
def trimBit (tokens : List String) : List String :=
  if tokens.getLast? = some "BIT" then tokens.dropLast else tokens

/-- The name of a variant of the group `owner`. -/
def variantName (tags : List String) (owner enumerant : String) : String :=
  "_".intercalate
    (trimBit (trimTag tags
      (differingTokens (Text.tokens (shouty owner)) (Text.tokens enumerant))))

end VulkanRegistry.Naming
