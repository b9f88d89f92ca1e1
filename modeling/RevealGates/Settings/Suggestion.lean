import RevealGates.Stage

/-!
Suggestions for misspelled gates.

A key is brought into a normal form first: small letters, and underscores for hyphens and spaces.
Some names that people use instead are listed; beyond them a gate is suggested when its key
continues the given one or the other way round.
-/

set_option autoImplicit false

namespace RevealGates.Suggestion

/-- The normal form of one character. Letters beyond ASCII are left alone. -/
def normalizeChar (c : Char) : Char :=
  if c = '-' ∨ c = ' ' then '_' else c.toLower

def normalize (key : String) : List Char :=
  key.toList.map normalizeChar

def aliases : Stage → List String
  | .singles => ["vars", "var", "single", "inputs"]
  | .invertedSingles => ["inverted_vars", "inverted_var", "inverted_single", "not_singles"]
  | .pairs => ["pair"]
  | .invertedPairs => ["inverted_pair", "not_pairs"]
  | .triples => ["triplets", "triplet", "triple"]
  | .invertedTriples =>
      ["inverted_triplets", "inverted_triplet", "inverted_triple", "not_triples"]

/-- The gate that a normal form is another name of. -/
def byAlias? (normal : List Char) : Option Stage :=
  Stage.all.find? fun stage => (aliases stage).any fun name => name.toList == normal

/-- The first gate whose key continues the normal form or is continued by it. -/
def byBeginning? (normal : List Char) : Option Stage :=
  Stage.all.find? fun stage =>
    normal.isPrefixOf stage.key.toList || stage.key.toList.isPrefixOf normal

/-- The gate to suggest for a key. A single ASCII character is too little to go by; one character
beyond ASCII begins no gate anyway. -/
def suggest? (key : String) : Option Stage :=
  let normal := normalize key
  match byAlias? normal with
  | some stage => some stage
  | none => if normal.length < 2 then none else byBeginning? normal

end RevealGates.Suggestion
