/-!
# Sorted names

A set of names is listed in the order of their code points, each once.
-/

namespace ShaderLoom.Text

/-- The given names, each once, in the order of their code points. -/
def sortedSet (names : List String) : List String :=
  names.eraseDups.mergeSort fun a b => decide (a ≤ b)

/-- Entries in the order of the code points of their names. -/
def sortedEntries {α : Type} (entries : List (String × α)) : List (String × α) :=
  entries.mergeSort fun a b => decide (a.1 ≤ b.1)

end ShaderLoom.Text
