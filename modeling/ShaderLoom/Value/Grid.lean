import ShaderLoom.Value.Numeric

/-!
# Values as grids of numbers

A value of nested lists is read as a grid when all lists of one level have the same shape.  The
shape is found first; then the entries are read one after the other.  A value that is no list is a
grid without levels, of one entry.
-/

namespace ShaderLoom

/-- Numbers in row-major order, with the lengths of the levels from the outermost inwards. -/
structure Grid where
  shape : List Nat
  entries : List Double
deriving Inhabited

/-- The most levels that a grid can have. -/
def Grid.maxLevels : Nat := 64

namespace Value

mutual

/-- The shape of nested lists; `none` if two lists of one level differ in shape. -/
def shape? : Value → Option (List Nat)
  | .list items => (commonShape? items).map (items.length :: ·)
  | _ => some []

/-- The shape that all items share; empty when there are no items. -/
def commonShape? : List Value → Option (List Nat)
  | [] => some []
  | [item] => shape? item
  | item :: rest => do
    let first ← shape? item
    let others ← commonShape? rest
    if first = others then some first else none

end

mutual

/-- The values inside nested lists that are no lists, in order. -/
def leaves : Value → List Value
  | .list items => leavesOf items
  | value => [value]

/-- The leaves of several values. -/
def leavesOf : List Value → List Value
  | [] => []
  | item :: rest => leaves item ++ leavesOf rest

end

/-- The number at one place of a grid; a missing value is not-a-number. -/
def gridEntry : Value → Except NumberFault Double
  | .null => .ok .nan
  | value => value.toDouble

/-- The grid that a value spells. -/
def toGrid (value : Value) : Except NumberFault Grid :=
  match value.shape? with
  | none => .error .ragged
  | some shape =>
    if Grid.maxLevels < shape.length then .error .ragged
    else do return ⟨shape, ← value.leaves.mapM gridEntry⟩

/-- The components of a value that is gone through one by one: the items of a list, the characters
of a text, the keys of a record. -/
def components? : Value → Option (List Value)
  | .list items => some items
  | .text s => some (s.toList.map fun c => .text (String.singleton c))
  | .record entries => some (entries.map fun entry => .text entry.1)
  | _ => none

end Value

/-- The rows of a grid with two levels. -/
def Grid.rows (grid : Grid) : List (List Double) :=
  match grid.shape with
  | [count, width] => (List.range count).map fun i => (grid.entries.drop (i * width)).take width
  | _ => []

end ShaderLoom
