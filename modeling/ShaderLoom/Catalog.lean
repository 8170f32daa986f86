import ShaderLoom.NodeType
import ShaderLoom.Template.References

/-!
# Catalogs

The node types that graphs can use.  A node type is checked when it is registered: its templates
may mention only ports that it declares.
-/

namespace ShaderLoom

namespace NodeType

/-- Checks that a template mentions only declared ports; inputs are looked at first, and of
several missing ports the first by name is reported. -/
def checkTemplate (type : NodeType) (template : String) : Except Fault Unit :=
  let undeclared (ports : List Port) (names : List String) :=
    names.find? fun name => !(ports.any fun port => port.name == name)
  match undeclared type.inputs (Template.inputs template) with
  | some port => .error (.undeclaredInput type.id port)
  | none =>
    match undeclared type.outputs (Template.outputs template) with
    | some port => .error (.undeclaredOutput type.id port)
    | none => .ok ()

/-- Checks the templates of a node type. -/
def check (type : NodeType) : Except Fault Unit := do
  type.checkTemplate type.mainCode
  type.checkTemplate (type.functions.getD "")

end NodeType

/-- Node types by their ids. -/
structure Catalog where
  types : Table NodeType
deriving Inhabited

namespace Catalog

/-- The catalog without node types. -/
def empty : Catalog := ⟨Table.empty⟩

/-- The node type with the given id. -/
def find? (catalog : Catalog) (id : String) : Option NodeType := catalog.types.find? id

/-- The node type with the given id, which has to be there. -/
def require (catalog : Catalog) (id : String) : Except Fault NodeType :=
  match catalog.find? id with
  | some type => .ok type
  | none => .error (.unknownNodeType id)

/-- The catalog with one more node type.  An id that is taken is a fault, unless the new type is
to replace the old one; then it takes the place of the old one. -/
def register (catalog : Catalog) (type : NodeType) (replacing : Bool) : Except Fault Catalog :=
  if catalog.types.contains type.id && !replacing then .error (.duplicateNodeType type.id)
  else do
    type.check
    return ⟨catalog.types.insert type.id type⟩

/-- The catalog of the given node types, whose ids have to differ. -/
def ofTypes (types : List NodeType) : Except Fault Catalog :=
  types.foldlM (fun catalog type => catalog.register type false) empty

/-- The ids of the node types, in the order of their registration. -/
def ids (catalog : Catalog) : List String := catalog.types.values.map NodeType.id

/-- The ids of the node types of a category. -/
def idsIn (catalog : Catalog) (category : String) : List String :=
  (catalog.types.values.filter fun type => type.category == category).map NodeType.id

/-- The number of node types. -/
def size (catalog : Catalog) : Nat := catalog.types.size

end Catalog

end ShaderLoom
