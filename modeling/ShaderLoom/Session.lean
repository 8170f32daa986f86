import ShaderLoom.Compilation

/-!
# Editing sessions

A graph and its order that are edited step by step and compiled in between, against one catalog.
-/

namespace ShaderLoom

/-- A graph that is being edited. -/
structure Session where
  graph : Graph
  order : List String
  catalog : Catalog
  settings : Settings
deriving Inhabited

/-- The list with the first item that passes `p` changed. -/
def changeFirst {α : Type} (p : α → Bool) (f : α → α) : List α → List α
  | [] => []
  | item :: rest => if p item then f item :: rest else item :: changeFirst p f rest

namespace Session

/-- Adds a node, which runs last. -/
def addNode (session : Session) (node : Node) : Session :=
  { session with
    graph := { session.graph with nodes := session.graph.nodes ++ [node] }
    order := session.order ++ [node.id] }

/-- Removes all nodes with an id; wires stay. -/
def removeNode (session : Session) (id : String) : Session :=
  { session with
    graph := { session.graph with nodes := session.graph.nodes.filter (·.id != id) }
    order := session.order.filter (· != id) }

/-- Adds a wire. -/
def connect (session : Session) (wire : Wire) : Session :=
  { session with graph := { session.graph with wires := session.graph.wires ++ [wire] } }

/-- Removes the wire at a place. -/
def disconnect (session : Session) (place : Nat) : Session :=
  { session with graph := { session.graph with wires := session.graph.wires.eraseIdx place } }

/-- Changes the first node with an id. -/
def changeNode (session : Session) (id : String) (f : Node → Node) : Session :=
  { session with
    graph := { session.graph with
      nodes := changeFirst (·.id == id) f session.graph.nodes } }

/-- Sets a parameter of a node. -/
def setValue (session : Session) (id name : String) (value : Value) : Session :=
  session.changeNode id fun node => { node with values := node.values.insert name value }

/-- Sets the wire mode of a parameter of a node, or takes it back. -/
def setMode (session : Session) (id name : String) (mode : Option String) : Session :=
  session.changeNode id fun node =>
    { node with modes := match mode with
      | some mode => node.modes.insert name mode
      | none => node.modes.erase name }

/-- Sets the order in which the nodes run. -/
def setOrder (session : Session) (order : List String) : Session := { session with order }

/-- Registers a node type. -/
def register (session : Session) (type : NodeType) (replacing : Bool) : Except Fault Session := do
  return { session with catalog := ← session.catalog.register type replacing }

/-- The request to compile the graph as it is. -/
def request (session : Session) (uniforms : Option (Table String))
    (renames : Option (Table (Table String))) : Request where
  graph := session.graph
  catalog := session.catalog
  settings := session.settings
  order := session.order
  uniforms
  renames

/-- The uniforms of the graph as it is. -/
def allocate (session : Session) : Except Fault (Table String) :=
  Uniform.allocate session.graph session.catalog session.settings

/-- The new names of helpers for the graph as it is. -/
def plan (session : Session) : Except Fault (Table (Table String)) := do
  (← (session.request none none).scene).plan.outcome

end Session

end ShaderLoom
