import ShaderLoom.Scope

/-!
# Queries

What can be asked about the node of a scope, one query after the other.  The tables that the
answers are read from are found when a query first needs one, and remembered.

A table of inputs or of parameter wires that cannot be found is looked for again by the next query
that needs it.  The arrays are remembered as far as they could be read: an entry that is too large
stops the first query that needs them, and no query afterwards.
-/

namespace ShaderLoom

/-- The tables of a scope that are remembered. -/
structure Memory where
  inputs : Option (Table String) := none
  parameterWires : Option (Table String) := none
  arrays : Option Scope.Arrays := none
deriving Inhabited

/-- A computation that may look into the memory.  What it adds to the memory stays there, even if
it fails later on. -/
structure Recall (α : Type) where
  run : Memory → Traced α × Memory

namespace Recall

variable {α β : Type}

/-- The computation that ends with a value at once. -/
def ret (a : α) : Recall α := ⟨fun memory => (pure a, memory)⟩

/-- One computation after the other. -/
def andThen (first : Recall α) (next : α → Recall β) : Recall β where
  run memory :=
    let begun := first.run memory
    match begun.1.outcome with
    | .ok a =>
      let ended := (next a).run begun.2
      (⟨ended.1.outcome, begun.1.remarks ++ ended.1.remarks⟩, ended.2)
    | .error fault => (⟨.error fault, begun.1.remarks⟩, begun.2)

instance : Monad Recall where
  pure := ret
  bind := andThen

/-- A computation that does not look into the memory. -/
def lift (traced : Traced α) : Recall α := ⟨fun memory => (traced, memory)⟩

instance : MonadLift Traced Recall := ⟨lift⟩

/-- Something that is looked for until it is found, and then remembered. -/
def once (slot : Memory → Option α) (keep : Memory → Option α → Memory) (find : Traced α) :
    Recall α where
  run memory :=
    match slot memory with
    | some a => (pure a, memory)
    | none => (find, keep memory find.outcome.toOption)

end Recall

/-- A question about the node of a scope. -/
inductive Query where
  | inputs
  | parameterWires
  | arrays
  | arrayDeclarations
  | input (port : String)
  | output (port : String)
  | param (name : String) (index : Option String)
  | global (value : Template.Global)
  | result
  | render (template : String)
  | isSelfSufficient
deriving DecidableEq, Inhabited

/-- What a query is answered with. -/
inductive Reply where
  | text (content : String)
  | lines (contents : List String)
  | table (entries : Table String)
  | constants (arrays : List Scope.ArrayConstant)
  | truth (holds : Bool)
deriving Inhabited

namespace Scope

/-- The inputs, which are remembered once they are found. -/
def recallInputs (scope : Scope) : Recall (Table String) :=
  .once Memory.inputs (fun memory inputs => { memory with inputs }) scope.inputs

/-- The parameter wires, which are remembered once they are found. -/
def recallParameterWires (scope : Scope) : Recall (Table String) :=
  .once Memory.parameterWires (fun memory parameterWires => { memory with parameterWires })
    scope.parameterWires

/-- The arrays, which are remembered as far as they can be read. -/
def recallArrays (scope : Scope) : Recall Arrays where
  run memory :=
    match memory.arrays with
    | some arrays => (pure arrays, memory)
    | none => (liftM scope.arrays, { memory with arrays := some scope.foundArrays })

/-- What an input stands for. -/
def recallInput (scope : Scope) (port : String) : Recall String := do
  scope.readInput (← scope.recallInputs) port

/-- What a parameter of a numeric type stands for. -/
def recallNumber (scope : Scope) (name : String) (parameter : Parameter) : Recall String := do
  scope.readNumber (← scope.recallParameterWires) name parameter

/-- What an array parameter stands for. -/
def recallArray (scope : Scope) (name : String) (index : Option String) : Recall String := do
  scope.readArray (← scope.recallArrays) name index

/-- The declarations of the array constants of the node. -/
def recallDeclarations (scope : Scope) : Recall (List String) := do
  let declarations : Traced (List String) := scope.declareArrays (← scope.recallArrays)
  declarations

/-- What a parameter stands for, with an index if one is given. -/
def recallParam (scope : Scope) (name : String) (index : Option String) : Recall String :=
  match scope.type.parameter? name with
  | none => scope.param name index
  | some parameter =>
    match parameter.type with
    | .array => scope.recallArray name index
    | .string => scope.param name index
    | .float | .int | .vec4 => do
      let expr ← scope.recallNumber name parameter
      match index with
      | none => return expr
      | some index => return expr ++ "[" ++ index ++ "]"

/-- What the placeholders of the node's templates stand for. -/
def recaller (scope : Scope) : Template.Resolver Recall where
  input := scope.recallInput
  output := fun port => scope.output port
  param := scope.recallParam
  global := fun value => pure (scope.global value)
  result := pure scope.result

/-- The answer to a query. -/
def answer (scope : Scope) : Query → Recall Reply
  | .inputs => do return .table (← scope.recallInputs)
  | .parameterWires => do return .table (← scope.recallParameterWires)
  | .arrays => do return .constants (← scope.recallArrays).constants
  | .arrayDeclarations => do return .lines (← scope.recallDeclarations)
  | .input port => do return .text (← scope.recallInput port)
  | .output port => do return .text (← scope.output port)
  | .param name index => do return .text (← scope.recallParam name index)
  | .global value => return .text (scope.global value)
  | .result => return .text scope.result
  | .render template => do return .text (← Template.render scope.recaller template)
  | .isSelfSufficient => return .truth scope.isSelfSufficient

/-- The answers to queries that are asked one after the other. -/
def answers (scope : Scope) : Memory → List Query → List (Traced Reply)
  | _, [] => []
  | memory, query :: rest =>
    let replied := (scope.answer query).run memory
    replied.1 :: scope.answers replied.2 rest

end Scope

end ShaderLoom
