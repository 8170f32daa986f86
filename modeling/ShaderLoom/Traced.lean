import ShaderLoom.Fault

/-!
# Traced computations

While code is generated, remarks are made about what was found amiss and mended.  A traced
computation ends with a value or a fault, and in either case holds the remarks made on the way, in
order.  It does not matter whether a remark was made before: what keeps remarks keeps each once.
-/

namespace ShaderLoom

/-- The part of a compilation in which a remark is made. -/
inductive Stage where
  /-- Helper variants are compared; the remarks are not the author's to read. -/
  | planning
  | generation
deriving DecidableEq, Inhabited

/-- Something that was found amiss and mended. -/
structure Remark where
  stage : Stage
  message : String
deriving DecidableEq, Inhabited

/-- A computation that may fail, with the remarks it made. -/
structure Traced (α : Type) where
  outcome : Except Fault α
  remarks : List Remark

namespace Traced

variable {α β : Type}

/-- The computation that ends with a value at once. -/
def ret (a : α) : Traced α := ⟨.ok a, []⟩

/-- The computation that fails at once. -/
def fail (fault : Fault) : Traced α := ⟨.error fault, []⟩

/-- One computation after the other. -/
def andThen (first : Traced α) (next : α → Traced β) : Traced β :=
  match first.outcome with
  | .ok a => ⟨(next a).outcome, first.remarks ++ (next a).remarks⟩
  | .error fault => ⟨.error fault, first.remarks⟩

instance : Monad Traced where
  pure := ret
  bind := andThen

/-- A remark on the code that is generated. -/
def remark (message : String) : Traced Unit := ⟨.ok (), [⟨.generation, message⟩]⟩

/-- A remark on the code that is generated, if the condition holds. -/
def remarkIf (condition : Bool) (message : String) : Traced Unit :=
  ⟨.ok (), if condition then [⟨.generation, message⟩] else []⟩

/-- A computation without remarks. -/
def lift (outcome : Except Fault α) : Traced α := ⟨outcome, []⟩

instance : MonadLift (Except Fault) Traced := ⟨lift⟩

/-- The computation with all its remarks made in the given stage. -/
def inStage (stage : Stage) (traced : Traced α) : Traced α :=
  ⟨traced.outcome, traced.remarks.map fun remark => { remark with stage }⟩

@[simp] theorem outcome_pure (a : α) : (pure a : Traced α).outcome = .ok a := rfl

@[simp] theorem remarks_pure (a : α) : (pure a : Traced α).remarks = [] := rfl

@[simp] theorem outcome_bind (first : Traced α) (next : α → Traced β) :
    (first >>= next).outcome = first.outcome >>= fun a => (next a).outcome := by
  show (first.andThen next).outcome = _
  unfold andThen
  cases first.outcome <;> rfl

/-- What follows a computation that ended with a value makes its remarks after those of the
computation. -/
theorem remarks_bind_of_ok {first : Traced α} {a : α} (h : first.outcome = .ok a)
    (next : α → Traced β) : (first >>= next).remarks = first.remarks ++ (next a).remarks := by
  show (first.andThen next).remarks = _
  unfold andThen
  rw [h]

/-- Nothing follows a computation that failed. -/
theorem remarks_bind_of_error {first : Traced α} {fault : Fault}
    (h : first.outcome = .error fault) (next : α → Traced β) :
    (first >>= next).remarks = first.remarks := by
  show (first.andThen next).remarks = _
  unfold andThen
  rw [h]

@[simp] theorem outcome_remark (message : String) : (remark message).outcome = .ok () := rfl

@[simp] theorem outcome_remarkIf (condition : Bool) (message : String) :
    (remarkIf condition message).outcome = .ok () := rfl

@[simp] theorem outcome_lift (outcome : Except Fault α) : (lift outcome).outcome = outcome := rfl

@[simp] theorem remarks_lift (outcome : Except Fault α) : (lift outcome).remarks = [] := rfl

end Traced

end ShaderLoom
