import ShaderLoom.Proofs.Placeholders
import ShaderLoom.Query

/-!
# What answers owe to earlier queries

The answer to a query is compared with the one it gets when nothing was asked before.  The inputs
and the parameter wires are remembered only as a whole, so remembering them changes no answer.  The
arrays are also remembered when an entry was too large, as far as they were read, so the query that
met this entry first is the only one that fails because of it.

A computation with a memory is therefore set against two outcomes: that of the same computation
without a memory, and that which it has once the arrays were cut short.
-/

namespace ShaderLoom

variable {α β : Type}

/-! ### Computations that an array stops -/

/-- Whether the fault is an entry of an array that is too large. -/
def Fault.isArrayEntry : Fault → Bool
  | .arrayEntry _ => true
  | _ => false

/-- Whether a computation ended because an entry of an array is too large. -/
def stoppedByArray : Except Fault α → Bool
  | .error fault => fault.isArrayEntry
  | .ok _ => false

/-- An array stops two computations only if it stops one of them. -/
lemma stoppedByArray_bind {first : Except Fault α} {next : α → Except Fault β}
    (h : stoppedByArray first = false) (hnext : ∀ a, stoppedByArray (next a) = false) :
    stoppedByArray (first >>= next) = false := by
  cases first with
  | error fault => exact h
  | ok a => exact hnext a

lemma stoppedByArray_mapM {f : α → Except Fault β} (h : ∀ item, stoppedByArray (f item) = false)
    (items : List α) : stoppedByArray (items.mapM f) = false := by
  cases hitems : items.mapM f with
  | ok results => rfl
  | error fault =>
    obtain ⟨item, -, hitem⟩ := exists_error_of_mapM_eq_error hitems
    have := h item
    rwa [hitem] at this

lemma stoppedByArray_foldlM {f : β → α → Except Fault β}
    (h : ∀ b item, stoppedByArray (f b item) = false) (items : List α) (start : β) :
    stoppedByArray (items.foldlM f start) = false := by
  cases hitems : items.foldlM f start with
  | ok result => rfl
  | error fault =>
    obtain ⟨item, -, b, hitem⟩ := exists_error_of_foldlM_eq_error hitems
    have := h b item
    rwa [hitem] at this

lemma stoppedByArray_of_ok {outcome : Except Fault α} (h : ∃ a, outcome = .ok a) :
    stoppedByArray outcome = false := by
  obtain ⟨a, rfl⟩ := h
  rfl

namespace Conversion

/-- A conversion reads no array. -/
lemma stoppedByArray_convert (node : Option String) (expr : String) (source target : PortType) :
    stoppedByArray (convert node expr source target) = false := by
  cases source <;> cases target <;> rfl

lemma stoppedByArray_toParameter (node : Option String) (expr : String) (type : PortType) :
    stoppedByArray (toParameter node expr type) = false := by
  cases type <;> rfl

end Conversion

namespace Scope

/-- A wire into an input reads no array. -/
lemma stoppedByArray_addInput (scope : Scope) (resolved : Table String) (wire : Wire)
    (port : String) : stoppedByArray (scope.addInput resolved wire port).outcome = false := by
  unfold addInput
  dsimp only
  split
  · rfl
  split
  · rfl
  split
  · rfl
  split
  · rfl
  rw [Traced.outcome_bind, Traced.outcome_remarkIf, ok_bind, Traced.outcome_bind,
    Traced.outcome_liftM]
  exact stoppedByArray_bind (Conversion.stoppedByArray_convert _ _ _ _) fun _ => rfl

lemma stoppedByArray_inputs (scope : Scope) : stoppedByArray scope.inputs.outcome = false := by
  unfold inputs
  rw [Traced.outcome_bind, Traced.outcome_foldlM]
  refine stoppedByArray_bind (stoppedByArray_foldlM (fun resolved item => ?_) _ _) fun wired => ?_
  · exact stoppedByArray_addInput scope resolved item.1 item.2
  · split
    · rfl
    · rfl

/-- A wire into a parameter reads no array. -/
lemma stoppedByArray_addParameterWire (scope : Scope) (chosen : Table (Nat × String))
    (wire : Wire) (parameter : String) :
    stoppedByArray (scope.addParameterWire chosen wire parameter).outcome = false := by
  unfold addParameterWire
  dsimp only
  split
  · rfl
  split
  · rfl
  split
  · rfl
  split
  · rfl
  split
  · rfl
  split
  · rfl
  rw [Traced.outcome_bind]
  refine stoppedByArray_bind (stoppedByArray_of_ok ⟨_, outcome_sourceVariable scope wire⟩)
    fun name => ?_
  rw [Traced.outcome_bind, Traced.outcome_liftM]
  exact stoppedByArray_bind (Conversion.stoppedByArray_toParameter _ _ _) fun _ => rfl

lemma stoppedByArray_parameterWires (scope : Scope) :
    stoppedByArray scope.parameterWires.outcome = false := by
  unfold parameterWires
  rw [Traced.outcome_bind, Traced.outcome_foldlM]
  refine stoppedByArray_bind (stoppedByArray_foldlM (fun chosen item => ?_) _ _) fun _ => rfl
  exact stoppedByArray_addParameterWire scope chosen item.1 item.2

lemma stoppedByArray_literal (scope : Scope) (name : String) (parameter : Parameter) :
    stoppedByArray (scope.literal name parameter) = false := by
  unfold literal
  cases Literal.ofParameter (scope.node.settledValue name parameter) parameter.type with
  | error cause => rfl
  | ok text => rfl

lemma stoppedByArray_readNumber (scope : Scope) (wires : Table String) (name : String)
    (parameter : Parameter) :
    stoppedByArray (scope.readNumber wires name parameter).outcome = false := by
  have hjoined : ∀ mode,
      stoppedByArray (scope.joinedValue name parameter mode).outcome = false := by
    intro mode
    unfold joinedValue
    cases scope.scene.uniform? scope.node.id name with
    | some uniform => rfl
    | none => exact stoppedByArray_literal scope name parameter
  unfold readNumber
  cases wires.find? name with
  | some wire =>
    dsimp only
    rw [Traced.outcome_bind, outcome_modeOf, ok_bind]
    split
    · rfl
    · rw [Traced.outcome_bind]
      exact stoppedByArray_bind (hjoined _) fun _ => rfl
  | none =>
    cases scope.scene.uniform? scope.node.id name with
    | some uniform => rfl
    | none => exact stoppedByArray_literal scope name parameter

/-- A parameter that is not declared reads no array. -/
lemma stoppedByArray_undeclaredParameter (scope : Scope) (name : String) :
    stoppedByArray (scope.undeclaredParameter name).outcome = false := by
  rcases undeclaredParameter_cases scope name with ⟨-, text, htext⟩ | ⟨-, hfault⟩
  · rw [htext]
    rfl
  · rw [hfault]
    rfl

/-- Arrays that were found can be declared. -/
lemma stoppedByArray_declareArrays (scope : Scope) (arrays : Arrays) :
    stoppedByArray (scope.declareArrays arrays) = false := by
  have hentry : ∀ entry,
      stoppedByArray (Literal.ofEntry scope.scene.settings.arrayPlaces entry) = false := by
    intro entry
    unfold Literal.ofEntry
    split
    · rfl
    · rfl
  refine stoppedByArray_mapM (fun constant => ?_) arrays.constants
  exact stoppedByArray_bind (stoppedByArray_mapM hentry _) fun _ => rfl

/-- The arrays of a node have a fault exactly when an entry is too large. -/
lemma isSome_fault_foundArrays (scope : Scope) :
    scope.foundArrays.fault.isSome = scope.refusesArrays := by
  rw [fault_foundArrays]
  cases scope.refusesArrays with
  | true => rfl
  | false => rfl

/-- The arrays stop a computation exactly when an entry is too large. -/
lemma stoppedByArray_arrays (scope : Scope) :
    stoppedByArray scope.arrays = scope.refusesArrays := by
  unfold arrays
  rw [fault_foundArrays]
  cases scope.refusesArrays with
  | true => rfl
  | false => rfl

end Scope

/-! ### Memories -/

/-- What is remembered is what the scope has: whole tables, and the arrays as far as they can be
read. -/
structure Memory.Holds (memory : Memory) (scope : Scope) : Prop where
  inputs : ∀ table, memory.inputs = some table → scope.inputs.outcome = .ok table
  parameterWires :
    ∀ table, memory.parameterWires = some table → scope.parameterWires.outcome = .ok table
  arrays : ∀ arrays, memory.arrays = some arrays → arrays = scope.foundArrays

/-- Whether arrays are remembered of which one could not be read. -/
def Memory.cutShort (memory : Memory) : Bool :=
  memory.arrays.any fun arrays => arrays.fault.isSome

/-- An empty memory holds nothing that a scope does not have. -/
lemma Memory.holds_empty (scope : Scope) : Memory.Holds {} scope :=
  ⟨nofun, nofun, nofun⟩

namespace Recall

variable {scope : Scope}

/-- What follows a success starts from its memory. -/
lemma bind_of_ok {first : Recall α} {memory : Memory} {a : α}
    (h : (first.run memory).1.outcome = .ok a) (next : α → Recall β) :
    ((first >>= next).run memory).1.outcome = ((next a).run (first.run memory).2).1.outcome ∧
      ((first >>= next).run memory).2 = ((next a).run (first.run memory).2).2 := by
  show ((first.andThen next).run memory).1.outcome = _ ∧ ((first.andThen next).run memory).2 = _
  unfold andThen
  dsimp only
  rw [h]
  exact ⟨rfl, rfl⟩

/-- After a fault nothing else is done and the memory stays. -/
lemma bind_of_error {first : Recall α} {memory : Memory} {fault : Fault}
    (h : (first.run memory).1.outcome = .error fault) (next : α → Recall β) :
    ((first >>= next).run memory).1.outcome = .error fault ∧
      ((first >>= next).run memory).2 = (first.run memory).2 := by
  show ((first.andThen next).run memory).1.outcome = _ ∧ ((first.andThen next).run memory).2 = _
  unfold andThen
  dsimp only
  rw [h]
  exact ⟨rfl, rfl⟩

/-- What is remembered is not looked for again. -/
lemma run_once_of_some {slot : Memory → Option α} {memory : Memory} {a : α}
    (h : slot memory = some a) (keep : Memory → Option α → Memory) (find : Traced α) :
    (once slot keep find).run memory = (pure a, memory) := by
  unfold once
  dsimp only
  rw [h]

/-- What is not remembered is looked for and kept. -/
lemma run_once_of_none {slot : Memory → Option α} {memory : Memory} (h : slot memory = none)
    (keep : Memory → Option α → Memory) (find : Traced α) :
    (once slot keep find).run memory = (find, keep memory find.outcome.toOption) := by
  unfold once
  dsimp only
  rw [h]

/-- A computation ends in one way as long as no array was cut short, and in another afterwards.
The two differ only where an array stops the computation for the first time. -/
structure Replays (scope : Scope) (recalling : Recall α) (first later : Except Fault α) : Prop where
  step : ∀ memory : Memory, memory.Holds scope →
    (recalling.run memory).2.Holds scope ∧
    (recalling.run memory).1.outcome = (if memory.cutShort then later else first) ∧
    (recalling.run memory).2.cutShort = (memory.cutShort || stoppedByArray first)
  later_eq : stoppedByArray first = false → later = first
  later_unstopped : stoppedByArray later = false

/-- A computation with a memory does what the one without does, until an array is cut short. -/
def Follows (scope : Scope) (recalling : Recall α) (traced : Traced α) : Prop :=
  ∃ later, Replays scope recalling traced.outcome later

/-- A computation that no array stops needs no memory. -/
lemma follows_lift {traced : Traced α} (h : stoppedByArray traced.outcome = false) :
    Follows scope (liftM traced) traced := by
  refine ⟨traced.outcome, fun memory hmemory => ?_, fun _ => rfl, h⟩
  rw [ite_self, h, Bool.or_false]
  exact ⟨hmemory, rfl, rfl⟩

lemma follows_pure (a : α) : Follows scope (pure a) (pure a) := follows_lift rfl

/-- What is remembered only when it was found makes no difference. -/
lemma follows_once {slot : Memory → Option α} {keep : Memory → Option α → Memory}
    {find : Traced α} (h : stoppedByArray find.outcome = false)
    (hslot : ∀ memory : Memory, memory.Holds scope →
      ∀ a, slot memory = some a → find.outcome = .ok a)
    (hkeep : ∀ (memory : Memory) (found : Option α), memory.Holds scope →
      (∀ a, found = some a → find.outcome = .ok a) →
        (keep memory found).Holds scope ∧ (keep memory found).cutShort = memory.cutShort) :
    Follows scope (once slot keep find) find := by
  have hfound : ∀ a, find.outcome.toOption = some a → find.outcome = .ok a :=
    fun _ => eq_ok_of_toOption_eq_some
  refine ⟨find.outcome, fun memory hmemory => ?_, fun _ => rfl, h⟩
  rw [ite_self, h, Bool.or_false]
  cases hmemo : slot memory with
  | some a =>
    rw [run_once_of_some hmemo]
    exact ⟨hmemory, (hslot memory hmemory a hmemo).symm, rfl⟩
  | none =>
    rw [run_once_of_none hmemo]
    obtain ⟨hholds, hcut⟩ := hkeep memory find.outcome.toOption hmemory hfound
    exact ⟨hholds, rfl, hcut⟩

/-- One computation after the other, where the outcome of the first decides whether an array is
cut short before the second begins. -/
lemma Replays.bind {recalling : Recall α} {first later : Except Fault α}
    (h : Replays scope recalling first later) {next : α → Recall β}
    {firsts laters : α → Except Fault β}
    (hnext : ∀ a, Replays scope (next a) (firsts a) (laters a)) :
    Replays scope (recalling >>= next) (first >>= firsts) (later >>= laters) := by
  refine ⟨fun memory hmemory => ?_, fun hfirst => ?_,
    stoppedByArray_bind h.later_unstopped fun a => (hnext a).later_unstopped⟩
  · obtain ⟨hholds, houtcome, hcut⟩ := h.step memory hmemory
    cases hend : (recalling.run memory).1.outcome with
    | error fault =>
      obtain ⟨hb, hm⟩ := bind_of_error hend next
      rw [hb, hm]
      rw [hend] at houtcome
      refine ⟨hholds, ?_⟩
      cases hbefore : memory.cutShort with
      | true =>
        rw [hbefore, if_pos rfl] at houtcome
        rw [hbefore] at hcut
        rw [if_pos rfl, ← houtcome, hcut]
        exact ⟨rfl, rfl⟩
      | false =>
        rw [hbefore, if_neg Bool.false_ne_true] at houtcome
        rw [hbefore] at hcut
        rw [if_neg Bool.false_ne_true, hcut, ← houtcome]
        exact ⟨rfl, rfl⟩
    | ok a =>
      obtain ⟨hb, hm⟩ := bind_of_ok hend next
      obtain ⟨hholds', houtcome', hcut'⟩ := (hnext a).step _ hholds
      rw [hb, hm]
      rw [hend] at houtcome
      refine ⟨hholds', ?_⟩
      cases hbefore : memory.cutShort with
      | true =>
        rw [hbefore, if_pos rfl] at houtcome
        rw [hbefore, Bool.true_or] at hcut
        rw [houtcome', hcut', hcut, if_pos rfl, if_pos rfl, ← houtcome]
        exact ⟨rfl, rfl⟩
      | false =>
        rw [hbefore, if_neg Bool.false_ne_true] at houtcome
        rw [hbefore, ← houtcome] at hcut
        have hcut : (recalling.run memory).2.cutShort = false := hcut
        rw [houtcome', hcut', hcut, if_neg Bool.false_ne_true, if_neg Bool.false_ne_true,
          ← houtcome]
        exact ⟨rfl, rfl⟩
  · cases first with
    | error fault => rw [h.later_eq hfirst]; rfl
    | ok a =>
      rw [h.later_eq rfl]
      exact (hnext a).later_eq hfirst

/-- One computation with a memory after the other follows the two without one. -/
lemma Follows.bind {recalling : Recall α} {traced : Traced α} (h : Follows scope recalling traced)
    {next : α → Recall β} {nextTraced : α → Traced β}
    (hnext : ∀ a, Follows scope (next a) (nextTraced a)) :
    Follows scope (recalling >>= next) (traced >>= nextTraced) := by
  obtain ⟨later, hlater⟩ := h
  choose laters hlaters using hnext
  refine ⟨later >>= laters, ?_⟩
  rw [Traced.outcome_bind]
  exact hlater.bind hlaters

end Recall

/-! ### Templates -/

namespace Template

variable {scope : Scope}

/-- Segments are filled with a memory as they are without one. -/
lemma follows_concat {fill : α → Recall String} {fillTraced : α → Traced String}
    (h : ∀ hole, Recall.Follows scope (fill hole) (fillTraced hole))
    (segments : List (Segment α)) :
    Recall.Follows scope (concat fill segments) (concat fillTraced segments) := by
  induction segments with
  | nil => exact Recall.follows_pure ""
  | cons segment rest ih =>
    cases segment with
    | literal text => exact ih.bind fun _ => Recall.follows_pure _
    | hole hole => exact (h hole).bind fun _ => ih.bind fun _ => Recall.follows_pure _

/-- A template is filled the same way by two resolvers that follow each other. -/
lemma follows_render {recaller : Resolver Recall} {resolver : Resolver Traced}
    (hinput : ∀ port, Recall.Follows scope (recaller.input port) (resolver.input port))
    (houtput : ∀ port, Recall.Follows scope (recaller.output port) (resolver.output port))
    (hparam : ∀ name index,
      Recall.Follows scope (recaller.param name index) (resolver.param name index))
    (hglobal : ∀ value, Recall.Follows scope (recaller.global value) (resolver.global value))
    (hresult : Recall.Follows scope recaller.result resolver.result) (template : String) :
    Recall.Follows scope (render recaller template) (render resolver template) := by
  have hfill : ∀ placeholder,
      Recall.Follows scope (recaller.fill placeholder) (resolver.fill placeholder) := by
    intro placeholder
    cases placeholder with
    | input port => exact hinput port
    | output port => exact houtput port
    | param name => exact hparam name none
    | global value => exact hglobal value
    | result => exact hresult
  refine follows_concat (fun hole => ?_) (segments template)
  cases hole with
  | plain placeholder => exact hfill placeholder
  | element name index =>
    exact (follows_concat hfill (indexSegments index)).bind fun text => hparam name (some text)

end Template

/-! ### Queries -/

namespace Scope

variable {scope : Scope}

/-- The inputs of a node are remembered. -/
lemma follows_recallInputs : Recall.Follows scope scope.recallInputs scope.inputs := by
  refine Recall.follows_once (stoppedByArray_inputs scope) (fun _ hmemory => hmemory.inputs)
    fun memory table hmemory htable => ⟨⟨htable, hmemory.parameterWires, hmemory.arrays⟩, rfl⟩

lemma follows_recallParameterWires :
    Recall.Follows scope scope.recallParameterWires scope.parameterWires := by
  refine Recall.follows_once (stoppedByArray_parameterWires scope)
    (fun _ hmemory => hmemory.parameterWires)
    fun memory table hmemory htable => ⟨⟨hmemory.inputs, htable, hmemory.arrays⟩, rfl⟩

/-- The arrays are the one table that is remembered after a fault. -/
lemma follows_recallArrays : Recall.Follows scope scope.recallArrays (liftM scope.arrays) := by
  refine ⟨.ok scope.foundArrays, fun memory hmemory => ?_, fun hfirst => ?_, rfl⟩
  · rw [Traced.outcome_liftM, stoppedByArray_arrays]
    cases hmemo : memory.arrays with
    | some arrays =>
      obtain rfl := hmemory.arrays arrays hmemo
      have hrun : scope.recallArrays.run memory = (pure scope.foundArrays, memory) := by
        unfold recallArrays
        dsimp only
        rw [hmemo]
      have hbefore : memory.cutShort = scope.refusesArrays := by
        unfold Memory.cutShort
        rw [hmemo]
        exact isSome_fault_foundArrays scope
      rw [hrun, hbefore, Bool.or_self]
      refine ⟨hmemory, ?_, rfl⟩
      cases hrefuses : scope.refusesArrays with
      | true => rfl
      | false => rw [if_neg Bool.false_ne_true, arrays_eq_ok hrefuses]; rfl
    | none =>
      have hrun : scope.recallArrays.run memory =
          (liftM scope.arrays, { memory with arrays := some scope.foundArrays }) := by
        unfold recallArrays
        dsimp only
        rw [hmemo]
      have hbefore : memory.cutShort = false := by
        unfold Memory.cutShort
        rw [hmemo]
        rfl
      rw [hrun, hbefore, if_neg Bool.false_ne_true, Bool.false_or]
      refine ⟨⟨hmemory.inputs, hmemory.parameterWires, fun arrays h => ?_⟩, rfl,
        isSome_fault_foundArrays scope⟩
      exact (Option.some.inj h).symm
  · rw [Traced.outcome_liftM, stoppedByArray_arrays] at hfirst
    rw [Traced.outcome_liftM, arrays_eq_ok hfirst]

lemma follows_recallInput (port : String) :
    Recall.Follows scope (scope.recallInput port) (scope.input port) := by
  refine follows_recallInputs.bind fun table => Recall.follows_lift ?_
  unfold readInput
  cases table.find? port with
  | some expr => rfl
  | none => rfl

/-- An output needs no memory. -/
lemma follows_output (port : String) :
    Recall.Follows scope (liftM (scope.output port)) (scope.output port) :=
  Recall.follows_lift (stoppedByArray_of_ok (exists_output scope port))

lemma follows_recallNumber (name : String) (parameter : Parameter) :
    Recall.Follows scope (scope.recallNumber name parameter)
      (scope.numericParameter name parameter) :=
  follows_recallParameterWires.bind fun wires =>
    Recall.follows_lift (stoppedByArray_readNumber scope wires name parameter)

/-- An array is answered from what is remembered. -/
lemma follows_recallArray (name : String) (index : Option String) :
    Recall.Follows scope (scope.recallArray name index) (scope.arrayParameter name index) := by
  refine follows_recallArrays.bind fun arrays => Recall.follows_lift ?_
  unfold readArray
  split
  · rfl
  · rfl
  · rfl

/-- The declarations of arrays are answered from what is remembered. -/
lemma follows_recallDeclarations :
    Recall.Follows scope scope.recallDeclarations (liftM scope.arrayDeclarations) := by
  have h : Recall.Follows scope scope.recallDeclarations
      (liftM scope.arrays >>= fun arrays => liftM (scope.declareArrays arrays)) :=
    follows_recallArrays.bind fun arrays =>
      Recall.follows_lift (stoppedByArray_declareArrays scope arrays)
  obtain ⟨later, hlater⟩ := h
  rw [Traced.outcome_bind] at hlater
  exact ⟨later, hlater⟩

/-- A parameter is answered from what is remembered. -/
lemma follows_recallParam (name : String) (index : Option String) :
    Recall.Follows scope (scope.recallParam name index) (scope.param name index) := by
  unfold recallParam param
  cases scope.type.parameter? name with
  | none => exact Recall.follows_lift (stoppedByArray_undeclaredParameter scope name)
  | some parameter =>
    dsimp only
    cases parameter.type with
    | array => exact follows_recallArray name index
    | string => exact Recall.follows_lift rfl
    | float | int | vec4 =>
      refine (follows_recallNumber name parameter).bind fun expr => ?_
      cases index with
      | none => exact Recall.follows_pure expr
      | some index => exact Recall.follows_pure _

/-- The answer of the scope to a query, without a memory. -/
def ask (scope : Scope) : Query → Traced Reply
  | .inputs => do return .table (← scope.inputs)
  | .parameterWires => do return .table (← scope.parameterWires)
  | .arrays => do return .constants (← scope.arrays).constants
  | .arrayDeclarations => do return .lines (← scope.arrayDeclarations)
  | .input port => do return .text (← scope.input port)
  | .output port => do return .text (← scope.output port)
  | .param name index => do return .text (← scope.param name index)
  | .global value => return .text (scope.global value)
  | .result => return .text scope.result
  | .render template => do return .text (← scope.render template)
  | .isSelfSufficient => return .truth scope.isSelfSufficient

/-- Every answer with a memory follows the answer without. -/
lemma follows_answer (scope : Scope) (query : Query) :
    Recall.Follows scope (scope.answer query) (scope.ask query) := by
  cases query with
  | inputs => exact follows_recallInputs.bind fun _ => Recall.follows_pure _
  | parameterWires => exact follows_recallParameterWires.bind fun _ => Recall.follows_pure _
  | arrays => exact follows_recallArrays.bind fun _ => Recall.follows_pure _
  | arrayDeclarations => exact follows_recallDeclarations.bind fun _ => Recall.follows_pure _
  | input port => exact (follows_recallInput port).bind fun _ => Recall.follows_pure _
  | output port => exact (follows_output port).bind fun _ => Recall.follows_pure _
  | param name index => exact (follows_recallParam name index).bind fun _ => Recall.follows_pure _
  | global value => exact Recall.follows_pure _
  | result => exact Recall.follows_pure _
  | render template =>
    refine Recall.Follows.bind ?_ fun _ => Recall.follows_pure _
    exact Template.follows_render follows_recallInput follows_output follows_recallParam
      (fun _ => Recall.follows_pure _) (Recall.follows_pure _) template
  | isSelfSufficient => exact Recall.follows_pure _

/-! ### Sequences of queries -/

/-- What is remembered after queries. -/
def memoryAfter (scope : Scope) (before : List Query) : Memory :=
  before.foldl (fun memory query => ((scope.answer query).run memory).2) {}

/-- How a query ends that is asked after others. -/
def outcomeAfter (scope : Scope) (before : List Query) (query : Query) : Except Fault Reply :=
  ((scope.answer query).run (scope.memoryAfter before)).1.outcome

/-- The answers to later queries start from the memory that the earlier ones leave. -/
lemma answers_append (scope : Scope) (memory : Memory) (before rest : List Query) :
    scope.answers memory (before ++ rest) = scope.answers memory before ++ scope.answers
      (before.foldl (fun memory query => ((scope.answer query).run memory).2) memory) rest := by
  induction before generalizing memory with
  | nil => rfl
  | cons query before ih => exact congrArg (_ :: ·) (ih _)

/-- What one query after the other does to a memory. -/
lemma run_queries (scope : Scope) (before : List Query) (memory : Memory)
    (h : memory.Holds scope) :
    (before.foldl (fun memory query => ((scope.answer query).run memory).2) memory).Holds scope ∧
    (before.foldl (fun memory query => ((scope.answer query).run memory).2) memory).cutShort =
      (memory.cutShort || before.any fun query => stoppedByArray (scope.ask query).outcome) := by
  induction before generalizing memory with
  | nil => exact ⟨h, (Bool.or_false _).symm⟩
  | cons query before ih =>
    obtain ⟨later, hlater⟩ := scope.follows_answer query
    obtain ⟨hholds, -, hcut⟩ := hlater.step memory h
    rw [List.foldl_cons, List.any_cons, ← Bool.or_assoc, ← hcut]
    exact ih _ hholds

/-- Queries leave a memory that holds only what the scope has. -/
lemma holds_memoryAfter (scope : Scope) (before : List Query) :
    (scope.memoryAfter before).Holds scope :=
  (run_queries scope before {} (Memory.holds_empty scope)).1

/-- The arrays are cut short once a query was stopped by one. -/
lemma cutShort_memoryAfter (scope : Scope) (before : List Query) :
    (scope.memoryAfter before).cutShort =
      before.any fun query => stoppedByArray (scope.ask query).outcome :=
  (run_queries scope before {} (Memory.holds_empty scope)).2

/-- The first query is answered as it is without a memory. -/
lemma outcomeAfter_nil (scope : Scope) (query : Query) :
    scope.outcomeAfter [] query = (scope.ask query).outcome := by
  obtain ⟨later, hlater⟩ := scope.follows_answer query
  exact (hlater.step {} (Memory.holds_empty scope)).2.1

/-- Every query gets one answer. -/
lemma length_answers (scope : Scope) (memory : Memory) (queries : List Query) :
    (scope.answers memory queries).length = queries.length := by
  induction queries generalizing memory with
  | nil => rfl
  | cons query queries ih => exact congrArg (· + 1) (ih _)

/-- The place of an answer in the answers to a sequence of queries. -/
lemma outcome_answers (scope : Scope) (before : List Query) (query : Query)
    (after : List Query) :
    ((scope.answers {} (before ++ query :: after))[before.length]?).map Traced.outcome =
      some (scope.outcomeAfter before query) := by
  have hlength := length_answers scope {} before
  rw [answers_append, List.getElem?_append_right (Nat.le_of_eq hlength), hlength, Nat.sub_self]
  rfl

/-- The arrays are asked for by a query of their own. -/
lemma stoppedByArray_ask_arrays (scope : Scope) :
    stoppedByArray (scope.ask .arrays).outcome = scope.refusesArrays := by
  show stoppedByArray (liftM scope.arrays >>= fun arrays =>
    pure (Reply.constants arrays.constants) : Traced Reply).outcome = _
  rw [← stoppedByArray_arrays, Traced.outcome_bind, Traced.outcome_liftM]
  cases scope.arrays with
  | error fault => rfl
  | ok arrays => rfl

/-- Only a scope with an array that cannot be read has queries that an array stops. -/
lemma stoppedByArray_ask (h : scope.refusesArrays = false) (query : Query) :
    stoppedByArray (scope.ask query).outcome = false := by
  obtain ⟨later, hlater⟩ := scope.follows_answer query
  obtain ⟨hholds, -, hcut⟩ := hlater.step {} (Memory.holds_empty scope)
  -- The memory tells: it could be cut short only by the arrays of the scope, which are whole.
  have hwhole : ((scope.answer query).run {}).2.cutShort = false := by
    unfold Memory.cutShort
    cases hmemo : ((scope.answer query).run {}).2.arrays with
    | none => rfl
    | some arrays =>
      rw [hholds.arrays arrays hmemo, Option.any_some, isSome_fault_foundArrays, h]
  rw [hwhole] at hcut
  exact hcut.symm

/-- A query ends in one way before an array was cut short, and in another afterwards. -/
lemma outcomeAfter_eq {query : Query} {later : Except Fault Reply}
    (h : Recall.Replays scope (scope.answer query) (scope.ask query).outcome later)
    (before : List Query) :
    scope.outcomeAfter before query =
      if before.any fun earlier => stoppedByArray (scope.ask earlier).outcome then later
      else (scope.ask query).outcome := by
  have houtcome := (h.step _ (holds_memoryAfter scope before)).2.1
  rwa [cutShort_memoryAfter] at houtcome

/-- A query is answered otherwise than alone only if an array stops it and has stopped another
before. -/
lemma outcomeAfter_eq_iff (scope : Scope) (before : List Query) (query : Query) :
    scope.outcomeAfter before query = (scope.ask query).outcome ↔
      ¬(stoppedByArray (scope.ask query).outcome = true ∧
        ∃ earlier ∈ before, stoppedByArray (scope.ask earlier).outcome = true) := by
  obtain ⟨later, hlater⟩ := scope.follows_answer query
  have houtcome := outcomeAfter_eq hlater before
  rw [← List.any_eq_true]
  cases hbefore : before.any fun earlier => stoppedByArray (scope.ask earlier).outcome with
  | false =>
    rw [hbefore, if_neg Bool.false_ne_true] at houtcome
    exact iff_of_true houtcome fun h => Bool.false_ne_true h.2
  | true =>
    rw [hbefore, if_pos rfl] at houtcome
    rw [houtcome, and_iff_left rfl, Bool.not_eq_true]
    constructor
    · intro heq
      rw [← heq]
      exact hlater.later_unstopped
    · exact hlater.later_eq

/-- Once a query was stopped by an array, the next are answered from the arrays before it. -/
lemma outcomeAfter_of_stopped {before : List Query}
    (h : ∃ earlier ∈ before, stoppedByArray (scope.ask earlier).outcome = true) (query : Query) :
    scope.outcomeAfter before query =
      ((scope.answer query).run { arrays := some scope.foundArrays }).1.outcome := by
  obtain ⟨later, hlater⟩ := scope.follows_answer query
  obtain ⟨earlier, hmem, hstopped⟩ := h
  have hrefuses : scope.refusesArrays = true := by
    by_contra hnot
    rw [stoppedByArray_ask (eq_false_of_ne_true hnot)] at hstopped
    cases hstopped
  have hholds : Memory.Holds { arrays := some scope.foundArrays } scope :=
    ⟨nofun, nofun, fun arrays harrays => (Option.some.inj harrays).symm⟩
  have hcut : Memory.cutShort { arrays := some scope.foundArrays } = true :=
    (isSome_fault_foundArrays scope).trans hrefuses
  rw [outcomeAfter_eq hlater, if_pos (List.any_eq_true.mpr ⟨earlier, hmem, hstopped⟩),
    (hlater.step _ hholds).2.1, if_pos hcut]

/-- Which answers of a scope depend on the queries asked before. -/
structure History (scope : Scope) : Prop where
  /-- The answers to a sequence of queries are the outcomes that are spoken of below. -/
  answered : ∀ before query after,
    ((scope.answers {} (before ++ query :: after))[before.length]?).map Traced.outcome =
      some (scope.outcomeAfter before query)
  /-- What is asked first is answered from the scope alone. -/
  alone : ∀ query, scope.outcomeAfter [] query = (scope.ask query).outcome
  /-- An answer differs from the one that is given first exactly when both the query and one before
  it would be stopped by an array if they were asked first. -/
  same_iff : ∀ before query, scope.outcomeAfter before query = scope.outcomeAfter [] query ↔
    ¬(stoppedByArray (scope.outcomeAfter [] query) = true ∧
      ∃ earlier ∈ before, stoppedByArray (scope.outcomeAfter [] earlier) = true)
  /-- Once a query was stopped by an array, the arrays before it are all there are. -/
  cutShort : ∀ before query,
    (∃ earlier ∈ before, stoppedByArray (scope.outcomeAfter [] earlier) = true) →
      scope.outcomeAfter before query =
        ((scope.answer query).run { arrays := some scope.foundArrays }).1.outcome
  /-- The other tables are remembered as a whole, or not at all. -/
  kept : ∀ before, (scope.memoryAfter before).Holds scope
  /-- No answer depends on earlier queries exactly when no entry of an array is too large. -/
  independent_iff : (∀ before query, scope.outcomeAfter before query =
    scope.outcomeAfter [] query) ↔ scope.refusesArrays = false

/-- Answers depend on earlier queries in one way only: of the queries that need the arrays of the
node when an entry of them is too large, the first fails and the others do not. -/
theorem history_of_answers (scope : Scope) : scope.History := by
  refine ⟨outcome_answers scope, outcomeAfter_nil scope, fun before query => ?_,
    fun before query h => ?_, holds_memoryAfter scope, fun hfree => ?_, fun h before query => ?_⟩
  · simp only [outcomeAfter_nil]
    exact outcomeAfter_eq_iff scope before query
  · simp only [outcomeAfter_nil] at h
    exact outcomeAfter_of_stopped h query
  · have harrays := hfree [.arrays] .arrays
    rw [outcomeAfter_nil, outcomeAfter_eq_iff, stoppedByArray_ask_arrays] at harrays
    by_contra hrefuses
    exact harrays ⟨eq_true_of_ne_false hrefuses, .arrays, List.mem_singleton_self _,
      (stoppedByArray_ask_arrays scope).trans (eq_true_of_ne_false hrefuses)⟩
  · rw [outcomeAfter_nil, outcomeAfter_eq_iff, stoppedByArray_ask h]
    exact fun hboth => Bool.false_ne_true hboth.1

/-- A node with an array parameter whose second entry is too large. -/
def oversizedArray : Scope where
  scene := default
  node := ⟨"n", "t", Table.ofList [("a", .list [.int 1, .int (Number.tenTo 400)])], Table.empty⟩
  type := { (default : NodeType) with
    parameters := Table.ofList [("a", ⟨.array, .null, .null, .null, .null, none, none⟩)] }

/-- The array is refused once, and counts as empty afterwards. -/
theorem oversizedArray_refused_once :
    (oversizedArray.answers {} [.param "a" none, .param "a" none]).map
      (fun reply => stoppedByArray reply.outcome) = [true, false] := by
  decide +kernel

end Scope

end ShaderLoom
