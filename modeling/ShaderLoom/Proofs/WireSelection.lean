import Mathlib.Order.Monotone.Basic
import ShaderLoom.Proofs.SceneNodes
import ShaderLoom.Proofs.ScopeAgreement
import ShaderLoom.Proofs.Tables

/-!
# Which wires count

What the inputs and parameters of a node stand for depends on the wires into the node and on the
nodes that they come from, and not on the rest of the graph.

The order in which nodes run matters in one place only.  Of several wires into one parameter, the
one counts whose source runs last before the node.  Places in the order are compared to find it,
and nothing else is done with them.  Two orders for which the comparisons come out alike therefore
choose the same wires, however far the places lie apart.
-/

namespace ShaderLoom

/-! ### Scenes with the same sources -/

/-- Two scenes give the same answers about the nodes with the given ids, and no wire comes from
another node.  Nothing is said about the orders. -/
structure Scene.AgreesOn (a b : Scene) (ids : String → Prop) : Prop where
  wires : a.graph.wires = b.graph.wires
  sources : ∀ wire ∈ a.graph.wires, ids wire.source
  catalog : a.catalog = b.catalog
  settings : a.settings = b.settings
  node? : ∀ id, ids id → a.node? id = b.node? id
  ports : ∀ id, ids id → a.variableNames.ports id = b.variableNames.ports id
  uniforms : ∀ key, a.uniforms.find? key = b.uniforms.find? key

namespace Scene.AgreesOn

variable {a b : Scene} {ids : String → Prop} (h : a.AgreesOn b ids)

include h

lemma typeOf? {id : String} (hid : ids id) : a.typeOf? id = b.typeOf? id := by
  unfold Scene.typeOf?
  rw [h.node? id hid, h.catalog]

lemma lookup {node : String} (hnode : ids node) (port : String) :
    a.variableNames.lookup node port = b.variableNames.lookup node port := by
  unfold Variables.lookup
  rw [h.ports node hnode]

lemma uniform? (node name : String) : a.uniform? node name = b.uniform? node name := by
  unfold Scene.uniform?
  rw [h.uniforms]

/-- The same wires lead into the inputs of a node. -/
lemma dataWires (id : String) : a.graph.dataWires id = b.graph.dataWires id := by
  unfold Graph.dataWires
  rw [h.wires]

/-- The same wires lead into the parameters of a node. -/
lemma parameterWires (id : String) : a.graph.parameterWires id = b.graph.parameterWires id := by
  unfold Graph.parameterWires
  rw [h.wires]

/-- The outputs of the nodes have the same types in both scenes. -/
lemma sourceType? {id : String} (hid : ids id) (type : NodeType) (port : String) :
    Scope.sourceType? a id type port = Scope.sourceType? b id type port := by
  unfold Scope.sourceType?
  rw [h.lookup hid, h.settings]

/-- The same nodes have scopes. -/
lemma of?_eq {id : String} (hid : ids id) :
    Scope.of? b id = (Scope.of? a id).map fun scope => scope.inScene b := by
  unfold Scope.of?
  rw [← h.node? id hid, ← h.catalog]
  cases a.node? id with
  | none => rfl
  | some node => cases hfind : a.catalog.find? node.type <;> simp [hfind, Scope.inScene]

end Scene.AgreesOn

namespace Scope

variable {scope : Scope} {a b : Scene} {ids : String → Prop}

/-! ### Wires into inputs -/

/-- A wire into an input adds the same in both scenes. -/
lemma addInput_eq (h : a.AgreesOn b ids) {wire : Wire} (hsource : ids wire.source)
    (resolved : Table String) (port : String) :
    (scope.inScene a).addInput resolved wire port =
      (scope.inScene b).addInput resolved wire port := by
  unfold addInput
  simp only [inScene, h.typeOf? hsource, h.sourceType? hsource, h.lookup hsource]

/-- The inputs of a node stand for the same in both scenes. -/
lemma inputs_eq (h : a.AgreesOn b ids) (scope : Scope) :
    (scope.inScene a).inputs = (scope.inScene b).inputs := by
  have hself : (scope.inScene a).isSelfSufficient = (scope.inScene b).isSelfSufficient := by
    unfold isSelfSufficient
    simp only [inScene, h.settings]
  have hwires : (scope.inScene b).scene.graph.dataWires (scope.inScene b).node.id =
      (scope.inScene a).scene.graph.dataWires (scope.inScene a).node.id := (h.dataWires _).symm
  unfold inputs
  rw [hwires, hself]
  refine (Traced.related_foldlM (R := Eq) ?_ rfl).bind_eq ?_
  · rintro resolved _ ⟨wire, port⟩ hwire rfl
    have hsource : ids wire.source := h.sources wire (Graph.mem_dataWires_iff.mp hwire).1
    dsimp only
    rw [addInput_eq h hsource]
    exact Traced.related_refl _
  · rintro resolved _ rfl
    rfl

/-! ### One wire into a parameter -/

/-- The type of the value that a wire brings to a float parameter, or why the wire is ignored. -/
def carriedType (scope : Scope) (wire : Wire) (parameter : String) : Except String PortType :=
  let place := scope.node.id ++ "." ++ parameter
  if ((scope.type.parameter? parameter).map Parameter.type) ≠ some .float then
    .error ("Parameter wire into " ++ place
      ++ " ignored: only float parameters accept connections")
  else match scope.scene.typeOf? wire.source with
  | none =>
    .error ("Parameter wire into " ++ place ++ " ignored: source node " ++ wire.source
      ++ " has no spec")
  | some sourceType =>
  match sourceType? scope.scene wire.source sourceType wire.sourcePort with
  | none => .error ("Unknown output " ++ (wire.source ++ "." ++ wire.sourcePort) ++ "; ignored")
  | some type => .ok type

/-- The place of the source of a wire in the order, if the source runs before the node. -/
def turn? (scope : Scope) (wire : Wire) : Option Nat :=
  (scope.scene.position? wire.source).filter fun position => position < scope.deadline

/-- The table of parameter wires with a wire whose source has its turn at the given place, unless
the table has a wire for the parameter whose source does not run earlier. -/
def takeWire (scope : Scope) (chosen : Table (Nat × String)) (wire : Wire) (parameter : String)
    (type : PortType) (position : Nat) : Traced (Table (Nat × String)) :=
  if ((chosen.find? parameter).map Prod.fst).any (position ≤ ·) then pure chosen
  else do
    let name ← scope.sourceVariable wire
    let expr ← Conversion.toParameter (some scope.node.id) name type
    return chosen.insert parameter (position, expr)

/-- A wire has a turn when its source runs before the deadline. -/
lemma turn?_eq_some_iff {wire : Wire} {i : Nat} :
    scope.turn? wire = some i ↔
      scope.scene.position? wire.source = some i ∧ i < scope.deadline := by
  unfold turn?
  rw [Option.filter_eq_some_iff, decide_eq_true_iff]

/-- What happens to one wire: it is ignored with a remark, or without one if it has no turn, or it
is taken into the table. -/
lemma addParameterWire_eq (chosen : Table (Nat × String)) (wire : Wire) (name : String) :
    scope.addParameterWire chosen wire name =
      match scope.carriedType wire name with
      | .error reason => Traced.remark reason >>= fun _ => pure chosen
      | .ok type => match scope.turn? wire with
        | none => pure chosen
        | some position => scope.takeWire chosen wire name type position := by
  unfold addParameterWire carriedType
  dsimp only
  split
  · rfl
  cases scope.scene.typeOf? wire.source with
  | none => rfl
  | some sourceType =>
    dsimp only
    cases sourceType? scope.scene wire.source sourceType wire.sourcePort with
    | none => rfl
    | some type =>
      unfold turn?
      cases scope.scene.position? wire.source with
      | none => rfl
      | some position =>
        dsimp only
        by_cases hdeadline : scope.deadline ≤ position
        · rw [if_pos hdeadline, Option.filter_some_neg (by simpa using hdeadline)]
        · rw [if_neg hdeadline, Option.filter_some_pos (by simpa using hdeadline)]
          rfl

/-- One wire leaves the table as it is, or puts in what it carries to the parameter. -/
lemma addParameterWire_cases {chosen result : Table (Nat × String)} {wire : Wire} {name : String}
    (h : (scope.addParameterWire chosen wire name).outcome = .ok result) :
    result = chosen ∨ ∃ sourceType type source position expr,
      scope.scene.typeOf? wire.source = some sourceType ∧
      sourceType? scope.scene wire.source sourceType wire.sourcePort = some type ∧
      (scope.sourceVariable wire).outcome = .ok source ∧
      Conversion.toParameter (some scope.node.id) source type = .ok expr ∧
      result = chosen.insert name (position, expr) := by
  unfold addParameterWire at h
  dsimp only at h
  split at h
  · cases h
    exact Or.inl rfl
  split at h
  · cases h
    exact Or.inl rfl
  next sourceType hsource =>
  split at h
  · cases h
    exact Or.inl rfl
  next type htype =>
  split at h
  · cases h
    exact Or.inl rfl
  next position _ =>
  split at h
  · cases h
    exact Or.inl rfl
  split at h
  · cases h
    exact Or.inl rfl
  rw [Traced.outcome_bind] at h
  obtain ⟨source, hvariable, h⟩ := bind_eq_ok_iff.mp h
  rw [Traced.outcome_bind, Traced.outcome_liftM] at h
  obtain ⟨expr, hexpr, h⟩ := bind_eq_ok_iff.mp h
  cases h
  exact Or.inr ⟨sourceType, type, source, position, expr, hsource, htype, hvariable, hexpr, rfl⟩

/-- A wire into a parameter carries the same type in both scenes. -/
lemma carriedType_eq (h : a.AgreesOn b ids) {wire : Wire} (hsource : ids wire.source)
    (name : String) :
    (scope.inScene a).carriedType wire name = (scope.inScene b).carriedType wire name := by
  have htype : (scope.inScene a).scene.typeOf? wire.source =
      (scope.inScene b).scene.typeOf? wire.source := h.typeOf? hsource
  have hport : sourceType? (scope.inScene a).scene wire.source =
      sourceType? (scope.inScene b).scene wire.source :=
    funext fun type => funext (h.sourceType? hsource type)
  unfold carriedType
  rw [htype, hport]
  rfl

/-- A wire reads the same variable in both scenes. -/
lemma sourceVariable_eq (h : a.AgreesOn b ids) {wire : Wire} (hsource : ids wire.source) :
    (scope.inScene a).sourceVariable wire = (scope.inScene b).sourceVariable wire := by
  unfold sourceVariable
  simp only [inScene, h.lookup hsource]

/-! ### All wires into parameters -/

/-- In both scenes the same wires into parameters of the node have their turn, and of two such
wires into one parameter the same one has the later source. -/
structure Concordant (scope : Scope) (a b : Scene) : Prop where
  turns : ∀ wire name, (wire, name) ∈ a.graph.parameterWires scope.node.id →
    ((scope.inScene a).turn? wire).isSome = ((scope.inScene b).turn? wire).isSome
  compares : ∀ wire other name, (wire, name) ∈ a.graph.parameterWires scope.node.id →
    (other, name) ∈ a.graph.parameterWires scope.node.id →
      ∀ {i i' j j' : Nat}, (scope.inScene a).turn? wire = some i →
        (scope.inScene b).turn? wire = some i' → (scope.inScene a).turn? other = some j →
          (scope.inScene b).turn? other = some j' → (i ≤ j ↔ i' ≤ j')

/-- Places may lie further apart in one order than in the other. -/
lemma concordant_of_strictMono {f : Nat → Nat} (hf : StrictMono f)
    (hposition : ∀ wire name, (wire, name) ∈ a.graph.parameterWires scope.node.id →
      b.position? wire.source = (a.position? wire.source).map f)
    (hdeadline : (scope.inScene b).deadline = f (scope.inScene a).deadline) :
    scope.Concordant a b := by
  have hturn : ∀ wire name, (wire, name) ∈ a.graph.parameterWires scope.node.id →
      (scope.inScene b).turn? wire = ((scope.inScene a).turn? wire).map f := by
    intro wire name hwire
    have hsource : (scope.inScene b).scene.position? wire.source =
        ((scope.inScene a).scene.position? wire.source).map f := hposition wire name hwire
    unfold turn?
    rw [hsource, hdeadline]
    cases (scope.inScene a).scene.position? wire.source with
    | none => rfl
    | some i =>
      simp only [Option.map_some, Option.filter_some, hf.lt_iff_lt, apply_ite (Option.map f),
        Option.map_none]
  constructor
  · intro wire name hwire
    rw [hturn wire name hwire, Option.isSome_map]
  · intro wire other name hwire hother i i' j j' hi hi' hj hj'
    rw [hturn wire name hwire, hi, Option.map_some, Option.some.injEq] at hi'
    rw [hturn other name hother, hj, Option.map_some, Option.some.injEq] at hj'
    rw [← hi', ← hj', hf.le_iff_le]

/-- What two scenes keep for a parameter: the same expression, and the places that the source of
one and the same wire has in the two orders. -/
def SameWire (scope : Scope) (a b : Scene) (name : String) (kept kept' : Nat × String) : Prop :=
  kept.2 = kept'.2 ∧ ∃ wire, (wire, name) ∈ a.graph.parameterWires scope.node.id ∧
    (scope.inScene a).turn? wire = some kept.1 ∧ (scope.inScene b).turn? wire = some kept'.1

section Selection

variable (h : a.AgreesOn b ids) (hconcordant : scope.Concordant a b)

include h hconcordant

/-- A wire that has its turn is taken in both scenes or in none. -/
lemma related_takeWire {wire : Wire} {name : String}
    (hwire : (wire, name) ∈ a.graph.parameterWires scope.node.id) {i i' : Nat}
    (hi : (scope.inScene a).turn? wire = some i) (hi' : (scope.inScene b).turn? wire = some i')
    (type : PortType) {chosen chosen' : Table (Nat × String)}
    (hchosen : Table.Pairs (scope.SameWire a b) chosen chosen') :
    Traced.Related (Table.Pairs (scope.SameWire a b))
      ((scope.inScene a).takeWire chosen wire name type i)
      ((scope.inScene b).takeWire chosen' wire name type i') := by
  have hsource : ids wire.source := h.sources wire (Graph.mem_parameterWires_iff.mp hwire).1
  -- what the wire is compared with is in both scenes the source of one wire
  have hmeets : ((chosen.find? name).map Prod.fst).any (i ≤ ·) =
      ((chosen'.find? name).map Prod.fst).any (i' ≤ ·) := by
    rcases hchosen.find?_cases name with ⟨hnone, hnone'⟩ | ⟨kept, kept', hkept, hkept', hsame⟩
    · rw [hnone, hnone']
      rfl
    · obtain ⟨-, other, hother, hj, hj'⟩ := hsame
      rw [hkept, hkept']
      exact decide_eq_decide.mpr (hconcordant.compares wire other name hwire hother hi hi' hj hj')
  unfold takeWire
  rw [hmeets, sourceVariable_eq h hsource]
  split
  · exact Traced.related_pure hchosen
  · refine (Traced.related_refl _).bind ?_
    rintro source _ rfl
    refine (Traced.related_refl _).bind ?_
    rintro expr _ rfl
    exact Traced.related_pure (hchosen.insert ⟨rfl, wire, hwire, hi, hi'⟩)

/-- One more wire keeps the tables of both scenes together. -/
lemma related_addParameterWire {wire : Wire} {name : String}
    (hwire : (wire, name) ∈ a.graph.parameterWires scope.node.id)
    {chosen chosen' : Table (Nat × String)}
    (hchosen : Table.Pairs (scope.SameWire a b) chosen chosen') :
    Traced.Related (Table.Pairs (scope.SameWire a b))
      ((scope.inScene a).addParameterWire chosen wire name)
      ((scope.inScene b).addParameterWire chosen' wire name) := by
  have hsource : ids wire.source := h.sources wire (Graph.mem_parameterWires_iff.mp hwire).1
  have hturns := hconcordant.turns wire name hwire
  rw [addParameterWire_eq, addParameterWire_eq, carriedType_eq h hsource]
  cases (scope.inScene b).carriedType wire name with
  | error reason =>
    exact (Traced.related_refl _).bind fun _ _ _ => Traced.related_pure hchosen
  | ok type =>
    cases hi : (scope.inScene a).turn? wire with
    | none =>
      rw [hi, Option.isSome_none, eq_comm, Option.isSome_eq_false_iff, Option.isNone_iff_eq_none]
        at hturns
      rw [hturns]
      exact Traced.related_pure hchosen
    | some i =>
      rw [hi, Option.isSome_some, eq_comm, Option.isSome_iff_exists] at hturns
      obtain ⟨i', hi'⟩ := hturns
      rw [hi']
      exact related_takeWire h hconcordant hwire hi hi' type hchosen

/-- The same wires are chosen under orders whose comparisons come out alike. -/
lemma parameterWires_eq :
    (scope.inScene a).parameterWires = (scope.inScene b).parameterWires := by
  have hwires : (scope.inScene b).scene.graph.parameterWires (scope.inScene b).node.id =
      a.graph.parameterWires scope.node.id := (h.parameterWires _).symm
  unfold parameterWires
  rw [hwires]
  refine (Traced.related_foldlM (R := Table.Pairs (scope.SameWire a b)) ?_
    Table.pairs_empty).bind_eq ?_
  · rintro chosen chosen' ⟨wire, name⟩ hwire hchosen
    exact related_addParameterWire h hconcordant hwire hchosen
  · intro chosen chosen' hchosen
    exact congrArg pure (hchosen.map_eq fun _ _ _ hsame => hsame.1)

/-- A node with the same wires, whose sources come in the same order, asks for the same code. -/
theorem agreesIn_of_concordant (hid : ids scope.node.id) : scope.AgreesIn a b where
  settings := h.settings
  ports := h.ports scope.node.id hid
  uniform? := h.uniform? scope.node.id
  inputs := inputs_eq h scope
  parameterWires := parameterWires_eq h hconcordant

end Selection

end Scope

end ShaderLoom
