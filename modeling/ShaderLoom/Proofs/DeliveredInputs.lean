import ShaderLoom.Proofs.ConversionFaults
import ShaderLoom.Proofs.ResolvedTemplates

/-!
# What the inputs of a node stand for

A wire into an input can be used when the input is declared, the source of the wire is known, its
output has a type, and there is a variable for it.  The wires are followed as they are listed, and
every one that can be used is converted, even if a later one takes its place.  So the first wire
between a truth and something else stops the search.  Otherwise an input stands for the last wire
that can be used, and without one for zero, unless the node needs no inputs.
-/

namespace ShaderLoom

namespace Scope

variable {scope : Scope} {wires : List Wire} {wire : Wire} {port : String} {delivery : Delivery}

/-! ### Wires that can be used -/

/-- The wire leads to the declared input called `port` of the node.  It comes from an output of
known type, for which there is a variable. -/
structure Usable (scope : Scope) (wire : Wire) (port : String) (delivery : Delivery) : Prop where
  node : wire.node = scope.node.id
  target : wire.target = .port port
  declared : ∃ input, scope.type.input? port = some input ∧ input.type = delivery.target
  known : ∃ sourceType, scope.scene.typeOf? wire.source = some sourceType ∧
    sourceType? scope.scene wire.source sourceType wire.sourcePort = some delivery.source
  named : scope.scene.variableNames.lookup wire.source wire.sourcePort = some delivery.name

/-- A truth is delivered to where something else is expected, or something else to where a truth is
expected. -/
def Delivery.Clashes (delivery : Delivery) : Prop :=
  delivery.source ≠ delivery.target ∧ (delivery.source = .bool ∨ delivery.target = .bool)

/-- None of the wires that can be used joins a truth with something else. -/
def NoClash (scope : Scope) (wires : List Wire) : Prop :=
  ∀ wire ∈ wires, ∀ port delivery, scope.Usable wire port delivery → ¬delivery.Clashes

/-- None of the wires can be used for the input. -/
def NoneUsable (scope : Scope) (wires : List Wire) (port : String) : Prop :=
  ∀ wire ∈ wires, ∀ delivery, ¬scope.Usable wire port delivery

/-- The wire is the first one that can be used and joins a truth with something else. -/
def FirstClash (scope : Scope) (wires : List Wire) (wire : Wire) (delivery : Delivery) : Prop :=
  ∃ before after, wires = before ++ wire :: after ∧ (∃ port, scope.Usable wire port delivery) ∧
    delivery.Clashes ∧ scope.NoClash before

/-- The wire is the last one that can be used for the input. -/
def LastUsable (scope : Scope) (wires : List Wire) (wire : Wire) (port : String)
    (delivery : Delivery) : Prop :=
  ∃ before after, wires = before ++ wire :: after ∧ scope.Usable wire port delivery ∧
    scope.NoneUsable after port

/-- What the node is delivered by a wire, with the input that the wire leads to. -/
def use? (scope : Scope) (wire : Wire) : Option (String × Delivery) :=
  if wire.node = scope.node.id then
    wire.port?.bind fun port => (scope.delivery? wire port).map (port, ·)
  else none

/-- The use of a wire is found exactly if it is usable. -/
lemma use?_eq_some_iff : scope.use? wire = some (port, delivery) ↔
    scope.Usable wire port delivery := by
  unfold use?
  constructor
  · intro h
    split at h
    · next hnode =>
      obtain ⟨port', hport', h⟩ := Option.bind_eq_some_iff.mp h
      obtain ⟨delivery', hdelivery, h⟩ := Option.map_eq_some_iff.mp h
      cases h
      obtain ⟨input, sourceType, source, name, hinput, htype, hsource, hname, rfl⟩ :=
        delivery?_eq_some_iff.mp hdelivery
      exact ⟨hnode, Wire.port?_eq_some_iff.mp hport', ⟨input, hinput, rfl⟩,
        ⟨sourceType, htype, hsource⟩, hname⟩
    · cases h
  · rintro ⟨hnode, htarget, ⟨input, hinput, hexpected⟩, ⟨sourceType, htype, hsource⟩, hname⟩
    have hdelivery : scope.delivery? wire port = some delivery :=
      delivery?_eq_some_iff.mpr
        ⟨input, sourceType, delivery.source, delivery.name, hinput, htype, hsource, hname,
          by rw [hexpected]⟩
    rw [if_pos hnode, Wire.port?_eq_some_iff.mpr htarget, Option.bind_some, hdelivery]
    rfl

/-- A wire delivers one thing to one input. -/
lemma Usable.unique {port' : String} {delivery' : Delivery} (h : scope.Usable wire port delivery)
    (h' : scope.Usable wire port' delivery') : port = port' ∧ delivery = delivery' := by
  have heq := (use?_eq_some_iff.mpr h).symm.trans (use?_eq_some_iff.mpr h')
  exact Prod.mk.inj (Option.some.inj heq)

/-- Without a clash, what is delivered can be converted; otherwise the fault names both types. -/
lemma deliver_cases (scope : Scope) (delivery : Delivery) :
    (¬delivery.Clashes ∧ ∃ expr, scope.deliver delivery = .ok expr) ∨
      delivery.Clashes ∧ scope.deliver delivery =
        .error (.conversion delivery.source delivery.target (some scope.node.id)) := by
  obtain ⟨name, source, target⟩ := delivery
  unfold Delivery.Clashes deliver
  cases source <;> cases target <;> simp [Conversion.convert]

/-! ### One wire after the other -/

/-- The table of inputs with one more wire, which may lead anywhere. -/
def followWire (scope : Scope) (resolved : Table String) (wire : Wire) :
    Except Fault (Table String) :=
  match scope.use? wire with
  | none => .ok resolved
  | some (port, delivery) =>
    scope.deliver delivery >>= fun expr => .ok (resolved.insert port expr)

/-- The inputs with zeros for those that nothing is delivered to, unless the node needs none. -/
def filledUp (scope : Scope) (wired : Table String) : Table String :=
  if scope.isSelfSufficient then wired
  else scope.type.inputs.foldl
    (fun resolved port => resolved.insertNew port.name port.type.zeroText) wired

/-- All wires are followed, and then the inputs are filled up. -/
lemma outcome_inputs (scope : Scope) :
    scope.inputs.outcome =
      scope.scene.graph.wires.foldlM scope.followWire Table.empty >>= fun wired =>
        .ok (scope.filledUp wired) := by
  unfold inputs Graph.dataWires
  rw [Traced.outcome_bind, Traced.outcome_foldlM, List.foldlM_filterMap]
  congr 1
  · congr 1
    funext resolved wire
    unfold followWire use?
    by_cases hnode : wire.node = scope.node.id
    · rw [if_pos hnode, if_pos hnode]
      cases wire.port? with
      | none => rfl
      | some port =>
        rw [Option.bind_some]
        cases hdelivery : scope.delivery? wire port with
        | none => exact outcome_addInput_of_none hdelivery resolved
        | some delivery => exact outcome_addInput_of_some hdelivery resolved
    · rw [if_neg hnode, if_neg hnode]
      rfl
  · funext wired
    unfold filledUp
    split
    · rfl
    · rfl

/-- A wire that cannot be used changes nothing. -/
lemma followWire_of_not_usable (h : ∀ port delivery, ¬scope.Usable wire port delivery)
    (resolved : Table String) : scope.followWire resolved wire = .ok resolved := by
  unfold followWire
  cases huse : scope.use? wire with
  | none => rfl
  | some use => exact absurd (use?_eq_some_iff.mp huse) (h use.1 use.2)

/-- A wire that can be used is converted, and sets its input. -/
lemma Usable.followWire_eq (h : scope.Usable wire port delivery) (resolved : Table String) :
    scope.followWire resolved wire =
      scope.deliver delivery >>= fun expr => .ok (resolved.insert port expr) := by
  unfold followWire
  rw [use?_eq_some_iff.mpr h]

/-- No wire clashes among several and one more. -/
lemma noClash_concat : scope.NoClash (wires ++ [wire]) ↔
    scope.NoClash wires ∧ ∀ port delivery, scope.Usable wire port delivery →
      ¬delivery.Clashes := by
  unfold NoClash
  simp only [List.mem_append, List.mem_singleton, or_imp, forall_and, forall_eq]

/-- No wire into an input is usable among several and one more. -/
lemma noneUsable_concat : scope.NoneUsable (wires ++ [wire]) port ↔
    scope.NoneUsable wires port ∧ ∀ delivery, ¬scope.Usable wire port delivery := by
  unfold NoneUsable
  simp only [List.mem_append, List.mem_singleton, or_imp, forall_and, forall_eq]

/-- A wire that cannot be used for the input leaves the last one as it is. -/
lemma LastUsable.concat {last : Wire} (h : scope.LastUsable wires wire port delivery)
    (hlast : ∀ delivery, ¬scope.Usable last port delivery) :
    scope.LastUsable (wires ++ [last]) wire port delivery := by
  obtain ⟨before, after, rfl, husable, hafter⟩ := h
  exact ⟨before, after ++ [last], by simp, husable, noneUsable_concat.mpr ⟨hafter, hlast⟩⟩

/-- The table holds what the last of the wires that can be used delivers. -/
structure Delivers (scope : Scope) (wires : List Wire) (wired : Table String) : Prop where
  keys : wired.keys.Nodup
  missing : ∀ port, wired.find? port = none → scope.NoneUsable wires port
  found : ∀ port expr, wired.find? port = some expr →
    ∃ wire delivery, scope.LastUsable wires wire port delivery ∧ scope.deliver delivery = .ok expr

lemma delivers_nil : scope.Delivers [] Table.empty where
  keys := Table.nodup_keys_empty
  missing _ _ := fun _ h => absurd h List.not_mem_nil
  found _ _ h := by cases h

namespace Delivers

variable {wired : Table String} (h : scope.Delivers wires wired)

include h

/-- A wire that cannot be used is passed over. -/
lemma pass (hwire : ∀ port delivery, ¬scope.Usable wire port delivery) :
    scope.Delivers (wires ++ [wire]) wired where
  keys := h.keys
  missing port hnone := noneUsable_concat.mpr ⟨h.missing port hnone, hwire port⟩
  found port expr hfind := by
    obtain ⟨other, delivery, hlast, hexpr⟩ := h.found port expr hfind
    exact ⟨other, delivery, hlast.concat (hwire port), hexpr⟩

/-- A wire that can be used takes the place of those before it. -/
lemma replace (husable : scope.Usable wire port delivery) {expr : String}
    (hexpr : scope.deliver delivery = .ok expr) :
    scope.Delivers (wires ++ [wire]) (wired.insert port expr) := by
  -- the wire leads to one input only
  have hother : ∀ {port' : String}, port ≠ port' →
      ∀ delivery', ¬scope.Usable wire port' delivery' :=
    fun hne _ husable' => hne (husable.unique husable').1
  refine ⟨Table.nodup_keys_insert h.keys port expr, fun port' hnone => ?_,
    fun port' expr' hfind => ?_⟩
  · rw [Table.find?_insert] at hnone
    split at hnone
    · cases hnone
    · next hne => exact noneUsable_concat.mpr ⟨h.missing port' hnone, hother hne⟩
  · rw [Table.find?_insert] at hfind
    split at hfind
    · next heq =>
      subst heq
      cases hfind
      exact ⟨wire, delivery, ⟨wires, [], rfl, husable, fun _ h => absurd h List.not_mem_nil⟩, hexpr⟩
    · next hne =>
      obtain ⟨other, delivery', hlast, hexpr'⟩ := h.found port' expr' hfind
      exact ⟨other, delivery', hlast.concat (hother hne), hexpr'⟩

/-- One more wire stops the search if it joins a truth with something else, and is delivered
otherwise. -/
lemma followWire_cases (wire : Wire) :
    ((∀ port delivery, scope.Usable wire port delivery → ¬delivery.Clashes) ∧
        ∃ wired', scope.followWire wired wire = .ok wired' ∧
          scope.Delivers (wires ++ [wire]) wired') ∨
      ∃ port delivery, scope.Usable wire port delivery ∧ delivery.Clashes ∧
        scope.followWire wired wire =
          .error (.conversion delivery.source delivery.target (some scope.node.id)) := by
  by_cases husable : ∃ port delivery, scope.Usable wire port delivery
  · obtain ⟨port, delivery, husable⟩ := husable
    rw [husable.followWire_eq]
    rcases scope.deliver_cases delivery with ⟨hagrees, expr, hexpr⟩ | ⟨hclash, herror⟩
    · refine Or.inl ⟨fun port' delivery' husable' => ?_, _, by rw [hexpr]; rfl,
        h.replace husable hexpr⟩
      obtain ⟨-, rfl⟩ := husable.unique husable'
      exact hagrees
    · exact Or.inr ⟨port, delivery, husable, hclash, by rw [herror]; rfl⟩
  · have hwire : ∀ port delivery, ¬scope.Usable wire port delivery :=
      fun port delivery h => husable ⟨port, delivery, h⟩
    exact Or.inl ⟨fun port delivery h => absurd h (hwire port delivery), wired,
      followWire_of_not_usable hwire wired, h.pass hwire⟩

end Delivers

/-- When wires are followed one after the other, either none joins a truth with something else, and
the table holds what the last ones deliver, or the first such wire stops the search. -/
lemma foldlM_followWire (scope : Scope) (wires : List Wire) :
    (scope.NoClash wires ∧ ∃ wired, wires.foldlM scope.followWire Table.empty = .ok wired ∧
        scope.Delivers wires wired) ∨
      ∃ wire delivery, scope.FirstClash wires wire delivery ∧
        wires.foldlM scope.followWire Table.empty =
          .error (.conversion delivery.source delivery.target (some scope.node.id)) := by
  induction wires using List.reverseRecOn with
  | nil => exact Or.inl ⟨fun _ h => absurd h List.not_mem_nil, Table.empty, rfl, delivers_nil⟩
  | append_singleton wires wire ih =>
    rw [foldlM_concat]
    rcases ih with ⟨hnone, wired, hwired, hdelivers⟩ | ⟨first, delivery, hfirst, herror⟩
    · rw [hwired, ok_bind]
      rcases hdelivers.followWire_cases wire with
        ⟨hagrees, hnext⟩ | ⟨port, delivery, husable, hclash, herror⟩
      · exact Or.inl ⟨noClash_concat.mpr ⟨hnone, hagrees⟩, hnext⟩
      · exact Or.inr ⟨wire, delivery, ⟨wires, [], rfl, ⟨port, husable⟩, hclash, hnone⟩, herror⟩
    · obtain ⟨before, after, rfl, hrest⟩ := hfirst
      exact Or.inr ⟨first, delivery, ⟨before, after ++ [wire], by simp, hrest⟩,
        by rw [herror]; rfl⟩

/-! ### The inputs in the end -/

/-- There is only one first wire between a truth and something else. -/
lemma FirstClash.unique {wire' : Wire} {delivery' : Delivery}
    (h : scope.FirstClash wires wire delivery) (h' : scope.FirstClash wires wire' delivery') :
    delivery = delivery' := by
  obtain ⟨before, after, rfl, ⟨port, husable⟩, hclash, hbefore⟩ := h
  obtain ⟨before', after', heq, ⟨port', husable'⟩, hclash', hbefore'⟩ := h'
  -- whichever of the two comes first is not among the wires before the other
  rcases List.append_eq_append_iff.mp heq with ⟨between, rfl, hrest⟩ | ⟨between, rfl, hrest⟩
  · cases between with
    | nil =>
      obtain ⟨rfl, -⟩ := List.cons.inj hrest
      exact (husable.unique husable').2
    | cons next between =>
      obtain ⟨rfl, -⟩ := List.cons.inj hrest
      exact absurd hclash (hbefore' wire (by simp) port delivery husable)
  · cases between with
    | nil =>
      obtain ⟨rfl, -⟩ := List.cons.inj hrest
      exact (husable.unique husable').2
    | cons next between =>
      obtain ⟨rfl, -⟩ := List.cons.inj hrest
      exact absurd hclash' (hbefore wire' (by simp) port' delivery' husable')

/-- Filling up gives no input a second entry. -/
lemma nodup_keys_filledUp {wired : Table String} (hkeys : wired.keys.Nodup) :
    (scope.filledUp wired).keys.Nodup := by
  unfold filledUp
  split
  · exact hkeys
  · generalize scope.type.inputs = ports
    induction ports generalizing wired with
    | nil => exact hkeys
    | cons port ports ih => exact ih (nodup_keys_insertNew hkeys port.name port.type.zeroText)

/-- What was delivered stays; another input is zero, unless the node needs no inputs. -/
lemma find?_filledUp (scope : Scope) (wired : Table String) (port : String) :
    (scope.filledUp wired).find? port =
      (wired.find? port).or (if scope.isSelfSufficient then none
        else (scope.type.input? port).map fun input => input.type.zeroText) := by
  unfold filledUp
  split
  · exact Option.or_none.symm
  · exact find?_fillUp scope.type.inputs wired port

/-- What the input stands for when the wires were followed and the inputs filled up. -/
lemma Delivers.find?_filledUp_cases {wired : Table String} (h : scope.Delivers wires wired)
    {input : Port} (hinput : scope.type.input? port = some input) :
    (∃ wire delivery expr, scope.LastUsable wires wire port delivery ∧
      Conversion.convert (some scope.node.id) delivery.name delivery.source input.type = .ok expr ∧
      (scope.filledUp wired).find? port = some expr) ∨
    scope.NoneUsable wires port ∧
      (scope.filledUp wired).find? port =
        if scope.isSelfSufficient then none else some input.type.zeroText := by
  rw [find?_filledUp, hinput]
  cases hfind : wired.find? port with
  | some expr =>
    obtain ⟨wire, delivery, hlast, hexpr⟩ := h.found port expr hfind
    refine Or.inl ⟨wire, delivery, expr, hlast, ?_, rfl⟩
    obtain ⟨before, after, -, husable, -⟩ := hlast
    obtain ⟨input', hinput', htarget⟩ := husable.declared
    rw [hinput] at hinput'
    cases hinput'
    rw [htarget]
    exact hexpr
  | none => exact Or.inr ⟨h.missing port hfind, rfl⟩

/-- Only declared inputs stand for something. -/
lemma Delivers.exists_input_of_mem_keys {wired : Table String} (h : scope.Delivers wires wired)
    (hport : port ∈ (scope.filledUp wired).keys) :
    ∃ input, scope.type.input? port = some input := by
  obtain ⟨expr, hfind⟩ := Table.mem_keys_iff.mp hport
  rw [find?_filledUp, Option.or_eq_some_iff] at hfind
  rcases hfind with hfind | ⟨-, hfind⟩
  · obtain ⟨wire, delivery, ⟨before, after, -, husable, -⟩, -⟩ := h.found port expr hfind
    obtain ⟨input, hinput, -⟩ := husable.declared
    exact ⟨input, hinput⟩
  · split at hfind
    · cases hfind
    · obtain ⟨input, hinput, -⟩ := Option.map_eq_some_iff.mp hfind
      exact ⟨input, hinput⟩

/-- The inputs of a node are resolved unless a wire that can be used joins a truth with something
else, and the first such wire is the one that is reported.  Then every input stands for the last
wire that can be used, converted to its type, or for zero, or for nothing if the node needs no
inputs. -/
theorem inputs_delivered (scope : Scope) :
    ((∃ fault, scope.inputs.outcome = .error fault) ↔
      ∃ wire ∈ scope.scene.graph.wires, ∃ port delivery,
        scope.Usable wire port delivery ∧ delivery.Clashes) ∧
    (∀ fault, scope.inputs.outcome = .error fault ↔
      ∃ wire delivery, scope.FirstClash scope.scene.graph.wires wire delivery ∧
        fault = .conversion delivery.source delivery.target (some scope.node.id)) ∧
    ∀ table, scope.inputs.outcome = .ok table → table.keys.Nodup ∧
      (∀ port ∈ table.keys, ∃ input, scope.type.input? port = some input) ∧
      ∀ port input, scope.type.input? port = some input →
        (∃ wire delivery expr, scope.LastUsable scope.scene.graph.wires wire port delivery ∧
          Conversion.convert (some scope.node.id) delivery.name delivery.source input.type =
            .ok expr ∧
          table.find? port = some expr) ∨
        scope.NoneUsable scope.scene.graph.wires port ∧
          table.find? port =
            if scope.isSelfSufficient then none else some input.type.zeroText := by
  rw [outcome_inputs]
  rcases scope.foldlM_followWire scope.scene.graph.wires with
    ⟨hnone, wired, hwired, hdelivers⟩ | ⟨first, delivery, hfirst, herror⟩
  · rw [hwired, ok_bind]
    refine ⟨iff_of_false (by simp) ?_, fun fault => iff_of_false (by simp) ?_, fun table h => ?_⟩
    · rintro ⟨wire, hwire, port, delivery, husable, hclash⟩
      exact hnone wire hwire port delivery husable hclash
    · rintro ⟨wire, delivery, ⟨before, after, hwires, ⟨port, husable⟩, hclash, -⟩, -⟩
      exact hnone wire (by simp [hwires]) port delivery husable hclash
    · cases h
      exact ⟨nodup_keys_filledUp hdelivers.keys,
        fun port hport => hdelivers.exists_input_of_mem_keys hport,
        fun port input hinput => hdelivers.find?_filledUp_cases hinput⟩
  · rw [herror]
    refine ⟨iff_of_true ⟨_, rfl⟩ ?_, fun fault => ⟨fun h => ?_, ?_⟩, fun table h => by cases h⟩
    · obtain ⟨before, after, hwires, ⟨port, husable⟩, hclash, -⟩ := hfirst
      exact ⟨first, by simp [hwires], port, delivery, husable, hclash⟩
    · cases h
      exact ⟨first, delivery, hfirst, rfl⟩
    · rintro ⟨wire, delivery', hfirst', rfl⟩
      rw [hfirst.unique hfirst']
      rfl

end Scope

end ShaderLoom
