import ShaderLoom.Proofs.ConversionFaults
import ShaderLoom.Proofs.SinkChoice

/-!
# Where the final color comes from

The final color is described from the graph alone.  Without a sink, the color comes from the last
node of the order that exposes a color, else from the last one that exposes anything but a truth,
and never fails.  Of the outputs of that node that can be shown, the one called `out` is shown if
it is there, and otherwise the first.  With sinks, the color is what the last wire into one of them
carries, and fails exactly when this is a truth.
-/

namespace ShaderLoom

/-! ### Outputs to pick from -/

/-- The output is picked from the given ones for its type, which is in the class `p`: it is called
`out`, or no output called `out` can be picked and it is the first one that can. -/
inductive Picks (p : PortType → Bool) (outputs : List (String × PortType)) :
    String → PortType → Prop
  | named {type : PortType} (mem : ("out", type) ∈ outputs) (fits : p type = true) :
      Picks p outputs "out" type
  | first {port : String} {type : PortType} {before after : List (String × PortType)}
      (split : outputs = before ++ (port, type) :: after) (fits : p type = true)
      (earlier : ∀ output ∈ before, p output.2 = false)
      (unnamed : ∀ output ∈ outputs, output.1 = "out" → p output.2 = false) :
      Picks p outputs port type

section Picks

variable {p : PortType → Bool} {outputs : List (String × PortType)} {port : String}
  {type : PortType}

lemma Picks.mem (h : Picks p outputs port type) : (port, type) ∈ outputs := by
  cases h with
  | named mem _ => exact mem
  | first split _ _ _ => simp [split]

lemma Picks.fits (h : Picks p outputs port type) : p type = true := by
  cases h with
  | named _ fits => exact fits
  | first _ fits _ _ => exact fits

/-- An output with its variable, as it is shown. -/
def withVariable (id : String) (output : String × PortType) : String × PortType × String :=
  (output.1, output.2, Identifier.outputVariable id output.1)

/-- The preferred output is the one called `out`, else the first, whatever the variables are. -/
lemma preferredOutput_map_withVariable (id : String) (first : String × PortType)
    (rest : List (String × PortType)) :
    Scene.preferredOutput ((first :: rest).map (withVariable id)) =
      some (withVariable id
        (((first :: rest).find? fun output => output.1 == "out").getD first)) := by
  have hfind : ((first :: rest).map (withVariable id)).find? (fun output => output.1 == "out") =
      ((first :: rest).find? fun output => output.1 == "out").map (withVariable id) :=
    List.find?_map ..
  have hpreferred : Scene.preferredOutput ((first :: rest).map (withVariable id)) =
      some ((((first :: rest).map (withVariable id)).find? fun output => output.1 == "out").getD
        (withVariable id first)) := rfl
  rw [hpreferred, hfind]
  cases (first :: rest).find? fun output => output.1 == "out" <;> rfl

/-- The preferred one of the outputs that fit is the one that is picked. -/
lemma preferredOutput_cases (p : PortType → Bool) (outputs : List (String × PortType))
    (id : String) :
    (∃ port type, Picks p outputs port type ∧
        Scene.preferredOutput ((outputs.map (withVariable id)).filter fun output => p output.2.1) =
          some (withVariable id (port, type))) ∨
      (∀ output ∈ outputs, p output.2 = false) ∧
        Scene.preferredOutput ((outputs.map (withVariable id)).filter fun output => p output.2.1) =
          none := by
  have hfilter : ((outputs.map (withVariable id)).filter fun output => p output.2.1) =
      (outputs.filter fun output => p output.2).map (withVariable id) := List.filter_map ..
  rw [hfilter]
  cases hfits : outputs.filter fun output => p output.2 with
  | nil =>
    refine Or.inr ⟨fun output houtput => ?_, rfl⟩
    simpa using List.filter_eq_nil_iff.mp hfits output houtput
  | cons first rest =>
    have hmem : ∀ output, output ∈ first :: rest ↔ output ∈ outputs ∧ p output.2 = true := by
      intro output
      rw [← hfits, List.mem_filter]
    rw [preferredOutput_map_withVariable]
    cases hout : (first :: rest).find? fun output => output.1 == "out" with
    | some output =>
      obtain ⟨port, type⟩ := output
      obtain ⟨hoffered, hfit⟩ := (hmem (port, type)).mp (List.mem_of_find?_eq_some hout)
      have hport : port = "out" := by simpa using List.find?_some hout
      subst hport
      exact Or.inl ⟨"out", type, .named hoffered hfit, rfl⟩
    | none =>
      obtain ⟨port, type⟩ := first
      obtain ⟨before, after, rfl, hbefore, hfit, -⟩ := List.filter_eq_cons_iff.mp hfits
      refine Or.inl ⟨port, type, .first rfl hfit (fun output houtput => ?_) ?_, rfl⟩
      · simpa using hbefore output houtput
      · intro output houtput hname
        by_contra hne
        have hfound := List.find?_eq_none.mp hout output
          ((hmem output).mpr ⟨houtput, by simpa using hne⟩)
        simp [hname] at hfound

end Picks

namespace Scene

variable {scene : Scene} {id : String} {p : PortType → Bool}
  {outputs : List (String × PortType)}

/-! ### Outputs that nodes offer -/

/-- A node of known type has the id, and exposes the outputs, which are given with their types. -/
def Offers (scene : Scene) (id : String) (outputs : List (String × PortType)) : Prop :=
  ∃ node ∈ scene.graph.nodes, node.id = id ∧ ∃ type ports,
    scene.catalog.find? node.type = some type ∧
    node.outputNames type scene.settings = .ok ports ∧
    outputs = ports.map fun port => (port, type.outputType port)

/-- The id offers an output of a type in the class `p`. -/
def CanShow (scene : Scene) (p : PortType → Bool) (id : String) : Prop :=
  ∃ outputs, scene.Offers id outputs ∧ ∃ output ∈ outputs, p output.2 = true

/-- The color is made of the output that is picked from those that the id offers. -/
def ShowsNode (scene : Scene) (p : PortType → Bool) (id : String) (color : FinalColor) : Prop :=
  ∃ outputs port type name, scene.Offers id outputs ∧ Picks p outputs port type ∧
    scene.variableNames.lookup id port = some name ∧
    Conversion.toColor name type = .ok color.expression ∧ color.node = some id

/-- The color is that of the last node of the order that offers an output of a type in the class
`p`. -/
def ShowsLast (scene : Scene) (p : PortType → Bool) (color : FinalColor) : Prop :=
  ∃ before id after, scene.order = before ++ id :: after ∧ scene.ShowsNode p id color ∧
    ∀ later ∈ after, ¬scene.CanShow p later

section Named

variable (hids : (scene.graph.nodes.map Node.id).Nodup) (hnamed : scene.IsNamed)

include hids

lemma offers_iff : scene.Offers id outputs ↔
    ∃ node type ports, scene.node? id = some node ∧ scene.catalog.find? node.type = some type ∧
      node.outputNames type scene.settings = .ok ports ∧
      outputs = ports.map fun port => (port, type.outputType port) := by
  constructor
  · rintro ⟨node, hnode, rfl, type, ports, hrest⟩
    exact ⟨node, type, ports, Graph.node?_of_mem hids hnode, hrest⟩
  · rintro ⟨node, type, ports, hnode, hrest⟩
    exact ⟨node, Graph.mem_of_node? hnode, Graph.id_of_node? hnode, type, ports, hrest⟩

/-- An id offers one list of outputs. -/
lemma Offers.unique {outputs' : List (String × PortType)} (h : scene.Offers id outputs)
    (h' : scene.Offers id outputs') : outputs = outputs' := by
  obtain ⟨node, type, ports, hnode, htype, hports, rfl⟩ := (offers_iff hids).mp h
  obtain ⟨node', type', ports', hnode', htype', hports', rfl⟩ := (offers_iff hids).mp h'
  rw [hnode] at hnode'
  cases hnode'
  rw [htype] at htype'
  cases htype'
  rw [hports] at hports'
  cases hports'
  rfl

lemma canShow_iff_of_offers (h : scene.Offers id outputs) :
    scene.CanShow p id ↔ ∃ output ∈ outputs, p output.2 = true := by
  constructor
  · rintro ⟨outputs', h', hshow⟩
    rwa [h.unique hids h']
  · exact fun hshow => ⟨outputs, h, hshow⟩

include hnamed

/-- The variable of an output that is offered, or that no node of known type offers. -/
lemma Offers.lookup (h : scene.Offers id outputs) (port : String) :
    scene.variableNames.lookup id port =
      if port ∈ outputs.map Prod.fst then some (Identifier.outputVariable id port) else none := by
  obtain ⟨node, type, ports, hnode, htype, hports, rfl⟩ := (offers_iff hids).mp h
  obtain ⟨ports', hports', hlookup⟩ := Variables.exists_lookup_of_node? hnamed hnode htype
  rw [hports] at hports'
  cases hports'
  rw [hlookup]
  congr 1
  simp [Function.comp_def]

/-- A node shows all outputs that it offers, and only such outputs. -/
lemma shownOutputs_cases (id : String) :
    (∃ outputs, scene.Offers id outputs ∧ scene.shownOutputs id =
        .ok (outputs.map (withVariable id))) ∨
      (∀ outputs, ¬scene.Offers id outputs) ∧ scene.shownOutputs id = .ok [] := by
  unfold shownOutputs typeOf?
  cases hnode : scene.node? id with
  | none =>
    refine Or.inr ⟨fun outputs hoffers => ?_, rfl⟩
    obtain ⟨node, type, ports, hsome, -⟩ := (offers_iff hids).mp hoffers
    rw [hnode] at hsome
    cases hsome
  | some node =>
    rw [Option.bind_some]
    cases htype : scene.catalog.find? node.type with
    | none =>
      refine Or.inr ⟨fun outputs hoffers => ?_, rfl⟩
      obtain ⟨node', type, ports, hnode', htype', -⟩ := (offers_iff hids).mp hoffers
      rw [hnode] at hnode'
      cases hnode'
      rw [htype] at htype'
      cases htype'
    | some type =>
      obtain ⟨ports, hports, htable⟩ := Variables.ports_of_node? hnamed hnode htype
      refine Or.inl ⟨_, (offers_iff hids).mpr ⟨node, type, ports, hnode, htype, hports, rfl⟩, ?_⟩
      dsimp only
      rw [hports, ok_bind, htable, List.map_map]
      refine congrArg Except.ok ?_
      rw [← List.filterMap_eq_map]
      refine List.filterMap_congr fun port hport => ?_
      rw [Variables.find?_ofNode, if_pos hport, Graph.id_of_node? hnode]
      rfl

/-! ### Without a sink -/

/-- The first node is shown if it can be, and otherwise the choice is left to the others. -/
lemma colorFrom?_cons_cases (hp : p .bool = false) (id : String) (rest : List String) :
    (∃ color, scene.ShowsNode p id color ∧ scene.colorFrom? p (id :: rest) = .ok (some color)) ∨
      ¬scene.CanShow p id ∧ scene.colorFrom? p (id :: rest) = scene.colorFrom? p rest := by
  rcases shownOutputs_cases hids hnamed id with ⟨outputs, hoffers, hshown⟩ | ⟨hnone, hshown⟩
  · rw [colorFrom?, hshown, ok_bind, canShow_iff_of_offers hids hoffers]
    rcases preferredOutput_cases p outputs id with
      ⟨port, type, hpicks, hpreferred⟩ | ⟨hfits, hpreferred⟩
    · have hbool : type ≠ .bool := by
        rintro rfl
        exact Bool.false_ne_true (hp.symm.trans hpicks.fits)
      obtain ⟨text, htext⟩ := Conversion.exists_toColor hbool (Identifier.outputVariable id port)
      have hlookup : scene.variableNames.lookup id port =
          some (Identifier.outputVariable id port) := by
        rw [hoffers.lookup hids hnamed, if_pos (List.mem_map.mpr ⟨_, hpicks.mem, rfl⟩)]
      refine Or.inl ⟨⟨text, some id⟩,
        ⟨outputs, port, type, _, hoffers, hpicks, hlookup, htext, rfl⟩, ?_⟩
      rw [hpreferred]
      unfold withVariable
      dsimp only
      rw [htext]
      rfl
    · refine Or.inr ⟨?_, by rw [hpreferred]⟩
      rintro ⟨output, houtput, hfit⟩
      exact Bool.false_ne_true ((hfits output houtput).symm.trans hfit)
  · rw [colorFrom?, hshown, ok_bind]
    refine Or.inr ⟨?_, rfl⟩
    rintro ⟨outputs, hoffers, -⟩
    exact hnone outputs hoffers

/-- The search finds the first of the given nodes that can be shown, and does not fail. -/
lemma colorFrom?_cases (hp : p .bool = false) (ids : List String) :
    (∃ color before id after, ids = before ++ id :: after ∧ scene.ShowsNode p id color ∧
      (∀ earlier ∈ before, ¬scene.CanShow p earlier) ∧
      scene.colorFrom? p ids = .ok (some color)) ∨
    (∀ id ∈ ids, ¬scene.CanShow p id) ∧ scene.colorFrom? p ids = .ok none := by
  induction ids with
  | nil => exact Or.inr ⟨fun _ h => absurd h List.not_mem_nil, rfl⟩
  | cons id rest ih =>
    rcases colorFrom?_cons_cases hids hnamed hp id rest with
      ⟨color, hshows, hcolor⟩ | ⟨hnot, hrest⟩
    · exact Or.inl ⟨color, [], id, rest, rfl, hshows, fun _ h => absurd h List.not_mem_nil, hcolor⟩
    · rw [hrest]
      rcases ih with ⟨color, before, other, after, rfl, hshows, hbefore, hcolor⟩ | ⟨hnone, hcolor⟩
      · exact Or.inl ⟨color, id :: before, other, after, rfl, hshows,
          List.forall_mem_cons.mpr ⟨hnot, hbefore⟩, hcolor⟩
      · exact Or.inr ⟨List.forall_mem_cons.mpr ⟨hnot, hnone⟩, hcolor⟩

/-- From the end of the order, the search finds the last node that can be shown. -/
lemma colorFrom?_reverse_cases (hp : p .bool = false) :
    (∃ color, scene.ShowsLast p color ∧
        scene.colorFrom? p scene.order.reverse = .ok (some color)) ∨
      (∀ id ∈ scene.order, ¬scene.CanShow p id) ∧
        scene.colorFrom? p scene.order.reverse = .ok none := by
  rcases colorFrom?_cases hids hnamed hp scene.order.reverse with
    ⟨color, before, id, after, hsplit, hshows, hbefore, hcolor⟩ | ⟨hnone, hcolor⟩
  · have horder : scene.order = after.reverse ++ id :: before.reverse := by
      rw [← List.reverse_reverse scene.order, hsplit]
      simp
    exact Or.inl ⟨color, ⟨after.reverse, id, before.reverse, horder, hshows,
      fun later hlater => hbefore later (List.mem_reverse.mp hlater)⟩, hcolor⟩
  · exact Or.inr ⟨fun id hid => hnone id (List.mem_reverse.mpr hid), hcolor⟩

/-- Without a sink there is always a color: that of the last node with a color, else that of the
last node with anything but a truth, else black. -/
lemma fallbackColor_cases :
    ∃ color, scene.fallbackColor.outcome = .ok color ∧
      (scene.ShowsLast PortType.isColor color ∨
        (∀ id ∈ scene.order, ¬scene.CanShow PortType.isColor id) ∧
          (scene.ShowsLast (· != .bool) color ∨
            (∀ id ∈ scene.order, ¬scene.CanShow (· != .bool) id) ∧ color = ⟨black, none⟩)) := by
  unfold fallbackColor
  rw [Traced.outcome_bind, Traced.outcome_liftM]
  rcases colorFrom?_reverse_cases hids hnamed (p := PortType.isColor) rfl with
    ⟨color, hshows, hcolor⟩ | ⟨hnone, hcolor⟩
  · exact ⟨color, by rw [hcolor]; rfl, Or.inl hshows⟩
  · rw [hcolor, ok_bind]
    dsimp only
    rw [Traced.outcome_bind, Traced.outcome_liftM]
    rcases colorFrom?_reverse_cases hids hnamed (p := (· != .bool)) rfl with
      ⟨color, hshows, hother⟩ | ⟨hnone', hother⟩
    · exact ⟨color, by rw [hother]; rfl, Or.inr ⟨hnone, Or.inl hshows⟩⟩
    · exact ⟨⟨black, none⟩, by rw [hother]; rfl, Or.inr ⟨hnone, Or.inr ⟨hnone', rfl⟩⟩⟩

end Named

/-- A node that is shown offers what is shown. -/
lemma ShowsNode.canShow {color : FinalColor} (h : scene.ShowsNode p id color) :
    scene.CanShow p id := by
  obtain ⟨outputs, port, type, name, hoffers, hpicks, -⟩ := h
  exact ⟨outputs, hoffers, (port, type), hpicks.mem, hpicks.fits⟩

/-- A color that a node shows is not that of a shader without nodes, and the node runs. -/
lemma ShowsLast.exists_canShow {color : FinalColor} (h : scene.ShowsLast p color) :
    color.node ≠ none ∧ ∃ id ∈ scene.order, scene.CanShow p id := by
  obtain ⟨before, id, after, horder, hshows, -⟩ := h
  refine ⟨?_, id, by simp [horder], hshows.canShow⟩
  obtain ⟨-, -, -, -, -, -, -, -, hnode⟩ := hshows
  rw [hnode]
  exact Option.some_ne_none id

/-- A color is no truth. -/
lemma CanShow.of_isColor (h : scene.CanShow PortType.isColor id) :
    scene.CanShow (· != .bool) id := by
  obtain ⟨outputs, hoffers, output, houtput, hcolor⟩ := h
  refine ⟨outputs, hoffers, output, houtput, bne_iff_ne.mpr fun hbool => ?_⟩
  rw [hbool] at hcolor
  cases hcolor

/-! ### The shown sink -/

/-- The node runs at the last of its places in the order, and at -1 if it has none. -/
def RunsAt (scene : Scene) (id : String) (place : Int) : Prop :=
  (∃ i : Nat, LastAt scene.order id i ∧ place = i) ∨ id ∉ scene.order ∧ place = -1

/-- Every node runs at one place. -/
lemma runsAt_iff {id : String} {place : Int} :
    scene.RunsAt id place ↔ scene.place id = place := by
  unfold RunsAt Scene.place position?
  cases hposition : lastPosition id scene.order with
  | some i =>
    have hlast := lastPosition_eq_some_iff.mp hposition
    have hmem : id ∈ scene.order := by
      obtain ⟨before, after, horder, -, -⟩ := hlast
      simp [horder]
    constructor
    · rintro (⟨j, hj, rfl⟩ | ⟨hnot, -⟩)
      · rw [← lastPosition_eq_some_iff, hposition] at hj
        rw [Option.some.inj hj]
      · exact absurd hmem hnot
    · rintro rfl
      exact Or.inl ⟨i, hlast, rfl⟩
  | none =>
    constructor
    · rintro (⟨i, hi, -⟩ | ⟨-, rfl⟩)
      · rw [← lastPosition_eq_some_iff, hposition] at hi
        cases hi
      · rfl
    · rintro rfl
      exact Or.inr ⟨lastPosition_eq_none_iff.mp hposition, rfl⟩

/-- Which of the sinks is shown: the only one, else the first from which no wire leads, else the
first of those that run last. -/
inductive ShownSink (scene : Scene) (sink : String) : Prop
  | only (only : scene.sinks = [sink])
  | leaf {before after : List String} (several : 2 ≤ scene.sinks.length)
      (split : scene.sinks = before ++ sink :: after)
      (earlier : ∀ id ∈ before, id ∈ scene.graph.sources) (unread : sink ∉ scene.graph.sources)
  | latest {before after : List String} {place : Int} (several : 2 ≤ scene.sinks.length)
      (split : scene.sinks = before ++ sink :: after)
      (read : ∀ id ∈ scene.sinks, id ∈ scene.graph.sources) (runs : scene.RunsAt sink place)
      (earlier : ∀ id ∈ before, ∀ other, scene.RunsAt id other → other < place)
      (later : ∀ id ∈ after, ∀ other, scene.RunsAt id other → other ≤ place)

/-- The node that runs last is the first of those with its place. -/
lemma exists_split_latest (scene : Scene) (first : String) (others : List String) :
    ∃ before after, first :: others = before ++ scene.latest first others :: after ∧
      ∀ id ∈ before, scene.place id < scene.place (scene.latest first others) := by
  induction others generalizing first with
  | nil => exact ⟨[], [], rfl, fun _ h => absurd h List.not_mem_nil⟩
  | cons second others ih =>
    rw [latest_cons]
    split
    · next hlt =>
      obtain ⟨before, after, hsplit, hbefore⟩ := ih second
      have hsecond : scene.place second ≤ scene.place (scene.latest second others) :=
        place_le_place_latest second others second List.mem_cons_self
      refine ⟨first :: before, after, congrArg (List.cons first) hsplit, ?_⟩
      exact List.forall_mem_cons.mpr ⟨lt_of_lt_of_le hlt hsecond, hbefore⟩
    · next hge =>
      obtain ⟨before, after, hsplit, hbefore⟩ := ih first
      cases before with
      | nil =>
        obtain ⟨hfirst, -⟩ := List.cons.inj hsplit
        exact ⟨[], second :: others, congrArg (· :: second :: others) hfirst,
          fun _ h => absurd h List.not_mem_nil⟩
      | cons first' before =>
        obtain ⟨rfl, hothers⟩ := List.cons.inj hsplit
        obtain ⟨hfirst, hbefore⟩ := List.forall_mem_cons.mp hbefore
        refine ⟨first :: second :: before, after,
          congrArg (fun rest => first :: second :: rest) hothers, ?_⟩
        exact List.forall_mem_cons.mpr ⟨hfirst, List.forall_mem_cons.mpr
          ⟨lt_of_le_of_lt (not_lt.mp hge) hfirst, hbefore⟩⟩

/-- When there are sinks, one of them is shown. -/
lemma exists_shownSink (h : scene.sinks ≠ []) :
    ∃ sink, scene.sink? = some sink ∧ scene.ShownSink sink := by
  unfold sink?
  split
  · next hnil => exact absurd hnil h
  · next only honly => exact ⟨only, rfl, .only honly⟩
  · next first others hothers hsinks =>
    have hseveral : 2 ≤ scene.sinks.length := by
      rw [hsinks]
      cases others with
      | nil => exact absurd rfl hothers
      | cons second others => simp
    split
    · next sink hfind =>
      obtain ⟨hleaf, before, after, hsplit, hbefore⟩ := List.find?_eq_some_iff_append.mp hfind
      refine ⟨sink, rfl, .leaf hseveral (hsinks.trans hsplit) (fun id hid => ?_) ?_⟩
      · simpa using hbefore id hid
      · simpa using hleaf
    · next hnone =>
      obtain ⟨before, after, hsplit, hbefore⟩ := scene.exists_split_latest first others
      refine ⟨_, rfl, .latest hseveral (hsinks.trans hsplit) (fun id hid => ?_)
        (runsAt_iff.mpr rfl) (fun id hid other hother => ?_) (fun id hid other hother => ?_)⟩
      · rw [hsinks] at hid
        simpa using List.find?_eq_none.mp hnone id hid
      · rw [← runsAt_iff.mp hother]
        exact hbefore id hid
      · rw [← runsAt_iff.mp hother]
        refine place_le_place_latest first others id ?_
        rw [hsplit]
        exact List.mem_append_right before (List.mem_cons_of_mem _ hid)

/-! ### What the shown sink reads -/

/-- The last wire into an input of a node comes last among the wires into it. -/
lemma getLast?_of_isLastInto {graph : Graph} {wire : Wire} {port : String}
    (h : graph.IsLastInto wire port) :
    ((graph.dataWires wire.node).filter fun entry => entry.2 = port).getLast? =
      some (wire, port) := by
  obtain ⟨before, after, hwires, htarget, hafter⟩ := h
  have hlater : ((⟨graph.nodes, after⟩ : Graph).dataWires wire.node).filter
      (fun entry => entry.2 = port) = [] := by
    rw [List.filter_eq_nil_iff]
    rintro ⟨other, name⟩ hother
    obtain ⟨hmem, hnode, hname⟩ := Graph.mem_dataWires_iff.mp hother
    rw [decide_eq_true_iff]
    rintro rfl
    exact hafter other hmem hnode hname
  have hsplit : graph.dataWires wire.node =
      (⟨graph.nodes, before⟩ : Graph).dataWires wire.node ++
        (wire, port) :: (⟨graph.nodes, after⟩ : Graph).dataWires wire.node := by
    unfold Graph.dataWires
    rw [hwires, List.filterMap_append, List.filterMap_cons_some]
    rw [if_pos rfl, Wire.port?_eq_some_iff.mpr htarget, Option.map_some]
  rw [hsplit, List.filter_append, List.filter_cons_of_pos (by simp), hlater]
  exact List.getLast?_concat ..

/-- The last wire into the color port of the sink reads the output, which a node of known type
exposes with the given type. -/
def SinkReads (scene : Scene) (sink source port : String) (type : PortType) : Prop :=
  ∃ sinkType wire outputs, scene.typeOf? sink = some sinkType ∧
    wire.source = source ∧ wire.sourcePort = port ∧ wire.node = sink ∧
    scene.graph.IsLastInto wire (scene.colorPort sinkType) ∧
    scene.Offers source outputs ∧ (port, type) ∈ outputs

section Read

variable (hids : (scene.graph.nodes.map Node.id).Nodup) (hnamed : scene.IsNamed)

include hids hnamed

/-- An output that a node of known type exposes has its type and its variable. -/
lemma Offers.exists_type (h : scene.Offers id outputs) {port : String} {portType : PortType}
    (hport : (port, portType) ∈ outputs) :
    ∃ type, scene.typeOf? id = some type ∧ type.outputType port = portType ∧
      scene.variableNames.lookup id port = some (Identifier.outputVariable id port) := by
  have hlookup := h.lookup hids hnamed port
  rw [if_pos (List.mem_map.mpr ⟨_, hport, rfl⟩)] at hlookup
  obtain ⟨node, type, ports, hnode, htype, -, rfl⟩ := (offers_iff hids).mp h
  obtain ⟨port', -, heq⟩ := List.mem_map.mp hport
  cases heq
  exact ⟨type, Option.bind_eq_some_iff.mpr ⟨node, hnode, htype⟩, rfl, hlookup⟩

/-- An output with a variable is exposed by the node of known type that it belongs to. -/
lemma exists_offers_of_lookup {type : NodeType} (htype : scene.typeOf? id = some type)
    {port name : String} (hlookup : scene.variableNames.lookup id port = some name) :
    ∃ outputs, scene.Offers id outputs ∧ (port, type.outputType port) ∈ outputs := by
  obtain ⟨node, hnode, hfind⟩ := Option.bind_eq_some_iff.mp htype
  obtain ⟨ports, hports, hports'⟩ := Variables.exists_lookup_of_node? hnamed hnode hfind
  refine ⟨_, (offers_iff hids).mpr ⟨node, type, ports, hnode, hfind, hports, rfl⟩, ?_⟩
  refine List.mem_map.mpr ⟨port, ?_, rfl⟩
  by_contra hport
  rw [hports', if_neg hport] at hlookup
  cases hlookup

/-- What the sink reads is its color. -/
lemma SinkReads.outcome_sinkColor {sink source port : String} {type : PortType}
    (h : scene.SinkReads sink source port type) :
    (scene.sinkColor sink).outcome =
      Conversion.toColor (Identifier.outputVariable source port) type := by
  obtain ⟨sinkType, wire, outputs, hsink, rfl, rfl, rfl, hlast, hoffers, hport⟩ := h
  obtain ⟨sourceType, hsource, rfl, hlookup⟩ := hoffers.exists_type hids hnamed hport
  have hwire := getLast?_of_isLastInto hlast
  unfold sinkColor
  rw [hsink]
  dsimp only
  split
  · next hnone =>
    have heq := hnone.symm.trans hwire
    cases heq
  · next other name hother =>
    have heq := hother.symm.trans hwire
    cases heq
    rw [hsource, hlookup]
    rfl

/-- A sink that reads nothing is black. -/
lemma outcome_sinkColor_of_not_reads {sink : String} {sinkType : NodeType}
    (hsink : scene.typeOf? sink = some sinkType)
    (h : ∀ source port type, ¬scene.SinkReads sink source port type) :
    (scene.sinkColor sink).outcome = .ok black := by
  unfold sinkColor
  rw [hsink]
  dsimp only
  split
  · rfl
  · next wire port hwire =>
    obtain ⟨-, hnode, hlast⟩ := isLastInto_of_getLast? hwire
    split
    · next sourceType name hsource hlookup =>
      obtain ⟨outputs, hoffers, hport⟩ := exists_offers_of_lookup hids hnamed hsource hlookup
      exact absurd ⟨sinkType, wire, outputs, hsink, rfl, rfl, hnode, hlast, hoffers, hport⟩
        (h wire.source wire.sourcePort _)
    · rfl

omit hnamed in
/-- The type of a sink is known. -/
lemma exists_typeOf?_of_mem_sinks {sink : String} (h : sink ∈ scene.sinks) :
    ∃ type, scene.typeOf? sink = some type := by
  obtain ⟨node, hnode, rfl⟩ := List.mem_map.mp h
  obtain ⟨hmem, hsink⟩ := List.mem_filter.mp hnode
  obtain ⟨type, htype⟩ := Option.isSome_iff_exists.mp (Bool.and_eq_true_iff.mp hsink).2
  exact ⟨type, Option.bind_eq_some_iff.mpr ⟨node, Graph.node?_of_mem hids hmem, htype⟩⟩

/-- The color of a sink fails exactly when the sink reads a truth, and is what the sink reads, or
black. -/
lemma sinkColor_resolved {sink : String} (hsink : sink ∈ scene.sinks) :
    (∀ fault, (scene.sinkColor sink).outcome = .error fault ↔
      fault = .conversion .bool .vec3 none ∧
        ∃ source port, scene.SinkReads sink source port .bool) ∧
    ∀ text, (scene.sinkColor sink).outcome = .ok text →
      (∃ source port type name, scene.SinkReads sink source port type ∧
        scene.variableNames.lookup source port = some name ∧
        Conversion.toColor name type = .ok text) ∨
      (∀ source port type, ¬scene.SinkReads sink source port type) ∧ text = black := by
  by_cases hreads : ∃ source port type, scene.SinkReads sink source port type
  · obtain ⟨source, port, type, hreads⟩ := hreads
    have houtcome := hreads.outcome_sinkColor hids hnamed
    refine ⟨fun fault => ⟨fun hfault => ?_, ?_⟩, fun text htext => Or.inl ?_⟩
    · obtain ⟨hfault, rfl⟩ := Conversion.toColor_eq_error (houtcome.symm.trans hfault)
      exact ⟨hfault, source, port, hreads⟩
    · rintro ⟨rfl, source', port', htruth⟩
      exact htruth.outcome_sinkColor hids hnamed
    · have hlookup : scene.variableNames.lookup source port =
          some (Identifier.outputVariable source port) := by
        obtain ⟨-, -, outputs, -, -, -, -, -, hoffers, hport⟩ := hreads
        obtain ⟨-, -, -, hlookup⟩ := hoffers.exists_type hids hnamed hport
        exact hlookup
      exact ⟨source, port, type, _, hreads, hlookup, houtcome.symm.trans htext⟩
  · have hnot : ∀ source port type, ¬scene.SinkReads sink source port type :=
      fun source port type h => hreads ⟨source, port, type, h⟩
    obtain ⟨sinkType, htype⟩ := exists_typeOf?_of_mem_sinks hids hsink
    rw [outcome_sinkColor_of_not_reads hids hnamed htype hnot]
    refine ⟨fun fault => iff_of_false (by simp) ?_, fun text htext => Or.inr ⟨hnot, ?_⟩⟩
    · rintro ⟨-, source, port, htruth⟩
      exact hnot source port .bool htruth
    · exact (Except.ok.inj htext).symm

end Read

/-- The final color of a scene whose ids differ.  Without a sink it never fails, and comes from the
last node that can be shown.  With sinks it comes from the shown one, and fails exactly when that
one reads a truth. -/
theorem finalColor_resolved {scene : Scene} (hids : (scene.graph.nodes.map Node.id).Nodup)
    (hnamed : scene.IsNamed) :
    (scene.sinks = [] → ∃ color, scene.finalColor.outcome = .ok color ∧
      (scene.ShowsLast PortType.isColor color ∨
        (∀ id ∈ scene.order, ¬scene.CanShow PortType.isColor id) ∧
          (scene.ShowsLast (· != .bool) color ∨
            (∀ id ∈ scene.order, ¬scene.CanShow (· != .bool) id) ∧ color = ⟨black, none⟩)) ∧
      (color = ⟨black, none⟩ ↔ ∀ id ∈ scene.order, ¬scene.CanShow (· != .bool) id)) ∧
    (scene.sinks ≠ [] → ∃ sink, scene.ShownSink sink ∧
      (∀ fault, scene.finalColor.outcome = .error fault ↔
        fault = .conversion .bool .vec3 none ∧
          ∃ source port, scene.SinkReads sink source port .bool) ∧
      ∀ color, scene.finalColor.outcome = .ok color → color.node = some sink ∧
        ((∃ source port type name, scene.SinkReads sink source port type ∧
            scene.variableNames.lookup source port = some name ∧
            Conversion.toColor name type = .ok color.expression) ∨
          (∀ source port type, ¬scene.SinkReads sink source port type) ∧
            color.expression = black)) := by
  constructor
  · intro hnone
    have hsink : scene.sink? = none := by
      unfold sink?
      rw [hnone]
    obtain ⟨color, hcolor, hshows⟩ := fallbackColor_cases hids hnamed
    refine ⟨color, ?_, hshows, ?_⟩
    · unfold finalColor
      rw [hsink]
      exact hcolor
    · constructor
      · rintro rfl
        rcases hshows with hshows | ⟨-, hshows | ⟨hnone, -⟩⟩
        · exact absurd rfl hshows.exists_canShow.1
        · exact absurd rfl hshows.exists_canShow.1
        · exact hnone
      · intro hnothing
        rcases hshows with hshows | ⟨-, hshows | ⟨-, hblack⟩⟩
        · obtain ⟨-, id, hid, hcan⟩ := hshows.exists_canShow
          exact absurd hcan.of_isColor (hnothing id hid)
        · obtain ⟨-, id, hid, hcan⟩ := hshows.exists_canShow
          exact absurd hcan (hnothing id hid)
        · exact hblack
  · intro hsome
    obtain ⟨sink, hsink, hshown⟩ := exists_shownSink hsome
    obtain ⟨hfails, hshows⟩ := sinkColor_resolved hids hnamed (mem_sinks_of_sink? hsink)
    rw [finalColor_of_sink? hsink, Traced.outcome_bind]
    refine ⟨sink, hshown, fun fault => ?_, fun color hcolor => ?_⟩
    · rw [← hfails, bind_eq_error_iff]
      refine or_iff_left ?_
      rintro ⟨text, -, herror⟩
      cases herror
    · obtain ⟨text, htext, hcolor⟩ := bind_eq_ok_iff.mp hcolor
      cases hcolor
      exact ⟨rfl, hshows text htext⟩

/-- A probe that makes a truth and a color, with the given sinks and wires. -/
def probed (sinks : List String) (wires : List Wire) : Scene :=
  let probe : Node := ⟨"p", "probe", Table.empty, Table.empty⟩
  let graph : Graph :=
    { nodes := probe :: sinks.map fun id => ⟨id, "final-output", Table.empty, Table.empty⟩, wires }
  let catalog : Catalog := ⟨Table.ofList
    [("probe",
      { id := "probe", displayName := "Probe", category := "Logic", inputs := []
        outputs := [⟨"flag", .bool, none⟩, ⟨"tint", .vec4, none⟩], parameters := Table.empty
        mainCode := "$output.tint = vec4(1.0);", functions := none, description := "" }),
     ("final-output",
      { id := "final-output", displayName := "Final", category := "Output"
        inputs := [⟨"in", .vec3, none⟩], outputs := [], parameters := Table.empty
        mainCode := "", functions := none, description := "" })]⟩
  { graph, catalog, order := "p" :: sinks, uniforms := Table.empty, renames := Table.empty
    settings := {}
    variableNames := (Variables.generate graph catalog {}).toOption.getD Table.empty }

/-- The wires into the second of two sinks, which nothing reads. -/
def probedWires : List Wire :=
  [⟨"s", "out", "p", .port "x"⟩, ⟨"p", "tint", "t", .port "in"⟩, ⟨"p", "flag", "t", .port "in"⟩]

/-- Three sinks, each of them read.  The first runs before and after the second, and the third does
not run. -/
def probedAgain : Scene :=
  { probed ["s", "t", "r"]
      [⟨"s", "out", "p", .port "x"⟩, ⟨"t", "out", "p", .port "x"⟩, ⟨"r", "out", "p", .port "x"⟩,
        ⟨"p", "tint", "s", .port "in"⟩, ⟨"p", "flag", "t", .port "in"⟩,
        ⟨"p", "flag", "r", .port "in"⟩] with
    order := ["p", "s", "t", "s"] }

/-- Without a sink the color of the probe is shown, and with two sinks the truth that the second one
reads last stops the search.  Of three sinks that are all read, the one whose last place comes last
is shown. -/
theorem finalColor_resolved_probed :
    (probed [] []).finalColor.outcome.toOption = some ⟨"node_p_tint.rgb", some "p"⟩ ∧
    (∃ id ∈ (probed [] []).order, (probed [] []).CanShow (· != .bool) id) ∧
    (probed ["s", "t"] probedWires).finalColor.outcome = .error (.conversion .bool .vec3 none) ∧
    (∃ sink source port, (probed ["s", "t"] probedWires).ShownSink sink ∧
      (probed ["s", "t"] probedWires).SinkReads sink source port .bool) ∧
    (∀ id ∈ probedAgain.sinks, id ∈ probedAgain.graph.sources) ∧
    probedAgain.RunsAt "s" 3 ∧ probedAgain.RunsAt "t" 2 ∧ probedAgain.RunsAt "r" (-1) ∧
    probedAgain.finalColor.outcome.toOption = some ⟨"node_p_tint.rgb", some "s"⟩ ∧
    probedAgain.ShownSink "s" := by
  have hshown : (probed [] []).finalColor.outcome.toOption =
      some ⟨"node_p_tint.rgb", some "p"⟩ := by decide +kernel
  have hfault : (probed ["s", "t"] probedWires).finalColor.outcome =
      .error (.conversion .bool .vec3 none) :=
    failedConversion?_eq_some_iff.mp (by decide +kernel)
  have hnamed : (probed [] []).IsNamed := eq_ok_of_isSome_toOption Table.empty (by decide +kernel)
  have hnamed' : (probed ["s", "t"] probedWires).IsNamed :=
    eq_ok_of_isSome_toOption Table.empty (by decide +kernel)
  have hagain : probedAgain.finalColor.outcome.toOption = some ⟨"node_p_tint.rgb", some "s"⟩ := by
    decide +kernel
  have hnamed'' : probedAgain.IsNamed := eq_ok_of_isSome_toOption Table.empty (by decide +kernel)
  refine ⟨hshown, ?_, hfault, ?_, by decide, runsAt_iff.mpr rfl, runsAt_iff.mpr rfl,
    runsAt_iff.mpr rfl, hagain, ?_⟩
  · obtain ⟨color, hcolor, -, hblack⟩ := (finalColor_resolved (by decide) hnamed).1 (by decide)
    rw [hcolor] at hshown
    by_contra hnone
    rw [hblack.mpr fun id hid hcan => hnone ⟨id, hid, hcan⟩] at hshown
    have hnode := congrArg FinalColor.node (Option.some.inj hshown)
    cases hnode
  · obtain ⟨sink, hsink, hfails, -⟩ :=
      (finalColor_resolved (by decide) hnamed').2 (by decide)
    obtain ⟨-, source, port, hreads⟩ := (hfails _).mp hfault
    exact ⟨sink, source, port, hsink, hreads⟩
  · obtain ⟨sink, hsink, -, hcolors⟩ :=
      (finalColor_resolved (by decide) hnamed'').2 (by decide)
    have hnode := (hcolors _ (eq_ok_of_toOption_eq_some hagain)).1
    cases hnode
    exact hsink

end Scene

end ShaderLoom
