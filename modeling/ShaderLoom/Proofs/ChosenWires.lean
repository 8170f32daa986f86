import ShaderLoom.Proofs.Placeholders
import ShaderLoom.Proofs.WireSelection

/-!
# The wire that a parameter follows

A wire into a float parameter is eligible when its source is known and runs before the node.  The
wires are gone through as they are listed.  An eligible wire is taken when its source runs later
than those of all eligible wires into the parameter that are listed before it, and only then is its
value converted.  So a truth stops the search only if it is taken, even if a later wire would take
its place; and what is left in the end is, for each parameter, the first of the wires whose sources
run last.
-/

namespace ShaderLoom

namespace Scope

variable {scope : Scope} {wires before : List Wire} {name : String} {wire : Wire}
  {type : PortType} {place : Nat}

/-! ### Eligible wires -/

/-- The wire leads to the float parameter called `name` of the node.  It brings a value of the given
type from a source whose last place in the order comes before that of the node.  If the node has no
place, every place comes before it. -/
structure Eligible (scope : Scope) (name : String) (wire : Wire) (type : PortType) (place : Nat) :
    Prop where
  node : wire.node = scope.node.id
  target : wire.target = .parameter name
  float : (scope.type.parameter? name).map Parameter.type = some .float
  known : ∃ sourceType, scope.scene.typeOf? wire.source = some sourceType ∧
    sourceType? scope.scene wire.source sourceType wire.sourcePort = some type
  placed : LastAt scope.scene.order wire.source place
  early : ∀ i, LastAt scope.scene.order scope.node.id i → place < i

/-- A wire carries a type when it leads into a float parameter and its source is known. -/
lemma carriedType_eq_ok_iff : scope.carriedType wire name = .ok type ↔
    (scope.type.parameter? name).map Parameter.type = some .float ∧
      ∃ sourceType, scope.scene.typeOf? wire.source = some sourceType ∧
        sourceType? scope.scene wire.source sourceType wire.sourcePort = some type := by
  unfold carriedType
  dsimp only
  split
  · next hfloat => simp [hfloat]
  next hfloat =>
  rw [not_not] at hfloat
  cases hsource : scope.scene.typeOf? wire.source with
  | none => simp
  | some sourceType =>
    cases htype : sourceType? scope.scene wire.source sourceType wire.sourcePort <;>
      simp [hfloat, htype]

/-- A place comes before the deadline of a node when it comes before the place of the node. -/
lemma turn?_eq_some_iff_lastAt : scope.turn? wire = some place ↔
    LastAt scope.scene.order wire.source place ∧
      ∀ i, LastAt scope.scene.order scope.node.id i → place < i := by
  have hposition : scope.scene.position? wire.source = some place ↔
      LastAt scope.scene.order wire.source place := lastPosition_eq_some_iff
  rw [turn?_eq_some_iff, hposition]
  refine and_congr_right fun hplaced => ?_
  unfold deadline Scene.position?
  cases hnode : lastPosition scope.node.id scope.scene.order with
  | some j =>
    rw [Option.getD_some]
    constructor
    · intro hlt i hi
      rw [← lastPosition_eq_some_iff, hnode] at hi
      cases hi
      exact hlt
    · exact fun h => h j (lastPosition_eq_some_iff.mp hnode)
  | none =>
    rw [Option.getD_none]
    refine iff_of_true (lastPosition_lt_length (lastPosition_eq_some_iff.mpr hplaced)) ?_
    intro i hi
    rw [← lastPosition_eq_some_iff, hnode] at hi
    cases hi

/-- What the choice looks at in a wire. -/
lemma eligible_iff : scope.Eligible name wire type place ↔
    wire.node = scope.node.id ∧ wire.target = .parameter name ∧
      scope.carriedType wire name = .ok type ∧ scope.turn? wire = some place := by
  rw [carriedType_eq_ok_iff, turn?_eq_some_iff_lastAt]
  constructor
  · rintro ⟨hnode, htarget, hfloat, hknown, hplaced, hearly⟩
    exact ⟨hnode, htarget, ⟨hfloat, hknown⟩, hplaced, hearly⟩
  · rintro ⟨hnode, htarget, ⟨hfloat, hknown⟩, hplaced, hearly⟩
    exact ⟨hnode, htarget, hfloat, hknown, hplaced, hearly⟩

/-- A wire brings one type from one place to one parameter. -/
lemma Eligible.unique {name' : String} {type' : PortType} {place' : Nat}
    (h : scope.Eligible name wire type place) (h' : scope.Eligible name' wire type' place') :
    name = name' ∧ type = type' ∧ place = place' := by
  have hname := h.target.symm.trans h'.target
  cases hname
  obtain ⟨-, -, htype, hplace⟩ := eligible_iff.mp h
  obtain ⟨-, -, htype', hplace'⟩ := eligible_iff.mp h'
  rw [htype] at htype'
  rw [hplace] at hplace'
  exact ⟨rfl, Except.ok.inj htype', Option.some.inj hplace'⟩

/-! ### The wire that is chosen -/

/-- The places of all eligible wires into the parameter among the given ones have the property. -/
def AllPlaces (scope : Scope) (name : String) (wires : List Wire) (p : Nat → Prop) : Prop :=
  ∀ wire ∈ wires, ∀ type place, scope.Eligible name wire type place → p place

/-- The wire is eligible, and its source runs later than those of all eligible wires into the
parameter that are listed before it. -/
def Leads (scope : Scope) (name : String) (wires : List Wire) (wire : Wire) (type : PortType)
    (place : Nat) : Prop :=
  ∃ before, before ++ [wire] <+: wires ∧ scope.Eligible name wire type place ∧
    scope.AllPlaces name before (· < place)

/-- The wire is the first of the eligible wires into the parameter whose sources run last. -/
def IsChosen (scope : Scope) (name : String) (wires : List Wire) (wire : Wire) (type : PortType)
    (place : Nat) : Prop :=
  scope.Leads name wires wire type place ∧ scope.AllPlaces name wires (· ≤ place)

/-- Some wire that is taken brings a truth. -/
def TakesTruth (scope : Scope) (wires : List Wire) : Prop :=
  ∃ name wire place, scope.Leads name wires wire .bool place

/-- The wire brings a truth and would be taken after the given ones. -/
def BringsTruth (scope : Scope) (wires : List Wire) (wire : Wire) : Prop :=
  ∃ name place, scope.Eligible name wire .bool place ∧ scope.AllPlaces name wires (· < place)

lemma allPlaces_concat {p : Nat → Prop} : scope.AllPlaces name (wires ++ [wire]) p ↔
    scope.AllPlaces name wires p ∧ ∀ type place, scope.Eligible name wire type place → p place := by
  unfold AllPlaces
  simp only [List.mem_append, List.mem_singleton, or_imp, forall_and, forall_eq]

/-- With one more wire, the new one leads if its source runs later than all others. -/
lemma leads_concat {last : Wire} : scope.Leads name (wires ++ [last]) wire type place ↔
    scope.Leads name wires wire type place ∨
      wire = last ∧ scope.Eligible name last type place ∧
        scope.AllPlaces name wires (· < place) := by
  unfold Leads
  constructor
  · rintro ⟨before, hstart, heligible, hplaces⟩
    rcases List.prefix_concat_iff.mp hstart with heq | hstart
    · obtain ⟨rfl, rfl⟩ := List.append_singleton_inj.mp heq
      exact Or.inr ⟨rfl, heligible, hplaces⟩
    · exact Or.inl ⟨before, hstart, heligible, hplaces⟩
  · rintro (⟨before, hstart, heligible, hplaces⟩ | ⟨rfl, heligible, hplaces⟩)
    · exact ⟨before, hstart.trans (List.prefix_append wires [last]), heligible, hplaces⟩
    · exact ⟨wires, List.prefix_rfl, heligible, hplaces⟩

/-- A truth is taken among several wires, or the last one brings it. -/
lemma takesTruth_concat {last : Wire} : scope.TakesTruth (wires ++ [last]) ↔
    scope.TakesTruth wires ∨ scope.BringsTruth wires last := by
  unfold TakesTruth BringsTruth
  simp only [leads_concat]
  constructor
  · rintro ⟨name, wire, place, h | ⟨rfl, h⟩⟩
    · exact Or.inl ⟨name, wire, place, h⟩
    · exact Or.inr ⟨name, place, h⟩
  · rintro (⟨name, wire, place, h⟩ | ⟨name, place, h⟩)
    · exact ⟨name, wire, place, Or.inl h⟩
    · exact ⟨name, last, place, Or.inr ⟨rfl, h⟩⟩

/-- Two wires cannot both be the first of those whose sources run last. -/
lemma IsChosen.unique {wire' : Wire} {type' : PortType} {place' : Nat}
    (h : scope.IsChosen name wires wire type place)
    (h' : scope.IsChosen name wires wire' type' place') :
    wire = wire' ∧ type = type' ∧ place = place' := by
  obtain ⟨⟨before, hstart, heligible, hplaces⟩, hall⟩ := h
  obtain ⟨⟨before', hstart', heligible', hplaces'⟩, hall'⟩ := h'
  have hmem : wire ∈ wires := hstart.subset (by simp)
  have hmem' : wire' ∈ wires := hstart'.subset (by simp)
  have hplace : place = place' := Nat.le_antisymm (hall' wire hmem type place heligible)
    (hall wire' hmem' type' place' heligible')
  subst hplace
  have hwire : wire = wire' := by
    -- the one that is listed first would run earlier
    rcases List.prefix_or_prefix_of_prefix hstart hstart' with h | h
    · rcases List.prefix_concat_iff.mp h with heq | h
      · exact (List.append_singleton_inj.mp heq).2
      · have := hplaces' wire (h.subset (by simp)) type place heligible
        exact absurd this (Nat.lt_irrefl place)
    · rcases List.prefix_concat_iff.mp h with heq | h
      · exact (List.append_singleton_inj.mp heq).2.symm
      · have := hplaces wire' (h.subset (by simp)) type' place heligible'
        exact absurd this (Nat.lt_irrefl place)
  subst hwire
  exact ⟨rfl, (heligible.unique heligible').2.1, rfl⟩

/-! ### One wire after the other -/

/-- What the wire brings to a parameter. -/
def carried (scope : Scope) (wire : Wire) (type : PortType) : Except Fault String :=
  Conversion.toParameter (some scope.node.id) (scope.variableOf wire) type

/-- The parameter of the node that a wire leads to. -/
def parameterOf? (scope : Scope) (wire : Wire) : Option String :=
  if wire.node = scope.node.id then wire.parameter? else none

/-- The table of parameter wires with one more wire, which may lead anywhere. -/
def meetWire (scope : Scope) (chosen : Table (Nat × String)) (wire : Wire) :
    Except Fault (Table (Nat × String)) :=
  match scope.parameterOf? wire with
  | none => .ok chosen
  | some name => (scope.addParameterWire chosen wire name).outcome

/-- The parameter of the node that a wire leads into. -/
lemma parameterOf?_eq_some_iff : scope.parameterOf? wire = some name ↔
    wire.node = scope.node.id ∧ wire.target = .parameter name := by
  unfold parameterOf? Wire.parameter?
  split
  · next hnode =>
    cases wire.target with
    | port port => simp [hnode]
    | parameter other => simp [hnode]
  · next hnode => simp [hnode]

/-- The wires are gone through as they are listed. -/
lemma outcome_parameterWires (scope : Scope) :
    scope.parameterWires.outcome =
      scope.scene.graph.wires.foldlM scope.meetWire Table.empty >>= fun chosen =>
        .ok (chosen.map Prod.snd) := by
  unfold parameterWires Graph.parameterWires
  rw [Traced.outcome_bind, Traced.outcome_foldlM, List.foldlM_filterMap]
  congr 2
  funext chosen wire
  unfold meetWire parameterOf?
  by_cases hnode : wire.node = scope.node.id
  · simp only [if_pos hnode]
    cases wire.parameter? <;> rfl
  · simp only [if_neg hnode]
    rfl

/-- A wire that is not eligible changes nothing. -/
lemma meetWire_of_not_eligible (h : ∀ name type place, ¬scope.Eligible name wire type place)
    (chosen : Table (Nat × String)) : scope.meetWire chosen wire = .ok chosen := by
  unfold meetWire
  cases hname : scope.parameterOf? wire with
  | none => rfl
  | some name =>
    obtain ⟨hnode, htarget⟩ := parameterOf?_eq_some_iff.mp hname
    dsimp only
    rw [addParameterWire_eq]
    cases htype : scope.carriedType wire name with
    | error reason => rfl
    | ok type =>
      cases hplace : scope.turn? wire with
      | none => rfl
      | some place =>
        exact absurd (eligible_iff.mpr ⟨hnode, htarget, htype, hplace⟩) (h name type place)

/-- An eligible wire is compared with the one that was chosen so far, and converted if it is
taken. -/
lemma Eligible.meetWire_eq (h : scope.Eligible name wire type place)
    (chosen : Table (Nat × String)) :
    scope.meetWire chosen wire =
      if ((chosen.find? name).map Prod.fst).any (place ≤ ·) then .ok chosen
      else scope.carried wire type >>= fun expr => .ok (chosen.insert name (place, expr)) := by
  obtain ⟨hnode, htarget, htype, hplace⟩ := eligible_iff.mp h
  unfold meetWire
  rw [parameterOf?_eq_some_iff.mpr ⟨hnode, htarget⟩]
  dsimp only
  rw [addParameterWire_eq, htype, hplace]
  dsimp only
  unfold takeWire
  split
  · rfl
  · rw [Traced.outcome_bind, outcome_sourceVariable, ok_bind, Traced.outcome_bind,
      Traced.outcome_liftM]
    rfl

/-- What the table holds when the given wires were met: for every parameter with an eligible wire,
what the chosen one brings. -/
structure Holds (scope : Scope) (wires : List Wire) (chosen : Table (Nat × String)) : Prop where
  keys : chosen.keys.Nodup
  missing : ∀ name, chosen.find? name = none ↔ scope.AllPlaces name wires fun _ => False
  found : ∀ name place expr, chosen.find? name = some (place, expr) →
    ∃ wire type, scope.IsChosen name wires wire type place ∧ scope.carried wire type = .ok expr

lemma holds_nil : scope.Holds [] Table.empty where
  keys := Table.nodup_keys_empty
  missing _ := iff_of_true rfl fun _ h => absurd h List.not_mem_nil
  found _ _ _ h := by cases h

namespace Holds

variable {chosen : Table (Nat × String)} (h : scope.Holds wires chosen)

include h

/-- A wire loses to what the table holds exactly when some eligible wire listed before it comes
from a place that is not earlier. -/
lemma any_le_iff : ((chosen.find? name).map Prod.fst).any (place ≤ ·) = true ↔
    ¬scope.AllPlaces name wires (· < place) := by
  cases hfind : chosen.find? name with
  | none =>
    have hnone := (h.missing name).mp hfind
    refine iff_of_false (by simp) ?_
    rw [not_not]
    exact fun wire hwire type place heligible => (hnone wire hwire type place heligible).elim
  | some kept =>
    obtain ⟨place', expr⟩ := kept
    obtain ⟨wire', type', ⟨⟨before, hstart, heligible, -⟩, hall⟩, -⟩ :=
      h.found name place' expr hfind
    rw [Option.map_some, Option.any_some, decide_eq_true_iff]
    constructor
    · intro hle hlt
      exact absurd (hlt wire' (hstart.subset (by simp)) type' place' heligible) (Nat.not_lt.mpr hle)
    · intro hnot
      by_contra hlt
      refine hnot fun wire hwire type place heligible => ?_
      exact Nat.lt_of_le_of_lt (hall wire hwire type place heligible) (Nat.lt_of_not_le hlt)

/-- A wire that changes nothing for a parameter keeps the chosen one. -/
lemma found_concat (hlast : ∀ type place, scope.Eligible name wire type place →
      ¬scope.AllPlaces name wires (· < place)) {place' : Nat} {expr : String}
    (hfind : chosen.find? name = some (place', expr)) :
    ∃ other type, scope.IsChosen name (wires ++ [wire]) other type place' ∧
      scope.carried other type = .ok expr := by
  obtain ⟨other, type, ⟨hleads, hall⟩, hexpr⟩ := h.found name place' expr hfind
  refine ⟨other, type, ⟨leads_concat.mpr (Or.inl hleads), allPlaces_concat.mpr ⟨hall, ?_⟩⟩, hexpr⟩
  intro type'' place'' heligible
  by_contra hlt
  refine hlast type'' place'' heligible fun wire hwire type place heligible' => ?_
  exact Nat.lt_of_le_of_lt (hall wire hwire type place heligible') (Nat.lt_of_not_le hlt)

/-- A wire that is not taken keeps the table. -/
lemma keep (hlast : ∀ name type place, scope.Eligible name wire type place →
      ¬scope.AllPlaces name wires (· < place)) : scope.Holds (wires ++ [wire]) chosen where
  keys := h.keys
  missing name := by
    rw [h.missing, allPlaces_concat]
    refine (and_iff_left_of_imp fun hnone type place heligible => ?_).symm
    exact hlast name type place heligible fun wire hwire type place heligible' =>
      (hnone wire hwire type place heligible').elim
  found name _ _ hfind := h.found_concat (hlast name) hfind

/-- A wire that is taken has its value in the table. -/
lemma take (heligible : scope.Eligible name wire type place)
    (hplaces : scope.AllPlaces name wires (· < place)) {expr : String}
    (hexpr : scope.carried wire type = .ok expr) :
    scope.Holds (wires ++ [wire]) (chosen.insert name (place, expr)) := by
  -- the wire leads to one parameter only
  have hother : ∀ {name' : String}, name ≠ name' → ∀ type' place',
      ¬scope.Eligible name' wire type' place' :=
    fun hne _ _ heligible' => hne (heligible.unique heligible').1
  refine ⟨Table.nodup_keys_insert h.keys name (place, expr), fun name' => ?_,
    fun name' place' expr' hfind => ?_⟩
  · rw [Table.find?_insert, allPlaces_concat]
    split
    · next heq =>
      subst heq
      exact iff_of_false (by simp) fun hnone => hnone.2 type place heligible
    · next hne =>
      rw [h.missing]
      exact (and_iff_left fun type' place' heligible' =>
        hother hne type' place' heligible').symm
  · rw [Table.find?_insert] at hfind
    split at hfind
    · next heq =>
      subst heq
      cases hfind
      refine ⟨wire, type, ⟨leads_concat.mpr (Or.inr ⟨rfl, heligible, hplaces⟩),
        allPlaces_concat.mpr ⟨?_, ?_⟩⟩, hexpr⟩
      · intro other hmem type' place' heligible'
        exact (hplaces other hmem type' place' heligible').le
      · intro type' place' heligible'
        exact (heligible.unique heligible').2.2.symm.le
    · next hne =>
      exact h.found_concat
        (fun type' place' heligible' => absurd heligible' (hother hne type' place')) hfind

end Holds

/-- One more wire stops the search if it would be taken and brings a truth, and is met by the table
otherwise. -/
lemma Holds.meetWire_cases {chosen : Table (Nat × String)} (h : scope.Holds wires chosen)
    (wire : Wire) :
    (¬scope.BringsTruth wires wire ∧ ∃ chosen', scope.meetWire chosen wire = .ok chosen' ∧
        scope.Holds (wires ++ [wire]) chosen') ∨
      scope.BringsTruth wires wire ∧ scope.meetWire chosen wire =
        .error (.conversion .bool .float (some scope.node.id)) := by
  by_cases heligible : ∃ name type place, scope.Eligible name wire type place
  · obtain ⟨name, type, place, heligible⟩ := heligible
    rw [heligible.meetWire_eq]
    by_cases hplaces : scope.AllPlaces name wires (· < place)
    · rw [if_neg fun hany => h.any_le_iff.mp hany hplaces]
      by_cases htype : type = .bool
      · subst htype
        exact Or.inr ⟨⟨name, place, heligible, hplaces⟩, rfl⟩
      · obtain ⟨expr, hexpr⟩ : ∃ expr, scope.carried wire type = .ok expr :=
          Conversion.exists_toParameter htype _ _
        refine Or.inl ⟨?_, _, by rw [hexpr]; rfl, h.take heligible hplaces hexpr⟩
        rintro ⟨name', place', hbool, -⟩
        exact htype (heligible.unique hbool).2.1
    · rw [if_pos (h.any_le_iff.mpr hplaces)]
      refine Or.inl ⟨?_, chosen, rfl, h.keep ?_⟩
      · rintro ⟨name', place', hbool, hplaces'⟩
        obtain ⟨rfl, -, rfl⟩ := heligible.unique hbool
        exact hplaces hplaces'
      · intro name' type' place' heligible'
        obtain ⟨rfl, -, rfl⟩ := heligible.unique heligible'
        exact hplaces
  · refine Or.inl ⟨?_, chosen, meetWire_of_not_eligible ?_ chosen, h.keep ?_⟩
    · rintro ⟨name, place, hbool, -⟩
      exact heligible ⟨name, .bool, place, hbool⟩
    · exact fun name type place h => heligible ⟨name, type, place, h⟩
    · exact fun name type place h => absurd ⟨name, type, place, h⟩ heligible

/-- When wires are met one after the other, either none that is taken brings a truth, and the table
holds what the chosen ones bring, or the first such wire stops the search. -/
lemma foldlM_meetWire (scope : Scope) (wires : List Wire) :
    (¬scope.TakesTruth wires ∧ ∃ chosen, wires.foldlM scope.meetWire Table.empty = .ok chosen ∧
        scope.Holds wires chosen) ∨
      scope.TakesTruth wires ∧ wires.foldlM scope.meetWire Table.empty =
        .error (.conversion .bool .float (some scope.node.id)) := by
  induction wires using List.reverseRecOn with
  | nil =>
    refine Or.inl ⟨?_, Table.empty, rfl, holds_nil⟩
    rintro ⟨name, wire, place, before, hstart, -⟩
    exact absurd (List.prefix_nil.mp hstart) (by simp)
  | append_singleton wires wire ih =>
    rw [foldlM_concat, takesTruth_concat]
    rcases ih with ⟨hnone, chosen, hchosen, hholds⟩ | ⟨htruth, herror⟩
    · rw [hchosen, ok_bind]
      rcases hholds.meetWire_cases wire with ⟨hlast, hnext⟩ | ⟨hlast, herror⟩
      · exact Or.inl ⟨not_or.mpr ⟨hnone, hlast⟩, hnext⟩
      · exact Or.inr ⟨Or.inr hlast, herror⟩
    · exact Or.inr ⟨Or.inl htruth, by rw [herror]; rfl⟩

/-! ### What is left in the end -/

namespace Holds

variable {chosen : Table (Nat × String)} (h : scope.Holds wires chosen)

include h

/-- The parameters in the table are those with an eligible wire. -/
lemma mem_keys_iff : name ∈ chosen.keys ↔
    ∃ wire ∈ wires, ∃ type place, scope.Eligible name wire type place := by
  rw [Table.mem_keys_iff, ← Option.ne_none_iff_exists', ne_eq, h.missing]
  unfold AllPlaces
  push Not
  simp

/-- What the table holds for a parameter is what the chosen wire brings. -/
lemma find?_map_snd_iff {expr : String} : (chosen.map Prod.snd).find? name = some expr ↔
    ∃ wire type place, scope.IsChosen name wires wire type place ∧
      scope.carried wire type = .ok expr := by
  rw [Table.find?_map, Option.map_eq_some_iff]
  constructor
  · rintro ⟨⟨place, expr⟩, hfind, rfl⟩
    obtain ⟨wire, type, hchosen, hexpr⟩ := h.found name place expr hfind
    exact ⟨wire, type, place, hchosen, hexpr⟩
  · rintro ⟨wire, type, place, hchosen, hexpr⟩
    obtain ⟨before, hstart, heligible, -⟩ := hchosen.1
    cases hfind : chosen.find? name with
    | none =>
      exact ((h.missing name).mp hfind wire (hstart.subset (by simp)) type place heligible).elim
    | some kept =>
      obtain ⟨place', expr'⟩ := kept
      obtain ⟨wire', type', hchosen', hexpr'⟩ := h.found name place' expr' hfind
      obtain ⟨rfl, rfl, rfl⟩ := hchosen.unique hchosen'
      rw [hexpr] at hexpr'
      cases hexpr'
      exact ⟨(place, expr), rfl, rfl⟩

end Holds

/-- The wires into parameters of a node are resolved unless one that is taken brings a truth; then
every parameter with an eligible wire follows the first of those whose sources run last. -/
theorem parameterWires_selected (scope : Scope) :
    (∀ fault, scope.parameterWires.outcome = .error fault ↔
      fault = .conversion .bool .float (some scope.node.id) ∧
        ∃ name wire place, scope.Leads name scope.scene.graph.wires wire .bool place) ∧
    ∀ table, scope.parameterWires.outcome = .ok table → table.keys.Nodup ∧
      (∀ name, name ∈ table.keys ↔
        ∃ wire ∈ scope.scene.graph.wires, ∃ type place, scope.Eligible name wire type place) ∧
      ∀ name expr, table.find? name = some expr ↔
        ∃ wire type place, scope.IsChosen name scope.scene.graph.wires wire type place ∧
          Conversion.toParameter (some scope.node.id) (scope.variableOf wire) type = .ok expr := by
  rw [outcome_parameterWires]
  rcases scope.foldlM_meetWire scope.scene.graph.wires with
    ⟨hnone, chosen, hchosen, hholds⟩ | ⟨htruth, herror⟩
  · rw [hchosen, ok_bind]
    refine ⟨fun fault => iff_of_false (by simp) fun h => hnone h.2, fun table h => ?_⟩
    cases h
    have hkeys : (chosen.map Prod.snd).keys = chosen.keys := by
      simp [Table.keys, Table.map, Function.comp_def]
    rw [hkeys]
    exact ⟨hholds.keys, fun name => hholds.mem_keys_iff, fun name expr => hholds.find?_map_snd_iff⟩
  · rw [herror]
    refine ⟨fun fault => ⟨fun h => ?_, fun h => ?_⟩, fun table h => by cases h⟩
    · cases h
      exact ⟨rfl, htruth⟩
    · rw [h.1]
      rfl

end Scope

end ShaderLoom
