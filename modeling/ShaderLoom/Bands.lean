import ShaderLoom.Graph
import ShaderLoom.Settings
import ShaderLoom.Value.Grid

/-!
# Frequency bands

An audio analyzer has two outputs for each of its frequency bands, so the outputs of a node depend
on what its author set.
-/

namespace ShaderLoom

/-- The parameter that holds the frequency bands. -/
def bandsParameter : String := "frequencyBands"

/-- The bands that a value spells: a grid of two levels with at least one row.  Anything else is
passed over, except that an integer which is too large is a fault. -/
def bandsOfValue? (value : Value) : Except Fault (Option (List (List Double))) :=
  match value.toGrid with
  | .ok grid => match grid.shape with
    | [count, _] => .ok (if 0 < count then some grid.rows else none)
    | _ => .ok none
  | .error .tooLarge => .error (.number .tooLarge)
  | .error _ => .ok none

namespace Node

/-- The values that may spell the bands of a node: the author's, then that of the node type. -/
def bandsCandidates (node : Node) (type : NodeType) : List Value :=
  (node.value? bandsParameter).toList
    ++ ((type.parameter? bandsParameter).bind fun parameter => parameter.default.given?).toList

/-- The first bands that one of the values spells, else those of `fallback`, which has to be a
grid. -/
def firstBands (fallback : Value) : List Value → Except Fault (List (List Double))
  | [] => (fallback.toGrid.map Grid.rows).mapError .number
  | value :: rest => do
    match ← bandsOfValue? value with
    | some bands => return bands
    | none => firstBands fallback rest

/-- The frequency bands of a node. -/
def bands (node : Node) (type : NodeType) (settings : Settings) :
    Except Fault (List (List Double)) :=
  firstBands settings.defaultBands (node.bandsCandidates type)

end Node

/-- The outputs of an analyzer with the given number of bands: the bands, then their remapped
values. -/
def analyzerPorts (count : Nat) : List String :=
  (List.range count).map (fun band => "band" ++ toString band)
    ++ (List.range count).map (fun band => "remap" ++ toString band)

/-- The outputs that a node exposes. -/
def Node.outputNames (node : Node) (type : NodeType) (settings : Settings) :
    Except Fault (List String) :=
  if type.id = settings.audioAnalyzerType then do
    return analyzerPorts (← node.bands type settings).length
  else .ok (type.outputs.map Port.name)

end ShaderLoom
