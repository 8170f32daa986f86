import ShaderLoom.Palette.Basic

/-!
# Coordinates, time and constants

Nodes that make values of their own and read no input.
-/

namespace ShaderLoom.Palette

/-- A node type that reads no input and has one output. -/
def source (id displayName description : String) (type : PortType)
    (parameters : List (String × Parameter)) (mainCode : String) : NodeType where
  id := id
  displayName := displayName
  category := "Inputs"
  inputs := []
  outputs := [port "out" type]
  parameters := Table.ofList parameters
  mainCode := mainCode
  functions := none
  description := description

/-- A component of a constant. -/
def component (default : Int) : Parameter := bounded default (-100000) 100000 none

def uvCoordinates : NodeType :=
  source "uv-coordinates" "UV Coordinates" "Aspect-corrected, centered screen coordinates" .vec2 []
    "
    $output.out = $p;
    "

def time : NodeType :=
  source "time" "Time" "Seconds since playback started" .float []
    "
    $output.out = $time;
    "

def resolution : NodeType :=
  source "resolution" "Resolution" "Viewport size in pixels" .vec2 []
    "
    $output.out = $resolution;
    "

def fragmentCoordinates : NodeType :=
  source "fragment-coordinates" "Fragment Coordinates"
    "Window-space pixel coordinates (gl_FragCoord.xy)" .vec2 []
    "
    $output.out = gl_FragCoord.xy;
    "

def constantFloat : NodeType :=
  source "constant-float" "Constant Float" "" .float [("value", component 50)]
    "
    $output.out = $param.value;
    "

def constantVec2 : NodeType :=
  source "constant-vec2" "Constant Vec2" "" .vec2 [("x", component 0), ("y", component 0)]
    "
    $output.out = vec2($param.x, $param.y);
    "

def constantVec3 : NodeType :=
  source "constant-vec3" "Constant Vec3" "" .vec3
    [("x", component 0), ("y", component 0), ("z", component 0)]
    "
    $output.out = vec3($param.x, $param.y, $param.z);
    "

/-- The node types of this module. -/
def inputs : List NodeType :=
  [uvCoordinates, time, resolution, fragmentCoordinates, constantFloat, constantVec2, constantVec3]

end ShaderLoom.Palette
