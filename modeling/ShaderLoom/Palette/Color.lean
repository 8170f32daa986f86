import ShaderLoom.Palette.Basic

/-!
# Color

The color map reads its gradient from a flat list of color components, three to a stop; the number
of stops is a parameter of its own and has to fit the list.
-/

namespace ShaderLoom.Palette

def colorMap : NodeType where
  id := "color-map"
  displayName := "Color Map"
  category := "Color"
  inputs := [port "in" .float]
  outputs := [port "out" .vec3]
  parameters := Table.ofList
    [("colorStops", plain .array (.list (([0, 0, 0, 10, 10, 10] : List Int).map (decimal · 1)))),
      ("stopCount", counted 2 2 16)]
  mainCode := "
    float t = clamp($input.in, 0.0, 1.0);
    int count = max($param.stopCount, 2);
    float scaled = t * float(count - 1);
    int i0 = min(int(floor(scaled)), count - 2);
    int i1 = i0 + 1;
    vec3 c0 = vec3($param.colorStops[i0 * 3], $param.colorStops[i0 * 3 + 1], $param.colorStops[i0 * 3 + 2]);
    vec3 c1 = vec3($param.colorStops[i1 * 3], $param.colorStops[i1 * 3 + 1], $param.colorStops[i1 * 3 + 2]);
    $output.out = mix(c0, c1, scaled - float(i0));
    "
  functions := none
  description := "Maps a scalar onto a gradient of color stops"

end ShaderLoom.Palette
