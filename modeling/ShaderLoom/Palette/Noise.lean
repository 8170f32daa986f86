import ShaderLoom.Palette.Basic

/-!
# Noise

Fractal noise over values at lattice points, and turbulence that warps coordinates.
-/

namespace ShaderLoom.Palette

/-- Value noise in three dimensions, between minus one and one. -/
def valueNoiseCode : String := "
float hash11(float n) \x7b
  return fract(sin(n) * 43758.5453);
\x7d

float vnoise(vec3 q) \x7b
  vec3 ip = floor(q);
  vec3 fp = fract(q);
  vec3 k = vec3(1.0, 57.0, 113.0);

  float n000 = hash11(dot(ip + vec3(0.0, 0.0, 0.0), k));
  float n100 = hash11(dot(ip + vec3(1.0, 0.0, 0.0), k));
  float n010 = hash11(dot(ip + vec3(0.0, 1.0, 0.0), k));
  float n110 = hash11(dot(ip + vec3(1.0, 1.0, 0.0), k));
  float n001 = hash11(dot(ip + vec3(0.0, 0.0, 1.0), k));
  float n101 = hash11(dot(ip + vec3(1.0, 0.0, 1.0), k));
  float n011 = hash11(dot(ip + vec3(0.0, 1.0, 1.0), k));
  float n111 = hash11(dot(ip + vec3(1.0, 1.0, 1.0), k));

  vec3 w = fp * fp * fp * (fp * (fp * 6.0 - 15.0) + 10.0);

  float x00 = mix(n000, n100, w.x);
  float x10 = mix(n010, n110, w.x);
  float x01 = mix(n001, n101, w.x);
  float x11 = mix(n011, n111, w.x);

  return mix(mix(x00, x10, w.y), mix(x01, x11, w.y), w.z) * 2.0 - 1.0;
\x7d
"

/-- Several octaves of value noise. -/
def fractalNoiseCode : String := valueNoiseCode ++ "
float fbm2_standard(vec2 uv, float t, float scale, int octaves, float lacunarity, float gain) \x7b
  vec3 q = vec3(uv * scale, t);
  float amp = 1.0;
  float freq = 1.0;
  float sum = 0.0;

  for (int i = 0; i < 10; ++i) \x7b
    if (i >= octaves) break;
    sum += amp * vnoise(q * freq);
    freq *= lacunarity;
    amp *= gain;
  \x7d

  return sum * 0.5 + 0.5;
\x7d
"

/-- Turbulence, whose strength is read from the node itself. -/
def turbulenceCode : String := "
vec2 noise2D(vec2 q) \x7b
  return vec2(
    fract(sin(dot(q, vec2(12.9898, 78.233))) * 43758.5453),
    fract(sin(dot(q, vec2(12.9898, 78.233) + vec2(1.0))) * 43758.5453)
  );
\x7d

vec2 turbulence(vec2 q, float t, int iterations) \x7b
  int iterCount = max(iterations, 1);
  for (int i = 0; i < 8; i++) \x7b
    if (i >= iterCount) break;
    float scale = max(pow(2.0, float(i)), 0.001);
    vec2 offset = noise2D(q * scale + t * 0.1) * 2.0 - 1.0;
    q += offset * $param.turbulenceStrength / scale;
  \x7d
  return q;
\x7d
"

/-- The parameter with a step of its own, in hundredths. -/
def withStep (step : Int) (parameter : Parameter) : Parameter :=
  { parameter with step := decimal step 2 }

def fractalNoise : NodeType where
  id := "fbm-noise"
  displayName := "fBm Noise"
  category := "Noise"
  inputs := [port "in" .vec2]
  outputs := [port "out" .float]
  parameters := Table.ofList
    [("fbmScale", bounded 200 10 1000 (some "Scale")),
      ("fbmOctaves", withStep 100 (bounded 400 100 1000 (some "Octaves"))),
      ("fbmLacunarity", bounded 200 100 400 (some "Lacunarity")),
      ("fbmGain", bounded 50 10 100 (some "Gain")),
      ("fbmTimeSpeed", bounded 100 0 500 (some "Time Speed")),
      ("fbmIntensity", bounded 100 0 200 (some "Intensity")),
      ("fbmTimeOffset", withStep 5 (bounded 0 (-10000) 10000 (some "Time Offset")))]
  mainCode := "
    float aspectRatio = $resolution.x / $resolution.y;
    vec2 fbmUV = ($input.in - 0.5) * vec2(aspectRatio, 1.0);
    float fbmTime = ($time + $param.fbmTimeOffset) * $param.fbmTimeSpeed;
    int octaves = int($param.fbmOctaves);
    float feed = fbm2_standard(fbmUV, fbmTime, $param.fbmScale, octaves, $param.fbmLacunarity, $param.fbmGain);
    $output.out = feed * $param.fbmIntensity;
    "
  functions := some fractalNoiseCode
  description :=
    "Fractal Brownian motion over 3-D value noise; time is the third axis. Output in [0, 1]."

def turbulence : NodeType where
  id := "turbulence"
  displayName := "Turbulence"
  category := "Noise"
  inputs := [port "in" .vec2]
  outputs := [port "out" .vec2]
  parameters := Table.ofList
    [("turbulenceScale", bounded 100 10 1000 (some "Scale")),
      ("turbulenceStrength", bounded 50 0 200 (some "Strength")),
      ("turbulenceIterations",
        { counted 3 1 8 with step := .int 1, label := some "Iterations" }),
      ("turbulenceTimeSpeed", bounded 100 0 500 (some "Time Speed")),
      ("turbulenceTimeOffset", withStep 5 (bounded 0 (-10000) 10000 (some "Time Offset")))]
  mainCode := "
    float turbulenceTime = ($time + $param.turbulenceTimeOffset) * $param.turbulenceTimeSpeed;
    $output.out = turbulence($input.in * $param.turbulenceScale, turbulenceTime, $param.turbulenceIterations);
    "
  functions := some turbulenceCode
  description := "Multi-octave domain warping of coordinates"

/-- The node types of this module. -/
def noise : List NodeType := [fractalNoise, turbulence]

end ShaderLoom.Palette
