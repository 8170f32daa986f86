import ShaderLoom.Value

/-!
# Settings

What the generated shader is called by its host, and which node types are treated specially.
-/

namespace ShaderLoom

/-- The settings of a compiler. -/
structure Settings where
  versionLine : String := "#version 300 es"
  precisionLine : String := "precision highp float;"
  timeUniform : String := "uTime"
  resolutionUniform : String := "uResolution"
  /-- The variable that holds the coordinate of the pixel. -/
  pointVariable : String := "p"
  colorOutput : String := "fragColor"
  /-- The decimal places of the entries of array constants. -/
  arrayPlaces : Int := 10
  /-- The node type that marks the final color, and the input that it is read from. -/
  sinkType : String := "final-output"
  sinkPort : String := "in"
  inputCategory : String := "Inputs"
  audioCategory : String := "Audio"
  audioFileType : String := "audio-file-input"
  audioAnalyzerType : String := "audio-analyzer"
  /-- Node types whose nodes read no input. -/
  selfSufficientTypes : List String :=
    ["uv-coordinates", "time", "resolution", "fragment-coordinates", "constant-float",
      "constant-vec2", "constant-vec3"]
  /-- The frequency bands of an analyzer that has none of its own: a list of pairs of numbers. -/
  defaultBands : Value :=
    .list [.list [.int 20, .int 120], .list [.int 120, .int 300], .list [.int 300, .int 4000],
      .list [.int 4000, .int 20000]]
  /-- Parameters of audio nodes that the host reads and the shader does not. -/
  hostParameters : List String := ["filePath", "autoPlay", "frequencyBands", "smoothing", "fftSize"]
  /-- How many levels deep a value may be nested that a message shows.  The stack of the host sets
  this limit. -/
  messageDepth : Nat := 1000
deriving Inhabited

/-- The standard settings, on a host that shows values up to a depth. -/
abbrev Settings.standard (depth : Nat) : Settings := { messageDepth := depth }

end ShaderLoom
