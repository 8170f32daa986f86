import ShaderLoom.Palette.Basic

/-!
# Audio

Nodes whose outputs the host measures and hands to the shader as uniforms in every frame.
-/

namespace ShaderLoom.Palette

/-- The frequency bands of an analyzer, in hertz. -/
def standardBands : List (Int × Int) := [(20, 120), (120, 300), (300, 4000), (4000, 20000)]

/-- The number of bands of an analyzer. -/
def bandCount : Nat := standardBands.length

/-- The parameters that remap one band. -/
def remapParameters (band : Nat) : List (String × Parameter) :=
  let name (end' : String) := "band" ++ toString band ++ "Remap" ++ end'
  [(name "InMin", plain .float (decimal 0 1)), (name "InMax", plain .float (decimal 10 1)),
    (name "OutMin", plain .float (decimal 0 1)), (name "OutMax", plain .float (decimal 10 1))]

/-- The outputs of an analyzer with a common stem. -/
def bandPorts (stem label : String) : List Port :=
  (List.range bandCount).map fun band =>
    labelled (stem ++ toString band) .float (label ++ " " ++ toString (band + 1))

def audioFileInput : NodeType where
  id := "audio-file-input"
  displayName := "Audio File"
  category := "Audio"
  inputs := []
  outputs := [labelled "currentTime" .float "Current Time", labelled "duration" .float "Duration",
    labelled "isPlaying" .float "Is Playing"]
  parameters := Table.ofList [("filePath", plain .string (.text "")), ("autoPlay", counted 0 0 1)]
  mainCode := ""
  functions := none
  description := "Playback state of a loaded audio file"

def audioAnalyzer : NodeType where
  id := "audio-analyzer"
  displayName := "Audio Analyzer"
  category := "Audio"
  inputs := [labelled "audioFile" .float "Audio File"]
  outputs := bandPorts "band" "Band" ++ bandPorts "remap" "Remap"
  parameters := Table.ofList <|
    [("frequencyBands", plain .array
        (.list (standardBands.map fun band => .list [.int band.1, .int band.2]))),
      ("smoothing", bounded 80 0 100 none),
      ("fftSize", counted 4096 256 8192)]
    ++ (List.range bandCount).flatMap remapParameters
  mainCode := ""
  functions := none
  description := "Energy of user-defined frequency bands, raw and remapped"

/-- The node types of this module. -/
def audio : List NodeType := [audioFileInput, audioAnalyzer]

end ShaderLoom.Palette
