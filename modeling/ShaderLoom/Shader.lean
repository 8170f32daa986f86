import ShaderLoom.FinalColor
import ShaderLoom.Program

/-!
# Whole shaders

The frame around the code of the nodes.
-/

namespace ShaderLoom

/-- The text of a shader. -/
def shaderText (settings : Settings) (uniforms : String) (program : Program) (color : String) :
    String :=
  let resolution := settings.resolutionUniform
  "\n".intercalate
    [settings.versionLine,
      settings.precisionLine,
      "",
      "// Global uniforms",
      "uniform vec2 " ++ resolution ++ ";",
      "uniform float " ++ settings.timeUniform ++ ";",
      "",
      uniforms,
      "",
      program.declarations,
      "",
      program.helpers,
      "",
      "out vec4 " ++ settings.colorOutput ++ ";",
      "",
      "void main() \x7b",
      "  vec2 uv = gl_FragCoord.xy / " ++ resolution ++ ".xy;",
      "  vec2 " ++ settings.pointVariable ++ " = (uv * 2.0 - 1.0) * vec2(" ++ resolution ++ ".x / "
        ++ resolution ++ ".y, 1.0);",
      "",
      program.mainCode,
      "  " ++ settings.colorOutput ++ " = vec4(" ++ color ++ ", 1.0);",
      "\x7d",
      ""]

end ShaderLoom
