import GlslAssist.Symbol

/-!
# Built-in variables, and the uniforms a canvas always sets
-/

namespace GlslAssist.Symbol

def builtinVariables : List Variable :=
  [⟨"gl_FragCoord", "vec4",
      "Window-relative coordinates of the current fragment. `xy` contains pixel position, `z` contains depth."⟩,
    ⟨"gl_FrontFacing", "bool", "True if the fragment belongs to a front-facing primitive."⟩,
    ⟨"gl_PointCoord", "vec2", "Fragment coordinate within a point primitive, range [0, 1]."⟩,
    ⟨"gl_FragDepth", "float",
      "Write-only output for the depth of the fragment. Overrides the fixed-function depth."⟩,
    ⟨"gl_Position", "vec4", "Output clip-space position of the current vertex (vertex shader)."⟩,
    ⟨"gl_VertexID", "int", "Index of the current vertex being processed."⟩,
    ⟨"gl_InstanceID", "int", "Index of the current instance when using instanced rendering."⟩]

def canvasUniforms : List Variable :=
  [⟨"u_time", "float", "Elapsed time in seconds (from `performance.now() / 1000`)."⟩,
    ⟨"u_resolution", "vec2",
      "Canvas resolution in pixels (width, height), scaled by device pixel ratio."⟩,
    ⟨"u_mouse", "vec2", "Mouse position in pixels. Origin is bottom-left (Y is flipped)."⟩]

end GlslAssist.Symbol
