import GlslAssist.Symbol

/-!
# Keywords, qualifiers and templates
-/

namespace GlslAssist.Symbol

def keywords : List KeywordEntry :=
  [⟨"if", "Conditional branching."⟩,
    ⟨"else", "Alternative branch for `if`."⟩,
    ⟨"for", "Loop with counter."⟩,
    ⟨"while", "Loop with condition."⟩,
    ⟨"do", "Do-while loop."⟩,
    ⟨"switch", "Multi-way branching."⟩,
    ⟨"case", "Branch label in a `switch` statement."⟩,
    ⟨"default", "Default branch in a `switch` statement."⟩,
    ⟨"break", "Exit the current loop or switch."⟩,
    ⟨"continue", "Skip to the next loop iteration."⟩,
    ⟨"return", "Return a value from the current function."⟩,
    ⟨"discard", "Discard the current fragment (fragment shader only)."⟩,
    ⟨"const", "Compile-time constant qualifier."⟩,
    ⟨"uniform", "Variable set by the application, constant across a draw call."⟩,
    ⟨"in", "Input variable qualifier."⟩,
    ⟨"out", "Output variable qualifier."⟩,
    ⟨"inout", "Input/output parameter qualifier."⟩,
    ⟨"attribute", "Vertex attribute (GLSL ES 1.0 compatibility)."⟩,
    ⟨"varying", "Interpolated variable (GLSL ES 1.0 compatibility)."⟩,
    ⟨"precision", "Set the default precision for a type."⟩,
    ⟨"highp", "High precision qualifier."⟩,
    ⟨"mediump", "Medium precision qualifier."⟩,
    ⟨"lowp", "Low precision qualifier."⟩,
    ⟨"struct", "Define a composite type."⟩,
    ⟨"layout", "Layout qualifier for in/out variables."⟩,
    ⟨"flat", "Disable interpolation."⟩,
    ⟨"smooth", "Enable smooth (perspective-correct) interpolation."⟩,
    ⟨"centroid", "Centroid-based interpolation qualifier."⟩,
    ⟨"true", "Boolean literal `true`."⟩,
    ⟨"false", "Boolean literal `false`."⟩]

def snippets : List SnippetEntry :=
  [⟨"main",
      "void main() \x7b\n\t$0\n\x7d",
      "Main function template."⟩,
    ⟨"forloop",
      "for (int $\x7b1:i\x7d = 0; $\x7b1:i\x7d < $\x7b2:10\x7d; $\x7b1:i\x7d++) \x7b\n\t$0\n\x7d",
      "For loop."⟩,
    ⟨"uv",
      "vec2 uv = gl_FragCoord.xy / u_resolution;",
      "Normalized UV coordinates (0 to 1)."⟩,
    ⟨"uv_centered",
      "vec2 uv = (gl_FragCoord.xy * 2.0 - u_resolution) / min(u_resolution.x, u_resolution.y);",
      "Centered UV coordinates (-1 to 1, aspect corrected)."⟩,
    ⟨"sdf_circle",
      "float d = length($\x7b1:p\x7d) - $\x7b2:0.5\x7d;",
      "SDF circle."⟩,
    ⟨"sdf_box",
      "vec2 d = abs($\x7b1:p\x7d) - $\x7b2:vec2(0.5)\x7d;\nfloat sdf = length(max(d, 0.0)) + min(max(d.x, d.y), 0.0);",
      "SDF box."⟩,
    ⟨"version",
      "#version 300 es\nprecision highp float;",
      "GLSL ES 3.0 version header."⟩,
    ⟨"fragcolor",
      "out vec4 fragColor;\n\nvoid main() \x7b\n\t$0\n\tfragColor = vec4(1.0);\n\x7d",
      "Fragment shader output boilerplate."⟩]

end GlslAssist.Symbol
