import GlslAssist.Symbol

/-!
# The types of the language
-/

namespace GlslAssist.Symbol

def scalarTypes : List TypeEntry :=
  ["void", "bool", "int", "uint", "float"].map fun name =>
    ⟨name, "GLSL scalar type `" ++ name ++ "`."⟩

/-- The two, three and four component vectors of one family. -/
def vectorFamily (stem what : String) : List TypeEntry :=
  ["2", "3", "4"].map fun n => ⟨stem ++ n, "GLSL " ++ n ++ "-component " ++ what ++ "."⟩

def vectorTypes : List TypeEntry :=
  vectorFamily "vec" "float vector" ++ vectorFamily "ivec" "integer vector"
    ++ vectorFamily "uvec" "unsigned integer vector" ++ vectorFamily "bvec" "boolean vector"

def matrixType (name columns rows : String) : TypeEntry :=
  ⟨name, "GLSL " ++ columns ++ "x" ++ rows ++ " float matrix."⟩

/-- Square matrices under their short names, then every shape under its long one. -/
def matrixTypes : List TypeEntry :=
  (["2", "3", "4"].map fun n => matrixType ("mat" ++ n) n n)
    ++ ["2", "3", "4"].flatMap fun columns => ["2", "3", "4"].map fun rows =>
      matrixType ("mat" ++ columns ++ "x" ++ rows) columns rows

def samplerTypes : List TypeEntry :=
  ["sampler2D", "sampler3D", "samplerCube", "sampler2DShadow", "samplerCubeShadow",
    "sampler2DArray", "sampler2DArrayShadow", "isampler2D", "isampler3D", "isamplerCube",
    "isampler2DArray", "usampler2D", "usampler3D", "usamplerCube", "usampler2DArray"].map
    fun name => ⟨name, "GLSL sampler type for texture access."⟩

def types : List TypeEntry :=
  scalarTypes ++ vectorTypes ++ matrixTypes ++ samplerTypes

end GlslAssist.Symbol
