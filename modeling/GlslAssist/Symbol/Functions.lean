import GlslAssist.Symbol

/-!
# The functions of the language

Most functions exist for every generic type, and their overloads are spelled out from a template.
Parameters with a well-known name carry a note on what they mean, wherever they occur.
-/

namespace GlslAssist.Symbol

def genericTypes : List String := ["float", "vec2", "vec3", "vec4"]

def genericVectors : List String := ["vec2", "vec3", "vec4"]

def squareMatrices : List String := ["mat2", "mat3", "mat4"]

/-- A parameter of a template: its type follows the overload's, or is fixed. -/
inductive Slot where
  | generic (name : String)
  | fixed (label : String)

def Slot.label (type : String) : Slot → String
  | generic name => type ++ " " ++ name
  | fixed label => label

/-- One overload for each type, which is also what it returns. -/
def overloads (types : List String) (name : String) (slots : List Slot) : List Signature :=
  types.map fun type => Signature.make type name (slots.map (Slot.label type))

def unary (name : String) : List Signature :=
  overloads genericTypes name [.generic "x"]

def binary (name : String) : List Signature :=
  overloads genericTypes name [.generic "x", .generic "y"]

def ternary (name : String) : List Signature :=
  overloads genericTypes name [.generic "x", .generic "y", .generic "z"]

def vectorAndScalar (name : String) : List Signature :=
  overloads genericVectors name [.generic "x", .fixed "float y"]

/-- What a parameter of that name means, the name being the last word of the label. -/
def parameterNote (label : String) : Option String :=
  match String.ofList ((label.toList.splitOn ' ').getLastD []) with
  | "minVal" => some "Lower bound of the range."
  | "maxVal" => some "Upper bound of the range."
  | "a" => some "Interpolation weight; 0.0 yields x, 1.0 yields y."
  | "edge" => some "Threshold below which the result is 0.0."
  | "edge0" => some "Lower edge of the Hermite interpolation."
  | "edge1" => some "Upper edge of the Hermite interpolation."
  | "eta" => some "Ratio of indices of refraction."
  | "I" => some "Incident vector."
  | "N" => some "Surface normal."
  | "sampler" => some "Sampler bound to the texture to read."
  | "coord" => some "Texture coordinates to sample at."
  | "lod" => some "Level of detail."
  | "bias" => some "Bias added to the computed level of detail."
  | "dPdx" | "dPdy" => some "Explicit gradient of the coordinates."
  | _ => none

def annotate (s : Signature) : Signature :=
  ⟨s.label, s.parameters.map fun p => ⟨p.label, parameterNote p.label⟩⟩

/-- The functions of one category, each a name, its overloads and a description. -/
def inCategory (category : String) (rows : List (String × List Signature × String)) :
    List FunctionEntry :=
  rows.map fun (name, signatures, description) =>
    ⟨name, signatures.map annotate, description, category⟩

def trigonometric : List FunctionEntry :=
  inCategory "Trigonometric"
    [("radians", unary "radians", "Converts degrees to radians."),
      ("degrees", unary "degrees", "Converts radians to degrees."),
      ("sin", unary "sin", "Returns the sine of the parameter."),
      ("cos", unary "cos", "Returns the cosine of the parameter."),
      ("tan", unary "tan", "Returns the tangent of the parameter."),
      ("asin", unary "asin", "Returns the arcsine of the parameter."),
      ("acos", unary "acos", "Returns the arccosine of the parameter."),
      ("atan", unary "atan" ++ binary "atan",
        "Returns the arctangent. The two-argument form computes atan(y/x).")]

def hyperbolic : List FunctionEntry :=
  inCategory "Hyperbolic"
    [("sinh", unary "sinh", "Returns the hyperbolic sine."),
      ("cosh", unary "cosh", "Returns the hyperbolic cosine."),
      ("tanh", unary "tanh", "Returns the hyperbolic tangent."),
      ("asinh", unary "asinh", "Returns the inverse hyperbolic sine."),
      ("acosh", unary "acosh", "Returns the inverse hyperbolic cosine."),
      ("atanh", unary "atanh", "Returns the inverse hyperbolic tangent.")]

def exponential : List FunctionEntry :=
  inCategory "Exponential"
    [("pow", binary "pow", "Returns x raised to the power y."),
      ("exp", unary "exp", "Returns e raised to the power of x."),
      ("log", unary "log", "Returns the natural logarithm of x."),
      ("exp2", unary "exp2", "Returns 2 raised to the power of x."),
      ("log2", unary "log2", "Returns the base-2 logarithm of x."),
      ("sqrt", unary "sqrt", "Returns the square root of x."),
      ("inversesqrt", unary "inversesqrt", "Returns 1 / sqrt(x).")]

def common : List FunctionEntry :=
  inCategory "Common"
    [("abs", unary "abs", "Returns the absolute value of x."),
      ("sign", unary "sign", "Returns -1.0, 0.0, or 1.0 depending on the sign of x."),
      ("floor", unary "floor", "Returns the largest integer not greater than x."),
      ("trunc", unary "trunc", "Returns the integer part of x (truncation toward zero)."),
      ("round", unary "round", "Returns the nearest integer to x."),
      ("roundEven", unary "roundEven",
        "Returns the nearest integer to x; 0.5 rounds to the nearest even integer."),
      ("ceil", unary "ceil", "Returns the smallest integer not less than x."),
      ("fract", unary "fract", "Returns x - floor(x)."),
      ("mod", binary "mod" ++ vectorAndScalar "mod", "Returns x - y * floor(x/y)."),
      ("min", binary "min" ++ vectorAndScalar "min", "Returns the minimum of x and y."),
      ("max", binary "max" ++ vectorAndScalar "max", "Returns the maximum of x and y."),
      ("clamp", ternary "clamp" ++ overloads genericVectors "clamp"
          [.generic "x", .fixed "float minVal", .fixed "float maxVal"],
        "Clamps x to the range [minVal, maxVal]."),
      ("mix", ternary "mix" ++ overloads genericVectors "mix"
          [.generic "x", .generic "y", .fixed "float a"],
        "Linear interpolation between x and y using a."),
      ("step", binary "step" ++ overloads genericVectors "step"
          [.fixed "float edge", .generic "x"],
        "Returns 0.0 if x < edge, otherwise 1.0."),
      ("smoothstep", overloads genericTypes "smoothstep"
          [.generic "edge0", .generic "edge1", .generic "x"]
          ++ overloads genericVectors "smoothstep"
            [.fixed "float edge0", .fixed "float edge1", .generic "x"],
        "Performs Hermite interpolation between 0 and 1 when edge0 < x < edge1."),
      ("isnan", unary "isnan", "Returns true if x is NaN."),
      ("isinf", unary "isinf", "Returns true if x is positive or negative infinity.")]

def geometric : List FunctionEntry :=
  inCategory "Geometric"
    [("length", unary "length", "Returns the length (magnitude) of the vector."),
      ("distance", binary "distance", "Returns the distance between two points."),
      ("dot", binary "dot", "Returns the dot product of two vectors."),
      ("cross", [Signature.make "vec3" "cross" ["vec3 x", "vec3 y"]],
        "Returns the cross product of two 3-component vectors."),
      ("normalize", unary "normalize", "Returns a unit vector in the same direction as x."),
      ("faceforward", ternary "faceforward", "Returns N if dot(Nref, I) < 0, otherwise returns -N."),
      ("reflect", binary "reflect", "Reflects the incident vector I using the normal N."),
      ("refract", overloads genericTypes "refract"
          [.generic "I", .generic "N", .fixed "float eta"],
        "Computes the refraction vector using the ratio of indices eta.")]

def matrix : List FunctionEntry :=
  inCategory "Matrix"
    [("matrixCompMult", overloads squareMatrices "matrixCompMult" [.generic "x", .generic "y"],
        "Component-wise multiplication of two matrices."),
      ("outerProduct",
        [Signature.make "mat2" "outerProduct" ["vec2 c", "vec2 r"],
          Signature.make "mat3" "outerProduct" ["vec3 c", "vec3 r"],
          Signature.make "mat4" "outerProduct" ["vec4 c", "vec4 r"]],
        "Returns the outer product of two vectors."),
      ("transpose", overloads squareMatrices "transpose" [.generic "m"],
        "Returns the transpose of the matrix."),
      ("determinant",
        squareMatrices.map fun type => Signature.make "float" "determinant" [type ++ " m"],
        "Returns the determinant of the matrix."),
      ("inverse", overloads squareMatrices "inverse" [.generic "m"],
        "Returns the inverse of the matrix.")]

def texture : List FunctionEntry :=
  inCategory "Texture"
    [("texture",
        [Signature.make "vec4" "texture" ["sampler2D sampler", "vec2 coord"],
          Signature.make "vec4" "texture" ["sampler3D sampler", "vec3 coord"],
          Signature.make "vec4" "texture" ["samplerCube sampler", "vec3 coord"],
          Signature.make "vec4" "texture" ["sampler2D sampler", "vec2 coord", "float bias"]],
        "Samples a texel from a texture."),
      ("textureSize",
        [Signature.make "ivec2" "textureSize" ["sampler2D sampler", "int lod"],
          Signature.make "ivec3" "textureSize" ["sampler3D sampler", "int lod"]],
        "Returns the dimensions of the texture at the given LOD."),
      ("texelFetch",
        [Signature.make "vec4" "texelFetch" ["sampler2D sampler", "ivec2 coord", "int lod"],
          Signature.make "vec4" "texelFetch" ["sampler3D sampler", "ivec3 coord", "int lod"]],
        "Fetches a single texel from the texture without filtering."),
      ("textureLod",
        [Signature.make "vec4" "textureLod" ["sampler2D sampler", "vec2 coord", "float lod"],
          Signature.make "vec4" "textureLod" ["sampler3D sampler", "vec3 coord", "float lod"]],
        "Samples a texture with an explicit LOD."),
      ("textureProj",
        [Signature.make "vec4" "textureProj" ["sampler2D sampler", "vec3 coord"],
          Signature.make "vec4" "textureProj" ["sampler2D sampler", "vec4 coord"]],
        "Performs a projective texture lookup."),
      ("textureGrad",
        [Signature.make "vec4" "textureGrad"
            ["sampler2D sampler", "vec2 coord", "vec2 dPdx", "vec2 dPdy"],
          Signature.make "vec4" "textureGrad"
            ["sampler3D sampler", "vec3 coord", "vec3 dPdx", "vec3 dPdy"]],
        "Samples a texture with explicit gradients.")]

def derivative : List FunctionEntry :=
  inCategory "Derivative"
    [("dFdx", unary "dFdx",
        "Returns the partial derivative of the argument with respect to the window x coordinate."),
      ("dFdy", unary "dFdy",
        "Returns the partial derivative of the argument with respect to the window y coordinate."),
      ("fwidth", unary "fwidth", "Returns abs(dFdx(x)) + abs(dFdy(x)).")]

def functions : List FunctionEntry :=
  trigonometric ++ hyperbolic ++ exponential ++ common ++ geometric ++ matrix ++ texture
    ++ derivative

end GlslAssist.Symbol
