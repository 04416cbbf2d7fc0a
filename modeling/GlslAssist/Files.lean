import GlslAssist.Path

/-!
# Files

What the library asks of a file system: whether something stands at a path, and the bytes of a file.
A text file is a file whose bytes are UTF-8.
-/

namespace GlslAssist

/-- Why a file cannot be read. -/
inductive ReadProblem where
  | missing
  | notDirectory
  | isDirectory
  | nameTooLong
  | notText
  /-- Any other, in the words of the system. -/
  | other (words : String)
  deriving DecidableEq, Repr

def ReadProblem.message : ReadProblem → String
  | missing => "No such file or directory (os error 2)"
  | notDirectory => "Not a directory (os error 20)"
  | isDirectory => "Is a directory (os error 21)"
  | nameTooLong => "File name too long (os error 36)"
  | notText => "stream did not contain valid UTF-8"
  | other words => words

structure Files where
  has : Path → Bool
  read : Path → Except ReadProblem (List UInt8)

/-- The text of a file. -/
def Files.readText (files : Files) (p : Path) : Except ReadProblem String :=
  match files.read p with
  | .error problem => .error problem
  | .ok bytes =>
    match String.fromUTF8? ⟨bytes.toArray⟩ with
    | some s => .ok s
    | none => .error .notText

/-- The file system of which only some paths are known, each with what reading it comes to. -/
def Files.ofKnown (known : List (Path × Except ReadProblem (List UInt8))) : Files where
  read p := ((known.find? (·.1 = p)).map Prod.snd).getD (.error .missing)
  has p :=
    match (known.find? (·.1 = p)).map Prod.snd with
    | none | some (.error .missing) | some (.error .notDirectory)
    | some (.error .nameTooLong) => false
    | some (.error _) | some (.ok _) => true

end GlslAssist
