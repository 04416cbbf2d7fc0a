import GlslAssist.CallSite
import GlslAssist.Registry

/-!
# Signature help

Inside a call of a known function, all its overloads are shown. Types of arguments are not looked
at: the active overload is the first with room for the argument at hand, or the first of all when
none has.
-/

namespace GlslAssist

structure SignatureHelp where
  function : FunctionEntry
  activeSignature : Nat
  activeParameter : Nat
  deriving DecidableEq, Repr

namespace SignatureHelp

/-- The first overload with more than `active` parameters, or the first one. -/
def selectOverload (signatures : List Signature) (active : Nat) : Nat :=
  (signatures.findIdx? fun s => active < s.parameters.length).getD 0

def find (registry : Registry) (lookback : Nat) (doc : Document) (pos : Position) :
    Option SignatureHelp :=
  (CallSite.find doc pos lookback).bind fun call =>
    (registry.function? call.function).map fun f =>
      ⟨f, selectOverload f.signatures call.activeParameter, call.activeParameter⟩

/-- The label with the active parameter in brackets. -/
def markParameter (s : Signature) (active : Nat) : String :=
  let labels := s.parameters.mapIdx fun i p => if i = active then "[" ++ p.label ++ "]" else p.label
  let lead := s.label.toList.takeWhile (· ≠ '(')
  if lead.length = s.label.length then s.label
  else String.ofList lead ++ "(" ++ String.intercalate ", " labels ++ ")"

/-- One line for each overload, the active one marked. -/
def listing (help : SignatureHelp) : List String :=
  help.function.signatures.mapIdx fun i s =>
    if i = help.activeSignature then "> " ++ markParameter s help.activeParameter
    else "  " ++ s.label

end SignatureHelp

end GlslAssist
