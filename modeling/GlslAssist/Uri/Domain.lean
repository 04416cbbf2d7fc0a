import GlslAssist.Uri.Domain.Direction
import GlslAssist.Uri.Domain.Mapping
import GlslAssist.Uri.Domain.Punycode

/-!
# Domain names

A domain name is a row of labels with points between them. It is brought into one form: characters
are mapped, letters take in their marks, and a label with characters beyond ASCII is written with
ASCII characters behind `xn--`. A label that is given in that way has to be one that could have been
written so.
-/

namespace GlslAssist.Uri

/-- The ASCII characters that a domain name cannot hold. -/
def isForbidden (c : Char) : Bool :=
  c.toNat ≤ 0x20 || c.toNat = 0x7F
    || ['%', '#', '/', ':', '<', '>', '?', '@', '[', '\\', ']', '^', '|'].contains c

namespace Domain

def isForeign (c : Char) : Bool :=
  0x80 ≤ c.toNat

/-- The name with every character mapped, and marks taken in. -/
def mapped? (name : List Char) : Option (List Char) :=
  (name.mapM mappedChar?).map fun parts =>
    let name := parts.flatten
    if name.any isForeign then composed name else name

/-- What a label in ASCII stands behind if it stands for another one. -/
def asciiMark : List Char :=
  ['x', 'n', '-', '-']

/-- The label that a label stands for. -/
def meaning? (label : List Char) : Option (List Char) :=
  if asciiMark.isPrefixOf label then
    (Punycode.decode? (label.drop asciiMark.length)).bind fun meant =>
      if meant.any isForeign ∧ mapped? meant = some meant then some meant else none
  else some label

/-- The labels can be read without doubt. -/
def areClear (labels : List (List Char)) : Bool :=
  labels.all (fun label => !beginsWithMark label && joinersFit none label)
    && (!labels.any goesLeft || labels.all keepsDirection)

def written (label : List Char) : List Char :=
  if label.any isForeign then asciiMark ++ Punycode.encode label else label

end Domain

/-- The domain name of some bytes in its one form; nothing if they are no domain name. -/
def domain? (s : List UInt8) : Option (List Char) :=
  (String.fromUTF8? ⟨s.toArray⟩).bind fun name =>
    (Domain.mapped? name.toList).bind fun name =>
      let labels := name.splitOn '.'
      (labels.mapM Domain.meaning?).bind fun meanings =>
        if name.any isForbidden || !Domain.areClear meanings then none
        else some (List.intercalate ['.'] (labels.map Domain.written))

end GlslAssist.Uri
