import GlslAssist.Path
import GlslAssist.Uri.Host

/-!
# URIs

Documents are known by their URI in normal form. Of it has to be understood whether it names a file
of this machine, and which: there is a path from the root then, and no host but `localhost`.
-/

namespace GlslAssist

namespace Uri

/-- Who is asked for a resource, and where. -/
structure Authority where
  /-- The user, and the password after a colon, as they are written. -/
  user : String
  host : Option Host
  port : Option Nat
  deriving DecidableEq, Repr

end Uri

/-- A URI, each part as it is written in normal form. -/
structure Uri where
  scheme : String
  authority : Option Uri.Authority
  path : String
  query : Option String
  fragment : Option String
  deriving DecidableEq, Repr

namespace Uri

def Authority.text (a : Authority) : String :=
  "//" ++ (if a.user = "" then "" else a.user ++ "@") ++ ((a.host.map Host.text).getD "")
    ++ ((a.port.map fun n => ":" ++ toString n).getD "")

/-- The path begins like an authority. -/
def startsTwice (path : String) : Bool :=
  ['/', '/'].isPrefixOf path.toList

/-- The text of a URI. A path that would be taken for an authority gets a point before it. -/
def text (u : Uri) : String :=
  let authority := match u.authority with
    | some a => a.text
    | none => if startsTwice u.path then "/." else ""
  u.scheme ++ ":" ++ authority ++ u.path ++ ((u.query.map ("?" ++ ·)).getD "")
    ++ ((u.fragment.map ("#" ++ ·)).getD "")

def host? (u : Uri) : Option Host :=
  u.authority.bind Authority.host

/-- The path of the file that the URI names. -/
def filePath? (u : Uri) : Option Path :=
  if u.host?.all (· = .name "localhost") ∧ u.path.toList.head? = some '/' then
    some (percentDecoded u.path.toList)
  else none

end Uri

end GlslAssist
