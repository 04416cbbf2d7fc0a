import GlslAssist.Uri

/-!
# Reading URIs

A text is read into the normal form of the URI that it stands for. Some schemes are special: their
URIs have a host, a backslash in them is a slash, and their hosts are domain names. The URIs of
files are special too, but may do without a host.

In a path a segment of one point says nothing, and one of two points takes back the segment before
it, unless that is the letter of a drive.
-/

namespace GlslAssist.Uri

inductive SchemeKind where
  /-- A special scheme other than that of files, with its usual port. -/
  | special (port : Nat)
  | file
  | other
  deriving DecidableEq, Repr

namespace SchemeKind

def ofName (name : String) : SchemeKind :=
  match name with
  | "http" | "ws" => special 80
  | "https" | "wss" => special 443
  | "ftp" => special 21
  | "file" => file
  | _ => other

def isSpecial : SchemeKind → Bool
  | special _ | file => true
  | other => false

end SchemeKind

def isSchemeChar (c : Char) : Bool :=
  c.isAlphanum || c == '+' || c == '-' || c == '.'

/-- The scheme in lower case, and what follows its colon. -/
def scheme? (s : List Char) : Option (String × List Char) :=
  match s.head?, s.dropWhile isSchemeChar with
  | some c, ':' :: rest =>
    if c.isAlpha then
      some (String.ofList ((s.takeWhile isSchemeChar).map Char.toLower), rest)
    else none
  | _, _ => none

/-! ## Paths and authorities -/

/-- The text with every percent sign that stands for a point resolved. -/
def withPoints : List Char → List Char
  | '%' :: '2' :: 'e' :: s => '.' :: withPoints s
  | '%' :: '2' :: 'E' :: s => '.' :: withPoints s
  | c :: s => c :: withPoints s
  | [] => []

def isHere (segment : List Char) : Bool :=
  withPoints segment == ['.']

def isBack (segment : List Char) : Bool :=
  withPoints segment == ['.', '.']

/-- A letter and a colon, or a letter and a bar. -/
def isDrive : List Char → Bool
  | [letter, mark] => letter.isAlpha && (mark == ':' || mark == '|')
  | _ => false

/-- The segments so far, the last one first, without the last one if it can be taken back. -/
def takeBack : List (List Char) → List (List Char)
  | [] => []
  | segment :: kept => if isDrive segment then segment :: kept else kept

/-- Adds a segment to those so far. The drive of a file is written with a colon. -/
def keep (isFile : Bool) (kept : List (List Char)) (segment : List Char) : List (List Char) :=
  if isFile && kept.isEmpty && isDrive segment then [segment.take 1 ++ [':']]
  else segment :: kept

/-- The segments of a path after those that are kept, in their order. -/
def settle (isFile : Bool) (kept : List (List Char)) : List (List Char) → List (List Char)
  | [] => kept.reverse
  | segment :: rest =>
    let isLast := rest.isEmpty
    if isBack segment then
      let kept := takeBack kept
      settle isFile (if isLast then [] :: kept else kept) rest
    else if isHere segment then settle isFile (if isLast then [] :: kept else kept) rest
    else settle isFile (keep isFile kept segment) rest

/-- The segments of a path that is given without its first slash. -/
def segments (isFile : Bool) (s : List Char) : List (List Char) :=
  settle isFile [] ((s.splitOn '/').map Part.path.encode)

def rooted (segments : List (List Char)) : String :=
  String.ofList ('/' :: List.intercalate ['/'] segments)

/-- The path of a file, in which empty segments do not come first. -/
def rootedFile (segments : List (List Char)) : String :=
  rooted (segments.dropWhile (· = []))

/-- What stands before the last at sign, and what follows it. -/
def splitAtSign (s : List Char) : Option (List Char × List Char) :=
  let after := (s.reverse.takeWhile (· ≠ '@')).reverse
  if after.length = s.length then none
  else some (s.take (s.length - after.length - 1), after)

/-- The user and the password, which a colon before an empty password says nothing about. -/
def userText (s : List Char) : String :=
  let name := s.takeWhile (· ≠ ':')
  let password := (s.dropWhile (· ≠ ':')).drop 1
  String.ofList (Part.user.encode name
    ++ if password.isEmpty then [] else ':' :: Part.user.encode password)

/-- A host, and what follows it from the first colon on that stands in no brackets. -/
def splitHost : Bool → List Char → List Char × List Char
  | _, [] => ([], [])
  | inBrackets, c :: s =>
    if c = ':' ∧ !inBrackets then ([], c :: s)
    else
      let (host, rest) := splitHost (if c = '[' then true else inBrackets && c ≠ ']') s
      (c :: host, rest)

/-- The port before a backslash or the end, and what follows it. No digits mean no port. -/
def portOf (s : List Char) : Except Problem (Option Nat × List Char) :=
  let digits := s.takeWhile Char.isDigit
  let rest := s.dropWhile Char.isDigit
  let n := Decimal.ofDigits digits
  if 65535 < n ∨ (rest ≠ [] ∧ rest.head? ≠ some '\\') then .error .badPort
  else .ok (if digits.isEmpty then none else some n, rest)

def hostOf (kind : SchemeKind) (s : List Char) : Except Problem (Option Host) :=
  if kind.isSpecial then
    if s.isEmpty then .error .emptyHost else (Host.ofDomain s).map some
  else if s.isEmpty then .ok none
  else (Host.ofName s).map some

/-- The host and the port, and what does not belong to them any more. -/
def hostAndPort (kind : SchemeKind) (s : List Char) :
    Except Problem (Option Host × Option Nat × List Char) :=
  let (name, rest) := splitHost false s
  (hostOf kind name).bind fun host =>
    match rest with
    | [] => .ok (host, none, [])
    | _ :: digits =>
      if host.isNone then .error .emptyHost
      else
        (portOf digits).map fun (given, rest) =>
          (host, given.filter fun n => SchemeKind.special n ≠ kind, rest)

/-- The authority, and what does not belong to it any more. `isAll` says that nothing follows. -/
def authorityOf (kind : SchemeKind) (isAll : Bool) (s : List Char) :
    Except Problem (Authority × List Char) :=
  let (user, place) := (splitAtSign s).getD ([], s)
  if s = ['@'] ∧ !isAll then .error .emptyHost
  else
    (hostAndPort kind place).bind fun (host, port, rest) =>
      let user := userText user
      if host.isNone ∧ user ≠ "" then .error .emptyHost else .ok (⟨user, host, port⟩, rest)

/-! ## All together -/

/-- What stands before a query and a fragment, and these. -/
structure Division where
  body : List Char
  query : Option (List Char)
  fragment : Option (List Char)

/-- What follows the first such character, if there is one. -/
def after? (mark : Char) (s : List Char) : Option (List Char) :=
  match s.dropWhile (· ≠ mark) with
  | [] => none
  | _ :: rest => some rest

def Division.ofText (s : List Char) : Division :=
  let main := s.takeWhile (· ≠ '#')
  ⟨main.takeWhile (· ≠ '?'), after? '?' main, after? '#' s⟩

/-- The path of a file after its authority, which the letter of a drive makes empty. -/
def fileBody (s : List Char) : Except Problem (Authority × String) :=
  let noHost : Authority := ⟨"", none, none⟩
  match s with
  | '/' :: '/' :: s =>
    let name := s.takeWhile (· ≠ '/')
    if isDrive name then .ok (noHost, rootedFile (segments true s))
    else if name.isEmpty then .ok (noHost, rootedFile (segments true (s.drop 1)))
    else
      (Host.ofDomain name).map fun host =>
        let path := segments true ((s.dropWhile (· ≠ '/')).drop 1)
        let isLocal := host = .name "localhost" || path.head?.any isDrive
        (if isLocal then noHost else ⟨"", some host, none⟩, rootedFile path)
  | '/' :: s => .ok (noHost, rootedFile (segments true s))
  | s => .ok (noHost, rootedFile (segments true s))

/-- The path after an authority. Special schemes have one in any case. -/
def pathAfter (kind : SchemeKind) (s : List Char) : String :=
  if s.isEmpty ∧ !kind.isSpecial then "" else rooted (segments false (s.drop 1))

/-- An authority and a path. -/
def placeBody (kind : SchemeKind) (isAll : Bool) (s : List Char) :
    Except Problem (Authority × String) :=
  let path := s.dropWhile (· ≠ '/')
  (authorityOf kind (isAll && path.isEmpty) (s.takeWhile (· ≠ '/'))).map fun (authority, rest) =>
    (authority, pathAfter kind (if rest.isEmpty then path else '/' :: rest ++ path))

/-- The authority, if there is one, and the path. `isAll` says that no query or fragment follows. -/
def bodyOf (kind : SchemeKind) (isAll : Bool) (s : List Char) :
    Except Problem (Option Authority × String) :=
  match kind with
  | .file => (fileBody (s.map fun c => if c = '\\' then '/' else c)).map fun (a, p) => (some a, p)
  | .special _ =>
    let s := s.map fun c => if c = '\\' then '/' else c
    (placeBody kind isAll (s.dropWhile (· = '/'))).map fun (a, p) => (some a, p)
  | .other =>
    match s with
    | '/' :: '/' :: s => (placeBody kind isAll s).map fun (a, p) => (some a, p)
    | '/' :: s => .ok (none, rooted (segments false s))
    | s => .ok (none, String.ofList (Part.bare.encode s))

/-- What is passed over at both ends of a text. -/
def isOuter (c : Char) : Bool :=
  c.toNat ≤ 0x20

/-- The text without its outer blanks, and without tabs and line breaks. -/
def tidy (s : List Char) : List Char :=
  let s := s.dropWhile isOuter
  (s.reverse.dropWhile isOuter).reverse.filter fun c => c ≠ '\t' ∧ c ≠ '\n' ∧ c ≠ '\r'

/-- The URI that a text stands for. -/
def ofText (text : String) : Except Problem Uri :=
  match scheme? (tidy text.toList) with
  | none => .error .noScheme
  | some (scheme, rest) =>
    let kind := SchemeKind.ofName scheme
    let division := Division.ofText rest
    let isAll := division.query.isNone && division.fragment.isNone
    let queryPart := if kind.isSpecial then Part.specialQuery else Part.query
    (bodyOf kind isAll division.body).map fun (authority, path) =>
      ⟨scheme, authority, path, division.query.map fun s => String.ofList (queryPart.encode s),
        division.fragment.map fun s => String.ofList (Part.fragment.encode s)⟩

end GlslAssist.Uri
