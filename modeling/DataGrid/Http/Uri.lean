/-!
Request targets. Of a target only its query matters here, but a target that is malformed anywhere is
refused. Characters beyond ASCII may stand in paths and queries, control characters may not.
-/

namespace DataGrid.Uri

def isPathChar (c : Char) : Bool :=
  let n := c.toNat
  n == 0x21 || n == 0x22 || (0x24 ≤ n && n ≤ 0x3B) || n == 0x3D || (0x40 ≤ n && n ≤ 0x5F) || (0x61 ≤ n && n != 0x7F)

def isQueryChar (c : Char) : Bool :=
  let n := c.toNat
  n == 0x21 || (0x24 ≤ n && n ≤ 0x3B) || n == 0x3D || (0x3F ≤ n && n != 0x7F)

def pathQuery? (cs : List Char) : Option (Option (List Char)) :=
  let path := cs.takeWhile fun c => c != '?' && c != '#'
  if !path.all isPathChar then none
  else match cs.dropWhile fun c => c != '?' && c != '#' with
    | '?' :: rest =>
      let query := rest.takeWhile (· != '#')
      if query.all isQueryChar then some (some query) else none
    | _ => some none

def isSchemeChar (c : Char) : Bool := c.isAlphanum || c == '+' || c == '-' || c == '.' || c == '~'

def dropIgnoringCase? (start cs : List Char) : Option (List Char) :=
  if (cs.take start.length).map Char.toLower == start then some (cs.drop start.length) else none

/-- What follows a scheme of other than hypertext; such a scheme has 64 characters at most. -/
def otherScheme? (cs : List Char) : Option (Option (List Char)) :=
  let scheme := cs.takeWhile isSchemeChar
  match cs.dropWhile isSchemeChar with
  | ':' :: '/' :: '/' :: rest =>
    if cs.length ≤ 3 then some none else if 64 < scheme.length then none else some (some rest)
  | _ => some none

def afterScheme? (cs : List Char) : Option (Option (List Char)) :=
  match dropIgnoringCase? ['h', 't', 't', 'p', ':', '/', '/'] cs with
  | some rest => some (some rest)
  | none =>
    match dropIgnoringCase? ['h', 't', 't', 'p', 's', ':', '/', '/'] cs with
    | some rest => some (some rest)
    | none => otherScheme? cs

structure Authority where
  colons : Nat
  opened : Bool
  closed : Bool
  percent : Bool
  atEnd : Bool

def isAuthorityChar (c : Char) : Bool :=
  c.isAlphanum || c == '!' || c == '$' || c == '&' || c == '\'' || c == '(' || c == ')' || c == '*' || c == '+' ||
    c == ',' || c == '-' || c == '.' || c == ';' || c == '=' || c == '_' || c == '~'

def Authority.step (a : Authority) (c : Char) : Option Authority :=
  let a := { a with atEnd := false }
  if c == ':' then if 8 ≤ a.colons then none else some { a with colons := a.colons + 1 }
  else if c == '[' then if a.percent || a.opened then none else some { a with opened := true }
  else if c == ']' then
    if !a.opened || a.closed then none else some { a with closed := true, colons := 0, percent := false }
  else if c == '@' then some { a with colons := 0, percent := false, atEnd := true }
  else if c == '%' then some { a with percent := true }
  else if isAuthorityChar c then some a
  else none

/-- Brackets in pairs, one port at most, something behind the user, and no escapes outside it. -/
def Authority.isComplete (a : Authority) : Bool :=
  a.opened == a.closed && a.colons ≤ 1 && !a.atEnd && !a.percent

def readAuthority (cs : List Char) : Option (List Char × List Char) :=
  let goesOn (c : Char) : Bool := c != '/' && c != '?' && c != '#'
  let text := cs.takeWhile goesOn
  match text.foldlM Authority.step ⟨0, false, false, false, false⟩ with
  | some a => if a.isComplete then some (text, cs.dropWhile goesOn) else none
  | none => none

def absoluteQuery? (cs : List Char) : Option (Option (List Char)) := do
  match ← afterScheme? cs with
  | none =>
    let (_, rest) ← readAuthority cs
    if rest.isEmpty then some none else none
  | some rest =>
    let (authority, path) ← readAuthority rest
    if authority.isEmpty then none else pathQuery? path

/-- The query of a target, if the target is well-formed; it is at most 65534 bytes long. -/
def query? (target : String) : Option (Option (List Char)) :=
  if 65534 < target.utf8ByteSize then none
  else match target.toList with
    | [] => none
    | ['*'] => some none
    | '/' :: rest => pathQuery? ('/' :: rest)
    | [c] => (readAuthority [c]).bind fun a => if a.1.isEmpty then none else some none
    | cs => absoluteQuery? cs

end DataGrid.Uri
