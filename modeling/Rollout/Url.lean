import Rollout.Url.Host

/-!
# URLs

Absolute URLs by the WHATWG rules: `Url.ofText?` reads one and `Url.toText` writes it in its
normal form, in which dot segments are resolved and special characters encoded.
-/

namespace Rollout

/-- The path of a URL. -/
inductive UrlPath where
  | segments (l : List String)
  /-- The path of a URL that has no hierarchy. -/
  | whole (text : String)
  deriving Repr, DecidableEq

/-- An absolute URL. -/
structure Url where
  scheme : String
  username : String := ""
  password : String := ""
  host : Option Url.Host := none
  /-- The port, unless it is the default one of the scheme. -/
  port : Option Nat := none
  path : UrlPath
  query : Option String := none
  fragment : Option String := none
  deriving Repr, DecidableEq

namespace Url

/-! ### Parts -/

/-- The schemes whose URLs have hosts, and their default ports. -/
def specialSchemes : List (String × Option Nat) :=
  [("http", some 80), ("https", some 443), ("ws", some 80), ("wss", some 443), ("ftp", some 21),
   ("file", none)]

/-- Whether a scheme is special. -/
def isSpecial (scheme : String) : Bool := (specialSchemes.lookup scheme).isSome

/-- The default port of a scheme. -/
def defaultPort? (scheme : String) : Option Nat := (specialSchemes.lookup scheme).join

/-- Split at the first occurrence of a character, if there is one. -/
def cut (c : Char) (cs : List Char) : List Char × Option (List Char) :=
  match cs.dropWhile (· != c) with
  | [] => (cs, none)
  | _ :: rest => (cs.takeWhile (· != c), some rest)

/-- Split at the last occurrence of a character, if there is one. -/
def cutLast (c : Char) (cs : List Char) : Option (List Char × List Char) :=
  match cut c cs.reverse with
  | (_, none) => none
  | (after, some before) => some (before.reverse, after.reverse)

/-- The scheme of a URL in lower case, and what follows its colon. -/
def scheme? (cs : List Char) : Option (String × List Char) :=
  let isPart (c : Char) := c.isAlphanum || "+-.".toList.contains c
  match cs.takeWhile isPart, cs.dropWhile isPart with
  | c :: name, ':' :: rest =>
    if c.isAlpha then some (String.ofList ((c :: name).map Char.toLower), rest) else none
  | _, _ => none

/-- Whether a character separates the segments of a path. -/
def isSlash (special : Bool) (c : Char) : Bool := c == '/' || (special && c == '\\')

/-- Whether a segment stands for the directory it is in. -/
def isDot (s : List Char) : Bool := [".", "%2e"].contains (String.ofList (s.map Char.toLower))

/-- Whether a segment stands for the directory above. -/
def isDoubleDot (s : List Char) : Bool :=
  ["..", ".%2e", "%2e.", "%2e%2e"].contains (String.ofList (s.map Char.toLower))

/-- Resolve dot segments and encode the others, given the segments before in reverse. -/
def resolveSegments (before : List String) : List (List Char) → List String
  | [] => before.reverse
  | s :: rest =>
    if isDoubleDot s then
      resolveSegments (if rest.isEmpty then "" :: before.drop 1 else before.drop 1) rest
    else if isDot s then resolveSegments (if rest.isEmpty then "" :: before else before) rest
    else resolveSegments (String.ofList (encode inPath s) :: before) rest

/-- The path after a host. -/
def hierarchicalPath (special : Bool) (cs : List Char) : UrlPath :=
  match cs with
  | [] => .segments (if special then [""] else [])
  | c :: rest =>
    .segments <| resolveSegments [] <|
      Text.splitList (isSlash special) (if isSlash special c then rest else c :: rest)

/-- Split a port off a host. Colons between brackets belong to the host. -/
def splitPort (inside : Bool) : List Char → List Char × Option (List Char)
  | [] => ([], none)
  | c :: rest =>
    if c == ':' && !inside then ([], some rest)
    else
      let (host, port) := splitPort (c == '[' || (inside && c != ']')) rest
      (c :: host, port)

/-- Read a port. The default port of the scheme counts as none. -/
def port? (scheme : String) (cs : List Char) : Option (Option Nat) :=
  if !cs.all Char.isDigit then none
  else if cs.isEmpty then some none
  else (digitsValue? 10 cs).bind fun n =>
    if Nat.pow 2 16 ≤ n then none
    else if defaultPort? scheme = some n then some none
    else some (some n)

/-- Name and password before an at sign. -/
def userInfo (cs : List Char) : String × String :=
  let (name, password) := cut ':' cs
  (String.ofList (encode inUserInfo name), String.ofList (encode inUserInfo (password.getD [])))

/-! ### Reading -/

/-- Read what follows two slashes: user, host, port and path. `isLast` tells whether nothing comes
after that. A host may be missing only in URLs with rules of their own, and if there are neither
user nor port; a backslash ends the port there too. -/
def ofAuthority? (scheme : String) (isLast : Bool) (cs : List Char) : Option Url := do
  let special := isSpecial scheme
  let authority := cs.takeWhile (!isSlash special ·)
  let rest := cs.dropWhile (!isSlash special ·)
  let (user, hostAndPort) := match cutLast '@' authority with
    | some (user, tail) => (some user, tail)
    | none => (none, authority)
  guard (!(user == some [] && hostAndPort.isEmpty && !(isLast && rest.isEmpty)))
  let (username, password) := userInfo (user.getD [])
  let (hostText, portText) := splitPort false hostAndPort
  guard (!hostText.isEmpty ||
    (!special && portText.isNone && username.isEmpty && password.isEmpty))
  let host ← if special then Host.ofSpecial? hostText else Host.ofOther? hostText
  let afterPort := (portText.getD []).dropWhile (· != '\\')
  let port ← port? scheme ((portText.getD []).takeWhile (· != '\\'))
  return { scheme, username, password, host := some host, port,
           path := hierarchicalPath special (afterPort ++ rest) }

/-- Whether a text is the letter of a drive. -/
def isDrive (cs : List Char) : Bool :=
  match cs with
  | [c, d] => c.isAlpha && (d == ':' || d == '|')
  | _ => false

/-- Read a file URL, given what follows the scheme. -/
def ofFile? (cs : List Char) : Option Url :=
  let isSlash := isSlash true
  match cs with
  | a :: b :: rest =>
    if isSlash a && isSlash b then
      let hostText := rest.takeWhile (!isSlash ·)
      let path := rest.dropWhile (!isSlash ·)
      if hostText.isEmpty then some { scheme := "file", path := hierarchicalPath true path }
      else if isDrive hostText then some { scheme := "file", path := hierarchicalPath true rest }
      else (Host.ofSpecial? hostText).map fun host =>
        { scheme := "file", host := if host = .domain "localhost" then none else some host,
          path := hierarchicalPath true path }
    else some { scheme := "file", path := hierarchicalPath true cs }
  | _ => some { scheme := "file", path := hierarchicalPath true cs }

/-- Read what follows the scheme, apart from query and fragment; `isLast` tells whether there are
none. -/
def ofRest? (scheme : String) (isLast : Bool) (cs : List Char) : Option Url :=
  if scheme = "file" then ofFile? cs
  else if isSpecial scheme then ofAuthority? scheme isLast (cs.dropWhile (isSlash true))
  else match cs with
    | '/' :: '/' :: rest => ofAuthority? scheme isLast rest
    | '/' :: _ => some { scheme, path := hierarchicalPath false cs }
    | _ => some { scheme, path := .whole (String.ofList (encode isControl cs)) }

/-- The characters of a URL: control characters and spaces around it do not count, nor do tabs and
line breaks anywhere. -/
def relevant (s : String) : List Char :=
  (Text.trimList (fun c => c ≤ ' ') s.toList).filter fun c => c != '\t' && c != '\n' && c != '\x0d'

/-- Whether a text starts with a scheme. -/
def hasScheme (s : String) : Bool := (scheme? (relevant s)).isSome

/-- Read an absolute URL. -/
def ofText? (s : String) : Option Url := do
  let (cs, fragment) := cut '#' (relevant s)
  let (cs, query) := cut '?' cs
  let (scheme, rest) ← scheme? cs
  let url ← ofRest? scheme (query.isNone && fragment.isNone) rest
  let inQuery := if isSpecial scheme then inSpecialQuery else inQuery
  return { url with
    query := query.map fun q => String.ofList (encode inQuery q)
    fragment := fragment.map fun f => String.ofList (encode inFragment f) }

/-! ### Writing -/

/-- The text of the path. -/
def pathText (u : Url) : String :=
  match u.path with
  | .whole text => text
  | .segments l => String.join (l.map ("/" ++ ·))

/-- The path and the query, as a server is asked for them. -/
def target (u : Url) : String := u.pathText ++ ((u.query.map ("?" ++ ·)).getD "")

/-- The text of host and port. -/
def hostAndPort (u : Url) : String :=
  ((u.host.map Host.toText).getD "") ++ ((u.port.map fun n => ":" ++ toString n).getD "")

/-- The text of name and password. -/
def userInfoText (u : Url) : String :=
  if u.username.isEmpty && u.password.isEmpty then ""
  else u.username ++ (if u.password.isEmpty then "" else ":" ++ u.password) ++ "@"

/-- The text of the URL. -/
def toText (u : Url) : String :=
  let authority :=
    if u.host.isSome || u.scheme = "file" then "//" ++ u.userInfoText ++ u.hostAndPort else ""
  u.scheme ++ ":" ++ authority ++ u.target ++ ((u.fragment.map ("#" ++ ·)).getD "")

/-- Whether the URL names a host. -/
def hasHost (u : Url) : Bool := u.host.isSome && u.host != some (.verbatim "")

/-- The URL without user and fragment. -/
def publicText (u : Url) : String := u.scheme ++ "://" ++ u.hostAndPort ++ u.target

/-- The URL with one more pair in its query. Both parts are letters and digits. -/
def withPair (u : Url) (key value : String) : Url :=
  let pair := key ++ "=" ++ value
  { u with query := some (match u.query with
    | none | some "" => pair
    | some q => q ++ "&" ++ pair) }

end Url

end Rollout
