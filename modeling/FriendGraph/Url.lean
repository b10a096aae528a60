import FriendGraph.Url.Form
import FriendGraph.Url.Host

/-! # Absolute URLs

`Url.parse?` reads an absolute URL the way browsers do: blanks around it and line breaks in it
are dropped, the scheme comes first, and for the web schemes a host has to follow, after a user
name and a password that are passed over. The path is kept in its encoded form with dot segments
resolved, the query and the fragment in theirs. A text without a scheme is no absolute URL.
`Url.text` writes a URL with a host.
-/

namespace FriendGraph

/-- An absolute URL in parts. -/
structure Url where
  scheme : String
  host : Option Url.Host
  /-- The number after the host, unless it is the one that belongs to the scheme. -/
  portNumber : Option Nat
  /-- The encoded path, with its leading slash when there is a host. -/
  path : String
  /-- The encoded query, without its question mark. -/
  query : Option String
  /-- The encoded fragment, without its number sign. -/
  fragment : Option String
deriving DecidableEq

namespace Url

/-! ## Sets of characters -/

/-- Visible characters of ASCII. -/
def isGraphic (c : Char) : Bool := '!' ≤ c && c ≤ '~'

/-- Characters that stand as they are in a fragment. -/
def keepsInFragment (c : Char) : Bool := isGraphic c && !"\"<>`".toList.contains c

/-- Characters that stand as they are in a path. -/
def keepsInPath (c : Char) : Bool := isGraphic c && !"\"<>`#?\x7b\x7d".toList.contains c

/-- Characters that stand as they are in a query; the web schemes encode the apostrophe too. -/
def keepsInQuery (isWeb : Bool) (c : Char) : Bool :=
  isGraphic c && !"\"#<>".toList.contains c && !(isWeb && c == '\x27')

/-! ## Schemes -/

/-- The port number that belongs to a scheme. -/
def defaultPort? (scheme : String) : Option Nat :=
  if scheme = "http" ∨ scheme = "ws" then some 80
  else if scheme = "https" ∨ scheme = "wss" then some 443
  else if scheme = "ftp" then some 21
  else none

/-- Whether a scheme is one of those that need a host. -/
def isWebScheme (scheme : String) : Bool := (defaultPort? scheme).isSome

/-- The scheme at the start of a text, in lower case, and what stands after its colon. -/
def scheme? (chars : List Char) : Option (String × List Char) :=
  match chars with
  | first :: _ =>
    if first.isAlpha then
      let isInner (c : Char) : Bool := c.isAlphanum || c == '+' || c == '-' || c == '.'
      match chars.dropWhile isInner with
      | ':' :: rest => some (String.ofList ((chars.takeWhile isInner).map Char.toLower), rest)
      | _ => none
    else none
  | [] => none

/-! ## Authorities -/

/-- The port number after a host; an empty one or the one that belongs to the scheme is left out. -/
def portNumber? (scheme : String) (chars : List Char) : Option (Option Nat) :=
  if chars.isEmpty then some none
  else if chars.all Char.isDigit then
    let value := chars.foldl (fun total c => total * 10 + (c.toNat - '0'.toNat)) 0
    if 65535 < value then none
    else if defaultPort? scheme = some value then some none
    else some (some value)
  else none

/-- What stands before the last occurrence of a character, if there is one, and what stands after
it. -/
def splitLast (mark : Char) (chars : List Char) : Option (List Char) × List Char :=
  match Form.splitFirst mark chars.reverse with
  | (after, before) => (before.map List.reverse, after.reverse)

/-- A text cut at the first colon outside brackets. -/
def splitHost (isInBrackets : Bool) : List Char → List Char × List Char
  | [] => ([], [])
  | c :: rest =>
    if c = ':' ∧ !isInBrackets then ([], c :: rest)
    else
      let (name, after) := splitHost (c == '[' || (isInBrackets && c != ']')) rest
      (c :: name, after)

/-- The host and the port number of a URL. -/
structure Authority where
  host : Option Host
  portNumber : Option Nat

/-- The host that a text is. A text that is empty stands for none where the scheme needs none,
unless a user or a port number is named. -/
def host? (scheme : String) (isUserNamed isPortNamed : Bool) (name : List Char) :
    Option (Option Host) :=
  if isWebScheme scheme then (Host.ofWeb? name).map some
  else if !name.isEmpty then (Host.ofOther? name).map some
  else if isUserNamed || isPortNamed then none
  else some none

/-- The authority in a text, and what a backslash after the port number adds to the path. A user
name is passed over; without one, an at sign cannot be the last before the path. -/
def authority? (scheme : String) (isFollowed : Bool) (chars : List Char) :
    Option (Authority × List Char) := do
  let (user, place) := splitLast '@' chars
  let (name, rest) := splitHost false place
  let isUserNamed := user.any fun written => !written.isEmpty && written != [':']
  let host ← host? scheme isUserNamed (!rest.isEmpty) name
  let portNumber ← portNumber? scheme ((rest.drop 1).takeWhile (· != '\\'))
  if user = some [] ∧ place.isEmpty ∧ isFollowed then none
  else return (⟨host, portNumber⟩, (rest.drop 1).dropWhile (· != '\\'))

/-! ## Paths -/

/-- Whether a segment is a dot, plain or encoded. -/
def isDot (segment : List Char) : Bool :=
  segment == ['.'] || segment.map Char.toLower == "%2e".toList

/-- Whether a segment is two dots, plain or encoded. -/
def isDoubleDot (segment : List Char) : Bool :=
  ["..", ".%2e", "%2e.", "%2e%2e"].any fun form => segment.map Char.toLower == form.toList

/-- Whether a segment is a letter with a colon or a bar: the name of a drive. -/
def isDrive : List Char → Bool
  | [letter, mark] => letter.isAlpha && (mark == ':' || mark == '|')
  | _ => false

/-- The segments that are left when two dots follow, the last one first; a drive is not left. -/
def leave : List (List Char) → List (List Char)
  | [] => []
  | segment :: done => if isDrive segment then segment :: done else done

/-- The segments of a path, the last one first, with dot segments resolved. -/
def resolveSegments (done : List (List Char)) : List (List Char) → List (List Char)
  | [] => done
  | [segment] =>
    if isDoubleDot segment then [] :: leave done
    else if isDot segment then [] :: done
    else segment :: done
  | segment :: rest =>
    if isDoubleDot segment then resolveSegments (leave done) rest
    else if isDot segment then resolveSegments done rest
    else resolveSegments (segment :: done) rest

/-- The encoded path of a URL with segments; it starts with a slash unless it is empty. -/
def encodePath (isWeb : Bool) (chars : List Char) : List Char :=
  let slashed := if isWeb then chars.map fun c => if c = '\\' then '/' else c else chars
  let relative := if slashed.head? = some '/' then slashed.drop 1 else slashed
  let segments := (resolveSegments [] (relative.splitOn '/')).reverse
  if slashed.isEmpty && !isWeb then []
  else '/' :: ['/'].intercalate (segments.map (Percent.encode keepsInPath))

/-! ## Whole URLs -/

/-- A text without the blanks around it and without the line breaks and tabs in it. -/
def tidy (text : String) : List Char :=
  let isBlank (c : Char) : Bool := c ≤ ' '
  let trimmed := ((text.toList.dropWhile isBlank).reverse.dropWhile isBlank).reverse
  trimmed.filter fun c => c != '\t' && c != '\n' && c != '\r'

/-- Whether a character parts the segments of a path. -/
def isSlash (isWeb : Bool) (c : Char) : Bool := c == '/' || (isWeb && c == '\\')

/-- Whether a character ends an authority. -/
def endsAuthority (isWeb : Bool) (c : Char) : Bool := isSlash isWeb c || c == '?' || c == '#'

/-- The URL with an authority and the path, the query and the fragment that a text holds. -/
def assemble (scheme : String) (isWeb : Bool) (authority : Authority)
    (encode : List Char → List Char) (chars : List Char) : Url :=
  let (beforeFragment, fragment) := Form.splitFirst '#' chars
  let (path, query) := Form.splitFirst '?' beforeFragment
  { scheme
    host := authority.host
    portNumber := authority.portNumber
    path := String.ofList (encode path)
    query := query.map fun written => String.ofList (Percent.encode (keepsInQuery isWeb) written)
    fragment := fragment.map fun written => String.ofList (Percent.encode keepsInFragment written) }

/-- The URL whose authority starts a text. -/
def ofAuthority? (scheme : String) (chars : List Char) : Option Url := do
  let isWeb := isWebScheme scheme
  let written := chars.takeWhile (!endsAuthority isWeb ·)
  let rest := chars.dropWhile (!endsAuthority isWeb ·)
  let (authority, added) ← authority? scheme (!rest.isEmpty) written
  return assemble scheme isWeb authority (encodePath isWeb) (added ++ rest)

/-- The URL of a file. After two slashes stands a host, unless it is the name of a drive. -/
def ofFile? (chars : List Char) : Option Url := do
  let isAfterSlashes := (chars.take 2).length = 2 ∧ (chars.take 2).all (isSlash true)
  let written := (chars.drop 2).takeWhile (!endsAuthority true ·)
  let build (host : Option Host) (rest : List Char) : Url :=
    assemble "file" true ⟨host, none⟩ (encodePath true) rest
  if !isAfterSlashes then return build none chars
  else if written.isEmpty ∨ isDrive written then return build none (chars.drop 2)
  else
    let host ← Host.ofWeb? written
    return build (if host = .name "localhost" then none else some host)
      ((chars.drop 2).dropWhile (!endsAuthority true ·))

/-- The absolute URL that a text is. -/
def parse? (text : String) : Option Url := do
  let (scheme, rest) ← scheme? (tidy text)
  if scheme = "file" then ofFile? rest
  else if isWebScheme scheme then ofAuthority? scheme (rest.dropWhile (isSlash true))
  else
    match rest with
    | '/' :: '/' :: place => ofAuthority? scheme place
    | '/' :: _ => return assemble scheme false ⟨none, none⟩ (encodePath false) rest
    | _ => return assemble scheme false ⟨none, none⟩ (Percent.encode Host.isPrintable) rest

/-- A URL with a host as it is written. -/
def text (url : Url) : String :=
  let authority :=
    match url.host with
    | some host => "//" ++ host.text ++ (url.portNumber.map fun n => ":" ++ toString n).getD ""
    | none => ""
  url.scheme ++ ":" ++ authority ++ url.path ++ (url.query.map ("?" ++ ·)).getD "" ++
    (url.fragment.map ("#" ++ ·)).getD ""

/-- The URL with form-encoded pairs after what its query already holds. -/
def withPairs (url : Url) (pairs : List (String × String)) : Url :=
  let added := String.ofList (Form.encode pairs)
  let query :=
    match url.query with
    | none => added
    | some present => if present.isEmpty then added else present ++ "&" ++ added
  { url with query := some query }

/-- What a request for the URL names: the path and the query. -/
def target (url : Url) : String :=
  match url.query with
  | none => url.path
  | some query => url.path ++ "?" ++ query

end Url

end FriendGraph
