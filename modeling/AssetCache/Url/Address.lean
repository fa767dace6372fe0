import AssetCache.Url.Host

/-!
# URLs

A URL has a scheme and, after it, what the scheme says.  Only web addresses, of the schemes `http`
and `https`, are taken apart and put into one written form, `WebAddress.render`; of any other URL
only the scheme is kept, once its host and port have been checked where it has them.
-/

namespace AssetCache.Url

/-- The address of something on the web. -/
structure WebAddress where
  /-- Whether the scheme is `https`. -/
  secure : Bool
  /-- The user name, percent-encoded. -/
  user : List Char
  /-- The password, percent-encoded. -/
  password : List Char
  host : Host
  /-- The port, unless it is the scheme's own. -/
  port : Option Nat
  /-- The segments of the path, percent-encoded; there is at least one. -/
  path : List (List Char)
  /-- The query, percent-encoded. -/
  query : Option (List Char)
  /-- The fragment, percent-encoded. -/
  fragment : Option (List Char)
  deriving DecidableEq, Repr

/-- A URL. -/
inductive Address where
  | web (address : WebAddress)
  /-- A URL with another scheme. -/
  | other (scheme : String)
  deriving DecidableEq, Repr

/-- An optional part with the character before it. -/
def renderPart (mark : Char) : Option (List Char) → List Char
  | some part => mark :: part
  | none => []

/-- The written form of user name and password. -/
def WebAddress.renderUser (a : WebAddress) : List Char :=
  if a.user.isEmpty && a.password.isEmpty then []
  else a.user ++ (if a.password.isEmpty then [] else ':' :: a.password) ++ ['@']

def WebAddress.render (a : WebAddress) : String :=
  String.ofList ((if a.secure then "https://" else "http://").toList ++ a.renderUser ++
    a.host.render ++ renderPart ':' (a.port.map fun p => (toString p).toList) ++
    a.path.flatMap (fun segment => '/' :: segment) ++ renderPart '?' a.query ++
    renderPart '#' a.fragment)

/-! ## Texts -/

/-- A text without the controls and spaces at its ends, and without tabs and line ends. -/
def clean (text : List Char) : List Char :=
  let atEnd (c : Char) : Bool := c.toNat ≤ 0x20
  let trimmed := ((text.dropWhile atEnd).reverse.dropWhile atEnd).reverse
  trimmed.filter fun c => c ≠ '\t' && c ≠ '\n' && c ≠ '\r'

/-- Whether a character may stand in a scheme. -/
def isSchemeCharacter (c : Char) : Bool := c.isAlphanum || c = '+' || c = '-' || c = '.'

/-- The scheme in lower case, and what follows its colon. -/
def splitScheme? (text : List Char) : Option (List Char × List Char) :=
  match text with
  | [] => none
  | c :: _ =>
    if !c.isAlpha then none
    else
      match text.span isSchemeCharacter with
      | (scheme, ':' :: rest) => some (scheme.map Char.toLower, rest)
      | _ => none

/-! ## Authorities -/

/-- What stands between the slashes and the path. -/
structure Authority where
  /-- What stands before the last `@`, if there is one. -/
  userInfo : Option (List Char)
  /-- What follows it. -/
  hostPort : List Char

/-- What stands before and after the last `@`. -/
def Authority.ofText (text : List Char) : Authority :=
  if text.contains '@' then
    let after := (text.reverse.takeWhile (· ≠ '@')).reverse
    ⟨some (text.take (text.length - after.length - 1)), after⟩
  else ⟨none, text⟩

/-- The host, and what follows the colon after it, if there is one.  A colon in brackets is part of
the host. -/
def splitPort : (inside : Bool) → List Char → List Char × Option (List Char)
  | _, [] => ([], none)
  | inside, c :: rest =>
    if c = ':' && !inside then ([], some rest)
    else
      let (host, port) := splitPort (c = '[' || (inside && c ≠ ']')) rest
      (c :: host, port)

/-- The user name and the password, percent-encoded. -/
def splitUser (userInfo : List Char) : List Char × List Char :=
  let user := userInfo.takeWhile (· ≠ ':')
  (Percent.encode Percent.userSet user,
    Percent.encode Percent.userSet (userInfo.drop (user.length + 1)))

/-- Read digits onto a port; no answer once it is too large or at a character that is no digit. -/
def readPort? : (sofar : Nat) → List Char → Option Nat
  | sofar, [] => some sofar
  | sofar, c :: rest =>
    if !c.isDigit then none
    else
      let n := 10 * sofar + (c.toNat - '0'.toNat)
      if 65535 < n then none else readPort? n rest

/-- Read a port; the scheme's own port and an empty one say nothing. -/
def parsePort (own : Option Nat) : Option (List Char) → Except UrlError (Option Nat)
  | none => .ok none
  | some [] => .ok none
  | some text =>
    match readPort? 0 text with
    | none => .error .invalidPort
    | some n => .ok (if some n = own then none else some n)

/-- What ends an authority where a backslash counts as a slash. -/
def endsAuthority (c : Char) : Bool := c = '/' || c = '\\' || c = '?' || c = '#'

/-- Host and port of an authority that must have a host. -/
def parseHostPort (own : Option Nat) (authority : Authority) :
    Except UrlError (Host × Option Nat) :=
  let (host, port) := splitPort false authority.hostPort
  if host.isEmpty then .error .emptyHost
  else
    match Host.parse host with
    | .error e => .error e
    | .ok host =>
      match parsePort own port with
      | .error e => .error e
      | .ok port => .ok (host, port)

/-- Check an authority whose host is kept as it is.  An empty host may have neither a user nor a
port, and nothing but the end may follow an `@` in front. -/
def checkOpaqueAuthority (authority : Authority) (endsThere : Bool) : Except UrlError Unit :=
  let userInfo := authority.userInfo.getD []
  let hasUser := !(userInfo.isEmpty || userInfo = [':'])
  let (host, port) := splitPort false authority.hostPort
  if authority.userInfo = some [] && authority.hostPort.isEmpty && !endsThere then .error .emptyHost
  else
    match Host.checkOpaque host with
    | .error e => .error e
    | .ok () =>
      if host.isEmpty && port.isSome then .error .emptyHost
      else
        match parsePort none (port.map fun text => text.takeWhile (· ≠ '\\')) with
        | .error e => .error e
        | .ok _ => if host.isEmpty && hasUser then .error .emptyHost else .ok ()

/-! ## Paths -/

/-- A text cut at each slash and backslash. -/
def segments : List Char → List (List Char)
  | [] => [[]]
  | c :: rest =>
    if c = '/' || c = '\\' then [] :: segments rest
    else
      match segments rest with
      | segment :: more => (c :: segment) :: more
      | [] => [[c]]

/-- The forms of a dot in a segment. -/
def dots : List (List Char) := [".", "%2e", "%2E"].map String.toList

/-- Whether a segment stands for the place where it is. -/
def isHere (segment : List Char) : Bool := dots.contains segment

/-- Whether a segment stands for the place above. -/
def isAbove (segment : List Char) : Bool :=
  dots.any fun a => dots.any fun b => segment == a ++ b

/-- Whether a segment is the letter of a drive, which nothing stands above. -/
def isDrive : List Char → Bool
  | [c, d] => c.isAlpha && (d = ':' || d = '|')
  | _ => false

/-- Leave the place that the last segment names; `done` is in reverse. -/
def goAbove : (done : List (List Char)) → List (List Char)
  | [] => []
  | segment :: rest => if isDrive segment then segment :: rest else rest

/-- Follow segments from the place that `done` names in reverse.  The last segment names a thing and
not a place, so that there is always one. -/
def follow : (done : List (List Char)) → List (List Char) → List (List Char)
  | done, [] => done.reverse
  | done, [segment] =>
    if isAbove segment then ([] :: goAbove done).reverse
    else if isHere segment then ([] :: done).reverse
    else (segment :: done).reverse
  | done, segment :: rest =>
    if isAbove segment then follow (goAbove done) rest
    else if isHere segment then follow done rest
    else follow (segment :: done) rest

/-- The segments of a path, given what follows the authority up to the query. -/
def parsePath (text : List Char) : List (List Char) :=
  let text := match text with
    | c :: rest => if c = '/' || c = '\\' then rest else text
    | [] => []
  follow [] ((segments text).map (Percent.encode Percent.pathSet))

/-! ## Whole URLs -/

/-- Cut a text before the first character of a sort, and drop that character. -/
def splitAtMark (mark : Char) (text : List Char) : List Char × Option (List Char) :=
  match text.span (· ≠ mark) with
  | (before, _ :: after) => (before, some after)
  | (before, []) => (before, none)

/-- Read a web address from what follows the colon of its scheme. -/
def parseWeb (secure : Bool) (text : List Char) : Except UrlError WebAddress :=
  let text := text.dropWhile fun c => c = '/' || c = '\\'
  let (authorityText, rest) := text.span fun c => !endsAuthority c
  let authority := Authority.ofText authorityText
  match parseHostPort (some (if secure then 443 else 80)) authority with
  | .error e => .error e
  | .ok (host, port) =>
    let (beforeFragment, fragment) := splitAtMark '#' rest
    let (path, query) := splitAtMark '?' beforeFragment
    let (user, password) := splitUser (authority.userInfo.getD [])
    .ok {
      secure, user, password, host, port
      path := parsePath path
      query := query.map (Percent.encode Percent.querySet)
      fragment := fragment.map (Percent.encode Percent.fragmentSet) }

/-- Schemes other than the web's whose URLs must have a host, with their own ports. -/
def hostSchemes : List (String × Nat) := [("ftp", 21), ("ws", 80), ("wss", 443)]

/-- Check a file's URL: between two slashes and the path there may be a host. -/
def checkFile (text : List Char) : Except UrlError Unit :=
  match text with
  | a :: b :: rest =>
    if (a = '/' || a = '\\') && (b = '/' || b = '\\') then
      let host := rest.takeWhile fun c => !endsAuthority c
      if host.isEmpty || isDrive host then .ok ()
      else
        match Host.parse host with
        | .error e => .error e
        | .ok _ => .ok ()
    else .ok ()
  | _ => .ok ()

/-- Check what follows the colon of any other scheme than the web's. -/
def checkOther (scheme : String) (text : List Char) : Except UrlError Unit :=
  match hostSchemes.find? fun s => s.1 = scheme with
  | some (_, own) =>
    let text := text.dropWhile fun c => c = '/' || c = '\\'
    let authority := Authority.ofText (text.takeWhile fun c => !endsAuthority c)
    match parseHostPort (some own) authority with
    | .error e => .error e
    | .ok _ => .ok ()
  | none =>
    if scheme = "file" then checkFile text
    else
      match text with
      | '/' :: '/' :: text =>
        let (authorityText, rest) := text.span fun c => !(c = '/' || c = '?' || c = '#')
        checkOpaqueAuthority (Authority.ofText authorityText) rest.isEmpty
      | _ => .ok ()

def parse (text : String) : Except UrlError Address :=
  match splitScheme? (clean text.toList) with
  | none => .error .relative
  | some (scheme, rest) =>
    let scheme := String.ofList scheme
    if scheme = "http" || scheme = "https" then
      match parseWeb (scheme = "https") rest with
      | .ok address => .ok (.web address)
      | .error e => .error e
    else
      match checkOther scheme rest with
      | .ok () => .ok (.other scheme)
      | .error e => .error e

end AssetCache.Url
