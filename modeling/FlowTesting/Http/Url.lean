import FlowTesting.Http.Host
import FlowTesting.Http.Path

set_option autoImplicit false

/-!
# Addresses

The address of a server is read leniently and kept in one form: blanks around it are
dropped, its scheme is in lower case and its host in ASCII, the port of the scheme is left
out, the steps of the path are taken, and characters that may not stand for themselves are
escaped. Addresses of files have hosts, but neither credentials nor ports.
-/

namespace FlowTesting.Http

structure Credentials where
  user : List Char
  password? : Option (List Char) := none
  deriving DecidableEq, Repr

structure Url where
  scheme : String
  credentials? : Option Credentials := none
  /-- The host, which is empty where nothing stands between the slashes before the path. -/
  host? : Option String
  port? : Option Nat := none
  path : String
  query? : Option String
  fragment? : Option String
  deriving DecidableEq, Repr

inductive UrlFault where
  | noScheme
  | badHost
  | badPort
  deriving DecidableEq, Repr

namespace Credentials

def text (credentials : Credentials) : String :=
  let password := match credentials.password? with
    | some password => ':' :: password
    | none => []
  String.ofList (credentials.user ++ password ++ ['@'])

/-- Whether credentials can be told to a server: their user can be read, and there is one
or a password that can be read. -/
def areReadable (credentials : Credentials) : Bool :=
  (Text.Percent.decode? credentials.user).isSome &&
    (!credentials.user.isEmpty ||
      (credentials.password?.bind Text.Percent.decode?).isSome)

def escaped : List Char :=
  Path.escapedInPath ++ ['/', ':', ';', '=', '@', '[', '\\', ']', '^', '|']

/-- The credentials before a host; an empty password is none. -/
def ofText? (written : List Char) : Option Credentials :=
  let (user, password?) := Text.cut ':' written
  let password? := (password?.filter (!·.isEmpty)).map (Path.encode escaped)
  if user.isEmpty && password?.isNone then none
  else some { user := Path.encode escaped user, password? }

end Credentials

namespace Url

/-- The schemes with a host before every path, and their ports. -/
def standardPorts : List (String × Nat) :=
  [("http", 80), ("https", 443), ("ws", 80), ("wss", 443), ("ftp", 21)]

def fileScheme : String := "file"

def isSpecial (scheme : String) : Bool := (standardPorts.lookup scheme).isSome

def text (url : Url) : String :=
  let credentials := (url.credentials?.map Credentials.text).getD ""
  let authority := match url.host? with
    | some host => "//" ++ credentials ++ host ++
        ((url.port?.map (fun port => s!":{port}")).getD "")
    | none => ""
  url.scheme ++ ":" ++ authority ++ url.path ++ ((url.query?.map ("?" ++ ·)).getD "") ++
    ((url.fragment?.map ("#" ++ ·)).getD "")

def hasHost (url : Url) : Bool := url.host?.any (!·.isEmpty)

/-- The address without credentials that a server can be told otherwise. -/
def withoutReadableCredentials (url : Url) : Url :=
  if url.credentials?.any Credentials.areReadable then { url with credentials? := none } else url

/-- The greatest length in octets of an address that can be asked. -/
def greatestLength : Nat := 65534

def unaskable : List Char := ['"', '\x60', '\x7b', '\x7d']

def isHttp (url : Url) : Bool :=
  url.hasHost && (url.scheme == "http" || url.scheme == "https") &&
    url.text.utf8ByteSize ≤ greatestLength &&
    url.host?.all (fun host => !host.toList.any unaskable.contains)

def escapedInQuery : List Char := [' ', '"', '#', '<', '>']

/-- Whether a character is dropped from the ends of an address. -/
def isPadding (character : Char) : Bool := character.toNat ≤ 0x20

/-- Characters that are dropped wherever they stand in an address. -/
def lineBreaks : List Char := ['\t', '\n', '\r']

def relevant (written : String) : List Char :=
  let trimmed := (written.toList.dropWhile isPadding).reverse.dropWhile isPadding
  trimmed.reverse.filter (fun character => !lineBreaks.contains character)

def isSchemeCharacter (character : Char) : Bool :=
  character.isAlphanum || ['+', '-', '.'].contains character

/-- The scheme in lower case, and what follows its colon. -/
def scheme? (characters : List Char) : Option (String × List Char) := do
  let (scheme, rest) ← Text.splitOnce? ':' characters
  if scheme.head?.any Char.isAlpha && scheme.all isSchemeCharacter then
    some (String.ofList (scheme.map Char.toLower), rest)
  else none

/-- The port after a host, which is none where it is the one of the scheme, and what
follows it. -/
def parsePort (scheme : String) (written : List Char) :
    Except UrlFault (Option Nat × List Char) :=
  let digits := written.takeWhile Char.isDigit
  let port := Nat.ofDigitChars 10 digits 0
  let rest := written.drop digits.length
  if 65535 < port || !rest.head?.all (Path.isSlash true) then .error .badPort
  else .ok (if digits.isEmpty || standardPorts.lookup scheme == some port then none else some port,
    rest)

/-- Splits a host from its port; colons between brackets belong to the host. -/
def splitPort : (bracketed : Bool) → List Char → List Char × Option (List Char)
  | _, [] => ([], none)
  | bracketed, character :: rest =>
    if character = ':' ∧ !bracketed then ([], some rest)
    else
      let inside := if character = '[' then true else if character = ']' then false else bracketed
      let (host, port?) := splitPort inside rest
      (character :: host, port?)

/-- What stands before and after the last sign that ends credentials. -/
def splitCredentials (authority : List Char) : Option (List Char) × List Char :=
  let host := (authority.reverse.takeWhile (· != '@')).reverse
  if host.length = authority.length then (none, host)
  else (some (authority.take (authority.length - host.length - 1)), host)

/-- The host of a scheme; one that is special has no empty one. -/
def parseHost (special : Bool) (written : List Char) : Except UrlFault String :=
  let host? := if special then Host.parse? written else Host.parseOpaque? written
  match host? with
  | some host => .ok host
  | none => .error .badHost

/-- Reads what follows the slashes of an address with a host. Nothing but an empty host may
stand alone: neither credentials nor a port go without a host, and an empty sign that ends
credentials goes at the very end only. -/
def parseWithHost (scheme : String) (written : List Char) (query? fragment? : Option String) :
    Except UrlFault Url := do
  let special := isSpecial scheme
  let authority := written.takeWhile (fun character => !Path.isSlash special character)
  let rest := written.drop authority.length
  let (credentialsText?, inner) := splitCredentials authority
  let credentials? := credentialsText?.bind Credentials.ofText?
  let (hostText, portText?) := splitPort false inner
  let endsEarly := credentialsText? == some [] && inner.isEmpty &&
    (!rest.isEmpty || query?.isSome || fragment?.isSome)
  if endsEarly || (hostText.isEmpty && (credentials?.isSome || portText?.isSome)) then
    throw .badHost
  let host ← parseHost special hostText
  let (port?, afterPort) ← parsePort scheme (portText?.getD [])
  return { scheme, credentials?, host? := some host, port?
           path := String.ofList (Path.afterHost special (afterPort ++ rest)), query?, fragment? }

/-- The host of a file; the local one is as good as none. -/
def parseFileHost (written : List Char) : Except UrlFault String :=
  if written.isEmpty then .ok ""
  else (parseHost true written).map (fun host => if host = "localhost" then "" else host)

/-- Reads what follows the colon in the address of a file. A drive is no host, and no host
comes before a drive. -/
def parseFile (written : List Char) (query? fragment? : Option String) : Except UrlFault Url := do
  let url (host : String) (path : List Char) : Url :=
    { scheme := fileScheme, host? := some host, path := String.ofList path, query?, fragment? }
  let isSlash := Path.isSlash true
  match written with
  | [] => return url "" ['/']
  | first :: rest =>
    if !isSlash first then return url "" (Path.ofFile written).1
    else if !rest.head?.any isSlash then return url "" (Path.ofFile rest).1
    else
      let inner := rest.drop 1
      let hostText := inner.takeWhile (fun character => !isSlash character)
      if hostText.length = 2 ∧ Path.beginsWithDrive hostText then
        return url "" (Path.ofFile inner).1
      else
        let host ← parseFileHost hostText
        let remaining := inner.drop hostText.length
        let (path, hasDrive) := Path.ofFile (if host = "" then remaining else remaining.drop 1)
        return url (if hasDrive then "" else host) path

/-- Reads what follows the colon in the address of a scheme that is not special. -/
def parseOther (scheme : String) (written : List Char) (query? fragment? : Option String) :
    Except UrlFault Url :=
  match written with
  | '/' :: '/' :: authority => parseWithHost scheme authority query? fragment?
  | _ => .ok
      { scheme, host? := none, path := String.ofList (Path.withoutHost written), query?,
        fragment? }

def parse (written : String) : Except UrlFault Url :=
  match scheme? (relevant written) with
  | none => .error .noScheme
  | some (scheme, rest) =>
    let isFile := scheme == fileScheme
    let (unmarked, fragment?) := Text.cut '#' rest
    let (hierarchy, query?) := Text.cut '?' unmarked
    let escapedInQuery :=
      if isFile || isSpecial scheme then '\'' :: escapedInQuery else escapedInQuery
    let query? := query?.map (fun query => String.ofList (Path.encode escapedInQuery query))
    let fragment? := fragment?.map (fun fragment =>
      String.ofList (Path.encode Path.escapedInFragment fragment))
    if isFile then parseFile hierarchy query? fragment?
    else if isSpecial scheme then
      parseWithHost scheme (hierarchy.dropWhile (Path.isSlash true)) query? fragment?
    else parseOther scheme hierarchy query? fragment?

end Url

end FlowTesting.Http
