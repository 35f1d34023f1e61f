import FlowTesting.Failure
import FlowTesting.Text.Percent
import FlowTesting.Text.Split

set_option autoImplicit false

/-!
# Targets of requests

The target of a request is its path with its query. Paths are put together from names
that may hold anything, so a question mark in a name begins the query, a hash mark ends
the target, and other characters may make the target impossible.
-/

namespace FlowTesting.Http

structure Target where
  path : String
  query : List (String × String)
  deriving DecidableEq, Repr

namespace Target

def forbiddenInPath : List Char := ['#', '<', '>', '?', '\x60']

def forbiddenInQuery : List Char := ['"', '#', '<', '>']

/-- Whether a character may stand in a target, given the visible ones that may not. -/
def isAllowed (forbidden : List Char) (character : Char) : Bool :=
  0x21 ≤ character.toNat && character.toNat ≠ 0x7f && !forbidden.contains character

/-- The parameters of a query: names and values apart, with escapes resolved. -/
def parameters (query : List Char) : List (String × String) :=
  ((Text.splitOn '&' query).filter (fun part => !part.isEmpty)).map (fun part =>
    let (name, value?) := Text.cut '=' part
    (Text.Percent.decodeForm name, Text.Percent.decodeForm (value?.getD [])))

/-- A parameter as it is written in a query, with the mark that sets it apart. -/
def parameterText (parameter : String × String) : List Char :=
  '&' :: Text.Percent.encodeForm parameter.1 ++ '=' :: Text.Percent.encodeForm parameter.2

def queryText (query? : Option (List (String × String))) : List Char :=
  match query? with
  | none => []
  | some query => '?' :: query.flatMap parameterText

/-- The greatest length of a target in octets. -/
def greatestLength : Nat := 65534

def isTooLong (path : String) (query? : Option (List (String × String))) : Bool :=
  greatestLength < path.utf8ByteSize + (queryText query?).length

/-- The target of a path, which a question mark and parameters may follow. That mark
belongs to the query that a question mark in the path has begun, and nothing that follows
a hash mark counts. -/
def parse (path : String) (query? : Option (List (String × String))) :
    Except RequestFault Target :=
  let (kept, lost?) := Text.cut '#' path.toList
  let (proper, stray?) := Text.cut '?' kept
  let followers? := if lost?.isSome then none else query?
  let mark := if followers?.isSome then ['?'] else []
  if isTooLong path query? then .error .tooLong
  else if proper.all (isAllowed forbiddenInPath) &&
      (stray?.getD []).all (isAllowed forbiddenInQuery) then
    .ok
      { path := String.ofList proper
        query := (stray?.map (fun stray => parameters (stray ++ mark))).getD [] ++
          followers?.getD [] }
  else .error .invalidCharacter

end Target

end FlowTesting.Http
