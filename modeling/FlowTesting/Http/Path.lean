import FlowTesting.Text.Percent

set_option autoImplicit false

/-!
# Paths of addresses

A path is a list of levels. Steps to the same level and to the upper one are taken when
it is read, and characters that may not stand for themselves are escaped. No step leaves
a drive, which is a letter followed by a colon or a bar; in the path of a file a drive at
the top has a colon and is a level of its own.
-/

namespace FlowTesting.Http.Path

def standsForItself (escaped : List Char) (character : Char) : Bool :=
  0x20 ≤ character.toNat && character.toNat < 0x7f && !escaped.contains character

def encode (escaped characters : List Char) : List Char :=
  Text.Percent.encode (standsForItself escaped) characters

def escapedInFragment : List Char := [' ', '"', '<', '>', '\x60']
def escapedInPath : List Char := escapedInFragment ++ ['#', '?', '\x7b', '\x7d']

/-- Whether a character parts the levels of a path; special schemes have two such. -/
def isSlash (special : Bool) (character : Char) : Bool :=
  character == '/' || (special && character == '\\')

def levels (special : Bool) : List Char → List (List Char)
  | [] => [[]]
  | character :: rest =>
    if isSlash special character then [] :: levels special rest
    else
      match levels special rest with
      | [] => [[character]]
      | level :: others => (character :: level) :: others

/-- A level with its escaped dots resolved. -/
def dots (level : List Char) : List Char :=
  match level with
  | '.' :: rest => '.' :: dots rest
  | '%' :: '2' :: 'e' :: rest => '.' :: dots rest
  | '%' :: '2' :: 'E' :: rest => '.' :: dots rest
  | character :: rest => character :: dots rest
  | [] => []

/-- Whether a level is a drive, or goes on after one with a mark that could end it. -/
def beginsWithDrive : List Char → Bool
  | letter :: mark :: rest =>
    letter.isAlpha && (mark == ':' || mark == '|') &&
      rest.head?.all ['/', '\\', '?', '#'].contains
  | _ => false

def stepUp : List (List Char) → List (List Char)
  | [] => []
  | last :: others => if beginsWithDrive last then last :: others else others

/-- Takes the steps of a path, with the levels so far in reverse. A step at the end leaves
an empty level. -/
def walk (done : List (List Char)) : List (List Char) → List (List Char)
  | [] => done.reverse
  | level :: rest =>
    let ending := if rest.isEmpty then [[]] else []
    if dots level = ['.', '.'] then walk (ending ++ stepUp done) rest
    else if dots level = ['.'] then walk (ending ++ done) rest
    else walk (encode escapedInPath level :: done) rest

def joined (levels : List (List Char)) : List Char := levels.flatMap ('/' :: ·)

/-- The levels, in reverse, that the first level in the path of a file becomes, and whether
it is a drive and nothing else. -/
def topOfFile (level : List Char) : List (List Char) × Bool :=
  match level with
  | [letter, mark] =>
    if letter.isAlpha && (mark == ':' || mark == '|') then ([[letter, ':']], true)
    else ([encode escapedInPath level], false)
  | letter :: ':' :: rest =>
    if letter.isAlpha then ([encode escapedInPath rest, [letter, ':']], false)
    else ([encode escapedInPath level], false)
  | _ => ([encode escapedInPath level], false)

/-- Takes the steps in the path of a file, with the levels so far in reverse, and tells
whether its top has been a drive. -/
def walkFile (done : List (List Char)) (hasDrive : Bool) :
    List (List Char) → List (List Char) × Bool
  | [] => (done.reverse, hasDrive)
  | level :: rest =>
    let ending := if rest.isEmpty then [[]] else []
    if dots level = ['.', '.'] then walkFile (ending ++ stepUp done) hasDrive rest
    else if dots level = ['.'] then walkFile (ending ++ done) hasDrive rest
    else if done.isEmpty then
      let (top, isDrive) := topOfFile level
      walkFile top (hasDrive || isDrive) rest
    else walkFile (encode escapedInPath level :: done) hasDrive rest

/-- The path of a file, which begins with one slash, and whether its top has been a
drive. -/
def ofFile (written : List Char) : List Char × Bool :=
  let (levels, hasDrive) := walkFile [] false (levels true written)
  let proper := levels.dropWhile (·.isEmpty)
  (if proper.isEmpty then ['/'] else joined proper, hasDrive)

/-- A path after a host. One that does not begin with a slash gets one. -/
def afterHost (special : Bool) (written : List Char) : List Char :=
  match written with
  | [] => if special then ['/'] else []
  | first :: rest =>
    joined (walk [] (levels special (if isSlash special first then rest else written)))

/-- A path without a host before it. It may not be mistaken for a host, so one that begins
with an empty level gets a step to the same level before that. -/
def withoutHost (written : List Char) : List Char :=
  match written with
  | '/' :: rest =>
    let path := joined (walk [] (levels false rest))
    if ['/', '/'].isPrefixOf path then '/' :: '.' :: path else path
  | _ => encode [] written

end FlowTesting.Http.Path
