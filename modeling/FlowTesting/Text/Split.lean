set_option autoImplicit false

/-!
# Splitting

Lists of characters cut at a separator, which is dropped.
-/

namespace FlowTesting.Text

def splitOn (separator : Char) : List Char → List (List Char)
  | [] => [[]]
  | character :: rest =>
    if character = separator then [] :: splitOn separator rest
    else
      match splitOn separator rest with
      | [] => [[character]]
      | part :: parts => (character :: part) :: parts

/-- What stands before and after the first separator, if there is one. -/
def splitOnce? (separator : Char) : List Char → Option (List Char × List Char)
  | [] => none
  | character :: rest =>
    if character = separator then some ([], rest)
    else (splitOnce? separator rest).map (fun parts => (character :: parts.1, parts.2))

/-- What stands before and after the first separator; all of the list comes before one
that is missing. -/
def cut (separator : Char) (characters : List Char) : List Char × Option (List Char) :=
  match splitOnce? separator characters with
  | some (before, after) => (before, some after)
  | none => (characters, none)

end FlowTesting.Text
