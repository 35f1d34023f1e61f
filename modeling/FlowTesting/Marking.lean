import FlowTesting.Pipeline.Rule

set_option autoImplicit false

/-!
# Marking

A slice that has delivered passes the entries of the reference that it exercised. Each
of its rules claims the first equal entry that no earlier rule of the slice has
claimed; entries without a flag are claimed too, and rules without an entry are passed
over.
-/

namespace FlowTesting.Marking

/-- The place of the first unclaimed entry that equals a rule. -/
def unclaimed? (reference : List Rule) (claimed : List Nat) (rule : Rule) : Option Nat :=
  (List.range reference.length).find? (fun place =>
    !claimed.contains place && reference[place]? == some rule)

/-- The places that the rules claim, in the order of the rules. -/
def claims (reference : List Rule) (claimed : List Nat) : List Rule → List Nat
  | [] => []
  | rule :: rest =>
    match unclaimed? reference claimed rule with
    | some place => place :: claims reference (place :: claimed) rest
    | none => claims reference claimed rest

def mark (flags : List Bool) (place : Nat) : List Bool := flags.set place true

/-- The flags after a slice has passed, and how many of them it has set. -/
def markPassed (flags : List Bool) (reference sliceRules : List Rule) : List Bool × Nat :=
  let marked := (claims reference [] sliceRules).foldl mark flags
  (marked, marked.count true - flags.count true)

end FlowTesting.Marking
