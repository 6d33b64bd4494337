/-! Rules of which each may be limited to a number of uses. -/

set_option autoImplicit false

namespace EditBatch

structure Limited (α : Type) where
  rule : α
  /-- How often the rule still applies, if that is limited. -/
  times : Option Int := none

namespace Limited

variable {α : Type}

def isLeft (limited : Limited α) : Bool :=
  match limited.times with
  | none => true
  | some times => 0 < times

def use (limited : Limited α) : Limited α :=
  { limited with times := limited.times.map (· - 1) }

/-- The first rule that is left and applies, and the rules with that one used once. -/
def choose (applies : α → Bool) : List (Limited α) → Option α × List (Limited α)
  | [] => (none, [])
  | limited :: rest =>
    if applies limited.rule && limited.isLeft then (some limited.rule, limited.use :: rest)
    else
      let (chosen, rest) := choose applies rest
      (chosen, limited :: rest)

end Limited

end EditBatch
