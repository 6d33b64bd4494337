/-! Text without the control sequences of terminals.

A control sequence is an escape character and an opening bracket, then parameters from `0` to
`?`, then intermediates from the blank to `/`, and a final character from `@` to `~`. An escape
that begins none stays.
-/

set_option autoImplicit false

namespace EditBatch.Text

def isParameter (c : Char) : Bool := '0' ≤ c && c ≤ '?'

def isIntermediate (c : Char) : Bool := ' ' ≤ c && c ≤ '/'

def isFinal (c : Char) : Bool := '@' ≤ c && c ≤ '~'

/-- The text behind a control sequence, given the text behind its bracket. -/
def afterSequence? (text : List Char) : Option (List Char) :=
  match (text.dropWhile isParameter).dropWhile isIntermediate with
  | c :: rest => if isFinal c then some rest else none
  | [] => none

theorem length_afterSequence?_lt {text rest : List Char} (h : afterSequence? text = some rest) :
    rest.length < text.length := by
  have shorter : ((text.dropWhile isParameter).dropWhile isIntermediate).length ≤ text.length :=
    Nat.le_trans (List.dropWhile_sublist _).length_le (List.dropWhile_sublist _).length_le
  unfold afterSequence? at h
  split at h
  · rename_i c tail remaining
    split at h
    · cases h
      rw [remaining, List.length_cons] at shorter
      omega
    · simp at h
  · simp at h

def dropSequences (text : List Char) : List Char :=
  match text with
  | '\x1b' :: '[' :: tail =>
    match _h : afterSequence? tail with
    | some rest => dropSequences rest
    | none => '\x1b' :: dropSequences ('[' :: tail)
  | c :: tail => c :: dropSequences tail
  | [] => []
termination_by text.length
decreasing_by
  · have := length_afterSequence?_lt _h
    simp only [List.length_cons]
    omega
  · simp
  · simp

def plain (text : String) : String := String.ofList (dropSequences text.toList)

example : plain "\x1b[1;31mred\x1b[0m" = "red" ∧ plain "\x1bM\x1b[" = "\x1bM\x1b[" := by
  decide +kernel

end EditBatch.Text
