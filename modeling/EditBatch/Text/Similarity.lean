/-! How alike two words are, to suggest what was meant.

The likeness of two words is the share of their letters that stand in common pieces: the
longest common piece, and in the same way what is common to its left and to its right.
-/

set_option autoImplicit false

namespace EditBatch.Text

def commonStart : List Char → List Char → Nat
  | a :: as, b :: bs => if a = b then commonStart as bs + 1 else 0
  | _, _ => 0

structure CommonPiece where
  left : Nat
  right : Nat
  length : Nat
  deriving DecidableEq, Repr

def CommonPiece.longer (piece other : CommonPiece) : CommonPiece :=
  if piece.length < other.length then other else piece

def longestStart (left : Nat) (a b : List Char) : CommonPiece :=
  ((List.range b.length).map fun right => ⟨left, right, commonStart a (b.drop right)⟩).foldl
    CommonPiece.longer ⟨left, 0, 0⟩

def longestPiece (a b : List Char) : CommonPiece :=
  ((List.range a.length).map fun left => longestStart left (a.drop left) b).foldl
    CommonPiece.longer ⟨0, 0, 0⟩

def commonLetters : Nat → List Char → List Char → Nat
  | 0, _, _ => 0
  | depth + 1, a, b =>
    let piece := longestPiece a b
    if piece.length = 0 then 0
    else
      commonLetters depth (a.take piece.left) (b.take piece.right) + piece.length +
        commonLetters depth (a.drop (piece.left + piece.length))
          (b.drop (piece.right + piece.length))

/-- Twice the number of common letters, and the number of all letters. -/
def likeness (a b : String) : Nat × Nat :=
  let a := a.toList
  let b := b.toList
  (2 * commonLetters a.length a b, a.length + b.length)

/-- Words are alike if at least three fifths of their letters are in common. -/
def isAlike (likeness : Nat × Nat) : Bool := 3 * likeness.2 ≤ 5 * likeness.1

/-- Whether one candidate comes before another: the more alike, else the later in order. -/
def isCloser (one other : String × (Nat × Nat)) : Bool :=
  let (a, b) := (one.2.1 * other.2.2, other.2.1 * one.2.2)
  b < a || (a = b && other.1 ≤ one.1)

/-- The candidates most like a word, three at most, in alphabetical order. -/
def similarWords (word : String) (candidates : List String) : List String :=
  let rated := (candidates.map fun candidate => (candidate, likeness candidate word)).filter
    fun rated => isAlike rated.2
  (((rated.mergeSort isCloser).take 3).map (·.1)).mergeSort fun a b => a ≤ b

end EditBatch.Text
