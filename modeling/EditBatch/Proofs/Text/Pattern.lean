import Mathlib.Data.List.Basic

/-! Patterns, and the first place of a text that matches one.

A pattern is made of single characters and of runs of characters. A run can often end at more than
one place, and the places are tried in an order: from the last one on if the run is as long as it
can be, and from the first one on if it is as short as it can be. What is tried first and lets the
rest of the pattern match is the match.
-/

set_option autoImplicit false

namespace EditBatch.Text

/-- A character of a kind, or a run of them. -/
inductive Piece where
  | one (kind : Char → Bool)
  /-- Of any length, and rather long than short. -/
  | greedy (kind : Char → Bool)
  /-- Of at least one character, and rather short than long. -/
  | lazy (kind : Char → Bool)

/-- What a piece can leave of the text that it stands in front of, in the order of preference. -/
def Piece.rests : Piece → List Char → List (List Char)
  | .one _, [] => []
  | .one kind, c :: rest => if kind c then [rest] else []
  | .greedy _, [] => [[]]
  | .greedy kind, c :: rest => (if kind c then (greedy kind).rests rest else []) ++ [c :: rest]
  | .lazy _, [] => []
  | .lazy kind, c :: rest => if kind c then rest :: (lazy kind).rests rest else []

/-- What a pattern can leave of a text. A piece gives way only if the pieces behind it fail. -/
def rests : List Piece → List Char → List (List Char)
  | [], text => [text]
  | piece :: pattern, text => (piece.rests text).flatMap (rests pattern)

def firstMatch? (pattern : List Piece) : List Char → Option (List Char × List Char)
  | [] => (rests pattern []).head?.map fun after => ([], after)
  | c :: rest =>
    match (rests pattern (c :: rest)).head? with
    | some after => some ([], after)
    | none => (firstMatch? pattern rest).map fun (before, after) => (c :: before, after)

def substitute (pattern : List Piece) (replacement text : List Char) : List Char :=
  match firstMatch? pattern text with
  | some (before, after) => before ++ replacement ++ after
  | none => text

variable {kind : Char → Bool} {pattern : List Piece}

theorem rests_one_cons (c : Char) (rest : List Char) :
    rests (.one kind :: pattern) (c :: rest) = if kind c then rests pattern rest else [] := by
  by_cases isKind : kind c <;> simp [rests, Piece.rests, isKind]

/-- A run that can be followed by none of its own characters ends where they end. -/
theorem rests_greedy_of_apart (apart : ∀ c rest, kind c = true → rests pattern (c :: rest) = [])
    (text : List Char) :
    rests (.greedy kind :: pattern) text = rests pattern (text.dropWhile kind) := by
  induction text with
  | nil => simp [rests, Piece.rests]
  | cons c rest ih =>
    by_cases isKind : kind c
    · rw [List.dropWhile_cons_of_pos isKind, ← ih]
      simp [rests, Piece.rests, isKind, apart c rest isKind]
    · rw [List.dropWhile_cons_of_neg isKind]
      simp [rests, Piece.rests, isKind]

theorem head?_rests_greedy (text : List Char) :
    (rests [.greedy kind] text).head? = some (text.dropWhile kind) := by
  induction text with
  | nil => rfl
  | cons c rest ih =>
    by_cases isKind : kind c
    · rw [List.dropWhile_cons_of_pos isKind, ← ih]
      simp only [rests, Piece.rests, if_pos isKind, List.flatMap_append, List.head?_append]
      exact Option.or_of_isSome (Option.isSome_iff_exists.mpr ⟨_, ih⟩)
    · rw [List.dropWhile_cons_of_neg isKind]
      simp [rests, Piece.rests, isKind]

theorem head?_rests_lazy_cons (c : Char) (rest : List Char) :
    (rests (.lazy kind :: pattern) (c :: rest)).head? =
      if kind c then (rests pattern rest).head?.or (rests (.lazy kind :: pattern) rest).head?
      else none := by
  by_cases isKind : kind c <;> simp [rests, Piece.rests, isKind]

theorem firstMatch?_here {text after : List Char}
    (found : (rests pattern text).head? = some after) :
    firstMatch? pattern text = some ([], after) := by
  cases text with
  | nil => rw [firstMatch?, found, Option.map_some]
  | cons c rest => rw [firstMatch?, found]

theorem firstMatch?_later {c : Char} {rest : List Char}
    (none : (rests pattern (c :: rest)).head? = none) :
    firstMatch? pattern (c :: rest) =
      (firstMatch? pattern rest).map fun (before, after) => (c :: before, after) := by
  rw [firstMatch?, none]

end EditBatch.Text
