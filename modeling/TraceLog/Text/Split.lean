/-!
# Splitting at a Separator

A text is cut at every occurrence of a separator, so that it has one piece more than it has
separators; joining the pieces gives the text back.

## Main definitions

* `splitOn`: the pieces of a text.
* `joinWith`: pieces joined by a separator.
-/

namespace TraceLog.Text

/-- The pieces of a text between the occurrences of `sep`. -/
def splitOn (sep : Char) : List Char → List (List Char)
  | [] => [[]]
  | c :: rest =>
    if c = sep then [] :: splitOn sep rest
    else match splitOn sep rest with
      | [] => [[c]]
      | piece :: pieces => (c :: piece) :: pieces

/-- Pieces joined by `sep`. -/
def joinWith (sep : Char) : List (List Char) → List Char
  | [] => []
  | [piece] => piece
  | piece :: pieces => piece ++ sep :: joinWith sep pieces

/-- There is always a piece. -/
theorem splitOn_ne_nil (sep : Char) (s : List Char) : splitOn sep s ≠ [] := by
  induction s with
  | nil => simp [splitOn]
  | cons c s ih =>
    by_cases h : c = sep
    · simp [splitOn, h]
    · simp only [splitOn, h, if_false]
      split <;> simp

/-- Joining the pieces gives the text back. -/
theorem joinWith_splitOn (sep : Char) (s : List Char) : joinWith sep (splitOn sep s) = s := by
  induction s with
  | nil => rfl
  | cons c s ih =>
    match hs : splitOn sep s with
    | [] => exact absurd hs (splitOn_ne_nil sep s)
    | piece :: pieces =>
      rw [hs] at ih
      by_cases h : c = sep
      · simp [splitOn, hs, h, joinWith, ih]
      · simp only [splitOn, hs, h, if_false]
        cases pieces with
        | nil => simpa [joinWith] using ih
        | cons next pieces => simpa [joinWith] using ih

end TraceLog.Text
