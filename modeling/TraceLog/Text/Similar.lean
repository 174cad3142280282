/-!
# Similar Texts

How much two texts have in common, and the names that come nearest to a misspelt one.

The longest block of characters that stands in both texts is taken out of them; of several
such blocks it is the one furthest to the left, in the first text and then in the second.
What stands in front of the block in both texts is compared in the same way, and so is what
stands behind it. Two texts are similar when at least three fifths of all their characters
lie in shared blocks.

## Main definitions

* `longestBlock`: the longest block of two texts.
* `sharedCount`: the number of characters in shared blocks.
* `nearest`: the names similar to a word, nearest first.

## Main results

* `sharedCount_le`: two texts share at most all characters of either.
-/

namespace TraceLog.Text

/-- The number of characters with which two texts begin alike. -/
def sharedFront : List Char → List Char → Nat
  | c :: s, d :: t => if c = d then sharedFront s t + 1 else 0
  | _, _ => 0

/-- A block of characters that stands in two texts: where it starts in either, and how many
characters it has. -/
structure Block where
  left : Nat := 0
  right : Nat := 0
  size : Nat := 0
  deriving DecidableEq, Repr

/-- The longer one of two blocks; the first if they are of one size. -/
def Block.longer (x y : Block) : Block :=
  if x.size < y.size then y else x

/-- The blocks from each pair of places on, the leftmost ones first. -/
def blocks (s t : List Char) : List Block :=
  (List.range s.length).flatMap fun i =>
    (List.range t.length).map fun j => ⟨i, j, sharedFront (s.drop i) (t.drop j)⟩

/-- The longest block of two texts. -/
def longestBlock (s t : List Char) : Block :=
  (blocks s t).foldl Block.longer {}

/-- Two texts begin alike with at most all of their characters. -/
theorem sharedFront_le (s t : List Char) :
    sharedFront s t ≤ s.length ∧ sharedFront s t ≤ t.length := by
  fun_induction sharedFront s t with
  | case1 d s t ih => simp only [List.length_cons]; omega
  | case2 => simp
  | case3 => simp

/-- The longest of some blocks is one of them. -/
theorem foldl_longer_mem (more : List Block) (first : Block) :
    more.foldl Block.longer first ∈ first :: more := by
  induction more generalizing first with
  | nil => simp
  | cons next more ih =>
    rcases List.mem_cons.1 (ih (first.longer next)) with h | h
    · rw [List.foldl_cons, h, Block.longer]
      split <;> simp
    · simp [h]

/-- The longest block lies within both texts. -/
theorem longestBlock_le (s t : List Char) :
    (longestBlock s t).left + (longestBlock s t).size ≤ s.length ∧
      (longestBlock s t).right + (longestBlock s t).size ≤ t.length := by
  rcases List.mem_cons.1 (foldl_longer_mem (blocks s t) {}) with h | h
  · simp [longestBlock, h]
  · obtain ⟨i, hi, h⟩ := List.mem_flatMap.1 h
    obtain ⟨j, hj, h⟩ := List.mem_map.1 h
    have hle := sharedFront_le (s.drop i) (t.drop j)
    simp only [List.mem_range, List.length_drop] at hi hj hle
    simp only [longestBlock, ← h]
    omega

/-- The number of characters in the shared blocks of two texts. -/
def sharedCount (s t : List Char) : Nat :=
  let block := longestBlock s t
  if _h : 0 < block.size then
    sharedCount (s.take block.left) (t.take block.right) + block.size +
      sharedCount (s.drop (block.left + block.size)) (t.drop (block.right + block.size))
  else 0
  termination_by s.length
  decreasing_by
    all_goals
      have hpos : 0 < (longestBlock s t).size := _h
      have hle := longestBlock_le s t
      simp only [List.length_take, List.length_drop]
      omega

/-- Two texts share at most all characters of either. -/
theorem sharedCount_le (s t : List Char) :
    sharedCount s t ≤ s.length ∧ sharedCount s t ≤ t.length := by
  fun_induction sharedCount s t with
  | case1 s t block _ front back =>
    have hle : block.left + block.size ≤ s.length ∧ block.right + block.size ≤ t.length :=
      longestBlock_le s t
    simp only [List.length_take, List.length_drop] at front back
    omega
  | case2 => simp

/-- Whether at least three fifths of the characters of two texts lie in shared blocks. Texts
of very different lengths cannot share as many, and are not compared. -/
def similar (s t : List Char) : Bool :=
  let least := 3 * (s.length + t.length)
  decide (least ≤ 10 * min s.length t.length) && decide (least ≤ 10 * sharedCount s t)

/-- A name beside a word, with the number of characters that the two share. -/
structure Likeness where
  name : String
  shared : Nat
  total : Nat
  deriving DecidableEq, Repr

/-- The likeness of a name to a word. -/
def Likeness.of (word name : String) : Likeness :=
  ⟨name, sharedCount name.toList word.toList, name.length + word.length⟩

/-- Whether a name is at least as near as another: it shares the greater part of its
characters. Of names that share the same part the alphabetically last is the nearest. -/
def Likeness.atLeast (x y : Likeness) : Bool :=
  if x.shared * y.total = y.shared * x.total then decide (y.name ≤ x.name)
  else decide (y.shared * x.total < x.shared * y.total)

/-- The names similar to a word, nearest first, up to `count` of them. -/
def nearest (count : Nat) (word : String) (names : List String) : List String :=
  let likenesses := (names.filter fun name => similar name.toList word.toList).map
    (Likeness.of word)
  ((likenesses.mergeSort Likeness.atLeast).take count).map (·.name)

end TraceLog.Text
