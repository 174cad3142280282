/-!
# Lines

A line ends at a line feed, a carriage return, or a carriage return with a line feed behind
it. No other character ends one, and the last line need not be ended.

## Main definitions

* `lines`: the lines of a text, without their endings.
* `endedLines`: those of them that are ended.
* `unifyEndings`: a text with each ending written as one line feed.
* `endLinesWith`: a text with each line feed replaced by a given ending.
-/

namespace TraceLog.Text

/-- The lines of a text. -/
def lines : List Char → List (List Char)
  | [] => []
  | '\r' :: '\n' :: rest => [] :: lines rest
  | c :: rest =>
    if c = '\n' ∨ c = '\r' then [] :: lines rest
    else match lines rest with
      | [] => [[c]]
      | line :: more => (c :: line) :: more

/-- The lines of a text that are ended for certain, however the text goes on: a carriage
return at the end of the text may be half of an ending. -/
def endedLines (s : List Char) : List (List Char) :=
  let s := if s.getLast? = some '\r' then s.dropLast else s
  if s.getLast? = some '\n' ∨ s.getLast? = some '\r' then lines s else (lines s).dropLast

/-- A text with every line ending turned into one line feed. -/
def unifyEndings : List Char → List Char
  | [] => []
  | '\r' :: '\n' :: rest => '\n' :: unifyEndings rest
  | c :: rest => (if c = '\r' then '\n' else c) :: unifyEndings rest

/-- A text with every line feed replaced by `ending`. -/
def endLinesWith (ending s : List Char) : List Char :=
  s.flatMap fun c => if c = '\n' then ending else [c]

/-- Line endings are replaced part by part. -/
@[simp] theorem endLinesWith_append (ending s t : List Char) :
    endLinesWith ending (s ++ t) = endLinesWith ending s ++ endLinesWith ending t := by
  simp [endLinesWith]

/-- Writing a line feed for a line feed changes nothing. -/
@[simp] theorem endLinesWith_lineFeed (s : List Char) : endLinesWith ['\n'] s = s := by
  induction s with
  | nil => rfl
  | cons c s ih =>
    by_cases h : c = '\n' <;> simpa [endLinesWith, h] using ih

example : lines "a\r\nb\r\rc\n".toList = ["a".toList, "b".toList, [], "c".toList] := by decide

end TraceLog.Text
