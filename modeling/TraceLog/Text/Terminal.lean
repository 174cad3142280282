/-!
# Terminal Control Sequences

A control sequence tells a terminal how to show a text: an escape character and an opening
bracket, parameters and intermediate characters, and a final character. Text that goes
elsewhere than to a terminal is written without its control sequences.

## Main definitions

* `plain`: a text without its control sequences.

## Main results

* `plain_eq_self`: a text without escape characters stays as it is.
-/

namespace TraceLog.Text

/-- A parameter of a control sequence: a digit, or one of the six signs behind the digits. -/
def isParameter (c : Char) : Bool :=
  '0' ≤ c && c ≤ '?'

/-- An intermediate character: a space, or one of the signs in front of the digits. -/
def isIntermediate (c : Char) : Bool :=
  ' ' ≤ c && c ≤ '/'

/-- A final character: a letter of ASCII, or a sign that stands among the letters. -/
def isFinal (c : Char) : Bool :=
  '@' ≤ c && c ≤ '~'

/-- The text behind a control sequence, from the text behind its opening bracket on; none
when the sequence has no end. -/
def afterControl? (s : List Char) : Option (List Char) :=
  match (s.dropWhile isParameter).dropWhile isIntermediate with
  | c :: rest => if isFinal c then some rest else none
  | [] => none

/-- A control sequence is not empty. -/
theorem length_afterControl? {s rest : List Char} (h : afterControl? s = some rest) :
    rest.length < s.length := by
  unfold afterControl? at h
  have hle : ((s.dropWhile isParameter).dropWhile isIntermediate).length ≤ s.length :=
    Nat.le_trans (List.dropWhile_sublist _).length_le (List.dropWhile_sublist _).length_le
  split at h
  · next heq =>
    rw [heq, List.length_cons] at hle
    split at h
    · rwa [← Option.some.inj h]
    · simp at h
  · simp at h

/-- A text without its control sequences. -/
def plain : List Char → List Char
  | [] => []
  | '\x1b' :: '[' :: s =>
    match _h : afterControl? s with
    | some rest => plain rest
    | none => '\x1b' :: plain ('[' :: s)
  | c :: s => c :: plain s
  termination_by s => s.length
  decreasing_by
    · have := length_afterControl? _h
      simp only [List.length_cons]
      omega
    · simp
    · simp

/-- A text without escape characters stays as it is. -/
theorem plain_eq_self {s : List Char} (h : '\x1b' ∉ s) : plain s = s := by
  fun_induction plain s with
  | case1 => rfl
  | case2 => simp at h
  | case3 => simp at h
  | case4 c s _ ih => rw [ih (fun hm => h (List.mem_cons_of_mem _ hm))]

example : plain "\x1b[31mred\x1b[0m \x1b]0;t".toList = "red \x1b]0;t".toList := by
  cbv

end TraceLog.Text
