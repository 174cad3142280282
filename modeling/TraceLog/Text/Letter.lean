/-!
# Capitals and Small Letters

Case mapping as far as names made of ASCII letters are concerned. A letter outside ASCII
is replaced exactly when its capitals are ASCII letters (the dotless i, the long and the
sharp s, the ligatures of f and of st); every other character outside ASCII is kept, so
that it never becomes part of an ASCII name.

## Main definitions

* `capitals`: a text in capitals. It may be longer than the text.
* `smalls`: a text in small letters.
* `folded`: a text without its cases.
-/

namespace TraceLog.Text

/-- The capitals of one character. -/
def capital (c : Char) : List Char :=
  if 'a' ≤ c ∧ c ≤ 'z' then [Char.ofNat (c.toNat - 32)]
  else match c.toNat with
    | 0xDF => ['S', 'S']
    | 0x131 => ['I']
    | 0x17F => ['S']
    | 0xFB00 => ['F', 'F']
    | 0xFB01 => ['F', 'I']
    | 0xFB02 => ['F', 'L']
    | 0xFB03 => ['F', 'F', 'I']
    | 0xFB04 => ['F', 'F', 'L']
    | 0xFB05 => ['S', 'T']
    | 0xFB06 => ['S', 'T']
    | _ => [c]

/-- The small form of one character; the Kelvin sign is the one letter outside ASCII whose
small form is an ASCII letter alone. -/
def small (c : Char) : Char :=
  if 'A' ≤ c ∧ c ≤ 'Z' then Char.ofNat (c.toNat + 32)
  else if c.toNat = 0x212A then 'k' else c

/-- A text in capitals. -/
def capitals (s : List Char) : List Char :=
  s.flatMap capital

/-- A text in small letters. -/
def smalls (s : List Char) : List Char :=
  s.map small

/-- One character without its case, for comparisons in any case: the small letters of its
capitals. The dotless i is a letter of its own, and the capital sharp s is folded like the small
one. -/
def fold (c : Char) : List Char :=
  if c.toNat = 0x131 then [c]
  else if c.toNat = 0x1E9E then ['s', 's']
  else smalls (capital c)

/-- A text without its cases. -/
def folded (s : List Char) : List Char :=
  s.flatMap fold

example : capitals "ﬁne".toList = "FINE".toList ∧ smalls "TrUe".toList = "true".toList ∧
    folded "Yeſ".toList = "yes".toList := by
  decide

end TraceLog.Text
