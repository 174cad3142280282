import TraceLog.Number.Radix
import TraceLog.Text.Printable

/-!
# Quoted Text

How a text or a byte string is shown in a diagnostic. The text stands between single
quotes, or between double quotes when it holds a single quote and no double quote. The
backslash, the quote in use, tab, line feed and carriage return are escaped by a backslash;
every other character that is not printable is written by its place in hexadecimal, in two,
four or eight digits.

## Main definitions

* `quoted`: the quoted form of a text.
* `asciiOnly`: a text kept inside ASCII.
* `quotedBytes`: the quoted form of a byte string.
-/

namespace TraceLog.Text

/-- The quotation mark for a text: single, unless the text holds single quotes only. -/
def quoteMark (s : List Char) : Char :=
  if s.contains '\'' && !s.contains '"' then '"' else '\''

/-- A character by its place: two hexadecimal digits below 256, four in the basic plane and
eight beyond it. -/
def escapedPlace (n : Nat) : List Char :=
  if n < 0x100 then '\\' :: 'x' :: Number.inRadix 16 2 n
  else if n < 0x10000 then '\\' :: 'u' :: Number.inRadix 16 4 n
  else '\\' :: 'U' :: Number.inRadix 16 8 n

/-- One character inside quotation marks `mark`; `plain` says which characters need no
escape by their place. -/
def escaped (plain : Char → Bool) (mark c : Char) : List Char :=
  if c = mark ∨ c = '\\' then ['\\', c]
  else if c = '\t' then ['\\', 't']
  else if c = '\n' then ['\\', 'n']
  else if c = '\r' then ['\\', 'r']
  else if plain c then [c]
  else escapedPlace c.toNat

/-- A text between quotation marks. -/
def quoteWith (plain : Char → Bool) (s : List Char) : List Char :=
  let mark := quoteMark s
  mark :: s.flatMap (escaped plain mark) ++ [mark]

/-- The quoted form of a text: printable characters stand as they are. -/
def quoted (s : String) : String :=
  String.ofList (quoteWith isPrintable s.toList)

/-- A text kept inside ASCII: every character beyond it is written by its place. -/
def asciiOnly (s : String) : String :=
  String.ofList (s.toList.flatMap fun c => if c.toNat < 128 then [c] else escapedPlace c.toNat)

/-- The quoted form of a byte string: the letter `b`, then the bytes as characters. -/
def quotedBytes (bs : List UInt8) : String :=
  String.ofList ('b' ::
    quoteWith (fun c => 0x20 ≤ c.toNat && c.toNat < 0x7F) (bs.map fun b => Char.ofNat b.toNat))

example : quoted "it's" = "\"it's\"" ∧ quoted "a\tb" = "'a\\tb'" ∧ quoted "²" = "'²'" := by
  cbv

end TraceLog.Text
