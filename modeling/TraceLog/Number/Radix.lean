/-!
# Digits in a Radix

Natural numbers written in a radix, padded to a width. Capital digits are made from small
ones.

## Main definitions

* `inRadix`: the digits of a number, most significant first.
* `padLeft`: a text brought to a least length by a filling character in front.
-/

namespace TraceLog.Number

/-- A text of at least `width` characters: filled up in front. -/
def padLeft (width : Nat) (fill : Char) (s : List Char) : List Char :=
  List.replicate (width - s.length) fill ++ s

/-- A text of at least `width` characters: filled up behind. -/
def padRight (width : Nat) (fill : Char) (s : List Char) : List Char :=
  s ++ List.replicate (width - s.length) fill

/-- The digits of `n` in radix `radix`, at least `width` of them. -/
def inRadix (radix width n : Nat) : List Char :=
  padLeft width '0' (Nat.toDigits radix n)

end TraceLog.Number
