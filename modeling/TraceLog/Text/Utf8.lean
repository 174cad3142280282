/-!
# UTF-8 and ASCII

Text to bytes and back. Decoding reports the first place where the bytes are no text, how
many bytes are to blame, and why: a byte that cannot start a character, a byte that cannot
continue one, or an end in the middle of a character. Long inputs are decoded in blocks, a
character cut by the end of a block being carried into the next one.

## Main definitions

* `encode`: the bytes of a text.
* `decodePrefix`: the text at the front of some bytes, and what stopped the reading.
* `decode`: all of the text, or the first error.
* `decodeBlocks`: the same for bytes that arrive in blocks.
* `firstBeyondAscii?`: the first run of characters that ASCII lacks.
-/

namespace TraceLog.Text

/-- The bytes of a text. -/
def encode (s : List Char) : List UInt8 :=
  s.flatMap String.utf8EncodeChar

/-- The bytes of a text are those of its parts. -/
@[simp] theorem encode_append (s t : List Char) : encode (s ++ t) = encode s ++ encode t := by
  simp [encode]

/-! ### Decoding -/

/-- Why bytes are not the text of UTF-8. -/
inductive Utf8Reason where
  /-- No character starts with this byte. -/
  | invalidStart
  /-- The character begun does not go on with the next byte. -/
  | invalidContinuation
  /-- The bytes end inside a character. -/
  | unexpectedEnd
  deriving DecidableEq, Repr

/-- The wording of a reason. -/
def Utf8Reason.message : Utf8Reason → String
  | .invalidStart => "invalid start byte"
  | .invalidContinuation => "invalid continuation byte"
  | .unexpectedEnd => "unexpected end of data"

/-- Bytes that are no text: the position of the first one to blame, the bytes to blame from
there on, and why. -/
structure Utf8Error where
  position : Nat
  blamed : List UInt8
  reason : Utf8Reason
  deriving DecidableEq, Repr

/-- What stands at the front of some bytes: a character and the number of bytes it has
beyond the first, a number of bytes to blame, or the beginning of a character. -/
inductive Utf8Front where
  | char (c : Char) (extra : Nat)
  | invalid (blamed : Nat) (reason : Utf8Reason)
  | cut
  deriving DecidableEq, Repr

/-- A byte that continues a character. -/
def isContinuation (b : UInt8) : Bool :=
  0x80 ≤ b && b ≤ 0xBF

/-- The payload of a continuing byte. -/
def payload (b : UInt8) : Nat :=
  b.toNat % 64

/-- The second byte of a character of three or four bytes is confined further by the first:
overlong forms, surrogates and places beyond the last plane are left out. -/
def isSecond (first second : UInt8) : Bool :=
  if first = 0xE0 then 0xA0 ≤ second && second ≤ 0xBF
  else if first = 0xED then 0x80 ≤ second && second ≤ 0x9F
  else if first = 0xF0 then 0x90 ≤ second && second ≤ 0xBF
  else if first = 0xF4 then 0x80 ≤ second && second ≤ 0x8F
  else isContinuation second

/-- The front of the bytes `first :: rest`. The first two bytes of a surrogate count as the
beginning of a character as long as nothing follows them. -/
def utf8Front (first : UInt8) (rest : List UInt8) : Utf8Front :=
  if first < 0x80 then .char (Char.ofNat first.toNat) 0
  else if first < 0xC2 then .invalid 1 .invalidStart
  else if first < 0xE0 then
    match rest with
    | [] => .cut
    | b :: _ =>
      if isContinuation b then .char (Char.ofNat (first.toNat % 32 * 64 + payload b)) 1
      else .invalid 1 .invalidContinuation
  else if first < 0xF0 then
    match rest with
    | [] => .cut
    | [b] =>
      if isSecond first b ∨ (first = 0xED ∧ isContinuation b) then .cut
      else .invalid 1 .invalidContinuation
    | b :: c :: _ =>
      if !isSecond first b then .invalid 1 .invalidContinuation
      else if !isContinuation c then .invalid 2 .invalidContinuation
      else .char (Char.ofNat ((first.toNat % 16 * 64 + payload b) * 64 + payload c)) 2
  else if first < 0xF5 then
    match rest with
    | [] => .cut
    | [b] => if isSecond first b then .cut else .invalid 1 .invalidContinuation
    | [b, c] =>
      if !isSecond first b then .invalid 1 .invalidContinuation
      else if isContinuation c then .cut else .invalid 2 .invalidContinuation
    | b :: c :: d :: _ =>
      if !isSecond first b then .invalid 1 .invalidContinuation
      else if !isContinuation c then .invalid 2 .invalidContinuation
      else if !isContinuation d then .invalid 3 .invalidContinuation
      else .char (Char.ofNat
        (((first.toNat % 8 * 64 + payload b) * 64 + payload c) * 64 + payload d)) 3
  else .invalid 1 .invalidStart

/-- How a reading of bytes ended. -/
inductive Utf8End where
  /-- All bytes were read. -/
  | complete
  /-- These bytes at the end begin a character, at this position. -/
  | cut (position : Nat) (pending : List UInt8)
  /-- The bytes are no text. -/
  | failed (error : Utf8Error)
  deriving DecidableEq, Repr

/-- The text at the front of some bytes, the first of which has position `position`, and how
the reading ended. -/
def decodePrefix (position : Nat) : List UInt8 → List Char × Utf8End
  | [] => ([], .complete)
  | b :: rest =>
    match utf8Front b rest with
    | .char c extra =>
      let more := decodePrefix (position + 1 + extra) (rest.drop extra)
      (c :: more.1, more.2)
    | .invalid n reason => ([], .failed ⟨position, (b :: rest).take n, reason⟩)
    | .cut => ([], .cut position (b :: rest))
  termination_by bytes => bytes.length
  decreasing_by simp only [List.length_drop, List.length_cons]; omega

/-- The error in which a reading ends when nothing follows it. The beginning of a surrogate is
to blame for itself. -/
def Utf8End.error? : Utf8End → Option Utf8Error
  | .complete => none
  | .cut position [first, second] =>
    if isSecond first second then some ⟨position, [first, second], .unexpectedEnd⟩
    else some ⟨position, [first], .invalidContinuation⟩
  | .cut position pending => some ⟨position, pending, .unexpectedEnd⟩
  | .failed error => some error

/-- The bytes to be carried over into the next block. -/
def Utf8End.pending : Utf8End → List UInt8
  | .cut _ pending => pending
  | _ => []

/-- The text of bytes that arrive in blocks of `size` bytes, and the error that stopped the
reading. A block with an error gives no text. Positions count from the start of the block,
with the bytes `pending` carried over from the block before in front of it. -/
def decodeBlocks (size : Nat) (pending bytes : List UInt8) : List Char × Option Utf8Error :=
  if _h : size = 0 ∨ bytes = [] then
    let (s, e) := decodePrefix 0 (pending ++ bytes)
    (s, e.error?)
  else
    let (s, e) := decodePrefix 0 (pending ++ bytes.take size)
    match e with
    | .failed error => ([], some error)
    | e =>
      let (more, error) := decodeBlocks size e.pending (bytes.drop size)
      (s ++ more, error)
  termination_by bytes.length
  decreasing_by
    have : bytes.length ≠ 0 := by grind
    simp only [List.length_drop]
    omega

/-- The text of some bytes, or the first error in them. -/
def decode (bytes : List UInt8) : Except Utf8Error (List Char) :=
  let (s, e) := decodePrefix 0 bytes
  match e.error? with
  | none => .ok s
  | some error => .error error

/-! ### ASCII -/

/-- The first run of characters that ASCII lacks: its position and its characters. -/
def firstBeyondAscii? (s : List Char) : Option (Nat × List Char) :=
  let isAscii (c : Char) : Bool := c.toNat < 128
  match s.dropWhile isAscii with
  | [] => none
  | c :: rest =>
    some ((s.takeWhile isAscii).length, (c :: rest).takeWhile (!isAscii ·))

example : firstBeyondAscii? "ab".toList = none ∧
    firstBeyondAscii? "aéöb".toList = some (1, ['é', 'ö']) := by decide

end TraceLog.Text
