import Mathlib.Data.List.Basic
import TraceLog.Text.Utf8

/-!
# Decoding Gives the Text Back

The bytes of a text are decoded to the text, in one piece or in blocks. A block may end inside a
character: the bytes of that character are then carried over, and the next block goes on with
them, so that nothing is lost and nothing is blamed.

## Main results

* `spells_encodeChar`: a character at the front of bytes, and one that is cut off.
* `decodePrefix_take_encode`: the text in front of a cut.
* `decodeBlocks_encode`: a text that arrives in blocks.
* `length_decodeBlocks`: a text has no more characters than it had bytes.
-/

namespace TraceLog.Text

/-! ### One character -/

/-- Bytes of this form continue a character. -/
theorem isContinuation_ofNat (n : Nat) : isContinuation (UInt8.ofNat (n % 64 + 128)) = true := by
  have hlt : n % 64 + 128 < 256 := by omega
  simp only [isContinuation, Bool.and_eq_true, decide_eq_true_eq, UInt8.le_iff_toNat_le,
    UInt8.toNat_ofNat_of_lt' hlt]
  refine ⟨?_, ?_⟩
  · show 128 ≤ n % 64 + 128
    omega
  · show n % 64 + 128 ≤ 191
    omega

/-- The payload of such a byte. -/
theorem payload_ofNat (n : Nat) : payload (UInt8.ofNat (n % 64 + 128)) = n % 64 := by
  have hlt : n % 64 + 128 < 256 := by omega
  rw [payload, UInt8.toNat_ofNat_of_lt' hlt]
  omega

/-- A byte given by its number is below a limit exactly when the number is. -/
theorem ofNat_lt_iff {n : Nat} (h : n < 256) (limit : UInt8) :
    UInt8.ofNat n < limit ↔ n < limit.toNat := by
  rw [UInt8.lt_iff_toNat_lt, UInt8.toNat_ofNat_of_lt' h]

/-- A byte at least as great as a limit is not below it. -/
theorem not_ofNat_lt {n : Nat} (h : n < 256) (limit : UInt8) (hle : limit.toNat ≤ n) :
    ¬ UInt8.ofNat n < limit :=
  fun hlt => absurd ((ofNat_lt_iff h limit).mp hlt) (Nat.not_lt.mpr hle)

/-- The second byte of a character of three bytes is confined as its first byte asks. -/
theorem isSecond_of_three {v : Nat} (hlow : 0x800 ≤ v) (hhigh : v < 0x10000)
    (hvalid : v < 0xD800 ∨ 0xDFFF < v) :
    isSecond (UInt8.ofNat (v / 4096 + 224)) (UInt8.ofNat (v / 64 % 64 + 128)) = true := by
  have hfirst : (UInt8.ofNat (v / 4096 + 224)).toNat = v / 4096 + 224 :=
    UInt8.toNat_ofNat_of_lt' (by show _ < 256; omega)
  have hsecond : (UInt8.ofNat (v / 64 % 64 + 128)).toNat = v / 64 % 64 + 128 :=
    UInt8.toNat_ofNat_of_lt' (by show _ < 256; omega)
  simp only [isSecond, ← UInt8.toNat_inj, UInt8.le_iff_toNat_le, hfirst, hsecond,
    isContinuation_ofNat, UInt8.toNat_ofNat]
  grind

/-- The second byte of a character of four bytes is confined as its first byte asks. -/
theorem isSecond_of_four {v : Nat} (hlow : 0x10000 ≤ v) (hhigh : v < 0x110000) :
    isSecond (UInt8.ofNat (v / 262144 + 240)) (UInt8.ofNat (v / 4096 % 64 + 128)) = true := by
  have hfirst : (UInt8.ofNat (v / 262144 + 240)).toNat = v / 262144 + 240 :=
    UInt8.toNat_ofNat_of_lt' (by show _ < 256; omega)
  have hsecond : (UInt8.ofNat (v / 4096 % 64 + 128)).toNat = v / 4096 % 64 + 128 :=
    UInt8.toNat_ofNat_of_lt' (by show _ < 256; omega)
  simp only [isSecond, ← UInt8.toNat_inj, UInt8.le_iff_toNat_le, hfirst, hsecond,
    isContinuation_ofNat, UInt8.toNat_ofNat]
  grind

/-- These bytes are a character: with all of them in front the character is read, whatever comes
behind, and with some of them missing it is cut off. -/
structure Spells (c : Char) (first : UInt8) (more : List UInt8) : Prop where
  whole : ∀ rest, utf8Front first (more ++ rest) = .char c more.length
  cut : ∀ n < more.length, utf8Front first (more.take n) = .cut

/-- Characters of one byte. -/
theorem spells_one {c : Char} (hhigh : c.toNat < 0x80) : Spells c (UInt8.ofNat c.toNat) [] := by
  have hlt : c.toNat < 256 := by omega
  have hascii : UInt8.ofNat c.toNat < 0x80 := (ofNat_lt_iff hlt _).mpr hhigh
  refine ⟨fun rest => ?_, by simp⟩
  simp only [utf8Front, hascii, if_true, UInt8.toNat_ofNat_of_lt' hlt, Char.ofNat_toNat,
    List.length_nil]

/-- Characters of two bytes. -/
theorem spells_two {c : Char} (hlow : 0x80 ≤ c.toNat) (hhigh : c.toNat < 0x800) :
    Spells c (UInt8.ofNat (c.toNat / 64 + 192)) [UInt8.ofNat (c.toNat % 64 + 128)] := by
  have hlt : c.toNat / 64 + 192 < 256 := by omega
  have h1 := not_ofNat_lt hlt 0x80 (by show 128 ≤ _; omega)
  have h2 := not_ofNat_lt hlt 0xC2 (by show 194 ≤ _; omega)
  have h3 := (ofNat_lt_iff hlt 0xE0).mpr (by show _ < 224; omega)
  have hchar : (c.toNat / 64 + 192) % 32 * 64 + c.toNat % 64 = c.toNat := by omega
  constructor
  · intro rest
    simp only [utf8Front, h1, h2, h3, if_true, if_false, List.cons_append, List.nil_append,
      isContinuation_ofNat, payload_ofNat, UInt8.toNat_ofNat_of_lt' hlt, hchar, Char.ofNat_toNat,
      List.length_singleton]
  · intro n hn
    obtain rfl : n = 0 := by simpa using hn
    simp only [utf8Front, h1, h2, h3, if_true, if_false, List.take_zero]

/-- Characters of three bytes. -/
theorem spells_three {c : Char} (hlow : 0x800 ≤ c.toNat) (hhigh : c.toNat < 0x10000) :
    Spells c (UInt8.ofNat (c.toNat / 4096 + 224))
      [UInt8.ofNat (c.toNat / 64 % 64 + 128), UInt8.ofNat (c.toNat % 64 + 128)] := by
  have hvalid : c.toNat < 0xD800 ∨ 0xDFFF < c.toNat := by
    rcases c.valid with h | h
    · exact .inl h
    · exact .inr h.1
  have hsecond := isSecond_of_three hlow hhigh hvalid
  have hlt : c.toNat / 4096 + 224 < 256 := by omega
  have h1 := not_ofNat_lt hlt 0x80 (by show 128 ≤ _; omega)
  have h2 := not_ofNat_lt hlt 0xC2 (by show 194 ≤ _; omega)
  have h3 := not_ofNat_lt hlt 0xE0 (by show 224 ≤ _; omega)
  have h4 := (ofNat_lt_iff hlt 0xF0).mpr (by show _ < 240; omega)
  have hchar : ((c.toNat / 4096 + 224) % 16 * 64 + c.toNat / 64 % 64) * 64 + c.toNat % 64 =
      c.toNat := by omega
  constructor
  · intro rest
    simp only [utf8Front, h1, h2, h3, h4, if_true, if_false, List.cons_append, List.nil_append,
      hsecond, isContinuation_ofNat, payload_ofNat, UInt8.toNat_ofNat_of_lt' hlt, hchar,
      Char.ofNat_toNat, List.length_cons, List.length_nil, Bool.not_true, Bool.false_eq_true]
  · intro n hn
    obtain rfl | rfl : n = 0 ∨ n = 1 := by simp at hn; omega
    · simp only [utf8Front, h1, h2, h3, h4, if_true, if_false, List.take_zero]
    · simp only [utf8Front, h1, h2, h3, h4, if_true, if_false, List.take_succ_cons,
        List.take_zero, hsecond, true_or]

/-- Characters of four bytes. -/
theorem spells_four {c : Char} (hlow : 0x10000 ≤ c.toNat) :
    Spells c (UInt8.ofNat (c.toNat / 262144 + 240))
      [UInt8.ofNat (c.toNat / 4096 % 64 + 128), UInt8.ofNat (c.toNat / 64 % 64 + 128),
        UInt8.ofNat (c.toNat % 64 + 128)] := by
  have hhigh : c.toNat < 0x110000 := by
    rcases c.valid with h | h
    · exact Nat.lt_trans h (by decide)
    · exact h.2
  have hsecond := isSecond_of_four hlow hhigh
  have hlt : c.toNat / 262144 + 240 < 256 := by omega
  have h1 := not_ofNat_lt hlt 0x80 (by show 128 ≤ _; omega)
  have h2 := not_ofNat_lt hlt 0xC2 (by show 194 ≤ _; omega)
  have h3 := not_ofNat_lt hlt 0xE0 (by show 224 ≤ _; omega)
  have h4 := not_ofNat_lt hlt 0xF0 (by show 240 ≤ _; omega)
  have h5 := (ofNat_lt_iff hlt 0xF5).mpr (by show _ < 245; omega)
  have hchar : (((c.toNat / 262144 + 240) % 8 * 64 + c.toNat / 4096 % 64) * 64 +
      c.toNat / 64 % 64) * 64 + c.toNat % 64 = c.toNat := by omega
  constructor
  · intro rest
    simp only [utf8Front, h1, h2, h3, h4, h5, if_true, if_false, List.cons_append,
      List.nil_append, hsecond, isContinuation_ofNat, payload_ofNat,
      UInt8.toNat_ofNat_of_lt' hlt, hchar, Char.ofNat_toNat, List.length_cons, List.length_nil,
      Bool.not_true, Bool.false_eq_true]
  · intro n hn
    obtain rfl | rfl | rfl : n = 0 ∨ n = 1 ∨ n = 2 := by simp at hn; omega
    · simp only [utf8Front, h1, h2, h3, h4, h5, if_true, if_false, List.take_zero]
    · simp only [utf8Front, h1, h2, h3, h4, h5, if_true, if_false, List.take_succ_cons,
        List.take_zero, hsecond]
    · simp only [utf8Front, h1, h2, h3, h4, h5, if_true, if_false, List.take_succ_cons,
        List.take_zero, hsecond, isContinuation_ofNat, Bool.not_true, Bool.false_eq_true]

/-- **The bytes of a character spell it.** -/
theorem spells_encodeChar (c : Char) :
    ∃ first more, String.utf8EncodeChar c = first :: more ∧ Spells c first more := by
  have hhigh : c.toNat < 0x110000 := by
    rcases c.valid with h | h
    · exact Nat.lt_trans h (by decide)
    · exact h.2
  have hencode := String.utf8EncodeChar.eq_1 c
  rw [show c.val.toNat = c.toNat from rfl] at hencode
  by_cases hone : c.toNat ≤ 127
  · exact ⟨_, _, by rw [hencode, if_pos hone], spells_one (by omega)⟩
  by_cases htwo : c.toNat ≤ 2047
  · rw [if_neg hone, if_pos htwo, Nat.mod_eq_of_lt (by omega)] at hencode
    exact ⟨_, _, hencode, spells_two (by omega) (by omega)⟩
  by_cases hthree : c.toNat ≤ 65535
  · rw [if_neg hone, if_neg htwo, if_pos hthree,
      Nat.mod_eq_of_lt (show c.toNat / 4096 < 16 by omega)] at hencode
    exact ⟨_, _, hencode, spells_three (by omega) (by omega)⟩
  · rw [if_neg hone, if_neg htwo, if_neg hthree,
      Nat.mod_eq_of_lt (show c.toNat / 262144 < 8 by omega)] at hencode
    exact ⟨_, _, hencode, spells_four (by omega)⟩

/-! ### Texts -/

/-- The bytes of a text are read as the text, and none is left. -/
theorem decodePrefix_encode (position : Nat) (s : List Char) :
    decodePrefix position (encode s) = (s, .complete) := by
  induction s generalizing position with
  | nil => rw [encode, List.flatMap_nil, decodePrefix]
  | cons c s ih =>
      obtain ⟨first, more, hchar, hspells⟩ := spells_encodeChar c
      have hencode : encode (c :: s) = first :: (more ++ encode s) := by
        rw [encode, List.flatMap_cons, hchar]
        rfl
      rw [hencode, decodePrefix, hspells.whole]
      simp only [List.drop_left, ih]

/-- What is read of the first bytes of a text: characters at its front, without a fault, and the
bytes that are carried over begin the rest of the text. -/
theorem decodePrefix_take_encode (position n : Nat) (s : List Char) :
    ∃ front back ending, s = front ++ back ∧
      decodePrefix position ((encode s).take n) = (front, ending) ∧
      (∀ error, ending ≠ .failed error) ∧ ending.pending ++ (encode s).drop n = encode back := by
  induction s generalizing position n with
  | nil =>
      refine ⟨[], [], .complete, rfl, ?_, by simp, by simp [encode, Utf8End.pending]⟩
      rw [encode, List.flatMap_nil, List.take_nil, decodePrefix]
  | cons c s ih =>
      obtain ⟨first, more, hchar, hspells⟩ := spells_encodeChar c
      have hencode : encode (c :: s) = first :: (more ++ encode s) := by
        rw [encode, List.flatMap_cons, hchar]
        rfl
      rcases n with - | n
      · refine ⟨[], c :: s, .complete, rfl, ?_, by simp, rfl⟩
        rw [List.take_zero, decodePrefix]
      rw [hencode, List.take_succ_cons, List.drop_succ_cons]
      by_cases hcut : n < more.length
      · -- the character does not fit in: its bytes are carried over
        refine ⟨[], c :: s, .cut position (first :: more.take n), rfl, ?_, by simp, ?_⟩
        · rw [List.take_append_of_le_length (Nat.le_of_lt hcut), decodePrefix, hspells.cut n hcut]
        · rw [List.drop_append_of_le_length (Nat.le_of_lt hcut), hencode, Utf8End.pending,
            List.cons_append, ← List.append_assoc, List.take_append_drop]
      · obtain ⟨rest, rfl⟩ := Nat.exists_eq_add_of_le (Nat.not_lt.mp hcut)
        obtain ⟨front, back, ending, hs, hread, hending, hpending⟩ :=
          ih (position + 1 + more.length) rest
        refine ⟨c :: front, back, ending, by rw [hs, List.cons_append], ?_, hending, ?_⟩
        · rw [List.take_length_add_append, decodePrefix, hspells.whole]
          simp only [List.drop_left, hread]
        · rw [List.drop_length_add_append, hpending]

/-- **A text that arrives in blocks is read as the text.** The bytes that were carried over and
those to come are its bytes. -/
theorem decodeBlocks_of_append_eq_encode {size : Nat} {pending bytes : List UInt8}
    {s : List Char} (h : pending ++ bytes = encode s) :
    decodeBlocks size pending bytes = (s, none) := by
  induction pending, bytes using decodeBlocks.induct size generalizing s with
  | case1 pending bytes hlast =>
      rw [decodeBlocks, dif_pos hlast, h, decodePrefix_encode]
      rfl
  | case2 pending bytes hmore read error hread =>
      obtain ⟨_, _, ending, _, hsound, hending, _⟩ :=
        decodePrefix_take_encode 0 (pending.length + size) s
      rw [← h, List.take_length_add_append, hread] at hsound
      exact absurd (congrArg Prod.snd hsound).symm (hending error)
  | case3 pending bytes hmore read ending hending more error _ hread ih =>
      obtain ⟨front, back, ending', rfl, hsound, -, hpending⟩ :=
        decodePrefix_take_encode 0 (pending.length + size) s
      rw [← h, List.take_length_add_append, hread] at hsound
      obtain ⟨rfl, rfl⟩ := Prod.mk.inj hsound
      rw [← h, List.drop_length_add_append] at hpending
      rw [decodeBlocks, dif_neg hmore, hread]
      cases ending with
      | failed error => exact absurd rfl (hending error)
      | complete => simp only [ih hpending]
      | cut position pending => simp only [ih hpending]

/-- The bytes of a text are read as the text. -/
theorem decodeBlocks_encode (size : Nat) (s : List Char) :
    decodeBlocks size [] (encode s) = (s, none) :=
  decodeBlocks_of_append_eq_encode rfl

/-! ### Lengths -/

/-- Every character that is read takes a byte away. -/
theorem length_decodePrefix (position : Nat) (bytes : List UInt8) :
    (decodePrefix position bytes).1.length + (decodePrefix position bytes).2.pending.length ≤
      bytes.length := by
  induction position, bytes using decodePrefix.induct with
  | case1 position => simp [decodePrefix, Utf8End.pending]
  | case2 position b rest c extra hfront ih =>
      rw [decodePrefix, hfront]
      rw [List.length_drop] at ih
      simp only [List.length_cons]
      omega
  | case3 position b rest n reason hfront => simp [decodePrefix, hfront, Utf8End.pending]
  | case4 position b rest hfront => simp [decodePrefix, hfront, Utf8End.pending]

/-- **A text has no more characters than it had bytes**, also when the bytes are no text behind
it. -/
theorem length_decodeBlocks (size : Nat) (pending bytes : List UInt8) :
    (decodeBlocks size pending bytes).1.length ≤ pending.length + bytes.length := by
  induction pending, bytes using decodeBlocks.induct size with
  | case1 pending bytes hlast read ending hread =>
      have hlength := length_decodePrefix 0 (pending ++ bytes)
      rw [hread, List.length_append] at hlength
      rw [decodeBlocks, dif_pos hlast, hread]
      exact Nat.le_trans (Nat.le_add_right _ _) hlength
  | case2 pending bytes hmore read error hread =>
      rw [decodeBlocks, dif_neg hmore, hread]
      exact Nat.zero_le _
  | case3 pending bytes hmore read ending hending more error hrest hread ih =>
      have hlength := length_decodePrefix 0 (pending ++ bytes.take size)
      have hsplit := congrArg List.length (List.take_append_drop size bytes)
      rw [hread, List.length_append] at hlength
      rw [List.length_append] at hsplit
      have hrun : decodeBlocks size pending bytes = (read ++ more, error) := by
        rw [decodeBlocks, dif_neg hmore, hread]
        cases ending with
        | failed error => exact absurd rfl (hending error)
        | complete => simp only [hrest]
        | cut position pending => simp only [hrest]
      rw [hrest] at ih
      rw [hrun, List.length_append]
      simp only at hlength ih
      omega

end TraceLog.Text
