/-
Reading back what was written as UTF-8.

A character is read back from its own bytes, whatever follows them, and a
proper prefix of its bytes is no character yet. Of the beginning of a text,
`split` therefore gives the characters that are whole, and keeps the bytes of
the one that was cut, at most three. This is what a reader in pieces relies on:
it never sees the whole text, only a beginning of what is left.
-/
import GssContext.Text.Utf8

set_option autoImplicit false

namespace GssContext.Utf8

/-! ## The parts of a character

A character is a code point cut into groups of six bits, with the length of the whole
written into its lead byte. Each part is taken off its byte again, as long as it was
small enough for it. -/

/-- A continuation byte gives its payload. -/
theorem continuation?_ofNat {payload : Nat} (hsmall : payload < 64) :
    continuation? (UInt8.ofNat (0x80 + payload)) = some payload := by
  have hbyte : (UInt8.ofNat (0x80 + payload)).toNat = 0x80 + payload :=
    UInt8.toNat_ofNat_of_lt (by simp only [UInt8.size]; omega)
  rw [continuation?, hbyte, if_pos (by omega)]
  congr 1
  omega

/-- A character is that of its own code point. -/
theorem scalar?_toNat {least : Nat} {c : Char} (hleast : least ≤ c.toNat) :
    scalar? least c.toNat = some c := by
  rw [scalar?, if_pos ⟨hleast, c.valid⟩, Char.ofNat_toNat]

theorem toNat_lt (c : Char) : c.toNat < 0x110000 := by
  have hvalid : c.toNat.isValidChar := c.valid
  rcases hvalid with h | ⟨_, h⟩ <;> omega

theorem toNat_lead {n : Nat} (hn : n < 256) : (UInt8.ofNat n).toNat = n :=
  UInt8.toNat_ofNat_of_lt hn

/-! ## One character

A lead byte tells how many bytes follow. So the four lengths are looked at one by one:
the groups of a code point give it back, and with fewer bytes there is no character to be
read. The reader asks whether a code point needs as many bytes as it was given, and
the case in which it was written says that it does. -/

/-- A character is read back, and what follows it is left. The cases are the four
lengths, as the writer distinguishes them. -/
theorem next?_encodeChar_append (c : Char) (rest : Bytes) :
    next? (encodeChar c ++ rest) = some (c, rest) := by
  have hmax := toNat_lt c
  -- one byte, two, three or four
  by_cases h1 : c.toNat < 0x80
  · simp only [encodeChar, if_pos h1, List.cons_append, List.nil_append, next?,
      toNat_lead (n := c.toNat) (by omega), Char.ofNat_toNat]
  by_cases h2 : c.toNat < 0x800
  · have hlead : (UInt8.ofNat (0xc0 + c.toNat / 64)).toNat = 0xc0 + c.toNat / 64 :=
      toNat_lead (by omega)
    have hcode : (0xc0 + c.toNat / 64 - 0xc0) * 64 + c.toNat % 64 = c.toNat := by omega
    simp only [encodeChar, if_neg h1, if_pos h2, List.cons_append, List.nil_append, next?, hlead]
    rw [if_neg (by omega), if_neg (by omega), if_pos (by omega),
      continuation?_ofNat (Nat.mod_lt _ (by omega))]
    simp only [Option.bind_eq_bind, Option.bind_some, hcode,
      scalar?_toNat (Nat.le_of_not_lt h1), Option.pure_def]
  by_cases h3 : c.toNat < 0x10000
  · have hlead : (UInt8.ofNat (0xe0 + c.toNat / 4096)).toNat = 0xe0 + c.toNat / 4096 :=
      toNat_lead (by omega)
    have hcode : ((0xe0 + c.toNat / 4096 - 0xe0) * 64 + c.toNat / 64 % 64) * 64 + c.toNat % 64 =
        c.toNat := by omega
    simp only [encodeChar, if_neg h1, if_neg h2, if_pos h3, List.cons_append, List.nil_append,
      next?, hlead]
    rw [if_neg (by omega), if_neg (by omega), if_neg (by omega), if_pos (by omega),
      continuation?_ofNat (Nat.mod_lt _ (by omega)), continuation?_ofNat (Nat.mod_lt _ (by omega))]
    simp only [Option.bind_eq_bind, Option.bind_some, hcode,
      scalar?_toNat (Nat.le_of_not_lt h2), Option.pure_def]
  · have hlead : (UInt8.ofNat (0xf0 + c.toNat / 262144)).toNat = 0xf0 + c.toNat / 262144 :=
      toNat_lead (by omega)
    have hcode : (((0xf0 + c.toNat / 262144 - 0xf0) * 64 + c.toNat / 4096 % 64) * 64 +
        c.toNat / 64 % 64) * 64 + c.toNat % 64 = c.toNat := by omega
    simp only [encodeChar, if_neg h1, if_neg h2, if_neg h3, List.cons_append, List.nil_append,
      next?, hlead]
    rw [if_neg (by omega), if_neg (by omega), if_neg (by omega), if_neg (by omega),
      continuation?_ofNat (Nat.mod_lt _ (by omega)), continuation?_ofNat (Nat.mod_lt _ (by omega)),
      continuation?_ofNat (Nat.mod_lt _ (by omega))]
    simp only [Option.bind_eq_bind, Option.bind_some, hcode,
      scalar?_toNat (Nat.le_of_not_lt h3), Option.pure_def]

/-- A character has at most four bytes. -/
theorem length_encodeChar_le (c : Char) : (encodeChar c).length ≤ 4 := by
  unfold encodeChar
  dsimp only
  split
  · simp
  split
  · simp
  split <;> simp

/-- A proper prefix of a character's bytes is not a character yet. Its lead byte is
there, if anything is, and asks for more bytes than there are. -/
theorem next?_eq_none_of_cut {c : Char} {bytes more : Bytes}
    (hcut : encodeChar c = bytes ++ more) (hmore : more ≠ []) : next? bytes = none := by
  have hmax := toNat_lt c
  cases bytes with
  | nil => rfl
  | cons a bytes =>
    unfold encodeChar at hcut
    dsimp only at hcut
    split at hcut
    · -- a single byte cannot be cut
      simp only [List.cons_append, List.cons.injEq] at hcut
      exact absurd (List.append_eq_nil_iff.mp hcut.2.symm).2 hmore
    split at hcut
    · simp only [List.cons_append, List.cons.injEq] at hcut
      obtain ⟨rfl, hcut⟩ := hcut
      have hlead := toNat_lead (n := 0xc0 + c.toNat / 64) (by omega)
      rcases bytes with _ | ⟨b, bytes⟩
      · simp only [next?, hlead]
        rw [if_neg (by omega), if_neg (by omega), if_pos (by omega)]
      · simp only [List.cons_append, List.cons.injEq] at hcut
        exact absurd (List.append_eq_nil_iff.mp hcut.2.symm).2 hmore
    split at hcut
    · simp only [List.cons_append, List.cons.injEq] at hcut
      obtain ⟨rfl, hcut⟩ := hcut
      have hlead := toNat_lead (n := 0xe0 + c.toNat / 4096) (by omega)
      rcases bytes with _ | ⟨b, _ | ⟨b', bytes⟩⟩
      · simp only [next?, hlead]
        rw [if_neg (by omega), if_neg (by omega), if_neg (by omega), if_pos (by omega)]
      · simp only [next?, hlead]
        rw [if_neg (by omega), if_neg (by omega), if_neg (by omega), if_pos (by omega)]
      · simp only [List.cons_append, List.cons.injEq] at hcut
        exact absurd (List.append_eq_nil_iff.mp hcut.2.2.symm).2 hmore
    · simp only [List.cons_append, List.cons.injEq] at hcut
      obtain ⟨rfl, hcut⟩ := hcut
      have hlead := toNat_lead (n := 0xf0 + c.toNat / 262144) (by omega)
      rcases bytes with _ | ⟨b, _ | ⟨b', _ | ⟨b'', bytes⟩⟩⟩
      · simp only [next?, hlead]
        rw [if_neg (by omega), if_neg (by omega), if_neg (by omega), if_neg (by omega)]
      · simp only [next?, hlead]
        rw [if_neg (by omega), if_neg (by omega), if_neg (by omega), if_neg (by omega)]
      · simp only [next?, hlead]
        rw [if_neg (by omega), if_neg (by omega), if_neg (by omega), if_neg (by omega)]
      · simp only [List.cons_append, List.cons.injEq] at hcut
        exact absurd (List.append_eq_nil_iff.mp hcut.2.2.2.symm).2 hmore

/-! ## The beginning of a text

A reader in pieces has the first bytes of a text, which may end inside a character. What
it gets is some of the characters and some bytes that begin the next one, and those,
with what is still unread, are a text again. This is what an induction on the pieces
needs. -/

theorem split_of_none {bytes : Bytes} (h : next? bytes = none) : split bytes = ([], bytes) := by
  rw [split]
  split
  · rfl
  · rename_i hsome
    rw [h] at hsome
    cases hsome

theorem split_of_some {bytes rest : Bytes} {c : Char} (h : next? bytes = some (c, rest)) :
    split bytes = (c :: (split rest).1, (split rest).2) := by
  rw [split]
  split
  · rename_i hnone
    rw [h] at hnone
    cases hnone
  · rename_i hsome
    rw [h] at hsome
    cases hsome
    rfl

/-- **Cutting a text anywhere.** The whole characters of the beginning are
characters of the text, and what `split` keeps of the one that was cut
continues with the rest of the bytes to the remaining characters. -/
theorem split_of_append_eq {bytes more : Bytes} {chars : List Char}
    (h : bytes ++ more = chars.flatMap encodeChar) :
    ∃ later, chars = (split bytes).1 ++ later ∧
      (split bytes).2 ++ more = later.flatMap encodeChar ∧
      next? (split bytes).2 = none ∧ (split bytes).2.length ≤ 3 := by
  induction chars generalizing bytes with
  | nil =>
    obtain ⟨rfl, rfl⟩ := List.append_eq_nil_iff.mp h
    refine ⟨[], ?_⟩
    rw [split_of_none rfl]
    exact ⟨rfl, rfl, rfl, Nat.zero_le _⟩
  | cons c chars ih =>
    rw [List.flatMap_cons] at h
    -- the cut falls into the first character or behind it
    have hcases : (∃ cut, cut ≠ [] ∧ encodeChar c = bytes ++ cut) ∨
        ∃ after, bytes = encodeChar c ++ after ∧ after ++ more = chars.flatMap encodeChar := by
      rcases List.append_eq_append_iff.mp h with ⟨cut, hcut, hmore⟩ | ⟨after, hbytes, hafter⟩
      · by_cases hwhole : cut = []
        · rw [hwhole, List.append_nil] at hcut
          exact .inr ⟨[], by rw [hcut, List.append_nil], by rw [hmore, hwhole]; rfl⟩
        · exact .inl ⟨cut, hwhole, hcut⟩
      · exact .inr ⟨after, hbytes, hafter.symm⟩
    rcases hcases with ⟨cut, hne, hcut⟩ | ⟨after, rfl, hafter⟩
    · -- the first character was cut, so nothing is whole yet
      have hnone := next?_eq_none_of_cut hcut hne
      have hshort : bytes.length ≤ 3 := by
        have hpos := List.length_pos_iff.mpr hne
        have hle := length_encodeChar_le c
        rw [hcut, List.length_append] at hle
        omega
      refine ⟨c :: chars, ?_⟩
      rw [split_of_none hnone, List.flatMap_cons]
      exact ⟨rfl, h, hnone, hshort⟩
    · obtain ⟨later, hchars, hlater, hrest⟩ := ih hafter
      refine ⟨later, ?_⟩
      rw [split_of_some (next?_encodeChar_append c after)]
      refine ⟨?_, hlater, hrest⟩
      rw [List.cons_append, ← hchars]

/-- The bytes of a text are the text, with nothing held back: there is no character that
its last bytes could begin. -/
theorem split_encode (text : String) : split (encode text) = (text.toList, []) := by
  have hwhole : encode text ++ [] = text.toList.flatMap encodeChar := List.append_nil _
  obtain ⟨later, hchars, hlater, hnone, -⟩ := split_of_append_eq hwhole
  -- nothing is left over, since it would start with a whole character
  have hdone : later = [] := by
    cases later with
    | nil => rfl
    | cons c later =>
      rw [List.append_nil, List.flatMap_cons] at hlater
      rw [hlater, next?_encodeChar_append] at hnone
      cases hnone
  rw [hdone] at hchars hlater
  rw [List.append_nil] at hchars hlater
  rw [Prod.ext_iff]
  exact ⟨hchars.symm, hlater⟩

theorem encode_injective {a b : String} (h : encode a = encode b) : a = b := by
  have hsplit := split_encode a
  rw [h, split_encode b, Prod.mk.injEq] at hsplit
  exact (String.toList_injective hsplit.1).symm

end GssContext.Utf8
