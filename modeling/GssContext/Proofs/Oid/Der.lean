/-
What the content octets of identifiers are.

Everything goes through the joined numbers of an identifier: they are what is
written, one after the other in base 128, and reading looks for them and takes
the first one apart again. The rule for the first two arcs is what makes that
possible, since below forty and below eighty the joined number tells which the
first arc was.

Reading is not the converse of writing. The content octets of an identifier are
meant to be unique, but the reader does not look at how a number starts, so each
identifier is read from many byte strings: the one that is written, and all
that come of it by padding.
-/
import GssContext.Proofs.Oid.Base128
import GssContext.Proofs.Oid.Words

set_option autoImplicit false

namespace GssContext.Oid

/-! ## Joined numbers

An identifier as the list of numbers that is put into bytes, which is its arcs but for
the first two. Writing is base 128 of each of them. Reading makes arcs of them again,
and a number that is no arc is refused there. -/

/-- The numbers that the content octets of an identifier consist of. -/
def joined (oid : Oid) : List Nat :=
  match oid.arcs with
  | a :: b :: rest => (a.toNat * 40 + b.toNat) :: rest.map UInt32.toNat
  | _ => []

theorem toDer_eq_flatMap (oid : Oid) : oid.toDer = oid.joined.flatMap base128 := by
  obtain ⟨arcs⟩ := oid
  match arcs with
  | [] | [_] => rfl
  | a :: b :: rest =>
    rw [toDer, joined]
    dsimp only
    rw [List.flatMap_cons, List.flatMap_map]

theorem arcOfNat_eq_ok_iff {n : Nat} {arc : UInt32} : arcOfNat n = .ok arc ↔ n = arc.toNat := by
  unfold arcOfNat
  constructor
  · intro h
    by_cases hfits : n ≤ 0xffffffff
    · rw [if_pos hfits] at h
      rw [← Except.ok.inj h, UInt32.toNat_ofNat']
      omega
    · rw [if_neg hfits] at h
      cases h
  · rintro rfl
    have hfits : arc.toNat ≤ 0xffffffff := Nat.le_of_lt_succ arc.toNat_lt
    rw [if_pos hfits, UInt32.ofNat_toNat]

theorem arcsOfNats_eq_ok_iff {values : List Nat} {arcs : List UInt32} :
    arcsOfNats values = .ok arcs ↔ values = arcs.map UInt32.toNat := by
  induction values generalizing arcs with
  | nil => cases arcs <;> simp [arcsOfNats]
  | cons value values ih =>
    simp only [arcsOfNats, bind_eq_ok_iff, arcOfNat_eq_ok_iff, ih]
    constructor
    · rintro ⟨arc, rfl, rest, rfl, h⟩
      obtain rfl : arc :: rest = arcs := Except.ok.inj h
      rfl
    · intro h
      obtain ⟨arc, rest, rfl, rfl, hrest⟩ := List.map_eq_cons_iff.mp h.symm
      exact ⟨arc, rfl, rest, hrest.symm, rfl⟩

/-! ## The first two arcs

The first arc is 0, 1 or 2, and below 2 the second one is below 40. So the joined number
is below 40, or below 80, or at least 80, and by this it tells the first arc. Without
the rule two pairs of arcs could be joined into one number. -/

/-- The joined number is taken apart into at most two forties and the rest. -/
theorem splitRoot_eq (n : Nat) :
    (splitRoot n).1.toNat = min (n / 40) 2 ∧ (splitRoot n).2 = n - 40 * min (n / 40) 2 := by
  unfold splitRoot
  by_cases h40 : n < 40
  · rw [if_pos h40]
    exact ⟨show 0 = _ by omega, show n = _ by omega⟩
  · rw [if_neg h40]
    by_cases h80 : n < 80
    · rw [if_pos h80]
      exact ⟨show 1 = _ by omega, show n - 40 = _ by omega⟩
    · rw [if_neg h80]
      exact ⟨show 2 = _ by omega, show n - 80 = _ by omega⟩

/-- Two arcs that keep the rule. -/
theorem validRoot_iff {a b : UInt32} {rest : List UInt32} :
    validRoot (a :: b :: rest) = true ↔ (a.toNat < 2 ∧ b.toNat < 40) ∨ a.toNat = 2 := by
  have h0 : a = 0 ↔ a.toNat = 0 := UInt32.toNat_inj.symm
  have h1 : a = 1 ↔ a.toNat = 1 := UInt32.toNat_inj.symm
  have h2 : a = 2 ↔ a.toNat = 2 := UInt32.toNat_inj.symm
  have h40 : b < 40 ↔ b.toNat < 40 := UInt32.lt_iff_toNat_lt
  rw [validRoot]
  by_cases hlow : a = 0 ∨ a = 1
  · rw [if_pos hlow, decide_eq_true_iff, h40]
    rw [h0, h1] at hlow
    omega
  · rw [if_neg hlow, decide_eq_true_iff, h2]
    rw [h0, h1] at hlow
    omega

/-- **Taking apart is the converse of joining**, on arcs that keep the rule. What is
taken apart keeps it by itself, so no reader checks it. -/
theorem ofJoined_eq_ok_iff {values : List Nat} {oid : Oid} :
    ofJoined values = .ok oid ↔ validRoot oid.arcs = true ∧ values = oid.joined := by
  cases values with
  | nil =>
    refine ⟨(fun h => by cases h), ?_⟩
    rintro ⟨hvalid, hjoined⟩
    obtain ⟨_ | ⟨a, _ | ⟨b, rest⟩⟩⟩ := oid
    · cases hvalid
    · cases hvalid
    · cases hjoined
  | cons n values =>
    obtain ⟨hfirst, hsecond⟩ := splitRoot_eq n
    simp only [ofJoined, bind_eq_ok_iff, arcOfNat_eq_ok_iff, arcsOfNats_eq_ok_iff]
    constructor
    · rintro ⟨second, hb, rest, rfl, h⟩
      obtain rfl : Oid.mk ((splitRoot n).1 :: second :: rest) = oid := Except.ok.inj h
      have hjoin : n = (splitRoot n).1.toNat * 40 + second.toNat := by omega
      refine ⟨validRoot_iff.mpr (by omega), ?_⟩
      unfold joined
      dsimp only
      rw [← hjoin]
    · rintro ⟨hvalid, hjoined⟩
      obtain ⟨_ | ⟨a, _ | ⟨b, rest⟩⟩⟩ := oid
      · cases hvalid
      · cases hvalid
      · obtain ⟨rfl, rfl⟩ := List.cons.inj hjoined
        have hrule := validRoot_iff.mp hvalid
        have ha : (splitRoot (a.toNat * 40 + b.toNat)).1 = a := by
          rw [← UInt32.toNat_inj]
          omega
        refine ⟨b, by omega, rest, rfl, ?_⟩
        rw [ha]
        rfl

/-- Arcs are far below the reader's limit, and so is the first number, which is at most
eighty more than an arc. The limit is there for numbers that are no arcs. -/
theorem le_readLimit_of_validRoot {oid : Oid} (h : validRoot oid.arcs = true) :
    ∀ value ∈ oid.joined, value ≤ readLimit := by
  obtain ⟨arcs⟩ := oid
  match arcs with
  | [] | [_] => cases h
  | a :: b :: rest =>
    have hrule := validRoot_iff.mp h
    have hfits (arc : UInt32) : arc.toNat ≤ 0xffffffff := Nat.le_of_lt_succ arc.toNat_lt
    have hb := hfits b
    refine List.forall_mem_cons.mpr ⟨?_, ?_⟩
    · unfold readLimit
      omega
    · intro value hvalue
      obtain ⟨arc, -, rfl⟩ := List.mem_map.mp hvalue
      exact Nat.le_trans (hfits arc) (by decide)

/-- **What is read**: the byte strings whose numbers are the joined numbers of an
identifier that keeps the rule. -/
theorem ofDer_eq_ok_iff {bytes : Bytes} {oid : Oid} :
    ofDer bytes = .ok oid ↔ validRoot oid.arcs = true ∧ Numbers bytes oid.joined := by
  simp only [ofDer, bind_eq_ok_iff, readGroups_eq_ok_iff, ofJoined_eq_ok_iff]
  constructor
  · rintro ⟨values, ⟨hnumbers, -⟩, hvalid, rfl⟩
    exact ⟨hvalid, hnumbers⟩
  · rintro ⟨hvalid, hnumbers⟩
    exact ⟨oid.joined, ⟨hnumbers, le_readLimit_of_validRoot hvalid⟩, hvalid, rfl⟩

/-! ## The accepted language

Which byte strings are read is said here without the reader and without the identifier
that comes out: whole numbers that are small enough. The bound for the first one is
larger than for the others, since it may hold an arc of any value behind a 2. -/

/-- The bytes are numbers, at least one, small enough for the arcs of a path: the
first is two arcs joined, each of the others is one. -/
structure Denotes (bytes : Bytes) (first : Nat) (rest : List Nat) : Prop where
  numbers : Numbers bytes (first :: rest)
  first_le : first ≤ 2 ^ 32 - 1 + 80
  rest_le : ∀ value ∈ rest, value ≤ 2 ^ 32 - 1

/-- The arcs of a path whose first two are joined. -/
def splitArcs (first : Nat) (rest : List Nat) : List Nat :=
  min (first / 40) 2 :: (first - 40 * min (first / 40) 2) :: rest

/-- The joined numbers are those of the arcs, if the first one is taken apart. -/
theorem joined_eq_cons_iff {oid : Oid} {first : Nat} {rest : List Nat} :
    validRoot oid.arcs = true ∧ oid.joined = first :: rest ↔
      oid.arcs.map UInt32.toNat = splitArcs first rest := by
  obtain ⟨arcs⟩ := oid
  unfold splitArcs joined
  match arcs with
  | [] => exact ⟨fun h => (nomatch h.1), nofun⟩
  | [_] => exact ⟨fun h => (nomatch h.1), fun h => (nomatch (List.cons.inj h).2)⟩
  | a :: b :: arcs =>
    simp only [validRoot_iff, List.map_cons, List.cons.injEq]
    constructor
    · rintro ⟨hrule, hfirst, hrest⟩
      exact ⟨by omega, by omega, hrest⟩
    · rintro ⟨ha, hb, hrest⟩
      exact ⟨by omega, by omega, hrest⟩

/-- Numbers that are small enough are the joined numbers of an identifier: of the one
whose arcs they are when the first one is taken apart. -/
theorem Denotes.exists_oid {bytes : Bytes} {first : Nat} {rest : List Nat}
    (h : Denotes bytes first rest) : ∃ oid, ofDer bytes = .ok oid := by
  have hfirst := h.first_le
  have hall : ∀ value ∈ splitArcs first rest, value ≤ 2 ^ 32 - 1 := by
    unfold splitArcs
    simp only [List.forall_mem_cons]
    exact ⟨by omega, by omega, h.rest_le⟩
  -- each number of the list is an arc, and read as a number it is what it was
  have hmap : ((splitArcs first rest).map UInt32.ofNat).map UInt32.toNat =
      splitArcs first rest := by
    have hkept : ∀ value ∈ splitArcs first rest, (UInt32.toNat ∘ UInt32.ofNat) value = id value := by
      intro value hvalue
      have hle := hall value hvalue
      show (UInt32.ofNat value).toNat = value
      rw [UInt32.toNat_ofNat']
      omega
    rw [List.map_map, List.map_congr_left hkept, List.map_id]
  let oid : Oid := ⟨(splitArcs first rest).map UInt32.ofNat⟩
  have hjoined : validRoot oid.arcs = true ∧ oid.joined = first :: rest :=
    joined_eq_cons_iff.mpr hmap
  refine ⟨oid, ofDer_eq_ok_iff.mpr ⟨hjoined.1, ?_⟩⟩
  rw [hjoined.2]
  exact h.numbers

/-- The numbers of what is read are the arcs, joined. -/
theorem arcs_of_numbers {bytes : Bytes} {oid : Oid} {first : Nat} {rest : List Nat}
    (h : ofDer bytes = .ok oid) (hnumbers : Numbers bytes (first :: rest)) :
    validRoot oid.arcs = true ∧ oid.arcs.map UInt32.toNat = splitArcs first rest := by
  obtain ⟨hvalid, hjoined⟩ := ofDer_eq_ok_iff.mp h
  exact ⟨hvalid, joined_eq_cons_iff.mp ⟨hvalid, hjoined.unique hnumbers⟩⟩

/-- What is read consists of numbers that are small enough. -/
theorem exists_denotes {bytes : Bytes} {oid : Oid} (h : ofDer bytes = .ok oid) :
    ∃ first rest, Denotes bytes first rest := by
  obtain ⟨hvalid, hnumbers⟩ := ofDer_eq_ok_iff.mp h
  obtain ⟨arcs⟩ := oid
  match arcs with
  | [] | [_] => cases hvalid
  | a :: b :: arcs =>
    have hrule := validRoot_iff.mp hvalid
    have hfits (arc : UInt32) : arc.toNat ≤ 2 ^ 32 - 1 := Nat.le_of_lt_succ arc.toNat_lt
    have hb := hfits b
    refine ⟨_, _, hnumbers, by omega, ?_⟩
    intro value hvalue
    obtain ⟨arc, -, rfl⟩ := List.mem_map.mp hvalue
    exact hfits arc

/-- What is written for an identifier that keeps the rule is read back. -/
theorem ofDer_toDer {oid : Oid} (h : validRoot oid.arcs = true) : ofDer oid.toDer = .ok oid := by
  rw [ofDer_eq_ok_iff, toDer_eq_flatMap]
  exact ⟨h, numbers_flatMap_base128 oid.joined⟩

/-- **Content octets, exactly.**

An identifier made from arcs is read back from what is written for it. Read are
the byte strings that consist of whole numbers, at least one, of which the first
is at most the largest arc and eighty and the others are arcs; numbers are whole
if the last byte has no top bit. What is read keeps the rule, and its arcs are
the numbers, the first one taken apart. Computed with words of sixty-four bits
and ten places for the groups of a number the same comes out, without a fault,
also for an identifier that keeps no rule. -/
theorem der_exact :
    (∀ arcs oid, ofArcs arcs = .ok oid → ofDer oid.toDer = .ok oid) ∧
    (∀ bytes, (∃ oid, ofDer bytes = .ok oid) ↔ ∃ first rest, Denotes bytes first rest) ∧
    (∀ bytes, (∃ values, Numbers bytes values) ↔
      ∀ b, bytes.getLast? = some b → b.toNat < 128) ∧
    (∀ bytes oid first rest, ofDer bytes = .ok oid → Numbers bytes (first :: rest) →
      validRoot oid.arcs = true ∧ oid.arcs.map UInt32.toNat = splitArcs first rest) ∧
    (∀ bytes, Words.ofDer bytes = (ofDer bytes).mapError some) ∧
    (∀ oid, Words.toDer oid = .ok oid.toDer) := by
  refine ⟨?_, ?_, fun _ => exists_numbers_iff, ?_, Words.ofDer_eq, Words.toDer_eq⟩
  · intro arcs oid h
    obtain ⟨hvalid, rfl⟩ := ofArcs_eq_ok_iff.mp h
    exact ofDer_toDer hvalid
  · intro bytes
    constructor
    · rintro ⟨oid, h⟩
      exact exists_denotes h
    · rintro ⟨first, rest, h⟩
      exact h.exists_oid
  · intro bytes oid first rest h hnumbers
    exact arcs_of_numbers h hnumbers

/-- Below two the second arc may be as large as an arc can be, and then the number
that it is joined into has more than thirty-two bits. -/
theorem read_back_of_largest :
    ofArcs [2, 0xffffffff, 0, 128] = .ok ⟨[2, 0xffffffff, 0, 128]⟩ ∧
      Oid.toDer ⟨[2, 0xffffffff, 0, 128]⟩ = [0x90, 0x80, 0x80, 0x80, 0x4f, 0x00, 0x81, 0x00] ∧
      ofDer [0x90, 0x80, 0x80, 0x80, 0x4f, 0x00, 0x81, 0x00] =
        .ok ⟨[2, 0xffffffff, 0, 128]⟩ := by
  have hmade : ofArcs [2, 0xffffffff, 0, 128] = .ok ⟨[2, 0xffffffff, 0, 128]⟩ := by decide
  have hwritten : Oid.toDer ⟨[2, 0xffffffff, 0, 128]⟩ =
      [0x90, 0x80, 0x80, 0x80, 0x4f, 0x00, 0x81, 0x00] := by
    decide +kernel
  have hread := der_exact.1 _ _ hmade
  rw [hwritten] at hread
  exact ⟨hmade, hwritten, hread⟩

/-! ## One identifier, many byte strings

The numbers decide what is read, and they do not see a group of value zero in front. So
each identifier is read from byte strings without end, and among them the one that is
written is recognised by not being padded. -/

/-- **What the reader lets pass.**

What is written for an identifier that was read is not padded, and it is read as
the same identifier. It is the very byte string that was read if that is not
padded, and only then; so of two byte strings that are read as the same one at
least is padded. -/
theorem written_again_iff_not_padded {bytes : Bytes} {oid : Oid} (h : ofDer bytes = .ok oid) :
    (oid.toDer = bytes ↔ padded bytes = false) ∧
    padded oid.toDer = false ∧ ofDer oid.toDer = .ok oid ∧
    ∀ bytes', ofDer bytes' = .ok oid → bytes' ≠ bytes →
      padded bytes = true ∨ padded bytes' = true := by
  -- for every byte string that is read as the identifier
  have hwritten {bytes : Bytes} (h : ofDer bytes = .ok oid) :
      oid.toDer = bytes ↔ padded bytes = false := by
    rw [toDer_eq_flatMap]
    exact flatMap_base128_iff (ofDer_eq_ok_iff.mp h).2
  have hagain : ofDer oid.toDer = .ok oid := ofDer_toDer (ofDer_eq_ok_iff.mp h).1
  refine ⟨hwritten h, (hwritten hagain).mp rfl, hagain, ?_⟩
  intro bytes' h' hne
  by_contra hnone
  rw [not_or, Bool.not_eq_true, Bool.not_eq_true] at hnone
  have hfirst : oid.toDer = bytes := (hwritten h).mpr hnone.1
  have hsecond : oid.toDer = bytes' := (hwritten h').mpr hnone.2
  exact hne (hsecond.symm.trans hfirst)

/-- A group of value zero before the only number. -/
theorem padded_of_read_twice :
    ofDer [0x2a] = .ok ⟨[1, 2]⟩ ∧ ofDer [0x80, 0x2a] = .ok ⟨[1, 2]⟩ ∧
      Oid.toDer ⟨[1, 2]⟩ ≠ [0x80, 0x2a] ∧ padded [0x80, 0x2a] = true := by
  have hread : ofDer [0x80, 0x2a] = .ok ⟨[1, 2]⟩ := by decide
  obtain ⟨hwritten, -⟩ := written_again_iff_not_padded hread
  have hpadded : padded [0x80, 0x2a] = true := by decide
  refine ⟨by decide, hread, ?_, hpadded⟩
  rw [ne_eq, hwritten, hpadded]
  decide

end GssContext.Oid
