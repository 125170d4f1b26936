/-
Identifiers computed with machine words.

The numbers of `Oid.Der` have no size. Here the same is computed with words of
sixty-four bits, and the groups of a number are kept in a buffer with ten
places. Whatever could be lost on the way is looked at and would be a fault: a
bit that a shift pushes out, a sum, a product or a difference that is no word, a
group for which there is no place.

There is no fault, for any input. While a number is read it is at most the
reader's limit, which has thirty-eight bits, so there is room for one more
group; and ten groups of seven bits have room for every word. So words and
numbers come to the same, and nothing that is said of the one needs to be said
of the other.
-/
import GssContext.Proofs.Oid.Base128
import Mathlib.Algebra.Group.Nat.Defs

set_option autoImplicit false

namespace GssContext.Oid.Words

/-! ## Computing with words

What a machine word does when a result does not fit is never relied upon. So each
operation is given here with a check in front, and a failed check is a fault, which is
told apart from the reasons for which an input is refused. That a computation has no
fault then says that nothing was lost in it. -/

/-- What computing with words ends with: a value, the reason why the input
denotes no identifier, or a fault. -/
abbrev Computed := Except (Option Error)

variable {α β : Type}

/-- Something did not fit. -/
def fault : Computed α := .error none

/-- The input denotes no identifier. -/
def refuse (e : Error) : Computed α := .error (some e)

/-- A word that is to be the number `n`. -/
def fitting (n : Nat) (word : UInt64) : Computed UInt64 := if n < 2 ^ 64 then .ok word else fault

/-- Make room for a group. -/
def shiftGroup (a : UInt64) : Computed UInt64 := fitting (a.toNat * 128) (a <<< 7)

def add (a b : UInt64) : Computed UInt64 := fitting (a.toNat + b.toNat) (a + b)

def mul (a b : UInt64) : Computed UInt64 := fitting (a.toNat * b.toNat) (a * b)

def sub (a b : UInt64) : Computed UInt64 := if b ≤ a then .ok (a - b) else fault

/-! ## Reading

The functions of `Oid.Der` again, with a word where there was a number. The value that
is carried is shifted and the group is put into the room by an or, and the limit is not
given but computed from the largest arc. -/

/-- The largest number the reader carries. -/
def readLimit : Computed UInt64 := do add (← mul 0xffffffff 40) 80

/-- The numbers of a byte string, from inside one that has the value `current`
so far; `pending` says that it is unfinished. -/
def readGroups (current : UInt64) (pending : Bool) : Bytes → Computed (List UInt64)
  | [] => if pending then refuse .truncated else .ok []
  | b :: rest => do
    let shifted ← shiftGroup current
    let value := shifted ||| (b &&& 0x7f).toUInt64
    let limit ← readLimit
    if limit < value then refuse .overflow
    else if b &&& 0x80 ≠ 0 then readGroups value true rest
    else
      let values ← readGroups 0 false rest
      return value :: values

/-- A word as an arc. -/
def arcOfWord (word : UInt64) : Computed UInt32 :=
  if word ≤ 0xffffffff then .ok word.toUInt32 else refuse .overflow

/-- The first two numbers from the one they are joined into. -/
def splitRoot (joined : UInt64) : Computed (UInt32 × UInt64) := do
  if joined < 40 then return (0, joined)
  else if joined < 80 then return (1, ← sub joined 40)
  else return (2, ← sub joined 80)

/-- Read content octets. -/
def ofDer (bytes : Bytes) : Computed Oid := do
  match ← readGroups 0 false bytes with
  | [] => refuse .invalidRoot
  | joined :: rest =>
    let (first, second) ← splitRoot joined
    let second ← arcOfWord second
    let arcs ← rest.mapM arcOfWord
    return ⟨first :: second :: arcs⟩

/-! ## Writing

A number is written into a buffer from its lowest group to its highest, and the buffer
is then read from the back. It has ten places, and to need an eleventh would be a fault. -/

/-- The groups of a word, lowest first, in a buffer with so many places left. -/
def lowGroups : (places : Nat) → UInt64 → Computed Bytes
  | 0, _ => fault
  | places + 1, word => do
    let group := (word &&& 0x7f).toUInt8
    if word >>> 7 = 0 then return [group]
    else return group :: (← lowGroups places (word >>> 7))

/-- A word in base 128: the groups from the highest down, all but the lowest with
the top bit set. -/
def base128 (word : UInt64) : Computed Bytes := do
  let groups ← lowGroups 10 word
  return (groups.tail.map (· ||| 0x80)).reverse ++ groups.take 1

/-- The number that the first two are joined into. -/
def joinRoot (a b : UInt32) : Computed UInt64 := do add (← mul a.toUInt64 40) b.toUInt64

/-- The content octets; a path without two numbers has none. -/
def toDer (oid : Oid) : Computed Bytes :=
  match oid.arcs with
  | a :: b :: rest => do
    let first ← base128 (← joinRoot a b)
    let later ← rest.mapM fun arc => base128 arc.toUInt64
    return first ++ later.flatten
  | _ => return []

/-! ## Bits

What the operations on bits come to for the numbers that the words are. Shifting by
seven is multiplying by 128 as long as nothing is lost, masking is the remainder, and an
or into empty room is a sum. -/

theorem fitting_of_lt {n : Nat} (word : UInt64) (h : n < 2 ^ 64) : fitting n word = .ok word :=
  if_pos h

theorem toNat_shiftGroup {a : UInt64} (h : a.toNat * 128 < 2 ^ 64) :
    (a <<< 7).toNat = a.toNat * 128 := by
  rw [UInt64.toNat_shiftLeft, Nat.shiftLeft_eq]
  exact Nat.mod_eq_of_lt h

/-- The seven bits below the top one are those of the number. -/
theorem toNat_lowBits (b : UInt8) : (b &&& 0x7f).toUInt64.toNat = b.toNat % 128 := by
  rw [UInt8.toNat_toUInt64, UInt8.toNat_and]
  exact Nat.and_two_pow_sub_one_eq_mod b.toNat 7

theorem topBit_ne_zero_iff (b : UInt8) : b &&& 0x80 ≠ 0 ↔ 128 ≤ b.toNat := by
  have hall : ∀ i : Fin 256, i.val &&& 128 ≠ 0 ↔ 128 ≤ i.val := by decide +kernel
  rw [← hall ⟨b.toNat, b.toNat_lt⟩, ne_eq, ne_eq, ← UInt8.toNat_inj, UInt8.toNat_and]
  rfl

/-- Into the room that a shift made a group is put without a sum. -/
theorem toNat_or_group {a : UInt64} (b : UInt8) (h : a.toNat * 128 < 2 ^ 64) :
    (a <<< 7 ||| (b &&& 0x7f).toUInt64).toNat = a.toNat * 128 + b.toNat % 128 := by
  have hlow : b.toNat % 128 < 2 ^ 7 := Nat.mod_lt _ (by decide)
  rw [UInt64.toNat_or, toNat_shiftGroup h, toNat_lowBits, Nat.mul_comm a.toNat 128]
  exact (Nat.two_pow_add_eq_or_of_lt hlow a.toNat).symm

theorem toNat_shiftRight (word : UInt64) : (word >>> 7).toNat = word.toNat / 128 := by
  rw [UInt64.toNat_shiftRight]
  exact Nat.shiftRight_eq_div_pow word.toNat 7

theorem shiftRight_eq_zero_iff (word : UInt64) : word >>> 7 = 0 ↔ word.toNat / 128 = 0 := by
  rw [← UInt64.toNat_inj, toNat_shiftRight]
  rfl

theorem toNat_lowWord (word : UInt64) : (word &&& 0x7f).toUInt8.toNat = word.toNat % 128 := by
  rw [UInt64.toNat_toUInt8, UInt64.toNat_and]
  have hlow : word.toNat &&& 127 = word.toNat % 128 := Nat.and_two_pow_sub_one_eq_mod _ 7
  change (word.toNat &&& 127) % 2 ^ 8 = _
  omega

theorem lowWord_eq (word : UInt64) :
    (word &&& 0x7f).toUInt8 = UInt8.ofNat (word.toNat % 128) := by
  rw [← UInt8.toNat_inj, toNat_lowWord, UInt8.toNat_ofNat']
  omega

theorem lowWord_or_eq (word : UInt64) :
    (word &&& 0x7f).toUInt8 ||| 0x80 = UInt8.ofNat (128 + word.toNat % 128) := by
  have hlow : word.toNat % 128 < 2 ^ 7 := Nat.mod_lt _ (by decide)
  rw [← UInt8.toNat_inj, UInt8.toNat_or, toNat_lowWord, UInt8.toNat_ofNat', Nat.or_comm]
  change 2 ^ 7 * 1 ||| word.toNat % 128 = _
  rw [← Nat.two_pow_add_eq_or_of_lt hlow 1]
  omega

/-! ## Reading gives the same

The value that is carried stays within the limit, and so there is room for one more
group whenever a byte comes. With this as what the recursion keeps, words and numbers go
through the bytes side by side: they refuse for the same reason, or give the same
values. -/

/-- What is computed agrees, up to `f`, with what can only be refused. -/
theorem map_eq_mapError_iff {f : α → β} {x : Computed α} {y : Except Error β} :
    x.map f = y.mapError some ↔
      match y with
      | .ok b => ∃ a, x = .ok a ∧ f a = b
      | .error e => x = .error (some e) := by
  cases x <;> cases y <;> simp [Except.map, Except.mapError]

theorem readLimit_eq : readLimit = .ok 171798691880 := rfl

/-- The limit leaves room for one more group. -/
theorem mul_lt_of_le_readLimit {n : Nat} (h : n ≤ Oid.readLimit) : n * 128 < 2 ^ 64 := by
  unfold Oid.readLimit at h
  omega

/-- The numbers that are read with words are those that are read without a size. The
induction is on the bytes and needs that the value carried so far is within the limit,
which the check after each group restores. -/
theorem readGroups_eq (current : UInt64) (hcurrent : current.toNat ≤ Oid.readLimit)
    (pending : Bool) (bytes : Bytes) :
    (readGroups current pending bytes).map (List.map UInt64.toNat) =
      (Oid.readGroups current.toNat pending bytes).mapError some := by
  induction bytes generalizing current pending with
  | nil => cases pending <;> rfl
  | cons b bytes ih =>
    have hroom := mul_lt_of_le_readLimit hcurrent
    have hvalue := toNat_or_group b hroom
    -- both compare the same value with the same limit
    have hlimit : (171798691880 : UInt64) < (current <<< 7 ||| (b &&& 0x7f).toUInt64) ↔
        Oid.readLimit < current.toNat * 128 + b.toNat % 128 := by
      rw [UInt64.lt_iff_toNat_lt, hvalue]
      rfl
    rw [readGroups, Oid.readGroups, shiftGroup, fitting_of_lt _ hroom, readLimit_eq]
    simp only [bind, Except.bind, hlimit, topBit_ne_zero_iff]
    by_cases hover : Oid.readLimit < current.toNat * 128 + b.toNat % 128
    · rw [if_pos hover, if_pos hover]
      rfl
    · rw [if_neg hover, if_neg hover]
      rw [← hvalue] at hover ⊢
      dsimp only [pure, Except.pure]
      by_cases hhigh : 128 ≤ b.toNat
      · rw [if_pos hhigh, if_pos hhigh]
        exact ih _ (Nat.le_of_not_lt hover) true
      · rw [if_neg hhigh, if_neg hhigh]
        -- the next number starts from zero, and this one is put before what is read then
        have hlater := ih 0 (Nat.zero_le _) false
        rw [show (0 : UInt64).toNat = 0 from rfl] at hlater
        rw [map_eq_mapError_iff] at hlater
        cases hread : Oid.readGroups 0 false bytes with
        | error e =>
          rw [hread] at hlater
          rw [hlater]
          rfl
        | ok values =>
          rw [hread] at hlater
          obtain ⟨words, hwords, rfl⟩ := hlater
          rw [hwords]
          rfl

/-- A word is an arc where its number is one. -/
theorem arcOfWord_eq (word : UInt64) : arcOfWord word = (arcOfNat word.toNat).mapError some := by
  rw [arcOfWord, arcOfNat]
  by_cases h : word.toNat ≤ 0xffffffff
  · rw [if_pos (UInt64.le_iff_toNat_le.mpr h), if_pos h]
    rfl
  · rw [if_neg (fun hle => h (UInt64.le_iff_toNat_le.mp hle)), if_neg h]
    rfl

theorem mapM_arcOfWord (words : List UInt64) :
    words.mapM arcOfWord = (arcsOfNats (words.map UInt64.toNat)).mapError some := by
  induction words with
  | nil => rfl
  | cons word words ih =>
    rw [List.mapM_cons, ih, arcOfWord_eq, List.map_cons, arcsOfNats]
    cases arcOfNat word.toNat with
    | error e => rfl
    | ok arc => cases arcsOfNats (words.map UInt64.toNat) <;> rfl

theorem toNat_sub {a b : UInt64} (h : b.toNat ≤ a.toNat) :
    ∃ c, sub a b = .ok c ∧ c.toNat = a.toNat - b.toNat :=
  ⟨a - b, if_pos (UInt64.le_iff_toNat_le.mpr h), UInt64.toNat_sub_of_le _ _
    (UInt64.le_iff_toNat_le.mpr h)⟩

/-- Taking apart the first number never takes away more than there is. -/
theorem splitRoot_eq (joined : UInt64) :
    ∃ second, splitRoot joined = .ok ((Oid.splitRoot joined.toNat).1, second) ∧
      second.toNat = (Oid.splitRoot joined.toNat).2 := by
  rw [splitRoot, Oid.splitRoot]
  by_cases h40 : joined.toNat < 40
  · rw [if_pos (UInt64.lt_iff_toNat_lt.mpr h40), if_pos h40]
    exact ⟨joined, rfl, rfl⟩
  · rw [if_neg (fun hlt => h40 (UInt64.lt_iff_toNat_lt.mp hlt)), if_neg h40]
    by_cases h80 : joined.toNat < 80
    · rw [if_pos (UInt64.lt_iff_toNat_lt.mpr h80), if_pos h80]
      obtain ⟨second, hsub, hsecond⟩ := toNat_sub (a := joined) (b := 40) (Nat.le_of_not_lt h40)
      rw [hsub]
      exact ⟨second, rfl, hsecond⟩
    · rw [if_neg (fun hlt => h80 (UInt64.lt_iff_toNat_lt.mp hlt)), if_neg h80]
      obtain ⟨second, hsub, hsecond⟩ := toNat_sub (a := joined) (b := 80) (Nat.le_of_not_lt h80)
      rw [hsub]
      exact ⟨second, rfl, hsecond⟩

/-- **Reading with words.** There is no fault, and the same comes out: the numbers are
the same, the first of them comes apart in the same way, and they are arcs in the same
cases. -/
theorem ofDer_eq (bytes : Bytes) : ofDer bytes = (Oid.ofDer bytes).mapError some := by
  have hread := readGroups_eq 0 (Nat.zero_le _) false bytes
  rw [show (0 : UInt64).toNat = 0 from rfl, map_eq_mapError_iff] at hread
  rw [ofDer, Oid.ofDer]
  cases hvalues : Oid.readGroups 0 false bytes with
  | error e =>
    rw [hvalues] at hread
    rw [hread]
    rfl
  | ok values =>
    rw [hvalues] at hread
    obtain ⟨words, hwords, rfl⟩ := hread
    rw [hwords]
    cases words with
    | nil => rfl
    | cons joined rest =>
      obtain ⟨second, hsplit, hsecond⟩ := splitRoot_eq joined
      dsimp only [bind, Except.bind]
      rw [hsplit]
      dsimp only
      rw [arcOfWord_eq, mapM_arcOfWord, hsecond, List.map_cons, ofJoined]
      dsimp only [bind, Except.bind]
      cases arcOfNat (Oid.splitRoot joined.toNat).2 with
      | error e => rfl
      | ok arc => cases arcsOfNats (rest.map UInt64.toNat) <;> rfl

/-! ## Writing gives the same

One place of the buffer is used for each group, and a word has at most ten of them,
since ten times seven bits are more than it has. Before that the first two arcs are
joined, which any two arcs can be, not only those that keep the rule: the product and
the sum stay far below what a word holds. -/

/-- The groups above the lowest are the leading ones, if the buffer has places for
all of them. -/
theorem lowGroups_eq {places : Nat} {word : UInt64} (h : word.toNat < 128 ^ (places + 1)) :
    ∃ high, lowGroups (places + 1) word = .ok ((word &&& 0x7f).toUInt8 :: high) ∧
      (high.map (· ||| 0x80)).reverse = leadingGroups (word.toNat / 128) := by
  -- by induction on the places, with a word that loses its lowest group each time
  induction places generalizing word with
  | zero =>
    have hzero : word.toNat / 128 = 0 := Nat.div_eq_of_lt h
    rw [lowGroups, if_pos ((shiftRight_eq_zero_iff word).mpr hzero), hzero, leadingGroups_zero]
    exact ⟨[], rfl, rfl⟩
  | succ places ih =>
    by_cases hzero : word.toNat / 128 = 0
    · rw [lowGroups, if_pos ((shiftRight_eq_zero_iff word).mpr hzero), hzero, leadingGroups_zero]
      exact ⟨[], rfl, rfl⟩
    · have hless : (word >>> 7).toNat < 128 ^ (places + 1) := by
        rw [toNat_shiftRight]
        exact Nat.div_lt_of_lt_mul (by rwa [Nat.pow_succ'] at h)
      obtain ⟨high, hgroups, hhigh⟩ := ih hless
      rw [toNat_shiftRight] at hhigh
      rw [lowGroups, if_neg (mt (shiftRight_eq_zero_iff word).mp hzero), hgroups]
      refine ⟨(word >>> 7 &&& 0x7f).toUInt8 :: high, rfl, ?_⟩
      rw [List.map_cons, List.reverse_cons, hhigh, lowWord_or_eq, toNat_shiftRight,
        ← leadingGroups_of_ne_zero hzero]

/-- **Writing a word.** Ten places are enough. -/
theorem base128_eq (word : UInt64) : base128 word = .ok (Oid.base128 word.toNat) := by
  have hfits : word.toNat < 128 ^ (9 + 1) := Nat.lt_trans word.toNat_lt (by decide)
  obtain ⟨high, hgroups, hhigh⟩ := lowGroups_eq hfits
  rw [base128, hgroups, Oid.base128, ← hhigh, ← lowWord_eq]
  rfl

theorem mapM_base128 (arcs : List UInt32) :
    (arcs.mapM fun arc => base128 arc.toUInt64) =
      .ok (arcs.map fun arc => Oid.base128 arc.toNat) := by
  induction arcs with
  | nil => rfl
  | cons arc arcs ih =>
    rw [List.mapM_cons, ih, base128_eq, UInt32.toNat_toUInt64]
    rfl

/-- Two arcs of any values join into a word. Forty times an arc has thirty-eight bits,
and there is room for another arc above that. -/
theorem joinRoot_eq (a b : UInt32) :
    ∃ joined, joinRoot a b = .ok joined ∧ joined.toNat = a.toNat * 40 + b.toNat := by
  have ha := a.toNat_lt
  have hb := b.toNat_lt
  have hproduct : (a.toUInt64 * 40).toNat = a.toNat * 40 := by
    rw [UInt64.toNat_mul, UInt32.toNat_toUInt64]
    change a.toNat * 40 % 2 ^ 64 = _
    omega
  have hmul : mul a.toUInt64 40 = .ok (a.toUInt64 * 40) := by
    refine fitting_of_lt _ ?_
    rw [UInt32.toNat_toUInt64]
    change a.toNat * 40 < 2 ^ 64
    omega
  have hsum : a.toNat * 40 + b.toNat < 2 ^ 64 := by omega
  have hadd : add (a.toUInt64 * 40) b.toUInt64 = .ok (a.toUInt64 * 40 + b.toUInt64) := by
    refine fitting_of_lt _ ?_
    rwa [hproduct, UInt32.toNat_toUInt64]
  refine ⟨a.toUInt64 * 40 + b.toUInt64, ?_, ?_⟩
  · rw [joinRoot, hmul]
    exact hadd
  · rw [UInt64.toNat_add, hproduct, UInt32.toNat_toUInt64]
    exact Nat.mod_eq_of_lt hsum

/-- **Writing with words.** There is no fault, whatever the arcs are, and the same
comes out. -/
theorem toDer_eq (oid : Oid) : toDer oid = .ok oid.toDer := by
  obtain ⟨arcs⟩ := oid
  match arcs with
  | [] | [_] => rfl
  | a :: b :: rest =>
    obtain ⟨joined, hjoin, hjoined⟩ := joinRoot_eq a b
    rw [toDer, Oid.toDer]
    dsimp only [bind, Except.bind]
    rw [hjoin, mapM_base128]
    dsimp only
    rw [base128_eq, hjoined]
    rfl

end GssContext.Oid.Words
