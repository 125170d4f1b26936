/-
Byte strings that are numbers in base 128, one after the other.

`Number` says what a whole number is without any reader: bytes with the top bit
set, and one without. `Numbers` cuts a byte string into whole numbers and tells
their values. The reader carries a value through the bytes and gives up once it
is above a limit; since a further group never makes it smaller, giving up early
is giving up for a reason, and what the reader accepts is exactly the byte
strings that are cut into numbers none of which is above the limit.

A number may start with groups of value zero. They change nothing of its value,
so a value has many forms, and the shortest of them is the one that is written.
-/
import GssContext.Oid.Der
import Mathlib.Data.List.Basic
import Mathlib.Data.List.Induction

set_option autoImplicit false

namespace GssContext.Oid

/-! ## Numbers

A whole number is recognised by its top bits alone, so where it ends is written in its
bytes. Two facts follow that everything else rests on: if two byte strings begin with
whole numbers and are equal, then these numbers are, and a byte string is cut into
numbers in one way, if in any. Whether it can be cut is decided by its last byte. -/

/-- A whole number: the top bit is set on every byte but the last. -/
inductive Number : Bytes → Prop where
  | last {b : UInt8} (hlow : b.toNat < 128) : Number [b]
  | more {b : UInt8} {rest : Bytes} (hhigh : 128 ≤ b.toNat) (hrest : Number rest) :
      Number (b :: rest)

/-- The value of groups that come after ones with the value `current`. -/
def valueFrom (current : Nat) (groups : Bytes) : Nat :=
  groups.foldl (fun value b => value * 128 + b.toNat % 128) current

/-- A byte string that is cut into whole numbers with these values. -/
inductive Numbers : Bytes → List Nat → Prop where
  | nil : Numbers [] []
  | cons {number rest : Bytes} {values : List Nat} (hnumber : Number number)
      (hrest : Numbers rest values) : Numbers (number ++ rest) (valueFrom 0 number :: values)

@[simp] theorem valueFrom_nil (current : Nat) : valueFrom current [] = current := rfl

@[simp] theorem valueFrom_cons (current : Nat) (b : UInt8) (groups : Bytes) :
    valueFrom current (b :: groups) = valueFrom (current * 128 + b.toNat % 128) groups := rfl

@[simp] theorem valueFrom_append (current : Nat) (groups later : Bytes) :
    valueFrom current (groups ++ later) = valueFrom (valueFrom current groups) later :=
  List.foldl_append

/-- The last group of a value, and what is before it. -/
theorem valueFrom_concat (groups : Bytes) (b : UInt8) :
    valueFrom 0 (groups ++ [b]) / 128 = valueFrom 0 groups ∧
      valueFrom 0 (groups ++ [b]) % 128 = b.toNat % 128 := by
  have hvalue : valueFrom 0 (groups ++ [b]) = valueFrom 0 groups * 128 + b.toNat % 128 :=
    valueFrom_append 0 groups [b]
  omega

/-- A further group never makes a value smaller. -/
theorem le_valueFrom (current : Nat) (groups : Bytes) : current ≤ valueFrom current groups := by
  induction groups generalizing current with
  | nil => exact Nat.le_refl current
  | cons b groups ih =>
    have hlater := ih (current * 128 + b.toNat % 128)
    rw [valueFrom_cons]
    omega

namespace Number

variable {number : Bytes}

/-- Groups that all have the top bit set, and one that does not. The two forms of a
number meet here: it is built from the front, but written and compared from the back. -/
theorem of_append {groups : Bytes} {b : UInt8} (hgroups : ∀ g ∈ groups, 128 ≤ g.toNat)
    (hlow : b.toNat < 128) : Number (groups ++ [b]) := by
  induction groups with
  | nil => exact .last hlow
  | cons g groups ih =>
    exact .more (hgroups g List.mem_cons_self)
      (ih fun g hg => hgroups g (List.mem_cons_of_mem _ hg))

theorem exists_append (h : Number number) :
    ∃ groups b, number = groups ++ [b] ∧ (∀ g ∈ groups, 128 ≤ g.toNat) ∧ b.toNat < 128 := by
  induction h with
  | @last b hlow => exact ⟨[], b, rfl, nofun, hlow⟩
  | @more g rest hhigh _ ih =>
    obtain ⟨groups, b, rfl, hgroups, hlow⟩ := ih
    exact ⟨g :: groups, b, rfl, List.forall_mem_cons.mpr ⟨hhigh, hgroups⟩, hlow⟩

theorem ne_nil (h : Number number) : number ≠ [] := by
  cases h <;> exact List.cons_ne_nil _ _

/-- What follows a number is determined, and so is the number. By induction on one of
the two: where it ends the other one has to end too, since their bytes are the same. -/
theorem append_inj {number' rest rest' : Bytes} (h : Number number) (h' : Number number')
    (heq : number ++ rest = number' ++ rest') : number = number' ∧ rest = rest' := by
  induction h generalizing number' with
  | last hlow =>
    cases h' with
    | last => simpa using heq
    | more hhigh =>
      obtain ⟨rfl, -⟩ := List.cons.inj heq
      omega
  | more hhigh _ ih =>
    cases h' with
    | last hlow =>
      obtain ⟨rfl, -⟩ := List.cons.inj heq
      omega
    | more _ hrest' =>
      obtain ⟨rfl, htail⟩ := List.cons.inj heq
      obtain ⟨rfl, hrest⟩ := ih hrest' htail
      exact ⟨rfl, hrest⟩

end Number

/-- A byte string is cut into numbers in one way. The first numbers of two cuts are the
same, and then the rest is cut twice again. -/
theorem Numbers.unique {bytes : Bytes} {values values' : List Nat} (h : Numbers bytes values)
    (h' : Numbers bytes values') : values = values' := by
  induction h generalizing values' with
  | nil =>
    generalize hbytes : ([] : Bytes) = bytes at h'
    cases h' with
    | nil => rfl
    | cons hnumber => exact absurd (List.append_eq_nil_iff.mp hbytes.symm).1 hnumber.ne_nil
  | @cons number rest values hnumber _ ih =>
    generalize hbytes : number ++ rest = bytes at h'
    cases h' with
    | nil => exact absurd (List.append_eq_nil_iff.mp hbytes).1 hnumber.ne_nil
    | cons hnumber' hrest' =>
      obtain ⟨rfl, rfl⟩ := hnumber.append_inj hnumber' hbytes
      rw [ih hrest']

/-- Numbers can be cut out as long as the bytes do not end inside of one, which
their last byte tells. -/
theorem exists_numbers_iff {bytes : Bytes} :
    (∃ values, Numbers bytes values) ↔ ∀ b, bytes.getLast? = some b → b.toNat < 128 := by
  constructor
  · rintro ⟨values, h⟩
    induction h with
    | nil => exact nofun
    | @cons number rest values hnumber _ ih =>
      intro b hb
      -- the last byte is that of the rest, or of this number if nothing follows it
      by_cases hrest : rest = []
      · obtain ⟨groups, c, rfl, -, hlow⟩ := hnumber.exists_append
        rw [hrest, List.append_nil, List.getLast?_concat] at hb
        cases hb
        exact hlow
      · rw [List.getLast?_append_of_ne_nil _ hrest] at hb
        exact ih b hb
  · intro hlast
    -- by induction on the bytes: the first one starts a number, or it is put before the first
    induction bytes with
    | nil => exact ⟨[], .nil⟩
    | cons b bytes ih =>
      have hlater : ∃ values, Numbers bytes values := by
        refine ih fun c hc => hlast c ?_
        rw [List.getLast?_cons, hc]
        rfl
      obtain ⟨values, hvalues⟩ := hlater
      by_cases hlow : b.toNat < 128
      · exact ⟨_, .cons (.last hlow) hvalues⟩
      · cases hvalues with
        | nil => exact absurd (hlast b rfl) hlow
        | cons hnumber hrest => exact ⟨_, .cons (.more (Nat.le_of_not_lt hlow) hnumber) hrest⟩

/-! ## Reading

The reader goes byte by byte and carries a value that it compares with its limit each
time. Seen from outside it goes number by number, and only the value of a whole number
counts, since that is the largest that is carried on the way to it. With this the reader
is described by what the bytes are cut into. -/

theorem readGroups_cons (current : Nat) (pending : Bool) (b : UInt8) (rest : Bytes) :
    readGroups current pending (b :: rest) =
      if readLimit < current * 128 + b.toNat % 128 then .error .overflow
      else if 128 ≤ b.toNat then readGroups (current * 128 + b.toNat % 128) true rest
      else (readGroups 0 false rest).map ((current * 128 + b.toNat % 128) :: ·) := by
  rw [readGroups]
  by_cases hover : readLimit < current * 128 + b.toNat % 128
  · rw [if_pos hover, if_pos hover]
    rfl
  · rw [if_neg hover, if_neg hover]
    by_cases hhigh : 128 ≤ b.toNat
    · rw [if_pos hhigh, if_pos hhigh]
    · rw [if_neg hhigh, if_neg hhigh]
      cases readGroups 0 false rest <;> rfl

/-- A number is read, and then what follows it, unless it is above the limit. The reader
may have given up long before the number ends, which comes to the same: by induction on
the number, with any value carried so far. -/
theorem readGroups_append {number : Bytes} (h : Number number) (current : Nat) (pending : Bool)
    (rest : Bytes) :
    readGroups current pending (number ++ rest) =
      if readLimit < valueFrom current number then .error .overflow
      else (readGroups 0 false rest).map (valueFrom current number :: ·) := by
  induction h generalizing current pending with
  | last hlow =>
    rw [List.singleton_append, readGroups_cons, if_neg (Nat.not_le_of_lt hlow)]
    rfl
  | @more b groups hhigh _ ih =>
    rw [List.cons_append, readGroups_cons, if_pos hhigh, ih, valueFrom_cons]
    by_cases hover : readLimit < current * 128 + b.toNat % 128
    · -- what is above the limit here is so at the end
      rw [if_pos hover, if_pos (Nat.lt_of_lt_of_le hover (le_valueFrom _ groups))]
    · rw [if_neg hover]

/-- What is read starts with a whole number, unless there is nothing to read. -/
theorem number_of_readGroups {current : Nat} {pending : Bool} {bytes : Bytes} {values : List Nat}
    (h : readGroups current pending bytes = .ok values) :
    (pending = false ∧ bytes = []) ∨ ∃ number rest, Number number ∧ bytes = number ++ rest := by
  induction bytes generalizing current pending values with
  | nil =>
    cases pending with
    | false => exact .inl ⟨rfl, rfl⟩
    | true => cases h
  | cons b bytes ih =>
    right
    rw [readGroups_cons] at h
    by_cases hover : readLimit < current * 128 + b.toNat % 128
    · rw [if_pos hover] at h
      cases h
    · rw [if_neg hover] at h
      by_cases hhigh : 128 ≤ b.toNat
      · rw [if_pos hhigh] at h
        obtain ⟨hpending, -⟩ | ⟨number, rest, hnumber, rfl⟩ := ih h
        · cases hpending
        · exact ⟨b :: number, rest, .more hhigh hnumber, rfl⟩
      · exact ⟨[b], bytes, .last (Nat.lt_of_not_le hhigh), rfl⟩

/-- **What the reader accepts.** It reads the byte strings that are cut into
numbers none of which is above its limit, and gives their values. -/
theorem readGroups_eq_ok_iff {bytes : Bytes} {values : List Nat} :
    readGroups 0 false bytes = .ok values ↔
      Numbers bytes values ∧ ∀ value ∈ values, value ≤ readLimit := by
  constructor
  · intro h
    -- number by number, so the induction is on how many bytes are left
    induction hlength : bytes.length using Nat.strongRecOn generalizing bytes values with
    | ind n ih =>
      obtain ⟨-, rfl⟩ | ⟨number, rest, hnumber, rfl⟩ := number_of_readGroups h
      · cases h
        exact ⟨.nil, nofun⟩
      · rw [readGroups_append hnumber] at h
        by_cases hover : readLimit < valueFrom 0 number
        · rw [if_pos hover] at h
          cases h
        · rw [if_neg hover] at h
          cases hrest : readGroups 0 false rest with
          | error e =>
            rw [hrest] at h
            cases h
          | ok later =>
            rw [hrest] at h
            cases h
            have hshorter : rest.length < n := by
              have := List.length_pos_iff.mpr hnumber.ne_nil
              rw [List.length_append] at hlength
              omega
            obtain ⟨hlater, hbounded⟩ := ih _ hshorter hrest rfl
            exact ⟨.cons hnumber hlater,
              List.forall_mem_cons.mpr ⟨Nat.le_of_not_lt hover, hbounded⟩⟩
  · rintro ⟨h, hbounded⟩
    induction h with
    | nil => rfl
    | cons hnumber _ ih =>
      obtain ⟨hvalue, hlater⟩ := List.forall_mem_cons.mp hbounded
      rw [readGroups_append hnumber, if_neg (Nat.not_lt_of_le hvalue), ih hlater]
      rfl

/-! ## Writing

The lowest group is written last, and the others in front of it by a recursion on what is
left of the value. So it is the back of a byte string that is looked at, and the inductions
here go from the right. The recursion ends when nothing is left, so of several groups the
first one is not zero: the form without padding is the only one that comes out. -/

theorem leadingGroups_zero : leadingGroups 0 = [] := by rw [leadingGroups, if_pos rfl]

theorem leadingGroups_of_ne_zero {n : Nat} (h : n ≠ 0) :
    leadingGroups n = leadingGroups (n / 128) ++ [UInt8.ofNat (128 + n % 128)] := by
  rw [leadingGroups, if_neg h]

theorem leadingGroups_ne_nil {n : Nat} (h : n ≠ 0) : leadingGroups n ≠ [] := by
  rw [leadingGroups_of_ne_zero h]
  exact List.append_ne_nil_of_right_ne_nil _ (List.cons_ne_nil _ _)

theorem toNat_leadingGroup (n : Nat) : (UInt8.ofNat (128 + n % 128)).toNat = 128 + n % 128 := by
  rw [UInt8.toNat_ofNat']
  omega

theorem toNat_lowGroup (n : Nat) : (UInt8.ofNat (n % 128)).toNat = n % 128 := by
  rw [UInt8.toNat_ofNat']
  omega

/-- A group of value zero with the top bit set is the only one that pads. -/
theorem some_ne_padding {b : UInt8} (h : b.toNat ≠ 128) : some b ≠ some 0x80 :=
  fun heq => h (congrArg UInt8.toNat (Option.some.inj heq))

/-- Leading groups have the top bit set, denote the number that they are of, and the
first one is no zero. By induction on the number, which has one group less each time. -/
theorem leadingGroups_spec (n : Nat) :
    (∀ g ∈ leadingGroups n, 128 ≤ g.toNat) ∧ valueFrom 0 (leadingGroups n) = n ∧
      (leadingGroups n).head? ≠ some 0x80 := by
  induction n using Nat.strongRecOn with
  | ind n ih =>
    by_cases hzero : n = 0
    · rw [hzero, leadingGroups_zero]
      exact ⟨nofun, rfl, nofun⟩
    · obtain ⟨hgroups, hvalue, hhead⟩ := ih (n / 128) (by omega)
      rw [leadingGroups_of_ne_zero hzero]
      refine ⟨?_, ?_, ?_⟩
      · intro g hg
        rcases List.mem_append.mp hg with hg | hg
        · exact hgroups g hg
        · rw [List.mem_singleton.mp hg, toNat_leadingGroup]
          exact Nat.le_add_right 128 _
      · rw [valueFrom_append, hvalue, valueFrom_cons, valueFrom_nil, toNat_leadingGroup]
        omega
      · -- the first group is this one if no other comes before it, and then it is what is
        -- left of a number that is not zero
        by_cases hsmall : n / 128 = 0
        · rw [hsmall, leadingGroups_zero, List.nil_append, List.head?_cons]
          refine some_ne_padding ?_
          rw [toNat_leadingGroup]
          omega
        · rwa [List.head?_append_of_ne_nil _ (leadingGroups_ne_nil hsmall)]

/-- Leading groups whose first one is no zero are those of their value. -/
theorem leadingGroups_valueFrom {groups : Bytes} (hgroups : ∀ g ∈ groups, 128 ≤ g.toNat)
    (hhead : groups.head? ≠ some 0x80) :
    leadingGroups (valueFrom 0 groups) = groups ∧ (groups ≠ [] → valueFrom 0 groups ≠ 0) := by
  -- from the right, since the last group is the one that is written last
  induction groups using List.reverseRecOn with
  | nil => exact ⟨leadingGroups_zero, fun h => absurd rfl h⟩
  | append_singleton groups b ih =>
    have hb : 128 ≤ b.toNat := hgroups b (List.mem_append_right _ (List.mem_singleton_self b))
    have hfit := b.toNat_lt
    obtain ⟨hdiv, hmod⟩ := valueFrom_concat groups b
    have hfront : leadingGroups (valueFrom 0 groups) = groups ∧
        valueFrom 0 (groups ++ [b]) ≠ 0 := by
      cases groups with
      | nil =>
        -- a single group is no zero
        have hne : b.toNat ≠ 128 := fun h => hhead (congrArg some (UInt8.toNat_inj.mp h))
        exact ⟨leadingGroups_zero, by omega⟩
      | cons g groups =>
        obtain ⟨hwritten, hne⟩ :=
          ih (fun g hg => hgroups g (List.mem_append_left _ hg)) (by rwa [List.head?_append] at hhead)
        have hne := hne (List.cons_ne_nil _ _)
        exact ⟨hwritten, by omega⟩
    obtain ⟨hwritten, hne⟩ := hfront
    have hbyte : UInt8.ofNat (128 + valueFrom 0 (groups ++ [b]) % 128) = b := by
      rw [← UInt8.toNat_inj, toNat_leadingGroup]
      omega
    refine ⟨?_, fun _ => hne⟩
    rw [leadingGroups_of_ne_zero hne, hdiv, hwritten, hbyte]

theorem number_base128 (n : Nat) : Number (base128 n) := by
  refine .of_append (leadingGroups_spec _).1 ?_
  rw [toNat_lowGroup]
  exact Nat.mod_lt n (by decide)

/-- What is written for a number has it as its value. -/
@[simp] theorem valueFrom_base128 (n : Nat) : valueFrom 0 (base128 n) = n := by
  rw [base128, valueFrom_append, (leadingGroups_spec _).2.1, valueFrom_cons, valueFrom_nil,
    toNat_lowGroup]
  omega

/-- **The shortest form.** A number is written as it was read if and only if it
does not start with a group of value zero. -/
theorem base128_valueFrom_iff {number : Bytes} (h : Number number) :
    base128 (valueFrom 0 number) = number ↔ number.head? ≠ some 0x80 := by
  constructor
  · intro hwritten
    rw [← hwritten, base128]
    by_cases hzero : valueFrom 0 number / 128 = 0
    · rw [hzero, leadingGroups_zero, List.nil_append, List.head?_cons]
      refine some_ne_padding ?_
      rw [toNat_lowGroup]
      omega
    · rw [List.head?_append_of_ne_nil _ (leadingGroups_ne_nil hzero)]
      exact (leadingGroups_spec _).2.2
  · obtain ⟨groups, b, rfl, hgroups, hlow⟩ := h.exists_append
    intro hhead
    have hfront : groups.head? ≠ some 0x80 := by
      cases groups with
      | nil => exact nofun
      | cons => exact hhead
    obtain ⟨hdiv, hmod⟩ := valueFrom_concat groups b
    have hbyte : UInt8.ofNat (valueFrom 0 (groups ++ [b]) % 128) = b := by
      rw [← UInt8.toNat_inj, toNat_lowGroup]
      omega
    rw [base128, hdiv, (leadingGroups_valueFrom hgroups hfront).1, hbyte]

/-- Numbers that are written one after the other. -/
theorem numbers_flatMap_base128 (values : List Nat) :
    Numbers (values.flatMap base128) values := by
  induction values with
  | nil => exact .nil
  | cons value values ih =>
    have hcons := Numbers.cons (number_base128 value) ih
    rwa [valueFrom_base128] at hcons

/-! ## Padding

A number that starts with a group of value zero is padded. For a byte string this is
asked of each of its numbers, by going through the bytes and remembering whether one
starts here. Padding is the only way in which what is read may differ from what would be
written. -/

/-- Does a number among the bytes start with a group of value zero? `fresh` says
that a number starts here. -/
def paddedFrom (fresh : Bool) : Bytes → Bool
  | [] => false
  | b :: rest => (fresh && b == 0x80) || paddedFrom (b.toNat < 128) rest

/-- Does one of the numbers start with a group of value zero? -/
def padded (bytes : Bytes) : Bool := paddedFrom true bytes

/-- Inside of a number nothing is at its start, so only what comes after it
matters. -/
theorem paddedFrom_append {number : Bytes} (h : Number number) (rest : Bytes) :
    paddedFrom false (number ++ rest) = padded rest := by
  induction h with
  | last hlow =>
    rw [List.singleton_append, paddedFrom, decide_eq_true hlow]
    rfl
  | more hhigh _ ih =>
    rw [List.cons_append, paddedFrom, decide_eq_false (Nat.not_lt_of_le hhigh), ih]
    rfl

theorem padded_append {number : Bytes} (h : Number number) (rest : Bytes) :
    padded (number ++ rest) = (decide (number.head? = some 0x80) || padded rest) := by
  have hfresh (b : UInt8) (tail : Bytes) :
      padded (b :: tail) = (decide (b = 0x80) || paddedFrom false (b :: tail)) := by
    rw [padded, paddedFrom, paddedFrom, Bool.true_and, Bool.false_and, Bool.false_or]
    rfl
  obtain ⟨b, tail, rfl⟩ := List.exists_cons_of_ne_nil h.ne_nil
  rw [← paddedFrom_append h rest, List.cons_append, hfresh, List.head?_cons]
  simp only [Option.some.injEq]

/-- Numbers are written as they were read if and only if none of them is padded. -/
theorem flatMap_base128_iff {bytes : Bytes} {values : List Nat} (h : Numbers bytes values) :
    values.flatMap base128 = bytes ↔ padded bytes = false := by
  induction h with
  | nil => exact ⟨fun _ => rfl, fun _ => rfl⟩
  | @cons number rest values hnumber hrest ih =>
    rw [List.flatMap_cons, padded_append hnumber, Bool.or_eq_false_iff, decide_eq_false_iff_not,
      ← ih, ← ne_eq, ← base128_valueFrom_iff hnumber]
    constructor
    · intro heq
      -- what is written is a number too, so both cuts are at the same place
      exact (number_base128 _).append_inj hnumber heq
    · rintro ⟨hwritten, hlater⟩
      rw [hwritten, hlater]

end GssContext.Oid
