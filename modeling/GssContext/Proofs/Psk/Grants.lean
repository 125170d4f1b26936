/-
The flags on which both sides of a handshake end.

What an acceptor grants lies inside what the initiator lets itself be granted,
so cutting the one down to the other takes nothing away: both sides record
what the acceptor granted, with what an established context can do besides.
-/
import GssContext.Psk.Initiator

set_option autoImplicit false

namespace GssContext

/-- The place of a capability's bit. -/
def Capability.index : Capability → Nat
  | delegation => 0
  | mutuality => 1
  | replay => 2
  | sequence => 3
  | confidentiality => 4
  | integrity => 5
  | anonymity => 6
  | protReady => 7
  | transfer => 8

namespace Flags

theorem eq_of_getLsbD {a b : Flags}
    (h : ∀ i, a.bits.toBitVec.getLsbD i = b.bits.toBitVec.getLsbD i) : a = b :=
  ext (UInt32.toBitVec_inj.mp (BitVec.eq_of_getLsbD_eq fun i _ => h i))

/-- A bit is in a union if it is in one of the two. -/
theorem getLsbD_union (a b : Flags) (i : Nat) : (a ||| b).bits.toBitVec.getLsbD i =
    (a.bits.toBitVec.getLsbD i || b.bits.toBitVec.getLsbD i) := by
  rw [bits_union, UInt32.toBitVec_or, BitVec.getLsbD_or]

/-- A bit is in an intersection if it is in both. -/
theorem getLsbD_inter (a b : Flags) (i : Nat) : (a &&& b).bits.toBitVec.getLsbD i =
    (a.bits.toBitVec.getLsbD i && b.bits.toBitVec.getLsbD i) := by
  rw [bits_inter, UInt32.toBitVec_and, BitVec.getLsbD_and]

/-- A capability is a bit, at its own place. With this, questions about capabilities
become questions about bits, which can be answered one by one. -/
theorem has_eq_getLsbD (a : Flags) (c : Capability) :
    a.has c = a.bits.toBitVec.getLsbD c.index := by
  have hmask : (of [c]).bits.toBitVec = BitVec.twoPow 32 c.index := by
    cases c <;> rfl
  have hzero : 0#32 ≠ BitVec.twoPow 32 c.index := by
    cases c <;> decide
  have hmeet : (a.bits &&& (of [c]).bits = (of [c]).bits) ↔
      a.bits.toBitVec.getLsbD c.index = true := by
    rw [← UInt32.toBitVec_inj, UInt32.toBitVec_and, hmask, BitVec.and_twoPow]
    cases a.bits.toBitVec.getLsbD c.index <;> simp [hzero]
  rw [has, contains, Bool.eq_iff_iff, beq_iff_eq, hmeet]

/-- A capability is in a union if it is in one of the two sets. -/
theorem has_union (a b : Flags) (c : Capability) : (a ||| b).has c = (a.has c || b.has c) := by
  simp only [has_eq_getLsbD, getLsbD_union]

/-- A capability is in an intersection if it is in both sets. -/
theorem has_inter (a b : Flags) (c : Capability) : (a &&& b).has c = (a.has c && b.has c) := by
  simp only [has_eq_getLsbD, getLsbD_inter]

/-- A set holds another if it has all its bits, those without a meaning too. -/
theorem contains_of_getLsbD {a b : Flags}
    (h : ∀ i, b.bits.toBitVec.getLsbD i = true → a.bits.toBitVec.getLsbD i = true) :
    a.contains b = true := by
  have hmeet : a &&& b = b := by
    refine eq_of_getLsbD fun i => ?_
    rw [getLsbD_inter]
    by_cases hb : b.bits.toBitVec.getLsbD i = true
    · rw [hb, h i hb]
      rfl
    · rw [Bool.not_eq_true] at hb
      rw [hb, Bool.and_false]
  rw [contains, beq_iff_eq]
  exact congrArg Flags.bits hmeet

end Flags

namespace Psk

/-- An acceptor grants nothing that the initiator would not be granted. What it grants
is made of three parts, and each of them is a part of what can be granted; so the proof
looks at one bit, and at where it comes from. -/
theorem grants_inter_grantable (requested : Flags) (confidentiality : Bool) :
    grants requested confidentiality &&& grantable requested =
      grants requested confidentiality := by
  refine Flags.eq_of_getLsbD fun i => ?_
  unfold grants grantable
  rw [Flags.getLsbD_inter]
  cases confidentiality with
  | false =>
    simp only [Bool.false_eq_true, if_false, Flags.getLsbD_union, Flags.getLsbD_inter]
    cases requested.bits.toBitVec.getLsbD i <;> cases alwaysGranted.bits.toBitVec.getLsbD i <;>
      simp
  | true =>
    simp only [if_true, Flags.getLsbD_union, Flags.getLsbD_inter]
    cases requested.bits.toBitVec.getLsbD i <;> cases alwaysGranted.bits.toBitVec.getLsbD i <;>
      simp

/-- Each capability on its own, as an acceptor grants it. -/
theorem has_grants (requested : Flags) (confidentiality : Bool) (c : Capability) :
    (grants requested confidentiality).has c =
      ((requested.has c && (Flags.of [.mutuality]).has c || alwaysGranted.has c) ||
        (confidentiality && (Flags.of [.confidentiality]).has c)) := by
  unfold grants
  cases confidentiality with
  | false =>
    rw [if_neg Bool.false_ne_true, Flags.has_union, Flags.has_inter, Bool.false_and, Bool.or_false]
  | true => rw [if_pos rfl, Flags.has_union, Flags.has_union, Flags.has_inter, Bool.true_and]

/-- So the initiator records what the acceptor does. -/
theorem granted_grants (requested : Flags) (confidentiality : Bool) :
    Initiator.granted requested (grants requested confidentiality) =
      grants requested confidentiality ||| onceOpen := by
  rw [Initiator.granted, grants_inter_grantable]

/-- The flags of an established context: of what was asked for only mutual
authentication matters, and confidentiality is for the acceptor to allow. -/
def finalFlags (requested : Flags) (confidentiality : Bool) : Flags :=
  (requested &&& .of [.mutuality]) ||| .of [.replay, .sequence, .integrity] |||
    (if confidentiality then .of [.confidentiality] else .empty) ||| .of [.protReady, .transfer]

/-- Protection against replay, which is always asked for, changes nothing in the flags
at the end: it is granted to everyone, and of what was requested only the other bits
count. -/
theorem grants_onceOpen (requested : Flags) (confidentiality : Bool) :
    grants (requested ||| .of [.replay]) confidentiality ||| onceOpen =
      finalFlags requested confidentiality := by
  have hmutual : (requested ||| .of [.replay]) &&& .of [.mutuality] =
      requested &&& .of [.mutuality] := by
    -- the two capabilities are different bits
    have hnone : ∀ i, ((Flags.of [.replay]).bits.toBitVec.getLsbD i &&
        (Flags.of [.mutuality]).bits.toBitVec.getLsbD i) = false := by
      intro i
      rw [← Flags.getLsbD_inter]
      change (0 : BitVec 32).getLsbD i = false
      exact BitVec.getLsbD_zero
    refine Flags.eq_of_getLsbD fun i => ?_
    rw [Flags.getLsbD_inter, Flags.getLsbD_union, Flags.getLsbD_inter, Bool.and_or_distrib_right,
      hnone i, Bool.or_false]
  unfold grants finalFlags
  rw [hmutual]
  cases confidentiality with
  | false =>
    refine Flags.eq_of_getLsbD fun i => ?_
    have hempty : Flags.empty.bits.toBitVec.getLsbD i = false := BitVec.getLsbD_zero
    simp only [Bool.false_eq_true, if_false, Flags.getLsbD_union, hempty, Bool.or_false]
    rfl
  | true => rfl

end Psk

end GssContext
