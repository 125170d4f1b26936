/-
What decimal numbers are.

`DigitRun` says without any reader what a run of digits denotes: each digit counts
ten times what it would count one place further right. `Numeral` adds the plus.
The reader goes from the left instead, and gives up as soon as it is above its
limit; a further digit never makes a value smaller, so it gives up for a reason,
and what it accepts is exactly the numerals of the numbers up to the limit.

The spellings of one number differ by a plus and by leading zeros only, and
without them there is one left, which is the one that is written.
-/
import GssContext.Text.Decimal
import Mathlib.Data.Nat.Digits.Defs
import Mathlib.Tactic.Ring

set_option autoImplicit false

namespace GssContext.Decimal

/-! ## Places

What a text denotes is said by the places of its digits, counted from the right, and so
without any order in which they would be read. A text of digits alone is a run, and a
numeral may have a plus before it. -/

/-- What a digit counts in the last place. -/
def digitValue (c : Char) : Nat := c.toNat - 48

/-- What digits denote by their places, of which the last one counts once. -/
def placeValue (text : List Char) : Nat := Nat.ofDigits 10 (text.reverse.map digitValue)

/-- A run of digits, at least one, and the number that it denotes. -/
structure DigitRun (text : List Char) (n : Nat) : Prop where
  nonempty : text ≠ []
  isDigit : ∀ c ∈ text, c.isDigit = true
  value : placeValue text = n

/-- Digits, or a plus and digits. -/
inductive Numeral : List Char → Nat → Prop where
  | unsigned {text : List Char} {n : Nat} (h : DigitRun text n) : Numeral text n
  | plus {text : List Char} {n : Nat} (h : DigitRun text n) : Numeral ('+' :: text) n

@[simp] theorem placeValue_nil : placeValue [] = 0 := rfl

theorem placeValue_cons (c : Char) (rest : List Char) :
    placeValue (c :: rest) = digitValue c * 10 ^ rest.length + placeValue rest := by
  simp only [placeValue, List.reverse_cons, List.map_append, List.map_cons, List.map_nil,
    Nat.ofDigits_append, Nat.ofDigits_singleton, List.length_map, List.length_reverse]
  rw [Nat.mul_comm, Nat.add_comm]

theorem isDigit_iff {c : Char} : c.isDigit = true ↔ 48 ≤ c.toNat ∧ c.toNat ≤ 57 := by
  simp only [Char.isDigit, Bool.and_eq_true, decide_eq_true_eq, ge_iff_le]
  exact Iff.rfl

theorem digit?_of_isDigit {c : Char} (h : c.isDigit = true) : digit? c = some (digitValue c) :=
  if_pos h

theorem digitValue_lt {c : Char} (h : c.isDigit = true) : digitValue c < 10 := by
  obtain ⟨-, hhigh⟩ := isDigit_iff.mp h
  rw [digitValue]
  omega

/-- The digit of a character's value is the character. -/
theorem digit_digitValue {c : Char} (h : c.isDigit = true) : digit (digitValue c) = c := by
  obtain ⟨hlow, -⟩ := isDigit_iff.mp h
  rw [digit, digitValue, Nat.add_sub_cancel' hlow, Char.ofNat_toNat]

/-! ## Reading

The reader has a value for the digits it has seen, and each further digit multiplies it
by ten. What the reader will end with is therefore known at every digit: the value so
far, moved by the places that are left, and what these places denote themselves. The
limit is checked on the way, and this can be left to the end, since the value only
grows. -/

/-- **Reading from the left** comes to the value by places, if that is in range. By
induction on the digits, with any value so far that is within the limit. -/
theorem digits_eq_ok_iff {beyond : Error} {limit acc n : Nat} {text : List Char}
    (hacc : acc ≤ limit) :
    digits beyond limit acc text = .ok n ↔
      (∀ c ∈ text, c.isDigit = true) ∧ acc * 10 ^ text.length + placeValue text = n ∧
        n ≤ limit := by
  induction text generalizing acc with
  | nil =>
    rw [digits, Except.ok.injEq, placeValue_nil, List.length_nil]
    constructor
    · rintro rfl
      exact ⟨List.forall_mem_nil _, by omega, hacc⟩
    · rintro ⟨-, h, -⟩
      omega
  | cons c rest ih =>
    rw [digits]
    by_cases hdigit : c.isDigit = true
    · rw [digit?_of_isDigit hdigit]
      dsimp only
      rw [placeValue_cons, List.length_cons, List.forall_mem_cons, and_iff_right hdigit]
      -- what was read so far, in front of the places that are left
      have hvalue : acc * 10 ^ (rest.length + 1) +
            (digitValue c * 10 ^ rest.length + placeValue rest) =
          (acc * 10 + digitValue c) * 10 ^ rest.length + placeValue rest := by
        ring
      rw [hvalue]
      by_cases hle : acc * 10 + digitValue c ≤ limit
      · rw [if_pos hle, ih hle]
      · rw [if_neg hle]
        -- the reader gives up here, and what is left cannot bring the value back
        refine iff_of_false (fun h => by cases h) ?_
        rintro ⟨-, hn, hlimit⟩
        have hgrows := Nat.le_mul_of_pos_right (acc * 10 + digitValue c)
          (Nat.pow_pos (n := rest.length) (show 0 < 10 by decide))
        omega
    · rw [digit?, if_neg hdigit]
      exact iff_of_false (fun h => by cases h) fun h => hdigit (h.1 c List.mem_cons_self)

theorem digits_zero_eq_ok_iff {beyond : Error} {limit n : Nat} {text : List Char}
    (hnonempty : text ≠ []) :
    digits beyond limit 0 text = .ok n ↔ DigitRun text n ∧ n ≤ limit := by
  rw [digits_eq_ok_iff (Nat.zero_le limit), Nat.zero_mul, Nat.zero_add]
  constructor
  · rintro ⟨hdigit, hvalue, hlimit⟩
    exact ⟨⟨hnonempty, hdigit, hvalue⟩, hlimit⟩
  · rintro ⟨h, hlimit⟩
    exact ⟨h.isDigit, h.value, hlimit⟩

theorem DigitRun.not_mem_plus {text : List Char} {n : Nat} (h : DigitRun text n) : '+' ∉ text :=
  fun hmem => absurd (h.isDigit '+' hmem) (by decide)

theorem Numeral.isDigit_or_eq_plus {text : List Char} {n : Nat} (h : Numeral text n) :
    ∀ c ∈ text, c.isDigit = true ∨ c = '+' := by
  cases h with
  | unsigned h => exact fun c hc => .inl (h.isDigit c hc)
  | plus h => exact List.forall_mem_cons.mpr ⟨.inr rfl, fun c hc => .inl (h.isDigit c hc)⟩

/-- What follows a plus is the digits. -/
theorem numeral_plus_iff {text : List Char} {n : Nat} :
    Numeral ('+' :: text) n ↔ DigitRun text n := by
  constructor
  · intro h
    cases h with
    | unsigned h => exact absurd List.mem_cons_self h.not_mem_plus
    | plus h => exact h
  · exact .plus

/-- Without a plus there are digits only. -/
theorem numeral_iff_of_ne_plus {text : List Char} {n : Nat}
    (hplus : ∀ rest, text ≠ '+' :: rest) : Numeral text n ↔ DigitRun text n := by
  constructor
  · intro h
    cases h with
    | unsigned h => exact h
    | plus => exact absurd rfl (hplus _)
  · exact .unsigned

/-- **What is read**: the numerals of the numbers up to the limit. -/
theorem natural_eq_ok_iff {limit n : Nat} {text : List Char} :
    natural limit text = .ok n ↔ Numeral text n ∧ n ≤ limit := by
  have hempty : ¬DigitRun [] n := fun h => h.nonempty rfl
  fun_cases natural limit text with
  | case1 =>
    rw [numeral_iff_of_ne_plus fun rest => (List.cons_ne_nil '+' rest).symm]
    exact iff_of_false nofun fun h => hempty h.1
  | case2 =>
    rw [numeral_plus_iff]
    exact iff_of_false nofun fun h => hempty h.1
  | case3 rest hrest => rw [numeral_plus_iff, digits_zero_eq_ok_iff hrest]
  | case4 text hnil _ hplus => rw [numeral_iff_of_ne_plus hplus, digits_zero_eq_ok_iff hnil]

theorem Numeral.unique {text : List Char} {n n' : Nat} (h : Numeral text n)
    (h' : Numeral text n') : n = n' :=
  Except.ok.inj ((natural_eq_ok_iff.mpr ⟨h, Nat.le_max_left n n'⟩).symm.trans
    (natural_eq_ok_iff.mpr ⟨h', Nat.le_max_right n n'⟩))

/-! ## Writing

Writing divides by ten, so what is written are the digits of the number as the library
has them, from the highest down. They denote the number, and they are the only digits
that do so without a zero in front. So the spellings of a number are counted by their
zeros. -/

theorem ofNat_ne_nil (n : Nat) : ofNat n ≠ [] := by
  rw [ofNat]
  split
  · exact List.cons_ne_nil _ _
  · exact List.append_ne_nil_of_right_ne_nil _ (List.cons_ne_nil _ _)

/-- What is written is a run of digits that denotes the number. -/
theorem digitRun_ofNat (n : Nat) : DigitRun (ofNat n) n :=
  ((digits_zero_eq_ok_iff (ofNat_ne_nil n)).mp
    (digits_ofNat .tooLarge n n (Nat.le_refl n))).1

/-- The digits of a number, the lowest first, are those that are written. -/
theorem ofNat_eq_digits {n : Nat} (hn : n ≠ 0) : ofNat n = (Nat.digits 10 n).reverse.map digit := by
  induction n using ofNat.induct with
  | case1 n hlt =>
    rw [ofNat, if_pos hlt, Nat.digits_of_lt 10 n hn hlt]
    rfl
  | case2 n hge ih =>
    rw [ofNat, if_neg hge, ih (by omega),
      Nat.digits_def' (show 1 < 10 by decide) (Nat.pos_of_ne_zero hn), List.reverse_cons,
      List.map_append]
    rfl

/-- Digits of which the first is not zero are what is written for their number. -/
theorem DigitRun.eq_ofNat_of_ne_zero {c : Char} {rest : List Char} {n : Nat}
    (h : DigitRun (c :: rest) n) (hc : c ≠ '0') : c :: rest = ofNat n := by
  have hpos : digitValue c ≠ 0 := by
    intro hzero
    have hlead := digit_digitValue (h.isDigit c List.mem_cons_self)
    rw [hzero] at hlead
    exact hc hlead.symm
  have hn : n ≠ 0 := by
    have hvalue := h.value
    rw [placeValue_cons] at hvalue
    have := Nat.mul_pos (Nat.pos_of_ne_zero hpos)
      (Nat.pow_pos (n := rest.length) (show 0 < 10 by decide))
    omega
  -- the first digit is the highest place, and since it is not zero these are all the
  -- places that the number has
  have hplaces : Nat.digits 10 n = (c :: rest).reverse.map digitValue := by
    rw [← h.value, placeValue]
    refine Nat.digits_ofDigits 10 (by decide) _ ?_ ?_
    · intro d hd
      obtain ⟨c, hmem, rfl⟩ := List.mem_map.mp hd
      exact digitValue_lt (h.isDigit c (List.mem_reverse.mp hmem))
    · intro hne
      simpa using hpos
  have hsame : (c :: rest).map (digit ∘ digitValue) = (c :: rest).map id :=
    List.map_congr_left fun d hd => digit_digitValue (h.isDigit d hd)
  calc c :: rest = (c :: rest).map (digit ∘ digitValue) := by rw [hsame, List.map_id]
    _ = (Nat.digits 10 n).reverse.map digit := by
      rw [hplaces, ← List.map_reverse, List.reverse_reverse, List.map_map]
    _ = ofNat n := (ofNat_eq_digits hn).symm

/-- A zero in front changes nothing. -/
theorem digitRun_cons_zero_iff {text : List Char} {n : Nat} (hnonempty : text ≠ []) :
    DigitRun ('0' :: text) n ↔ DigitRun text n := by
  have hvalue : placeValue ('0' :: text) = placeValue text := by
    rw [placeValue_cons, show digitValue '0' = 0 from rfl, Nat.zero_mul, Nat.zero_add]
  constructor
  · intro h
    exact ⟨hnonempty, fun c hc => h.isDigit c (List.mem_cons_of_mem _ hc), hvalue ▸ h.value⟩
  · intro h
    exact ⟨List.cons_ne_nil _ _, List.forall_mem_cons.mpr ⟨rfl, h.isDigit⟩, hvalue.trans h.value⟩

/-- **The spellings of a number** without a sign: zeros, and what is written for it. -/
theorem digitRun_iff {text : List Char} {n : Nat} :
    DigitRun text n ↔ ∃ zeros, text = List.replicate zeros '0' ++ ofNat n := by
  constructor
  · intro h
    induction text with
    | nil => exact absurd rfl h.nonempty
    | cons c rest ih =>
      by_cases hc : c = '0'
      · subst hc
        -- a zero that nothing follows is no superfluous one
        by_cases hrest : rest = []
        · subst hrest
          have hn : n = 0 := h.value.symm
          subst hn
          exact ⟨0, by decide +kernel⟩
        · obtain ⟨zeros, hzeros⟩ := ih ((digitRun_cons_zero_iff hrest).mp h)
          exact ⟨zeros + 1, by rw [List.replicate_succ, List.cons_append, ← hzeros]⟩
      · exact ⟨0, h.eq_ofNat_of_ne_zero hc⟩
  · rintro ⟨zeros, rfl⟩
    induction zeros with
    | zero => exact digitRun_ofNat n
    | succ zeros ih => exact (digitRun_cons_zero_iff ih.nonempty).mpr ih

/-- Only zero is written with a zero in front: behind it there would be a spelling of the
same number, which is no shorter than what is written. -/
theorem ofNat_eq_zero_of_head {n : Nat} (h : (ofNat n).head? = some '0') : ofNat n = ['0'] := by
  obtain ⟨rest, hrest⟩ := List.head?_eq_some_iff.mp h
  by_cases hnil : rest = []
  · rw [hrest, hnil]
  · exfalso
    have hrun := digitRun_ofNat n
    rw [hrest, digitRun_cons_zero_iff hnil] at hrun
    obtain ⟨zeros, hzeros⟩ := digitRun_iff.mp hrun
    have hlength := congrArg List.length hrest
    rw [hzeros, List.length_cons, List.length_append] at hlength
    omega

/-- **One plain spelling.** Digits that do not begin with a superfluous zero are what is
written for their number. -/
theorem DigitRun.eq_ofNat {text : List Char} {n : Nat} (h : DigitRun text n)
    (hzero : text.head? = some '0' → text = ['0']) : text = ofNat n := by
  obtain ⟨zeros, rfl⟩ := digitRun_iff.mp h
  cases zeros with
  | zero => rfl
  | succ zeros =>
    have hone := hzero rfl
    rw [List.replicate_succ, List.cons_append] at hone
    have hnil := (List.append_eq_nil_iff.mp (List.cons.inj hone).2).2
    exact absurd hnil (ofNat_ne_nil n)

end GssContext.Decimal
