/-
Decimal numbers in text.

A number is a non-empty run of digits after at most one sign; a lone sign is a
number with a missing digit, and an empty text is a cause of its own. The
digits are read left to right, and the first one that fails decides: a
character that is no digit, or a value that has left the range. Leading zeros
and a leading plus are accepted, so several spellings denote one number.
-/

set_option autoImplicit false

namespace GssContext.Decimal

/-- Why a text denotes no number of the wanted range. -/
inductive Error where
  | empty
  | invalidDigit
  | tooLarge
  | tooSmall
  deriving DecidableEq

namespace Error

def message : Error → String
  | empty => "cannot parse integer from empty string"
  | invalidDigit => "invalid digit found in string"
  | tooLarge => "number too large to fit in target type"
  | tooSmall => "number too small to fit in target type"

end Error

def digit? (c : Char) : Option Nat :=
  if c.isDigit then some (c.toNat - 48) else none

/-- Read digits onto `acc`, giving `beyond` once the value passes `limit`. -/
def digits (beyond : Error) (limit acc : Nat) : List Char → Except Error Nat
  | [] => .ok acc
  | c :: rest =>
    match digit? c with
    | none => .error .invalidDigit
    | some d =>
      if acc * 10 + d ≤ limit then digits beyond limit (acc * 10 + d) rest else .error beyond

/-- Read a number from zero to `limit`. -/
def natural (limit : Nat) : List Char → Except Error Nat
  | [] => .error .empty
  | ['+'] => .error .invalidDigit
  | '+' :: rest => digits .tooLarge limit 0 rest
  | text => digits .tooLarge limit 0 text

/-- Read a number from `-low` to `high`. -/
def integer (low high : Nat) : List Char → Except Error Int
  | [] => .error .empty
  | ['+'] => .error .invalidDigit
  | ['-'] => .error .invalidDigit
  | '-' :: rest => return -(Int.ofNat (← digits .tooSmall low 0 rest))
  | '+' :: rest => return Int.ofNat (← digits .tooLarge high 0 rest)
  | text => return Int.ofNat (← digits .tooLarge high 0 text)

/-! ## Writing

Most significant digit first, and no digit in front that says nothing. -/

def digit (n : Nat) : Char := Char.ofNat (48 + n)

def ofNat (n : Nat) : List Char :=
  if n < 10 then [digit n] else ofNat (n / 10) ++ [digit (n % 10)]
termination_by n

theorem digit?_digit {n : Nat} (h : n < 10) : digit? (digit n) = some n := by
  have : ∀ k < 10, digit? (digit k) = some k := by decide
  exact this n h

theorem digits_append_digit {beyond : Error} {limit acc n d : Nat} {text : List Char}
    (h : digits beyond limit acc text = .ok n) (hd : d < 10) (hn : n * 10 + d ≤ limit) :
    digits beyond limit acc (text ++ [digit d]) = .ok (n * 10 + d) := by
  induction text generalizing acc with
  | nil =>
    simp only [digits, Except.ok.injEq] at h
    subst h
    simp [digits, digit?_digit hd, hn]
  | cons c rest ih =>
    simp only [List.cons_append, digits] at h ⊢
    split at h
    · simp at h
    · split at h
      · next hle => simp only [hle, if_true]; exact ih h
      · simp at h

/-- What is written is read back as digits. -/
theorem digits_ofNat (beyond : Error) (limit n : Nat) (h : n ≤ limit) :
    digits beyond limit 0 (ofNat n) = .ok n := by
  fun_induction ofNat n with
  | case1 n hn => simp [digits, digit?_digit hn, h]
  | case2 n hn ih =>
    have := digits_append_digit (ih (by omega)) (Nat.mod_lt n (by omega))
      (show n / 10 * 10 + n % 10 ≤ limit by omega)
    rw [this]
    congr 1
    omega

end GssContext.Decimal
