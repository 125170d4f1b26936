/-
Heads of items in concise binary object representation.

Every item starts with a head: three bits say what it is, five bits hold a
small argument or say how many bytes after them hold it. The argument is a
number, or the length of what follows, or the marker that the length is not
known and a break will end the item.

A writer uses the shortest head. A reader takes any head whose argument is
complete, and hands back the bytes after it.
-/
import GssContext.Bytes

set_option autoImplicit false

namespace GssContext.Cbor

/-- Why an item could not be read. -/
inductive Error where
  | truncated
  /-- The bytes are no item, or a text in them is no text. -/
  | malformed
  /-- The item is not of the kind, the range or the shape that is wanted. -/
  | mismatch
  | tooDeep
  deriving DecidableEq

/-- A reader takes items from the front of its input. -/
abbrev Reader (α : Type) := StateT Bytes (Except Error) α

namespace Reader

def fail {α : Type} (e : Error) : Reader α := fun _ => .error e

/-- Exactly `count` bytes. What was taken is measured, and not the whole input,
so a short item costs the same in front of a long rest. -/
def take (count : Nat) : Reader Bytes := fun input =>
  let taken := input.take count
  if taken.length < count then .error .truncated
  else .ok (taken, input.drop count)

/-- All the input that is left. None of it is taken. -/
def ahead : Reader Bytes := fun input => .ok (input, input)

theorem take_append (bytes rest : Bytes) :
    take bytes.length (bytes ++ rest) = .ok (bytes, rest) := by
  simp [take]

/-- What a finished reader took is what its steps took one after the other. -/
theorem bind_eq_ok_iff {α β : Type} {x : Reader α} {f : α → Reader β} {input rest : Bytes}
    {b : β} : (x >>= f) input = .ok (b, rest) ↔
      ∃ a mid, x input = .ok (a, mid) ∧ f a mid = .ok (b, rest) := by
  simp only [bind, StateT.bind, Except.bind]
  cases h : x input with
  | error e => simp
  | ok taken => simp [Prod.ext_iff, and_assoc]

theorem pure_eq_ok_iff {α : Type} {a b : α} {input rest : Bytes} :
    (pure a : Reader α) input = .ok (b, rest) ↔ a = b ∧ input = rest := by
  change (Except.ok (a, input) : Except Error (α × Bytes)) = .ok (b, rest) ↔ _
  rw [Except.ok.injEq, Prod.mk.injEq]

theorem length_of_take {count : Nat} {input taken rest : Bytes}
    (h : take count input = .ok (taken, rest)) : input.length = count + rest.length := by
  simp only [take] at h
  split at h
  · simp at h
  · rename_i long
    simp only [Except.ok.injEq, Prod.mk.injEq] at h
    obtain ⟨rfl, rfl⟩ := h
    simp only [List.length_take] at long
    simp only [List.length_drop]
    omega

end Reader

/-! ## Heads

The first byte of an item holds its kind in three bits and, in five, its argument
or how many bytes of argument follow. A reader accepts every width; a writer takes
the shortest. -/

/-- What an item is. A length of `none` means that a break will end it. -/
inductive Head where
  | unsigned (n : Nat)
  /-- The number `-1 - n`. -/
  | negative (n : Nat)
  | bytes (length : Option Nat)
  | text (length : Option Nat)
  | array (length : Option Nat)
  | map (length : Option Nat)
  | tag (n : Nat)
  | simple (n : Nat)
  | float
  | stop
  deriving DecidableEq

/-- A head from its major number and its argument, in the fewest bytes. -/
def writeHead (major argument : Nat) : Bytes :=
  let lead (minor : Nat) : UInt8 := UInt8.ofNat (32 * major + minor)
  if argument < 24 then [lead argument]
  else if argument ≤ 0xff then lead 24 :: Bytes.ofNatBE 1 argument
  else if argument ≤ 0xffff then lead 25 :: Bytes.ofNatBE 2 argument
  else if argument ≤ 0xffffffff then lead 26 :: Bytes.ofNatBE 4 argument
  else lead 27 :: Bytes.ofNatBE 8 argument

theorem writeHead_ne_nil (major argument : Nat) : writeHead major argument ≠ [] := by
  unfold writeHead
  split <;> (try split) <;> (try split) <;> (try split) <;> simp

/-- Bytes that hold the argument after a lead byte's low five bits. -/
def argumentSize (minor : Nat) : Nat :=
  if minor < 24 then 0 else if minor = 24 then 1 else if minor = 25 then 2
  else if minor = 26 then 4 else 8

def readArgument (minor : Nat) : Reader Nat := do
  if minor < 24 then return minor
  else return Bytes.toNatBE (← Reader.take (argumentSize minor))

/-- The argument takes bytes from the front, if any. -/
theorem length_le_of_readArgument {minor n : Nat} {input rest : Bytes}
    (h : readArgument minor input = .ok (n, rest)) : rest.length ≤ input.length := by
  unfold readArgument at h
  split at h
  · obtain ⟨-, rfl⟩ := Reader.pure_eq_ok_iff.mp h
    exact Nat.le_refl _
  · obtain ⟨taken, mid, hTake, hRest⟩ := Reader.bind_eq_ok_iff.mp h
    obtain ⟨-, rfl⟩ := Reader.pure_eq_ok_iff.mp hRest
    have := Reader.length_of_take hTake
    omega

/-- The head with a known argument. -/
def headOf (major minor argument : Nat) : Head :=
  match major with
  | 0 => .unsigned argument
  | 1 => .negative argument
  | 2 => .bytes (some argument)
  | 3 => .text (some argument)
  | 4 => .array (some argument)
  | 5 => .map (some argument)
  | 6 => .tag argument
  | _ => if minor ≤ 24 then .simple argument else .float

/-- The head of an item that a break ends, and the break itself. -/
def openHead? (major : Nat) : Option Head :=
  match major with
  | 2 => some (.bytes none)
  | 3 => some (.text none)
  | 4 => some (.array none)
  | 5 => some (.map none)
  | 7 => some .stop
  | _ => none

def readHead : Reader Head := do
  let lead := Bytes.toNatBE (← Reader.take 1)
  let major := lead / 32
  let minor := lead % 32
  if minor = 31 then
    match openHead? major with
    | some head => return head
    | none => Reader.fail .malformed
  else if 28 ≤ minor then Reader.fail .malformed
  else return headOf major minor (← readArgument minor)

/-- A head takes at least one byte. -/
theorem length_lt_of_readHead {input rest : Bytes} {head : Head}
    (h : readHead input = .ok (head, rest)) : rest.length < input.length := by
  unfold readHead at h
  obtain ⟨lead, mid, hLead, h⟩ := Reader.bind_eq_ok_iff.mp h
  have size := Reader.length_of_take hLead
  split at h
  · cases hOpen : openHead? (Bytes.toNatBE lead / 32) with
    | none => simp [hOpen, Reader.fail] at h
    | some found =>
      rw [hOpen] at h
      obtain ⟨-, rfl⟩ := Reader.pure_eq_ok_iff.mp h
      omega
  split at h
  · cases h
  · obtain ⟨n, last, hArgument, h⟩ := Reader.bind_eq_ok_iff.mp h
    obtain ⟨-, rfl⟩ := Reader.pure_eq_ok_iff.mp h
    have := length_le_of_readArgument hArgument
    omega

/-- The head that comes next. It is not taken. -/
def headAhead : Reader Head := fun input => do
  let (head, _) ← readHead input
  return (head, input)

/-- The first head that is not a tag to be skipped. -/
def headPast (skipped : Nat → Bool) : Reader Head := fun input =>
  match h : readHead input with
  | .error e => .error e
  | .ok (head, rest) =>
    have := length_lt_of_readHead h
    match head with
    | .tag n => if skipped n then headPast skipped rest else .ok (.tag n, rest)
    | head => .ok (head, rest)
termination_by input => input.length

def untaggedHead : Reader Head := headPast fun _ => true

end GssContext.Cbor
