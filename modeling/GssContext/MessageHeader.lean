/-
The header of a token that protects a message.

Ten bytes precede the body of every such token: what kind of token it is,
which side produced it, and the number it has among that side's tokens. All
ten are authenticated together with the body.

A header is read from any ten bytes, also from ones that name no kind or no
direction: what is refused is decided by whoever expects the token.
-/
import GssContext.Bytes

set_option autoImplicit false

namespace GssContext

/-- What a token does to a message. -/
inductive TokenKind where
  /-- The message follows, with a code. -/
  | wrap
  /-- The message follows, encrypted. -/
  | sealed
  /-- Only a code follows; the other side has the message. -/
  | mic
  deriving DecidableEq

namespace TokenKind

def toByte : TokenKind → UInt8
  | wrap => 1
  | sealed => 2
  | mic => 3

def name : TokenKind → String
  | wrap => "Wrap"
  | sealed => "Sealed"
  | mic => "Mic"

def ofByte? (b : UInt8) : Option TokenKind :=
  if b = 1 then some wrap else if b = 2 then some sealed else if b = 3 then some mic else none

theorem ofByte?_eq_some_iff {b : UInt8} {kind : TokenKind} :
    ofByte? b = some kind ↔ b = kind.toByte := by
  unfold ofByte?
  split
  · next h => subst h; cases kind <;> decide
  split
  · next h => subst h; cases kind <;> decide
  split
  · next h => subst h; cases kind <;> decide
  · cases kind <;> simp_all [toByte]

end TokenKind

/-- Which side of a context produced a token. -/
inductive Direction where
  | initiatorToAcceptor
  | acceptorToInitiator
  deriving DecidableEq

namespace Direction

def toByte : Direction → UInt8
  | initiatorToAcceptor => 0
  | acceptorToInitiator => 1

def name : Direction → String
  | initiatorToAcceptor => "InitiatorToAcceptor"
  | acceptorToInitiator => "AcceptorToInitiator"

def ofByte? (b : UInt8) : Option Direction :=
  if b = 0 then some initiatorToAcceptor else if b = 1 then some acceptorToInitiator else none

theorem ofByte?_eq_some_iff {b : UInt8} {direction : Direction} :
    ofByte? b = some direction ↔ b = direction.toByte := by
  unfold ofByte?
  split
  · next h => subst h; cases direction <;> decide
  split
  · next h => subst h; cases direction <;> decide
  · cases direction <;> simp_all [toByte]

/-- A side accepts tokens only of the direction that is not its own, so a token cannot
be sent back to whoever made it. -/
def opposite : Direction → Direction
  | initiatorToAcceptor => acceptorToInitiator
  | acceptorToInitiator => initiatorToAcceptor

@[simp] theorem opposite_opposite (d : Direction) : d.opposite.opposite = d := by cases d <;> rfl

end Direction

/-- The first ten bytes of a token. -/
structure MessageHeader where
  kindByte : UInt8
  directionByte : UInt8
  seq : UInt64
  deriving DecidableEq

namespace MessageHeader

def size : Nat := 10

def of (kind : TokenKind) (direction : Direction) (seq : UInt64) : MessageHeader :=
  ⟨kind.toByte, direction.toByte, seq⟩

def kind? (h : MessageHeader) : Option TokenKind := TokenKind.ofByte? h.kindByte

def direction? (h : MessageHeader) : Option Direction := Direction.ofByte? h.directionByte

/-- The bytes in front of a token's body. They are hashed, or given to the cipher as
associated data, just as they are sent. -/
def toBytes (h : MessageHeader) : Bytes :=
  h.kindByte :: h.directionByte :: Bytes.ofNatBE 8 h.seq.toNat

@[simp] theorem length_toBytes (h : MessageHeader) : h.toBytes.length = size := by
  simp [toBytes, size]

/-- Cut a token into its header and its body. -/
def split? : Bytes → Option (MessageHeader × Bytes)
  | kind :: direction :: rest =>
    if rest.length < 8 then none
    else some (⟨kind, direction, UInt64.ofNat (Bytes.toNatBE (rest.take 8))⟩, rest.drop 8)
  | _ => none

/-- The wording of a token that is too short. -/
def shortMessage : String :=
  s!"payload decode failed: per-message token shorter than {size} bytes"

/-- A header is read back, whatever follows it. -/
theorem split?_toBytes_append (h : MessageHeader) (body : Bytes) :
    split? (h.toBytes ++ body) = some (h, body) := by
  have long : ¬ (Bytes.ofNatBE 8 h.seq.toNat ++ body).length < 8 := by simp
  have seq : UInt64.ofNat (Bytes.toNatBE (Bytes.ofNatBE 8 h.seq.toNat)) = h.seq := by
    rw [Bytes.toNatBE_ofNatBE, Nat.mod_eq_of_lt (by simpa using h.seq.toNat_lt)]
    simp
  simp only [toBytes, List.cons_append, split?, if_neg long]
  rw [List.take_left' (by simp), List.drop_left' (by simp), seq]

/-- A token is cut in one way only: its header's bytes are its first ten. -/
theorem split?_eq_some_iff {token body : Bytes} {h : MessageHeader} :
    split? token = some (h, body) ↔ token = h.toBytes ++ body := by
  constructor
  · intro hsplit
    match token with
    | [] | [_] => cases hsplit
    | kind :: direction :: rest =>
      rw [split?] at hsplit
      split at hsplit
      · cases hsplit
      rename_i hlong
      cases hsplit
      have hwidth : (rest.take 8).length = 8 := by
        rw [List.length_take]
        omega
      have hbound : Bytes.toNatBE (rest.take 8) < 2 ^ 64 := by
        have := Bytes.toNatBE_lt (rest.take 8)
        rwa [hwidth] at this
      have hseq : (UInt64.ofNat (Bytes.toNatBE (rest.take 8))).toNat =
          Bytes.toNatBE (rest.take 8) := by
        rw [UInt64.toNat_ofNat']
        exact Nat.mod_eq_of_lt hbound
      have hback := Bytes.ofNatBE_toNatBE (rest.take 8)
      rw [hwidth] at hback
      rw [toBytes, hseq, hback, List.cons_append, List.cons_append, List.take_append_drop]
  · rintro rfl
    exact split?_toBytes_append h body

/-- A header that names a kind and a direction is made of them and its number. -/
theorem eq_of {h : MessageHeader} {kind : TokenKind} {direction : Direction}
    (hkind : h.kind? = some kind) (hdirection : h.direction? = some direction) :
    h = .of kind direction h.seq := by
  have hk : h.kindByte = kind.toByte := TokenKind.ofByte?_eq_some_iff.mp hkind
  have hd : h.directionByte = direction.toByte := Direction.ofByte?_eq_some_iff.mp hdirection
  rw [of, ← hk, ← hd]

end MessageHeader

end GssContext
