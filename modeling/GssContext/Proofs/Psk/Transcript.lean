/-
What the transcript of a handshake determines.

The stream that is hashed has the length of each part in front of it, so two
lists of parts with one stream are the same list, as long as no part is too
long for its length to be written. The hash stands outside of this: two sides
with one digest have either one list of parts or two different streams with
the same digest.
-/
import GssContext.Proofs.Text.Utf8
import GssContext.Psk.Config
import Mathlib.Algebra.Group.Nat.Defs

set_option autoImplicit false

namespace GssContext

namespace Transcript

/-- The length of a part is written exactly. -/
def Short (bytes : Bytes) : Prop := bytes.length ≤ maxPart

instance : DecidablePred Short := fun _ => inferInstanceAs (Decidable (_ ≤ _))

/-- The first part of a stream is determined, and so is what follows it. The length in
front has four bytes and tells how many bytes to take; it is the true length because the
part is short. -/
theorem part_append_inj {a b rest rest' : Bytes} (ha : Short a) (hb : Short b)
    (h : part a ++ rest = part b ++ rest') : a = b ∧ rest = rest' := by
  simp only [part, Nat.min_eq_left ha, Nat.min_eq_left hb, List.append_assoc] at h
  obtain ⟨hlengths, hbodies⟩ := List.append_inj h (by simp)
  have hread := congrArg Bytes.toNatBE hlengths
  have hfit {n : Nat} (hn : n ≤ maxPart) : n % Nat.pow 256 4 = n := by
    have hroom : maxPart < Nat.pow 256 4 := by decide
    exact Nat.mod_eq_of_lt (Nat.lt_of_le_of_lt hn hroom)
  rw [Bytes.toNatBE_ofNatBE, Bytes.toNatBE_ofNatBE, hfit ha, hfit hb] at hread
  exact List.append_inj hbodies hread

/-- A part has bytes, so a stream of parts is not empty. -/
theorem part_append_ne_nil (bytes rest : Bytes) : part bytes ++ rest ≠ [] := by
  intro h
  have hlength := congrArg List.length h
  simp [part] at hlength

/-- **A stream determines its parts.** The induction is on the first list. An empty list
has no bytes, which no other list has, and otherwise the first parts are cut off
together. -/
theorem stream_injective {parts parts' : List Bytes} (hshort : ∀ p ∈ parts, Short p)
    (hshort' : ∀ p ∈ parts', Short p) (h : stream parts = stream parts') : parts = parts' := by
  induction parts generalizing parts' with
  | nil =>
    cases parts' with
    | nil => rfl
    | cons b parts' => exact absurd h.symm (part_append_ne_nil b _)
  | cons a parts ih =>
    cases parts' with
    | nil => exact absurd h (part_append_ne_nil a _)
    | cons b parts' =>
      rw [stream_cons, stream_cons] at h
      obtain ⟨rfl, hrest⟩ :=
        part_append_inj (hshort a List.mem_cons_self) (hshort' b List.mem_cons_self) h
      have htail := ih (fun p hp => hshort p (List.mem_cons_of_mem _ hp))
        (fun p hp => hshort' p (List.mem_cons_of_mem _ hp)) hrest
      rw [htail]

/-- The bound on the parts is the least one. A part that is too long for its length
looks the same as one that goes on with an empty part behind it. -/
theorem stream_of_long {bytes : Bytes} (hlong : maxPart ≤ bytes.length) :
    stream [bytes, []] = stream [bytes ++ [0, 0, 0, 0]] := by
  have hmin : min (bytes ++ [0, 0, 0, 0]).length maxPart = min bytes.length maxPart := by
    rw [List.length_append]
    omega
  have hempty : part [] = [0, 0, 0, 0] := by decide
  rw [stream_cons, stream_cons, stream_cons, stream_nil, hempty, part, part, hmin]
  simp only [List.append_nil, List.append_assoc]

end Transcript

namespace Psk

/-- The four bytes of a set of flags determine it. -/
theorem ofNatBE_bits_injective {a b : Flags}
    (h : Bytes.ofNatBE 4 a.bits.toNat = Bytes.ofNatBE 4 b.bits.toNat) : a = b := by
  have hfits (x : UInt32) : x.toNat < Nat.pow 256 4 := UInt32.toNat_lt x
  have hread := congrArg Bytes.toNatBE h
  rw [Bytes.toNatBE_ofNatBE, Bytes.toNatBE_ofNatBE, Nat.mod_eq_of_lt (hfits a.bits),
    Nat.mod_eq_of_lt (hfits b.bits)] at hread
  exact Flags.ext (UInt32.toNat_inj.mp hread)

/-- What went into the transcript of a handshake. -/
structure Said where
  hello : Bytes
  nonce : Bytes
  acceptor : String
  granted : Flags
  deriving DecidableEq

namespace Said

def parts (x : Said) : List Bytes := transcriptParts x.hello x.nonce x.acceptor x.granted

/-- The bytes that are hashed. -/
def stream (x : Said) : Bytes := Transcript.stream x.parts

def digest (x : Said) : Bytes := transcript x.hello x.nonce x.acceptor x.granted

/-- Every part is shorter than `2^32` bytes. -/
def Short (x : Said) : Prop := ∀ p ∈ x.parts, Transcript.Short p

instance : DecidablePred Short := fun x =>
  inferInstanceAs (Decidable (∀ p ∈ x.parts, Transcript.Short p))

/-- The digest is the hash of the stream, and of the handshake it depends on nothing
else. -/
theorem digest_eq (x : Said) : x.digest = sha256 x.stream := rfl

/-- What was hashed determines what was said. The four parts are the four fields, and
two of these are written as bytes in a way that can be read back. -/
theorem eq_of_stream_eq {x y : Said} (hx : x.Short) (hy : y.Short) (h : x.stream = y.stream) :
    x = y := by
  have hparts := Transcript.stream_injective hx hy h
  simp only [parts, transcriptParts, List.cons.injEq, and_true] at hparts
  obtain ⟨hhello, hnonce, hacceptor, hgranted⟩ := hparts
  cases x
  cases y
  simp only [Said.mk.injEq]
  exact ⟨hhello, hnonce, Utf8.encode_injective hacceptor, ofNatBE_bits_injective hgranted⟩

end Said

/-- **What is hashed determines what was said.** Two lists of parts, of any lengths,
have one stream only if they are one list, whether parts are empty or look like
lengths themselves, as long as each is shorter than `2^32` bytes. The digest of a
handshake is the hash of such a stream, so two handshakes with one stream agree on
the hello, on the nonce, on the name and on the flags. -/
theorem said_of_hashed :
    (∀ parts parts' : List Bytes, (∀ p ∈ parts, p.length < 2 ^ 32) →
      (∀ p ∈ parts', p.length < 2 ^ 32) →
      (Transcript.stream parts = Transcript.stream parts' ↔ parts = parts')) ∧
    (∀ x : Said, x.digest = sha256 x.stream) ∧
    ∀ x y : Said, (∀ p ∈ x.parts, p.length < 2 ^ 32) → (∀ p ∈ y.parts, p.length < 2 ^ 32) →
      x.stream = y.stream →
        x.hello = y.hello ∧ x.nonce = y.nonce ∧ x.acceptor = y.acceptor ∧
          x.granted = y.granted := by
  have hshort {parts : List Bytes} (h : ∀ p ∈ parts, p.length < 2 ^ 32) :
      ∀ p ∈ parts, Transcript.Short p := fun p hp => Nat.le_of_lt_succ (h p hp)
  refine ⟨fun parts parts' h h' => ⟨Transcript.stream_injective (hshort h) (hshort h'), ?_⟩,
    Said.digest_eq, fun x y hx hy hstream => ?_⟩
  · rintro rfl
    rfl
  · obtain rfl := Said.eq_of_stream_eq (hshort hx) (hshort hy) hstream
    exact ⟨rfl, rfl, rfl, rfl⟩

/-- Two empty parts have eight bytes of zero, and so have four zeros in one part but
for its length; a nonce that swallows the length and the first letter of the name
behind it has another stream than the two. -/
theorem said_of_hashed_of_lengths :
    let x : Said := ⟨[0, 0, 0, 0], [7], "ab", ⟨0⟩⟩
    let y : Said := ⟨[0, 0, 0, 0], [7, 0, 0, 0, 2, 0x61], "b", ⟨0⟩⟩
    Transcript.stream [[], []] ≠ Transcript.stream [[0, 0, 0, 0]] ∧
      Transcript.stream [[], []] ≠ Transcript.stream [[], [], []] ∧ x.stream ≠ y.stream := by
  intro x y
  obtain ⟨hlists, -, hsaid⟩ := said_of_hashed
  refine ⟨fun h => ?_, fun h => ?_, fun h => ?_⟩
  · exact absurd ((hlists _ _ (by decide) (by decide)).mp h) (by decide)
  · exact absurd ((hlists _ _ (by decide) (by decide)).mp h) (by decide)
  · exact absurd (hsaid x y (by decide) (by decide) h).2.1 (by decide)

end Psk

end GssContext
