/-
A message of the handshake read as another one.

The three messages have no tag that tells them apart. A reader takes the fields
that it knows, skips all others, and refuses what is not complete in the end.
So whether a message is taken for another one is a question about the names of
their fields: a hello and a reply share the nonce, a reply and a finish share
the proof, and a finish has no other field. That makes a reply a finish to
whoever waits for one, and it is the only confusion there is.

A field that is skipped has to be stepped over exactly, or the names after it
would be looked for in the wrong place. The first part is about that: skipping
takes what was written and nothing more.
-/
import GssContext.Proofs.Handshake

set_option autoImplicit false

namespace GssContext

open Cbor

/-! ## Skipping what was written

Skipping reads heads and trusts the lengths in them, down to some depth. It takes what
was written exactly, as reading does, and this is the same relation with nothing as the
value. A text is an exception in that it is looked at, to see whether it is one. -/

namespace Cbor

/-- A value is skipped by its head, and then by what the head calls for. -/
theorem takes_skip {depth : Nat} {front back : Bytes} {head : Head}
    (hhead : Takes readHead front head) (hback : Takes (skipAfter head (skip depth)) back ()) :
    Takes (skip (depth + 1)) (front ++ back) () :=
  hhead.bind hback

theorem takes_skip_natural (depth : Nat) {n : Nat} (hn : n < 2 ^ 64) :
    Takes (skip (depth + 1)) (writeNatural n) () := by
  rw [← List.append_nil (writeNatural n)]
  exact takes_skip (takes_head (by omega) hn) (.pure ())

/-- A short text is looked at as a whole and a long one in pieces; it is text
either way. -/
theorem takes_skipText (s : String) :
    Takes (skipText (some (Utf8.encode s).length)) (Utf8.encode s) () := by
  change Takes (if (Utf8.encode s).length ≤ pieceSize then _ else _) _ _
  by_cases hshort : (Utf8.encode s).length ≤ pieceSize
  · rw [if_pos hshort]
    exact (takes_wholeText s).map fun _ => ()
  · rw [if_neg hshort]
    exact (takes_encode s).map fun _ => ()

theorem takes_skip_text (depth : Nat) {s : String} (hlength : (Utf8.encode s).length < 2 ^ 64) :
    Takes (skip (depth + 1)) (writeText s) () :=
  takes_skip (takes_head (by omega) hlength) (takes_skipText s)

/-- A list is one level, and its numbers are another. -/
theorem takes_skip_naturals (depth : Nat) {list : List Nat} (hlength : list.length < 2 ^ 64)
    (hbound : ∀ n ∈ list, n < 2 ^ 64) :
    Takes (skip (depth + 2)) (writeNaturals list) () := by
  refine takes_skip (takes_head (by omega) hlength) ?_
  have hitems := takes_times list fun n hn => takes_skip_natural depth (hbound n hn)
  exact hitems.map fun _ => ()

end Cbor

/-! ## The values in a message, skipped

The values of a message are at most two levels deep, and the reader skips many more. A
list of values is skipped as a list of numbers, whatever they stand for. -/

namespace Handshake

/-- The value of a field that nobody asked for is stepped over. -/
abbrev Skips (value : Bytes) : Prop := Takes (skip skipDepth) value ()

theorem skips_byte (b : UInt8) : Skips (writeNatural b.toNat) :=
  takes_skip_natural 254 (Nat.lt_trans (UInt8.toNat_lt b) (by decide))

theorem skips_flags (flags : Flags) : Skips (writeFlags flags) :=
  takes_skip_natural 254 (Nat.lt_trans (UInt32.toNat_lt flags.bits) (by decide))

theorem skips_text {s : String} (hlength : (Utf8.encode s).length < 2 ^ 64) :
    Skips (writeText s) :=
  takes_skip_text 254 hlength

/-- A list of values is skipped as the list of their numbers. -/
theorem skips_numbered {γ : Type} {number : γ → Nat} (hnumber : ∀ c, number c < 2 ^ 64)
    {list : List γ} (hlength : list.length < 2 ^ 64) : Skips (writeNaturals (list.map number)) := by
  refine takes_skip_naturals 253 (by rw [List.length_map]; exact hlength) fun n hn => ?_
  obtain ⟨c, -, rfl⟩ := List.mem_map.mp hn
  exact hnumber c

theorem skips_bytes {bytes : Bytes} (hlength : bytes.length < 2 ^ 64) :
    Skips (writeByteList bytes) :=
  skips_numbered (fun b => Nat.lt_trans (UInt8.toNat_lt b) (by decide)) hlength

theorem skips_oid {oid : Oid} (hlength : oid.arcs.length < 2 ^ 64) : Skips (writeOid oid) :=
  skips_numbered (fun arc => Nat.lt_trans (UInt32.toNat_lt arc) (by decide)) hlength

/-- Fields that do not complete a record are refused. -/
theorem decode_of_incomplete {ρ α : Type} {r : Record ρ α} (after : ρ)
    {fields : List (String × Bytes)} (h : r.Follows r.start fields after)
    (hlength : fields.length < 2 ^ 64) (hcomplete : r.complete after = none) (rest : Bytes) :
    decode r.read (writeRecord fields ++ rest) = .error .mismatch := by
  rw [decode, h.read_eq hlength, hcomplete]

end Handshake

open Handshake

/-! ## Every message as each of the others

Six statements, for three messages and the two that each may be taken for. In each of
them the fields are gone through in the order they were written, and a field that the
other message has too is taken, while the others are skipped. What was taken completes
the other message or not. -/

/-- Of the fields of a reply a hello has the nonce. -/
theorem Reply.decode_hello {hello : Hello} (h : hello.Sized) (rest : Bytes) :
    Reply.decode (hello.encode ++ rest) = .error .mismatch := by
  refine decode_of_incomplete ⟨some hello.nonce, none, none, none⟩ ?_ (by simp) rfl rest
  refine .skipped (by decide) rfl (skips_byte hello.version) ?_
  refine .skipped (by decide) rfl (skips_oid h.mechanism) ?_
  refine .skipped (by decide) rfl (skips_flags hello.flags) ?_
  refine .skipped (by decide) rfl (skips_text h.initiator) ?_
  refine .skipped (by decide) rfl (skips_text h.target) ?_
  refine .cons (by decide) rfl (Record.takes_once _ (takes_bytes h.nonce)) ?_
  exact .nil _

/-- Of the one field of a finish it has nothing. -/
theorem Finish.decode_hello {hello : Hello} (h : hello.Sized) (rest : Bytes) :
    Finish.decode (hello.encode ++ rest) = .error .mismatch := by
  refine decode_of_incomplete none ?_ (by simp) rfl rest
  refine .skipped (by decide) rfl (skips_byte hello.version) ?_
  refine .skipped (by decide) rfl (skips_oid h.mechanism) ?_
  refine .skipped (by decide) rfl (skips_flags hello.flags) ?_
  refine .skipped (by decide) rfl (skips_text h.initiator) ?_
  refine .skipped (by decide) rfl (skips_text h.target) ?_
  refine .skipped (by decide) rfl (skips_bytes h.nonce) ?_
  exact .nil _

/-- Of the fields of a hello a reply has the nonce. -/
theorem Hello.decode_reply {reply : Reply} (h : reply.Sized) (rest : Bytes) :
    Hello.decode (reply.encode ++ rest) = .error .mismatch := by
  refine decode_of_incomplete ⟨none, none, none, none, none, some reply.nonce⟩ ?_ (by simp) rfl rest
  refine .cons (by decide) rfl (Record.takes_once _ (takes_bytes h.nonce)) ?_
  refine .skipped (by decide) rfl (skips_text h.acceptor) ?_
  refine .skipped (by decide) rfl (skips_flags reply.granted) ?_
  refine .skipped (by decide) rfl (skips_bytes h.proof) ?_
  exact .nil _

/-- A reply has all that a finish has, so it is read as the finish with its proof. -/
theorem Finish.decode_reply {reply : Reply} (h : reply.Sized) (rest : Bytes) :
    Finish.decode (reply.encode ++ rest) = .ok ⟨reply.proof⟩ := by
  refine decode_of_takes (Record.takes_read (some reply.proof) ?_ (by simp) rfl) rest
  refine .skipped (by decide) rfl (skips_bytes h.nonce) ?_
  refine .skipped (by decide) rfl (skips_text h.acceptor) ?_
  refine .skipped (by decide) rfl (skips_flags reply.granted) ?_
  refine .cons (by decide) rfl (Record.takes_once _ (takes_bytes h.proof)) ?_
  exact .nil _

/-- A finish has no field of a hello. -/
theorem Hello.decode_finish {finish : Finish} (h : finish.proof.length < 2 ^ 64)
    (rest : Bytes) : Hello.decode (finish.encode ++ rest) = .error .mismatch := by
  refine decode_of_incomplete {} ?_ (by simp) rfl rest
  refine .skipped (by decide) rfl (skips_bytes h) ?_
  exact .nil _

/-- Of the fields of a reply a finish has the proof. -/
theorem Reply.decode_finish {finish : Finish} (h : finish.proof.length < 2 ^ 64)
    (rest : Bytes) : Reply.decode (finish.encode ++ rest) = .error .mismatch := by
  refine decode_of_incomplete ⟨none, none, none, some finish.proof⟩ ?_ (by simp) rfl rest
  refine .cons (by decide) rfl (Record.takes_once _ (takes_bytes h)) ?_
  exact .nil _

/-- **A message read as another one** is refused, whatever it holds and whatever
follows it, for want of a field. There is one exception: a reply read as a
finish is always taken, and gives the finish that has its proof. -/
theorem Handshake.read_as_another (rest : Bytes) :
    (∀ hello : Hello, hello.Sized →
      Reply.decode (hello.encode ++ rest) = .error .mismatch ∧
        Finish.decode (hello.encode ++ rest) = .error .mismatch) ∧
    (∀ reply : Reply, reply.Sized →
      Hello.decode (reply.encode ++ rest) = .error .mismatch ∧
        Finish.decode (reply.encode ++ rest) = .ok ⟨reply.proof⟩) ∧
    ∀ finish : Finish, finish.proof.length < 2 ^ 64 →
      Hello.decode (finish.encode ++ rest) = .error .mismatch ∧
        Reply.decode (finish.encode ++ rest) = .error .mismatch := by
  refine ⟨fun hello h => ?_, fun reply h => ?_, fun finish h => ?_⟩
  · exact ⟨Reply.decode_hello h rest, Finish.decode_hello h rest⟩
  · exact ⟨Hello.decode_reply h rest, Finish.decode_reply h rest⟩
  · exact ⟨Hello.decode_finish h rest, Reply.decode_finish h rest⟩

/-- A reply that is sent back to the acceptor that made it is read as a finish there.
A finish in its place is no reply; and a hello is neither, even if its names are the
names of the fields that are looked for and a whole reply comes after it. -/
theorem Handshake.read_as_another_of_reflected :
    let reply : Reply := ⟨List.replicate 32 0xbb, "sign@server.example", ⟨18⟩, List.replicate 32 1⟩
    let hello : Hello := ⟨1, ⟨[1, 3, 6, 1, 3, 7, 1]⟩, ⟨6⟩, "proof", "acceptor", [0x65, 0x70]⟩
    Finish.decode reply.encode = .ok ⟨List.replicate 32 1⟩ ∧
      Reply.decode (Finish.encode ⟨List.replicate 32 1⟩) = .error .mismatch ∧
      Reply.decode (hello.encode ++ reply.encode) = .error .mismatch ∧
      Finish.decode (hello.encode ++ reply.encode) = .error .mismatch := by
  intro reply hello
  have hreply : reply.Sized := ⟨by decide, by decide, by decide⟩
  have hhello : hello.Sized := ⟨by decide, by decide, by decide, by decide⟩
  obtain ⟨-, hreplies, hfinishes⟩ := read_as_another []
  obtain ⟨hhellos, -, -⟩ := read_as_another reply.encode
  have htaken := (hreplies reply hreply).2
  have hrefused := (hfinishes ⟨List.replicate 32 1⟩ (by decide)).2
  rw [List.append_nil] at htaken hrefused
  exact ⟨htaken, hrefused, (hhellos hello hhello).1, (hhellos hello hhello).2⟩

end GssContext
