/-
The messages of the handshake read back.

Each message is a record, so it is read back if its fields are, and those are
numbers, texts and lists of bytes. What follows a message is ignored, which is
why the statements are about the message with any bytes after it.

A length that is written has to fit into a head. `Sized` is what that asks of a
message; lists and texts in memory are always that short, and so is a message
whose own bytes are.
-/
import GssContext.Handshake
import GssContext.Proofs.Cbor.Takes
import Mathlib.Algebra.GroupWithZero.Nat

set_option autoImplicit false

namespace GssContext

open Cbor

/-! ## The values in a message

Numbers, identifiers and byte strings are written as one number or as a list of numbers,
so they are read back as those are, and turned into what they stand for. The bound on
the number is that of its type, and what the reader checks against it never fails. -/

namespace Handshake

theorem takes_byte (b : UInt8) : Takes readByte (writeNatural b.toNat) b := by
  have hlt := UInt8.toNat_lt b
  have hread : Takes (natural 255) (writeNatural b.toNat) b.toNat :=
    takes_natural (by omega) (by omega)
  have hbyte := hread.map UInt8.ofNat
  rw [UInt8.ofNat_toNat] at hbyte
  exact hbyte

/-- A list of values is read back from the list of their numbers. -/
theorem takes_numbered {γ δ : Type} {limit : Nat} {number : γ → Nat} {value : Nat → γ}
    (hvalue : ∀ c, value (number c) = c) (hlimit : ∀ c, number c ≤ limit)
    (hbound : limit < 2 ^ 64) {list : List γ} (hlength : list.length < 2 ^ 64) (f : List γ → δ) :
    Takes (do return f ((← naturals limit).map value)) (writeNaturals (list.map number))
      (f list) := by
  have hnumbers : ∀ n ∈ list.map number, n ≤ limit := by
    intro n hn
    obtain ⟨c, -, rfl⟩ := List.mem_map.mp hn
    exact hlimit c
  have hread : Takes (naturals limit) (writeNaturals (list.map number)) (list.map number) :=
    takes_naturals (by rw [List.length_map]; exact hlength) hnumbers hbound
  have hback : (list.map number).map value = list := by
    rw [List.map_map]
    exact List.map_id'' hvalue list
  have hlist := hread.map fun numbers => f (numbers.map value)
  rw [hback] at hlist
  exact hlist

theorem takes_bytes {bytes : Bytes} (hlength : bytes.length < 2 ^ 64) :
    Takes readBytes (writeByteList bytes) bytes := by
  have hlimit (b : UInt8) : b.toNat ≤ 255 := Nat.le_of_lt_succ (UInt8.toNat_lt b)
  exact takes_numbered (fun b => UInt8.ofNat_toNat) hlimit (by omega) hlength id

theorem takes_oid {oid : Oid} (hlength : oid.arcs.length < 2 ^ 64) :
    Takes readOid (writeOid oid) oid := by
  have hlimit (arc : UInt32) : arc.toNat ≤ 2 ^ 32 - 1 := Nat.le_pred_of_lt (UInt32.toNat_lt arc)
  exact takes_numbered (fun arc => UInt32.ofNat_toNat) hlimit (by omega) hlength Oid.mk

theorem takes_flags (flags : Flags) : Takes readFlags (writeFlags flags) flags := by
  have hlt := UInt32.toNat_lt flags.bits
  have hread : Takes (natural (2 ^ 32 - 1)) (writeFlags flags) flags.bits.toNat :=
    takes_natural (by omega) (by omega)
  have hflags := hread.map fun n => (⟨UInt32.ofNat n⟩ : Flags)
  rw [UInt32.ofNat_toNat] at hflags
  exact hflags

/-- What a reader takes from the front is what is decoded. -/
theorem decode_of_takes {α : Type} {reader : Reader α} {bytes : Bytes} {a : α}
    (h : Takes reader bytes a) (rest : Bytes) : decode reader (bytes ++ rest) = .ok a := by
  rw [decode, h rest]

end Handshake

open Handshake

/-! ## The messages

The fields of a record are read back one after the other in the order in which they were
written. For each the reader finds its name, takes its value and keeps it, and when all
of them were taken the record is complete. So there is one line for each field. -/

/-- Every length in a hello fits into a head. -/
structure Hello.Sized (hello : Hello) : Prop where
  mechanism : hello.mechanism.arcs.length < 2 ^ 64
  initiator : (Utf8.encode hello.initiator).length < 2 ^ 64
  target : (Utf8.encode hello.target).length < 2 ^ 64
  nonce : hello.nonce.length < 2 ^ 64

/-- A hello is read back, whatever follows it. Its fields are taken one by one, and the
record they complete is the hello. -/
theorem Hello.decode_encode_append {hello : Hello} (h : hello.Sized) (rest : Bytes) :
    Hello.decode (hello.encode ++ rest) = .ok hello := by
  refine decode_of_takes (Record.takes_read ⟨some hello.version, some hello.mechanism,
    some hello.flags, some hello.initiator, some hello.target, some hello.nonce⟩ ?_
    (by simp) rfl) rest
  refine .cons (by decide) rfl (Record.takes_once _ (takes_byte hello.version)) ?_
  refine .cons (by decide) rfl (Record.takes_once _ (takes_oid h.mechanism)) ?_
  refine .cons (by decide) rfl (Record.takes_once _ (takes_flags hello.flags)) ?_
  refine .cons (by decide) rfl (Record.takes_once _ (takes_text h.initiator)) ?_
  refine .cons (by decide) rfl (Record.takes_once _ (takes_text h.target)) ?_
  refine .cons (by decide) rfl (Record.takes_once _ (takes_bytes h.nonce)) ?_
  exact .nil _

/-- Every length in a reply fits into a head. -/
structure Reply.Sized (reply : Reply) : Prop where
  nonce : reply.nonce.length < 2 ^ 64
  acceptor : (Utf8.encode reply.acceptor).length < 2 ^ 64
  proof : reply.proof.length < 2 ^ 64

/-- A reply is read back, whatever follows it. -/
theorem Reply.decode_encode_append {reply : Reply} (h : reply.Sized) (rest : Bytes) :
    Reply.decode (reply.encode ++ rest) = .ok reply := by
  refine decode_of_takes (Record.takes_read ⟨some reply.nonce, some reply.acceptor,
    some reply.granted, some reply.proof⟩ ?_ (by simp) rfl) rest
  refine .cons (by decide) rfl (Record.takes_once _ (takes_bytes h.nonce)) ?_
  refine .cons (by decide) rfl (Record.takes_once _ (takes_text h.acceptor)) ?_
  refine .cons (by decide) rfl (Record.takes_once _ (takes_flags reply.granted)) ?_
  refine .cons (by decide) rfl (Record.takes_once _ (takes_bytes h.proof)) ?_
  exact .nil _

/-- A finish is read back, whatever follows it. -/
theorem Finish.decode_encode_append {finish : Finish} (h : finish.proof.length < 2 ^ 64)
    (rest : Bytes) : Finish.decode (finish.encode ++ rest) = .ok finish := by
  refine decode_of_takes (Record.takes_read (some finish.proof) ?_ (by simp) rfl) rest
  refine .cons (by decide) rfl (Record.takes_once _ (takes_bytes h)) ?_
  exact .nil _

/-- A written value is never empty, and is what a reader finds in front of any
bytes. -/
structure Handshake.ReadsBack {α : Type} (encode : α → Bytes)
    (decode : Bytes → Except Cbor.Error α) (message : α) : Prop where
  ne_nil : encode message ≠ []
  decode_append : ∀ rest, decode (encode message ++ rest) = .ok message

/-- **Every message of the handshake reads back**, whatever version, flags,
identifier, names and bytes it holds, and whatever follows it. Writing has no
failure. -/
theorem Handshake.messages_read_back :
    (∀ hello : Hello, hello.Sized → ReadsBack Hello.encode Hello.decode hello) ∧
    (∀ reply : Reply, reply.Sized → ReadsBack Reply.encode Reply.decode reply) ∧
    ∀ finish : Finish, finish.proof.length < 2 ^ 64 →
      ReadsBack Finish.encode Finish.decode finish := by
  refine ⟨fun hello hsized => ?_, fun reply hsized => ?_, fun finish hsized => ?_⟩
  · exact ⟨writeRecord_ne_nil _, Hello.decode_encode_append hsized⟩
  · exact ⟨writeRecord_ne_nil _, Reply.decode_encode_append hsized⟩
  · exact ⟨writeRecord_ne_nil _, Finish.decode_encode_append hsized⟩

/-- An identifier without numbers, flags that no one knows, a nonce of the wrong
size, and a name that is cut inside a character when it is read in pieces. -/
theorem Handshake.reads_back_of_cut_name :
    let name := String.ofList (List.replicate 2049 'é')
    let hello : Hello := ⟨255, ⟨[]⟩, ⟨0xffffffff⟩, name, "", List.replicate 300 0xff⟩
    let reply : Reply := ⟨[], name, ⟨0x80000000⟩, List.replicate 24 0x18⟩
    Hello.decode (hello.encode ++ [0xff]) = .ok hello ∧
      Reply.decode (reply.encode ++ reply.encode) = .ok reply ∧
      Finish.decode (Finish.encode ⟨[0x17, 0x18]⟩) = .ok ⟨[0x17, 0x18]⟩ := by
  intro name hello reply
  have hname : (Utf8.encode name).length < 2 ^ 64 := by
    have hchar : (Utf8.encodeChar 'é').length = 2 := by decide
    have hlength : (Utf8.encode name).length = 4098 := by
      simp only [name, Utf8.encode, String.toList_ofList, List.length_flatMap,
        List.map_replicate, hchar, List.sum_replicate_nat]
    omega
  obtain ⟨hhello, hreply, hfinish⟩ := messages_read_back
  refine ⟨(hhello hello ?_).decode_append [0xff], (hreply reply ?_).decode_append reply.encode, ?_⟩
  · exact ⟨by decide, hname, by decide, by rw [List.length_replicate]; decide⟩
  · exact ⟨by decide, hname, by rw [List.length_replicate]; decide⟩
  · have hback := (hfinish ⟨[0x17, 0x18]⟩ (by decide)).decode_append []
    rw [List.append_nil] at hback
    exact hback

/-! ## The bytes of a message bound its parts

That the lengths of a message fit into heads need not be assumed where its bytes are
known. Every list and text in a message takes at least as many bytes as it is long, so a
message whose bytes are few enough is `Sized`, and it is by this that the messages that
were sent are. -/

/-- A list of numbers has a byte for each, at least. -/
theorem Cbor.length_le_writeNaturals (list : List Nat) :
    list.length ≤ (writeNaturals list).length := by
  have hitems : list.length ≤ (list.flatMap writeNatural).length := by
    induction list with
    | nil => exact Nat.le_refl 0
    | cons n list ih =>
      have hpos : 0 < (writeNatural n).length := List.length_pos_iff.mpr (writeHead_ne_nil 0 n)
      rw [List.flatMap_cons, List.length_append, List.length_cons]
      omega
  rw [writeNaturals, List.length_append]
  omega

theorem Cbor.length_le_writeText (text : String) :
    (Utf8.encode text).length ≤ (writeText text).length := by
  rw [writeText, List.length_append]
  omega

/-- A value is no longer than its record. -/
theorem Cbor.length_le_writeRecord {fields : List (String × Bytes)} {name : String}
    {value : Bytes} (hmem : (name, value) ∈ fields) :
    value.length ≤ (writeRecord fields).length := by
  have hsub : value.length ≤
      (fields.flatMap fun field => writeText field.1 ++ field.2).length := by
    induction fields with
    | nil => cases hmem
    | cons head fields ih =>
      rw [List.flatMap_cons, List.length_append]
      rcases List.mem_cons.mp hmem with rfl | hmem
      · rw [List.length_append]
        dsimp only
        omega
      · exact Nat.le_trans (ih hmem) (Nat.le_add_left _ _)
  rw [writeRecord, List.length_append]
  exact Nat.le_trans hsub (Nat.le_add_left _ _)

theorem Cbor.length_text_le_writeRecord {fields : List (String × Bytes)} {name text : String}
    (hmem : (name, writeText text) ∈ fields) :
    (Utf8.encode text).length ≤ (writeRecord fields).length :=
  Nat.le_trans (length_le_writeText text) (length_le_writeRecord hmem)

theorem Cbor.length_bytes_le_writeRecord {fields : List (String × Bytes)} {name : String}
    {bytes : Bytes} (hmem : (name, writeByteList bytes) ∈ fields) :
    bytes.length ≤ (writeRecord fields).length := by
  have hlist := length_le_writeNaturals (bytes.map UInt8.toNat)
  rw [List.length_map] at hlist
  exact Nat.le_trans hlist (length_le_writeRecord hmem)

/-- A hello whose bytes are few enough has parts that are. Each part stands in the
record, so the length of the record bounds it. -/
theorem Hello.sized_of_length_encode {hello : Hello} (h : hello.encode.length < 2 ^ 64) :
    hello.Sized where
  mechanism := by
    have hlist := length_le_writeNaturals (hello.mechanism.arcs.map UInt32.toNat)
    have hrecord : (writeOid hello.mechanism).length ≤ hello.encode.length :=
      length_le_writeRecord (.tail _ (.head _))
    rw [List.length_map] at hlist
    exact Nat.lt_of_le_of_lt (Nat.le_trans hlist hrecord) h
  initiator :=
    Nat.lt_of_le_of_lt (length_text_le_writeRecord (.tail _ (.tail _ (.tail _ (.head _))))) h
  target :=
    Nat.lt_of_le_of_lt
      (length_text_le_writeRecord (.tail _ (.tail _ (.tail _ (.tail _ (.head _)))))) h
  nonce :=
    Nat.lt_of_le_of_lt
      (length_bytes_le_writeRecord (.tail _ (.tail _ (.tail _ (.tail _ (.tail _ (.head _))))))) h

theorem Reply.sized_of_length_encode {reply : Reply} (h : reply.encode.length < 2 ^ 64) :
    reply.Sized where
  nonce := Nat.lt_of_le_of_lt (length_bytes_le_writeRecord (.head _)) h
  acceptor := Nat.lt_of_le_of_lt (length_text_le_writeRecord (.tail _ (.head _))) h
  proof :=
    Nat.lt_of_le_of_lt (length_bytes_le_writeRecord (.tail _ (.tail _ (.tail _ (.head _))))) h

/-! ## And the parts of a message bound its bytes

In the other direction a bound on the parts gives one on the bytes, with nine bytes for
a head at most, and for a byte of a list, which is a number with a head of its own. A
transport with a bound on its tokens needs this to know that a message passes. -/

namespace Cbor

theorem length_writeHead_le (major argument : Nat) : (writeHead major argument).length ≤ 9 := by
  unfold writeHead
  dsimp only
  split
  · simp
  split
  · simp
  split
  · simp
  split <;> simp

theorem length_writeText_le (text : String) :
    (writeText text).length ≤ 9 + (Utf8.encode text).length := by
  have hhead := length_writeHead_le 3 (Utf8.encode text).length
  rw [writeText, List.length_append]
  omega

theorem length_writeByteList_le (bytes : Bytes) :
    (writeByteList bytes).length ≤ 9 + 9 * bytes.length := by
  have hitems : ((bytes.map UInt8.toNat).flatMap writeNatural).length ≤ 9 * bytes.length := by
    induction bytes with
    | nil => exact Nat.le_refl 0
    | cons b bytes ih =>
      have hhead := length_writeHead_le 0 b.toNat
      rw [List.map_cons, List.flatMap_cons, List.length_append, List.length_cons, writeNatural]
      omega
  have hhead := length_writeHead_le 4 (bytes.map UInt8.toNat).length
  rw [writeByteList, writeNaturals, List.length_append]
  omega

/-- A record is made of its fields, and a head in front. -/
theorem length_writeRecord_le (fields : List (String × Bytes)) :
    (writeRecord fields).length ≤
      9 + (fields.map fun field => (writeText field.1).length + field.2.length).sum := by
  have hhead := length_writeHead_le 5 fields.length
  have hfields : (fields.flatMap fun field => writeText field.1 ++ field.2).length =
      (fields.map fun field => (writeText field.1).length + field.2.length).sum := by
    simp only [List.length_flatMap, List.length_append]
  rw [writeRecord, List.length_append]
  exact Nat.add_le_add hhead (Nat.le_of_eq hfields)

end Cbor

theorem Reply.length_encode_le (reply : Reply) :
    reply.encode.length ≤
      128 + 9 * reply.nonce.length + (Utf8.encode reply.acceptor).length +
        9 * reply.proof.length := by
  have hnonce := length_writeByteList_le reply.nonce
  have hacceptor := length_writeText_le reply.acceptor
  have hgranted := length_writeHead_le 0 reply.granted.bits.toNat
  have hproof := length_writeByteList_le reply.proof
  have hnames : (writeText "nonce").length + (writeText "acceptor").length +
      (writeText "granted").length + (writeText "proof").length = 29 := by decide
  refine Nat.le_trans (length_writeRecord_le _) ?_
  simp only [List.map_cons, List.map_nil, List.sum_cons, List.sum_nil, writeFlags, writeNatural]
  omega

theorem Finish.length_encode_le (finish : Finish) :
    finish.encode.length ≤ 32 + 9 * finish.proof.length := by
  have hproof := length_writeByteList_le finish.proof
  have hname : (writeText "proof").length = 6 := by decide
  refine Nat.le_trans (length_writeRecord_le _) ?_
  simp only [List.map_cons, List.map_nil, List.sum_cons, List.sum_nil]
  omega

end GssContext
