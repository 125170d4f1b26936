/-
Reading back what was written, value by value.

A reader takes `bytes` and gives `a` if it does so whatever follows them. This
one relation is closed under putting readers one after the other, so a value
that is written in parts is read back in the same parts, and each statement
below is about one part.

Lengths are below `2^64`, since a head has no room for more.
-/
import GssContext.Cbor.Read
import GssContext.Cbor.Record
import GssContext.Proofs.Text.Utf8
import Mathlib.Algebra.Group.Nat.Defs

set_option autoImplicit false

namespace GssContext.Cbor

variable {α β : Type}

/-! ## The relation

That it holds for whatever follows makes the relation compose. The first of two readers
leaves what the second one is to take, and since nothing was assumed of what follows the
first, it may be just that. -/

/-- The reader gives `a` for exactly these bytes, whatever follows them. -/
def Takes (reader : Reader α) (bytes : Bytes) (a : α) : Prop :=
  ∀ rest, reader (bytes ++ rest) = .ok (a, rest)

namespace Takes

theorem pure (a : α) : Takes (pure a : Reader α) [] a := fun _ => rfl

/-- After the value is taken comes what follows it, with the bytes that are left. -/
theorem run_bind {reader : Reader α} {next : α → Reader β} {front : Bytes} {a : α}
    (h : Takes reader front a) (rest : Bytes) :
    (reader >>= next) (front ++ rest) = next a rest := by
  simp only [Bind.bind, StateT.bind, Except.bind, h rest]

theorem bind {reader : Reader α} {next : α → Reader β} {front back : Bytes} {a : α} {b : β}
    (hfront : Takes reader front a) (hback : Takes (next a) back b) :
    Takes (reader >>= next) (front ++ back) b := by
  intro rest
  rw [List.append_assoc, hfront.run_bind, hback rest]

/-- A value that is only changed once it is read. -/
theorem map {reader : Reader α} {bytes : Bytes} {a : α} (h : Takes reader bytes a) (f : α → β) :
    Takes (do return f (← reader)) bytes (f a) := by
  rw [← List.append_nil bytes]
  exact h.bind (pure (f a))

theorem take (bytes : Bytes) : Takes (Reader.take bytes.length) bytes bytes :=
  Reader.take_append bytes

theorem take_of_length {bytes : Bytes} {count : Nat} (h : bytes.length = count) :
    Takes (Reader.take count) bytes bytes := by
  rw [← h]
  exact take bytes

end Takes

/-! ## Heads

An argument below 24 stands in the lead byte, and a larger one in one, two, four or
eight bytes after it. The writer takes the shortest form that has room. A reader would
take any of them, so only that the lead byte and the argument come apart again has to be
shown. -/

/-- The argument after a lead byte, in as many bytes as the lead byte says. -/
theorem takes_argument {minor width n : Nat} (hminor : ¬ minor < 24)
    (hwidth : argumentSize minor = width) (hn : n < 256 ^ width) :
    Takes (readArgument minor) (Bytes.ofNatBE width n) n := by
  unfold readArgument
  rw [if_neg hminor, hwidth]
  have hread : Bytes.toNatBE (Bytes.ofNatBE width n) = n := by
    rw [Bytes.toNatBE_ofNatBE]
    exact Nat.mod_eq_of_lt hn
  have htake := Takes.take_of_length (Bytes.length_ofNatBE width n)
  have hmap := htake.map Bytes.toNatBE
  rw [hread] at hmap
  exact hmap

/-- A head from its lead byte and its argument. The lead byte is the major type times 32
and the minor one, which is below 32, so both come out again by division. -/
theorem takes_head_of_argument {major minor n : Nat} {argument : Bytes} (hmajor : major < 7)
    (hminor : minor < 28) (hargument : Takes (readArgument minor) argument n) :
    Takes readHead (UInt8.ofNat (32 * major + minor) :: argument) (headOf major 0 n) := by
  have hlead : Bytes.toNatBE [UInt8.ofNat (32 * major + minor)] = 32 * major + minor := by
    have hbyte : (UInt8.ofNat (32 * major + minor)).toNat = 32 * major + minor :=
      Utf8.toNat_lead (by omega)
    rw [Bytes.toNatBE, List.foldl_cons, List.foldl_nil, hbyte]
    omega
  -- the lead byte comes apart into the major type and the minor one
  have hdiv : (32 * major + minor) / 32 = major := by omega
  have hmod : (32 * major + minor) % 32 = minor := by omega
  have hhead : headOf major minor n = headOf major 0 n := by
    rcases major with _ | _ | _ | _ | _ | _ | _ | _ <;> first | rfl | omega
  refine (Takes.take [UInt8.ofNat (32 * major + minor)]).bind ?_
  rw [hlead]
  dsimp only
  rw [hdiv, hmod, if_neg (by omega), if_neg (by omega), ← hhead]
  exact hargument.map fun n => headOf major minor n

/-- A head is read back, whatever its width. The cases are the widths that the writer
chooses from, by how large the argument is. -/
theorem takes_head {major n : Nat} (hmajor : major < 7) (hn : n < 2 ^ 64) :
    Takes readHead (writeHead major n) (headOf major 0 n) := by
  unfold writeHead
  dsimp only
  split
  · rename_i hsmall
    refine takes_head_of_argument hmajor (by omega) ?_
    unfold readArgument
    rw [if_pos hsmall]
    exact Takes.pure n
  split
  · exact takes_head_of_argument hmajor (by omega) (takes_argument (by omega) rfl (by omega))
  split
  · exact takes_head_of_argument hmajor (by omega) (takes_argument (by omega) rfl (by omega))
  split
  · exact takes_head_of_argument hmajor (by omega) (takes_argument (by omega) rfl (by omega))
  · exact takes_head_of_argument hmajor (by omega) (takes_argument (by omega) rfl (by omega))

/-- A head that is no tag has nothing to skip in front of it. -/
theorem Takes.headPast {bytes : Bytes} {head : Head} (h : Takes readHead bytes head)
    (hhead : ∀ n, head ≠ .tag n) (skipped : Nat → Bool) :
    Takes (headPast skipped) bytes head := by
  intro rest
  rw [Cbor.headPast]
  split
  · rename_i hfail
    rw [h rest] at hfail
    cases hfail
  · rename_i found left hfound
    rw [h rest] at hfound
    cases hfound
    cases head with
    | tag n => exact absurd rfl (hhead n)
    | unsigned | negative | bytes | text | array | map | simple | float | stop => rfl

/-! ## Numbers and lists

A number is a head alone. A list is a head with its length and then its items, and the
induction over them is done once, for any items that are read back. -/

/-- A number is read back if it is not above the limit. -/
theorem takes_natural {limit n : Nat} (hlimit : n ≤ limit) (hn : n < 2 ^ 64) :
    Takes (natural limit) (writeNatural n) n := by
  rw [← List.append_nil (writeNatural n)]
  refine ((takes_head (by omega) hn).headPast (fun m => Head.noConfusion) _).bind ?_
  change Takes (bounded limit n) [] n
  rw [bounded, if_pos hlimit]
  exact .pure n

/-- Written one after the other, values are taken one after the other. -/
theorem takes_times {item : Reader β} {write : α → Bytes} {value : α → β} (list : List α)
    (hitem : ∀ a ∈ list, Takes item (write a) (value a)) :
    Takes (times item list.length) (list.flatMap write) (list.map value) := by
  induction list with
  | nil => exact .pure []
  | cons a list ih =>
    have hrest := ih fun b hb => hitem b (List.mem_cons_of_mem a hb)
    rw [List.flatMap_cons]
    exact (hitem a List.mem_cons_self).bind (hrest.map (value a :: ·))

/-- A list of numbers is read back. -/
theorem takes_naturals {limit : Nat} {list : List Nat} (hlength : list.length < 2 ^ 64)
    (hlimit : ∀ n ∈ list, n ≤ limit) (hbound : limit < 2 ^ 64) :
    Takes (naturals limit) (writeNaturals list) list := by
  refine ((takes_head (by omega) hlength).headPast (fun m => Head.noConfusion) _).bind ?_
  have hitem (n : Nat) (hn : n ∈ list) : Takes (natural limit) (writeNatural n) (id n) :=
    takes_natural (hlimit n hn) (Nat.lt_of_le_of_lt (hlimit n hn) hbound)
  have hitems := takes_times list hitem
  rw [List.map_id] at hitems
  exact hitems

/-! ## Texts

A text is read in pieces of a fixed size, and a piece may end inside a character. The
bytes of such a character are held until the next piece comes. So what the recursion
keeps is that what is held and what is unread are together the rest of the text. -/

/-- The characters of a text are read back in pieces. What is held from the pieces
before is less than a character, and continues with what is unread. The induction is on
how many bytes are unread, and a piece has at least one of them, since less is held than
a piece has. -/
theorem takes_textPieces {held bytes : Bytes} {chars : List Char}
    (hbytes : held ++ bytes = chars.flatMap Utf8.encodeChar) (hheld : Utf8.next? held = none)
    (hshort : held.length ≤ 3) : Takes (textPieces bytes.length held) bytes chars := by
  generalize hunread : bytes.length = unread
  induction unread using Nat.strongRecOn generalizing held bytes chars with
  | _ unread ih =>
    subst hunread
    rw [textPieces]
    by_cases hdone : bytes = []
    · -- nothing is unread, so what is held would be a character if it were there
      subst hdone
      rw [List.append_nil] at hbytes
      have hchars : chars = [] := by
        cases chars with
        | nil => rfl
        | cons c chars =>
          rw [hbytes, List.flatMap_cons, Utf8.next?_encodeChar_append] at hheld
          cases hheld
      subst hchars
      have hnone : held = [] := hbytes
      rw [if_pos List.length_nil, if_pos hnone]
      exact .pure []
    · have hpos : 0 < bytes.length := List.length_pos_iff.mpr hdone
      rw [if_neg (Nat.ne_of_gt hpos)]
      -- the next piece, and what is left of the bytes after it
      generalize hcount : max 1 (min (pieceSize - held.length) bytes.length) = count
      have hcount1 : 1 ≤ count := by omega
      have hcount2 : count ≤ bytes.length := by omega
      have hcut : bytes = bytes.take count ++ bytes.drop count := (List.take_append_drop ..).symm
      have htaken : (bytes.take count).length = count := List.length_take_of_le hcount2
      rw [hcut, ← List.append_assoc] at hbytes
      obtain ⟨later, rfl, hlater, hnone, hleft⟩ := Utf8.split_of_append_eq hbytes
      rw [hcut]
      refine (Takes.take_of_length htaken).bind ?_
      dsimp only
      rw [if_neg (by simp only [maxUnfinished]; omega)]
      have hlength : (bytes.take count ++ bytes.drop count).length - count =
          (bytes.drop count).length := by
        rw [List.length_append, htaken]
        omega
      rw [← hcut] at hlength ⊢
      rw [hlength]
      refine Takes.map ?_ (_ ++ ·)
      exact ih _ (by rw [← hlength]; omega) hlater hnone hleft rfl

/-- A whole text in pieces: nothing is held from before. -/
theorem takes_encode (s : String) :
    Takes (textPieces (Utf8.encode s).length []) (Utf8.encode s) s.toList :=
  takes_textPieces rfl rfl (Nat.zero_le _)

/-- A text is read back. -/
theorem takes_text {s : String} (hlength : (Utf8.encode s).length < 2 ^ 64) :
    Takes text (writeText s) s := by
  refine ((takes_head (by omega) hlength).headPast (fun m => Head.noConfusion) _).bind ?_
  have htext := (takes_encode s).map String.ofList
  rw [String.ofList_toList] at htext
  exact htext

/-- A text that is looked at as a whole gives its bytes. -/
theorem takes_wholeText (s : String) :
    Takes (wholeText (Utf8.encode s).length) (Utf8.encode s) (Utf8.encode s) := by
  rw [wholeText, ← List.append_nil (Utf8.encode s)]
  refine (Takes.take_of_length (by rw [List.append_nil])).bind ?_
  rw [List.append_nil, Utf8.split_encode]
  exact .pure _

/-! ## Records

A record is a map whose fields come in any order, of which some may be unknown.
`Follows` goes through the fields that were written and says what the reader has after
each of them, whether it took the field or skipped it. In the end the record is complete
or it is not, and that alone decides the outcome. -/

/-- The name of a field is read back as its bytes. -/
theorem takes_fieldName {name : String} (hname : (Utf8.encode name).length ≤ pieceSize) :
    Takes fieldName (writeText name) (Utf8.encode name) := by
  have hlength : (Utf8.encode name).length < 2 ^ 64 := by
    simp only [pieceSize] at hname
    omega
  refine ((takes_head (by omega) hlength).headPast (fun m => Head.noConfusion) _).bind ?_
  change Takes (if (Utf8.encode name).length ≤ pieceSize then wholeText (Utf8.encode name).length
    else Reader.fail .mismatch) _ _
  rw [if_pos hname]
  exact takes_wholeText name

namespace Record

variable {ρ : Type}

/-- The fields take what was read so far from the first to the second: one whose
name the record has is read, and any other one is skipped. -/
inductive Follows (r : Record ρ α) : ρ → List (String × Bytes) → ρ → Prop where
  | nil (now : ρ) : Follows r now [] now
  | cons {before mid after : ρ} {name : String} {value : Bytes} {fields : List (String × Bytes)}
      {read : ρ → Reader ρ} (hname : (Utf8.encode name).length ≤ pieceSize)
      (hfield : r.field (Utf8.encode name) = some read) (hvalue : Takes (read before) value mid)
      (hrest : Follows r mid fields after) : Follows r before ((name, value) :: fields) after
  | skipped {before after : ρ} {name : String} {value : Bytes} {fields : List (String × Bytes)}
      (hname : (Utf8.encode name).length ≤ pieceSize)
      (hfield : r.field (Utf8.encode name) = none) (hvalue : Takes (skip skipDepth) value ())
      (hrest : Follows r before fields after) : Follows r before ((name, value) :: fields) after

theorem Follows.takes {r : Record ρ α} {before after : ρ} {fields : List (String × Bytes)}
    (h : r.Follows before fields after) :
    Takes (r.entries fields.length before)
      (fields.flatMap fun (name, value) => writeText name ++ value) after := by
  induction h with
  | nil now => exact .pure now
  | cons hname hfield hvalue _ ih =>
    rw [List.flatMap_cons]
    refine Takes.bind ((takes_fieldName hname).bind ?_) ih
    rw [hfield]
    exact hvalue
  | skipped hname hfield hvalue _ ih =>
    rw [List.flatMap_cons]
    refine Takes.bind ((takes_fieldName hname).bind ?_) ih
    rw [hfield]
    exact hvalue.map fun _ => _

/-- What the fields of a record amount to decides how it is read: it is the
record they complete, and a mismatch where they complete none. -/
theorem Follows.read_eq {r : Record ρ α} {after : ρ} {fields : List (String × Bytes)}
    (h : r.Follows r.start fields after) (hlength : fields.length < 2 ^ 64) (rest : Bytes) :
    r.read (writeRecord fields ++ rest) =
      match r.complete after with
      | some a => .ok (a, rest)
      | none => .error .mismatch := by
  have hhead : Takes untaggedHead (writeHead 5 fields.length) (.map (some fields.length)) :=
    (takes_head (by omega) hlength).headPast (fun m => Head.noConfusion) _
  rw [writeRecord, List.append_assoc, read, hhead.run_bind]
  dsimp only
  rw [h.takes.run_bind]
  cases r.complete after <;> rfl

/-- A record is read back if its fields are, and what follows it is left. -/
theorem takes_read {r : Record ρ α} {fields : List (String × Bytes)} (after : ρ) {a : α}
    (hfields : r.Follows r.start fields after) (hlength : fields.length < 2 ^ 64)
    (hcomplete : r.complete after = some a) : Takes r.read (writeRecord fields) a := by
  intro rest
  rw [hfields.read_eq hlength, hcomplete]

theorem takes_once {γ : Type} {value : Reader γ} {bytes : Bytes} {c : γ} (store : γ → ρ)
    (h : Takes value bytes c) : Takes (once none value store) bytes (store c) :=
  h.map store

end Record

end GssContext.Cbor
