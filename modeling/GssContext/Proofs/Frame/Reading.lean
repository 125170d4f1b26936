/-
The frames of a byte string, and reading them off a stream.

Every byte string is the frames of some tokens followed by a rest with no whole
frame in front (`Frame.Splits`), and it is so in one way only. This is said of the
bytes alone. What reading gives is then read off the split: the tokens, and after
them an error that the rest decides (`Frame.Stops`). Since bytes do not know how
they were delivered, neither does the result.

A delivery is described by single attempts. Each of them may be interrupted, and
then nothing was read; otherwise it gives at least one byte, if there is one. An
interrupted attempt is repeated, and what that comes to is a function of the attempt
(`Action.repeated`). It is partial: over a stream that is interrupted without end
reading does not end either. A raw stream of single attempts becomes one that can be
read from by repeating each of them (`Stream.repeating`). Reading is proved for every
stream that does what the repetition of some attempts comes to, so that a stream may
also pass over its interruptions by other means.
-/
import GssContext.Frame
import GssContext.Proofs.Action
import Mathlib.Data.List.Basic
import Mathlib.Data.PFun

set_option autoImplicit false

namespace GssContext

/-! ## Attempts

The system interrupts a read now and then, and the standard way to read passes over
that: the attempt is made again. `Action.repeated` is this loop, for any attempt, and
its value is partial, since nothing promises that the interruptions stop. What is proved
of a repeated attempt is proved by induction on the attempts that it took, so the
induction principle comes with the definition, and with it no proof has to look at how
the loop is written.

From there on only reads that do not fail are left. They may still give less than was
asked for, which is what `readExact` deals with, by asking for the rest. -/

/-- An attempt that was interrupted, and is worth repeating. -/
def IoError.Interrupts {α : Type} (result : Except IoError α) : Prop :=
  ∃ e, result = .error e ∧ e.kind = .interrupted

instance {α : Type} : (result : Except IoError α) → Decidable (IoError.Interrupts result)
  | .ok _ => isFalse fun ⟨_, hresult, _⟩ => nomatch hresult
  | .error e => decidable_of_iff (e.kind = .interrupted)
      ⟨fun hkind => ⟨e, rfl, hkind⟩, fun ⟨_, hresult, hkind⟩ => Except.error.inj hresult ▸ hkind⟩

namespace Action

variable {ε σ α : Type}

/-- An attempt, repeated for as long as it is interrupted. Of an interruption only the
state is kept, in which the next attempt is made. The repetition has no value where it
is interrupted without end. -/
def repeated (attempt : Action ε σ (Except IoError α)) : σ → Part (Except IoError α × σ) :=
  PFun.fix fun s => Part.some <|
    if IoError.Interrupts (attempt.run s).1 then .inr (attempt.run s).2
    else .inl (attempt.run s)

section

variable {attempt : Action ε σ (Except IoError α)} {s : σ}

/-- An attempt that was not interrupted is what the repetition comes to. -/
theorem repeated_of_done (hdone : ¬ IoError.Interrupts (attempt.run s).1) :
    attempt.repeated s = Part.some (attempt.run s) := by
  refine Part.eq_some_iff.mpr (PFun.fix_stop ?_)
  rw [if_neg hdone]
  exact Part.mem_some _

/-- After an interruption the repetition goes on from the state that it left. -/
theorem repeated_of_interrupted (hinterrupted : IoError.Interrupts (attempt.run s).1) :
    attempt.repeated s = attempt.repeated (attempt.run s).2 := by
  refine PFun.fix_fwd_eq ?_
  rw [if_pos hinterrupted]
  exact Part.mem_some _

/-- What the repetition comes to has every property that an attempt has which is not
interrupted, and that is the same before and after an interruption. -/
@[elab_as_elim]
theorem repeated_induction {motive : σ → Except IoError α × σ → Prop}
    (done : ∀ s, ¬ IoError.Interrupts (attempt.run s).1 → motive s (attempt.run s))
    (again : ∀ s result, IoError.Interrupts (attempt.run s).1 → motive (attempt.run s).2 result →
      motive s result) {result : Except IoError α × σ}
    (h : result ∈ attempt.repeated s) : motive s result := by
  refine PFun.fixInduction' h (fun last hlast => ?_) fun s next _ hnext ih => ?_
  · by_cases hinterrupted : IoError.Interrupts (attempt.run last).1
    · rw [if_pos hinterrupted, Part.mem_some_iff] at hlast
      cases hlast
    · rw [if_neg hinterrupted, Part.mem_some_iff] at hlast
      rw [Sum.inl.inj hlast]
      exact done last hinterrupted
  · by_cases hinterrupted : IoError.Interrupts (attempt.run s).1
    · rw [if_pos hinterrupted, Part.mem_some_iff] at hnext
      obtain rfl := Sum.inr.inj hnext
      exact again s result hinterrupted ih
    · rw [if_neg hinterrupted, Part.mem_some_iff] at hnext
      cases hnext

end

end Action

namespace Stream

variable {ε σ : Type}

open Classical in
/-- The stream whose reads and writes are those of a raw one, each repeated for as long
as it is interrupted. Where that has no end, the interruption is what is seen. -/
noncomputable def repeating (attempts : Stream (Action ε σ)) : Stream (Action ε σ) where
  read want := .step fun s =>
    ((attempts.read want).repeated s).getOrElse ((attempts.read want).run s)
  write bytes := .step fun s =>
    ((attempts.write bytes).repeated s).getOrElse ((attempts.write bytes).run s)
  flush := attempts.flush

/-- In the states that hold some bytes, what the stream reads is what the repeated
attempts of another come to. -/
def RepeatsReads (stream attempts : Stream (Action ε σ)) (holds : σ → Bytes → Prop) : Prop :=
  ∀ s bytes want, holds s bytes → 0 < want →
    (attempts.read want).repeated s = Part.some ((stream.read want).run s)

/-- In those states, no attempt to read is interrupted without end. -/
def ReadsEnd (attempts : Stream (Action ε σ)) (holds : σ → Bytes → Prop) : Prop :=
  ∀ s bytes want, holds s bytes → 0 < want → ((attempts.read want).repeated s).Dom

variable {attempts : Stream (Action ε σ)} {holds : σ → Bytes → Prop}

/-- A raw stream can be read from by repeating its attempts, if that ends. -/
theorem repeating_repeatsReads (hends : attempts.ReadsEnd holds) :
    attempts.repeating.RepeatsReads attempts holds := by
  intro s bytes want hs hwant
  classical
  have hdom := hends s bytes want hs hwant
  exact (Part.some_get hdom).symm.trans
    (congrArg Part.some (Part.getOrElse_of_dom _ hdom _).symm)

/-- And only then there is a stream that reads so. -/
theorem readsEnd_iff :
    attempts.ReadsEnd holds ↔ ∃ stream, Stream.RepeatsReads stream attempts holds := by
  constructor
  · exact fun hends => ⟨_, repeating_repeatsReads hends⟩
  · rintro ⟨stream, hreads⟩ s bytes want hs hwant
    rw [hreads s bytes want hs hwant]
    exact Part.some_dom _

/-- In a state that holds some bytes, an attempt to read is interrupted or gives the
first of them: at most as many as were asked for, and at least one if there is one.
Where nothing is left it gives nothing, which is how the end is told. -/
def Delivers (attempts : Stream (Action ε σ)) (holds : σ → Bytes → Prop) : Prop :=
  ∀ s bytes want, holds s bytes → 0 < want →
    (IoError.Interrupts ((attempts.read want).run s).1 ∧
      holds ((attempts.read want).run s).2 bytes) ∨
    ∃ count, count ≤ want ∧ count ≤ bytes.length ∧ (bytes ≠ [] → 0 < count) ∧
      ((attempts.read want).run s).1 = .ok (bytes.take count) ∧
      holds ((attempts.read want).run s).2 (bytes.drop count)

section ReadExact

variable {stream : Stream (Action ε σ)} {count : Nat} {s : σ}

theorem run_readExact_zero : (stream.readExact 0).run s = (.ok [], s) := by
  rw [readExact, if_pos rfl]
  rfl

/-- A read that gives nothing, though something was asked for, is the end. -/
theorem run_readExact_end (hcount : 0 < count) (hread : ((stream.read count).run s).1 = .ok []) :
    (stream.readExact count).run s = (.error .endOfInput, ((stream.read count).run s).2) := by
  rw [readExact, if_neg (Nat.ne_of_gt hcount), Action.run_bind, hread]
  rfl

/-- After some of the bytes the others are read, and those come in front. -/
theorem run_readExact_more {got : Bytes} (hsome : got ≠ []) (hfits : got.length ≤ count)
    (hread : ((stream.read count).run s).1 = .ok got) :
    (stream.readExact count).run s =
      (((stream.readExact (count - got.length)).run ((stream.read count).run s).2).1.map (got ++ ·),
        ((stream.readExact (count - got.length)).run ((stream.read count).run s).2).2) := by
  cases got with
  | nil => exact absurd rfl hsome
  | cons b more =>
    rw [List.length_cons] at hfits
    have hall : more.take (count - 1) = more := List.take_of_length_le (by omega)
    rw [readExact, if_neg (by omega), Action.run_bind, hread]
    dsimp only
    rw [hall, Action.run_bind]
    cases ((stream.readExact (count - (b :: more).length)).run ((stream.read count).run s).2).1 <;>
      rfl

end ReadExact

section Delivered

variable {stream : Stream (Action ε σ)}

/-- Behind the repetition nothing is seen of the interruptions. By induction on them:
each one leaves the bytes as they are, and the last attempt gives some. -/
theorem Delivers.read_of_repeated (h : attempts.Delivers holds) {want : Nat} (hwant : 0 < want)
    {s : σ} {result : Except IoError Bytes × σ}
    (hresult : result ∈ (attempts.read want).repeated s) {bytes : Bytes} (hs : holds s bytes) :
    ∃ count, count ≤ want ∧ count ≤ bytes.length ∧ (bytes ≠ [] → 0 < count) ∧
      result.1 = .ok (bytes.take count) ∧ holds result.2 (bytes.drop count) := by
  -- an interrupted attempt leaves the same bytes, so this is an induction on the attempts
  revert hs
  refine Action.repeated_induction ?_ ?_ hresult
  · intro s hdone hs
    rcases h s bytes want hs hwant with ⟨hinterrupted, -⟩ | hgot
    · exact absurd hinterrupted hdone
    · exact hgot
  · intro s result hinterrupted ih hs
    rcases h s bytes want hs hwant with ⟨-, hstill⟩ | ⟨count, -, -, -, hgot, -⟩
    · exact ih hstill
    · obtain ⟨e, herror, -⟩ := hinterrupted
      rw [hgot] at herror
      cases herror

/-- **Reading exactly so many bytes.** They are the first ones, if there are enough of
them. If not, all of them are gone and the end is reported. The induction is on how many
are to be read, and a read that gives some of them leaves fewer. -/
theorem Delivers.run_readExact (h : attempts.Delivers holds)
    (hreads : stream.RepeatsReads attempts holds) {s : σ} {bytes : Bytes} (hs : holds s bytes)
    (count : Nat) :
    ((stream.readExact count).run s).1 =
        (if count ≤ bytes.length then .ok (bytes.take count) else .error .endOfInput) ∧
      holds ((stream.readExact count).run s).2 (bytes.drop count) := by
  induction count using Nat.strongRecOn generalizing s bytes with
  | ind count ih =>
    by_cases hzero : count = 0
    · rw [hzero, run_readExact_zero, if_pos (Nat.zero_le _)]
      exact ⟨rfl, hs⟩
    · have hpos : 0 < count := Nat.pos_of_ne_zero hzero
      obtain ⟨got, hwant, hhad, hprogress, hread, hleft⟩ :=
        h.read_of_repeated hpos (Part.eq_some_iff.mp (hreads s bytes count hs hpos)) hs
      by_cases hnone : bytes = []
      · rw [hnone, List.take_nil] at hread
        rw [hnone, List.drop_nil] at hleft
        rw [run_readExact_end hpos hread, hnone, List.length_nil, if_neg (Nat.not_le_of_lt hpos),
          List.drop_nil]
        exact ⟨rfl, hleft⟩
      · have hlength : (bytes.take got).length = got := by
          rw [List.length_take]
          omega
        have hsome : bytes.take got ≠ [] := by
          rw [← List.length_pos_iff, hlength]
          exact hprogress hnone
        rw [run_readExact_more hsome (by omega) hread, hlength]
        -- what is still to be read is counted from where this read left off
        obtain ⟨hresult, hends⟩ := ih (count - got) (by have := hprogress hnone; omega) hleft
        have htotal : got + (count - got) = count := by omega
        rw [List.drop_drop, htotal] at hends
        refine ⟨?_, hends⟩
        rw [hresult, List.length_drop]
        by_cases henough : count ≤ bytes.length
        · rw [if_pos henough, if_pos (by omega)]
          show Except.ok (bytes.take got ++ (bytes.drop got).take (count - got)) = _
          rw [← List.take_add, htotal]
        · rw [if_neg henough, if_neg (by omega)]
          rfl

end Delivered

end Stream

/-! ## The frames of a byte string

What a reader will find is a property of the bytes. They begin with a frame within the
bound or they do not, and if they do it can be taken off in front. Doing this until it
is no longer possible splits the bytes, and since a frame tells where it ends there is
no choice on the way. Of the rest it is said how reading it must fail. -/

namespace Frame

/-- The bytes begin with a whole frame whose token is within the bound. -/
def Begins (bound : Nat) (bytes : Bytes) : Prop :=
  ∃ token more, token.length ≤ bound ∧ bytes = encode token ++ more

/-- The bytes are the frames of some tokens within the bound, followed by a rest that
does not begin with another one. -/
structure Splits (bound : Nat) (bytes : Bytes) (tokens : List Bytes) (rest : Bytes) : Prop where
  whole : bytes = tokens.flatMap encode ++ rest
  fits : ∀ token ∈ tokens, token.length ≤ bound
  ends : ¬ Begins bound rest

/-- What reading a rest ends with, and what it leaves. A declared length above the
bound is refused as soon as it is read; any other rest is read to its end. -/
inductive Stops (bound : Nat) : Bytes → TransportError → Bytes → Prop
  | oversized {declared : Nat} {more : Bytes} (hlength : declared ≤ maxSendable)
      (hover : bound < declared) :
      Stops bound (Bytes.ofNatBE lengthSize declared ++ more) (.oversized declared bound) more
  | ended {rest : Bytes}
      (hwithin : ∀ declared more, declared ≤ maxSendable →
        rest = Bytes.ofNatBE lengthSize declared ++ more → declared ≤ bound) :
      Stops bound rest (.io .endOfInput) []

/-- Four bytes can write every length up to the longest one that is sent. -/
theorem toNatBE_length {declared : Nat} (hlength : declared ≤ maxSendable) :
    Bytes.toNatBE (Bytes.ofNatBE lengthSize declared) = declared := by
  rw [Bytes.toNatBE_ofNatBE]
  exact Nat.mod_eq_of_lt (Nat.lt_of_le_of_lt hlength (by decide))

theorem toNatBE_le_maxSendable {bytes : Bytes} (hsize : bytes.length = lengthSize) :
    Bytes.toNatBE bytes ≤ maxSendable := by
  have hlt := Bytes.toNatBE_lt bytes
  rw [hsize] at hlt
  exact Nat.le_of_lt_succ hlt

/-- Bytes either begin with a length, or there are too few of them. -/
theorem exists_length {bytes : Bytes} (hsize : lengthSize ≤ bytes.length) :
    ∃ declared more, declared ≤ maxSendable ∧
      bytes = Bytes.ofNatBE lengthSize declared ++ more := by
  have hfront : (bytes.take lengthSize).length = lengthSize := by
    rw [List.length_take]
    exact Nat.min_eq_left hsize
  refine ⟨Bytes.toNatBE (bytes.take lengthSize), bytes.drop lengthSize,
    toNatBE_le_maxSendable hfront, ?_⟩
  have hwrites := Bytes.ofNatBE_toNatBE (bytes.take lengthSize)
  rw [hfront] at hwrites
  rw [hwrites, List.take_append_drop]

/-- A frame tells where it ends, so what follows it can be told apart. -/
theorem encode_append_inj {token token' more more' : Bytes} (hlength : token.length ≤ maxSendable)
    (hlength' : token'.length ≤ maxSendable)
    (h : encode token ++ more = encode token' ++ more') : token = token' ∧ more = more' := by
  rw [encode, encode, List.append_assoc, List.append_assoc] at h
  have hsize (n : Nat) : (Bytes.ofNatBE lengthSize n).length = lengthSize :=
    Bytes.length_ofNatBE _ _
  obtain ⟨hfront, hback⟩ := List.append_inj h (by rw [hsize, hsize])
  have hsame : token.length = token'.length := by
    rw [← toNatBE_length hlength, hfront, toNatBE_length hlength']
  exact List.append_inj hback hsame

/-- A frame is there, since its length is. -/
theorem encode_ne_nil (token : Bytes) : encode token ≠ [] := by
  rw [← List.length_pos_iff, length_encode]
  exact Nat.lt_add_right _ (by decide)

/-- A whole frame in front is longer than nothing, so what follows is shorter. -/
theorem length_lt_encode_append (token more : Bytes) :
    more.length < (encode token ++ more).length := by
  rw [List.length_append, length_encode]
  have hsize : 0 < lengthSize := by decide
  omega

namespace Splits

variable {bound : Nat} {bytes rest : Bytes} {tokens : List Bytes}

/-- A rest that does not begin with a frame splits into nothing and itself. -/
theorem nil (hends : ¬ Begins bound rest) : Splits bound rest [] rest :=
  ⟨rfl, nofun, hends⟩

theorem cons (h : Splits bound bytes tokens rest) {token : Bytes} (hfits : token.length ≤ bound) :
    Splits bound (encode token ++ bytes) (token :: tokens) rest where
  whole := by rw [h.whole, List.flatMap_cons, List.append_assoc]
  fits := List.forall_mem_cons.mpr ⟨hfits, h.fits⟩
  ends := h.ends

/-- Every byte string can be split. -/
theorem exists_splits (bound : Nat) (bytes : Bytes) :
    ∃ tokens rest, Splits bound bytes tokens rest := by
  -- each frame takes some of the bytes, so this is an induction on their number
  induction hlength : bytes.length using Nat.strongRecOn generalizing bytes with
  | ind length ih =>
    by_cases hbegins : Begins bound bytes
    · obtain ⟨token, more, hfits, rfl⟩ := hbegins
      obtain ⟨tokens, rest, hmore⟩ :=
        ih more.length (hlength ▸ length_lt_encode_append token more) more rfl
      exact ⟨token :: tokens, rest, hmore.cons hfits⟩
    · exact ⟨[], bytes, nil hbegins⟩

/-- In one way only, where the bound is a length that can be written. -/
theorem unique (hbound : bound ≤ maxSendable) (h : Splits bound bytes tokens rest)
    {tokens' : List Bytes} {rest' : Bytes} (h' : Splits bound bytes tokens' rest') :
    tokens' = tokens ∧ rest' = rest := by
  induction tokens generalizing bytes tokens' with
  | nil =>
    have hrest : bytes = rest := h.whole
    cases tokens' with
    | nil => exact ⟨rfl, h'.whole.symm.trans hrest⟩
    | cons token tokens' =>
      -- one of them would go on where the other one says that no frame is in front
      refine absurd ⟨token, tokens'.flatMap encode ++ rest', h'.fits _ List.mem_cons_self, ?_⟩
        h.ends
      rw [← hrest, h'.whole, List.flatMap_cons, List.append_assoc]
  | cons token tokens ih =>
    have hwhole := h.whole
    rw [List.flatMap_cons, List.append_assoc] at hwhole
    cases tokens' with
    | nil =>
      have hrest' : bytes = rest' := h'.whole
      exact absurd ⟨token, _, h.fits _ List.mem_cons_self, hrest'.symm.trans hwhole⟩ h'.ends
    | cons token' tokens' =>
      have hwhole' := h'.whole
      rw [List.flatMap_cons, List.append_assoc] at hwhole'
      obtain ⟨hfits, hmore⟩ := List.forall_mem_cons.mp h.fits
      obtain ⟨hfits', hmore'⟩ := List.forall_mem_cons.mp h'.fits
      obtain ⟨rfl, htail⟩ := encode_append_inj (Nat.le_trans hfits hbound)
        (Nat.le_trans hfits' hbound) (hwhole.symm.trans hwhole')
      obtain ⟨rfl, rfl⟩ := ih ⟨rfl, hmore, h.ends⟩ ⟨htail, hmore', h'.ends⟩
      exact ⟨rfl, rfl⟩

/-- There are no more frames than bytes. -/
theorem length_le (h : Splits bound bytes tokens rest) : tokens.length ≤ bytes.length := by
  rw [h.whole]
  clear h
  induction tokens with
  | nil => exact Nat.zero_le _
  | cons token tokens ih =>
    rw [List.flatMap_cons, List.append_assoc, List.length_cons]
    exact Nat.lt_of_le_of_lt ih (length_lt_encode_append _ _)

end Splits

/-- Every rest ends the reading in some way. -/
theorem exists_stops (bound : Nat) (rest : Bytes) :
    ∃ error unread, Stops bound rest error unread := by
  by_cases hwithin : ∀ declared more, declared ≤ maxSendable →
      rest = Bytes.ofNatBE lengthSize declared ++ more → declared ≤ bound
  · exact ⟨_, _, .ended hwithin⟩
  · simp only [not_forall] at hwithin
    obtain ⟨declared, more, hlength, rfl, hover⟩ := hwithin
    exact ⟨_, _, .oversized hlength (Nat.lt_of_not_le hover)⟩

/-- No bytes are no frame, and the end of the input. -/
theorem ends_nil (bound : Nat) : ¬ Begins bound [] ∧ Stops bound [] (.io .endOfInput) [] := by
  refine ⟨?_, .ended ?_⟩
  · rintro ⟨token, more, -, hnone⟩
    exact encode_ne_nil token (List.append_eq_nil_iff.mp hnone.symm).1
  · intro declared more _ hnone
    have hlength := congrArg List.length hnone
    rw [List.length_append, Bytes.length_ofNatBE] at hlength
    cases hlength.trans (Nat.add_comm _ _)

/-! ## Reading

One frame is read with two reads of an exact size, for its length and for its token.
What these give is known for any stream that delivers the bytes, so what is read off a
frame in front, and off a rest, are equations. A reader that goes on until the first
failure takes the frames off one by one. -/

section Receive

variable {ε σ α : Type} {stream attempts : Stream (Action ε σ)} {holds : σ → Bytes → Prop}
  {bound : Nat} {s : σ}

/-- A frame is read in two parts: its length, and then as many bytes. -/
theorem run_receive_length (bound : Nat) (h : attempts.Delivers holds)
    (hreads : stream.RepeatsReads attempts holds)
    {declared : Nat} (hlength : declared ≤ maxSendable) {more : Bytes}
    (hs : holds s (Bytes.ofNatBE lengthSize declared ++ more)) :
    ∃ s', holds s' more ∧ (receive stream bound).run s =
      if bound < declared then (.error (.oversized declared bound), s')
      else (match ((stream.readExact declared).run s').1 with
        | .error e => .error (.io e)
        | .ok token => .ok token, ((stream.readExact declared).run s').2) := by
  have hsize : (Bytes.ofNatBE lengthSize declared).length = lengthSize := Bytes.length_ofNatBE _ _
  obtain ⟨hresult, hleft⟩ := h.run_readExact hreads hs lengthSize
  rw [if_pos (by rw [List.length_append, hsize]; omega), List.take_left' hsize] at hresult
  rw [List.drop_left' hsize] at hleft
  refine ⟨_, hleft, ?_⟩
  rw [receive, Action.run_bind, hresult]
  dsimp only
  rw [toNatBE_length hlength]
  by_cases hover : bound < declared
  · rw [if_pos hover, if_pos hover]
    rfl
  · rw [if_neg hover, if_neg hover, Action.run_bind]
    cases ((stream.readExact declared).run ((stream.readExact lengthSize).run s).2).1 <;> rfl

/-- A whole frame in front is read, and nothing behind it. -/
theorem run_receive_encode (h : attempts.Delivers holds)
    (hreads : stream.RepeatsReads attempts holds)
    (hbound : bound ≤ maxSendable) {token more : Bytes} (hfits : token.length ≤ bound)
    (hs : holds s (encode token ++ more)) :
    ((receive stream bound).run s).1 = .ok token ∧ holds ((receive stream bound).run s).2 more := by
  rw [encode, List.append_assoc] at hs
  obtain ⟨s', hs', hrun⟩ := run_receive_length bound h hreads (Nat.le_trans hfits hbound) hs
  obtain ⟨hresult, hleft⟩ := h.run_readExact hreads hs' token.length
  rw [if_pos (by rw [List.length_append]; omega), List.take_left] at hresult
  rw [List.drop_left] at hleft
  rw [hrun, if_neg (Nat.not_lt_of_le hfits), hresult]
  exact ⟨rfl, hleft⟩

/-- A rest without a whole frame in front fails as it must. If too large a length is
declared, then it is for that. If not, then either the length itself is cut off or the
token is, and for the reader both is the end of the input. -/
theorem run_receive_stops (h : attempts.Delivers holds)
    (hreads : stream.RepeatsReads attempts holds)
    {rest unread : Bytes} {error : TransportError} (hends : ¬ Begins bound rest)
    (hstops : Stops bound rest error unread) (hs : holds s rest) :
    ((receive stream bound).run s).1 = .error error ∧
      holds ((receive stream bound).run s).2 unread := by
  cases hstops with
  | @oversized declared more hlength hover =>
    obtain ⟨s', hs', hrun⟩ := run_receive_length bound h hreads hlength hs
    rw [hrun, if_pos hover]
    exact ⟨rfl, hs'⟩
  | ended hwithin =>
    by_cases hshort : rest.length < lengthSize
    · obtain ⟨hresult, hleft⟩ := h.run_readExact hreads hs lengthSize
      rw [if_neg (Nat.not_le_of_lt hshort)] at hresult
      rw [List.drop_of_length_le (Nat.le_of_lt hshort)] at hleft
      rw [receive, Action.run_bind, hresult]
      exact ⟨rfl, hleft⟩
    · obtain ⟨declared, more, hlength, rfl⟩ := exists_length (Nat.le_of_not_lt hshort)
      have hfits : declared ≤ bound := hwithin _ _ hlength rfl
      obtain ⟨s', hs', hrun⟩ := run_receive_length bound h hreads hlength hs
      -- fewer bytes than were declared, or the rest would begin with a frame
      have htoofew : more.length < declared := by
        by_contra henough
        have htoken : (more.take declared).length = declared := by
          rw [List.length_take]
          omega
        refine hends ⟨more.take declared, more.drop declared, by rw [htoken]; exact hfits, ?_⟩
        rw [encode, htoken, List.append_assoc, List.take_append_drop]
      obtain ⟨hresult, hleft⟩ := h.run_readExact hreads hs' declared
      rw [if_neg (Nat.not_le_of_lt htoofew)] at hresult
      rw [List.drop_of_length_le (Nat.le_of_lt htoofew)] at hleft
      rw [hrun, if_neg (Nat.not_lt_of_le hfits), hresult]
      exact ⟨rfl, hleft⟩

/-- **Reading until the first failure.** The results are the tokens that the bytes split
into and the error that the rest stops with, and what is left is what that leaves. What
is noted after each frame makes no difference. The induction is on the tokens of the
split, each of which is one frame that is read. -/
theorem run_receiveMany (h : attempts.Delivers holds) (hreads : stream.RepeatsReads attempts holds)
    (hbound : bound ≤ maxSendable) {bytes rest unread : Bytes} {tokens : List Bytes}
    {error : TransportError} (hsplits : Splits bound bytes tokens rest)
    (hstops : Stops bound rest error unread) (hs : holds s bytes) {mark : Action ε σ α}
    (hmark : ∀ s, (mark.run s).2 = s) {count : Nat} (hcount : tokens.length < count) :
    ((receiveMany stream bound mark count).run s).1.map Prod.fst =
        tokens.map .ok ++ [.error error] ∧
      holds ((receiveMany stream bound mark count).run s).2 unread := by
  induction tokens generalizing bytes s count with
  | nil =>
    obtain ⟨count, rfl⟩ := Nat.exists_eq_add_one.mpr hcount
    have hrest : bytes = rest := hsplits.whole
    rw [hrest] at hs
    obtain ⟨hresult, hleft⟩ := run_receive_stops h hreads hsplits.ends hstops hs
    rw [receiveMany, Action.run_bind, Action.run_bind, hmark, hresult]
    exact ⟨rfl, hleft⟩
  | cons token tokens ih =>
    obtain ⟨count, rfl⟩ := Nat.exists_eq_add_one.mpr (Nat.zero_lt_of_lt hcount)
    have hwhole := hsplits.whole
    rw [List.flatMap_cons, List.append_assoc] at hwhole
    obtain ⟨hfits, hmore⟩ := List.forall_mem_cons.mp hsplits.fits
    rw [hwhole] at hs
    obtain ⟨hresult, hleft⟩ := run_receive_encode h hreads hbound hfits hs
    obtain ⟨hresults, hends⟩ := ih ⟨rfl, hmore, hsplits.ends⟩ hleft (Nat.lt_of_succ_lt_succ hcount)
    rw [receiveMany, Action.run_bind, Action.run_bind, hmark, hresult]
    dsimp only
    rw [Action.run_bind]
    refine ⟨?_, hends⟩
    show Except.ok token :: _ = _
    rw [hresults, List.map_cons, List.cons_append]

end Receive

/-- However the bytes are delivered, reading frames until the first failure gives these
results and leaves these bytes. -/
def ReadsAs (bound : Nat) (bytes : Bytes) (results : List (Except TransportError Bytes))
    (unread : Bytes) : Prop :=
  ∀ ⦃ε σ α : Type⦄ ⦃stream attempts : Stream (Action ε σ)⦄ ⦃holds : σ → Bytes → Prop⦄
    ⦃mark : Action ε σ α⦄ ⦃s : σ⦄ ⦃count : Nat⦄,
    attempts.Delivers holds → stream.RepeatsReads attempts holds → (∀ s, (mark.run s).2 = s) →
    holds s bytes → bytes.length < count →
    ((receiveMany stream bound mark count).run s).1.map Prod.fst = results ∧
      holds ((receiveMany stream bound mark count).run s).2 unread

/-- What the bytes split into is what is read. -/
theorem Splits.readsAs {bound : Nat} {bytes rest unread : Bytes} {tokens : List Bytes}
    {error : TransportError} (hbound : bound ≤ maxSendable) (h : Splits bound bytes tokens rest)
    (hstops : Stops bound rest error unread) :
    ReadsAs bound bytes (tokens.map .ok ++ [.error error]) unread :=
  fun _ _ _ _ _ _ _ _ _ hdelivers hreads hmark hs hcount =>
    run_receiveMany hdelivers hreads hbound h hstops hs hmark
      (Nat.lt_of_le_of_lt h.length_le hcount)

end Frame

end GssContext
