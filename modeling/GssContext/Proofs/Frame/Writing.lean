/-
What sending leaves on the wire, whatever the writer does.

A writer may take as few bytes as it likes, be interrupted, take no more, or fail.
Of a writer no more is asked than that it is honest (`Stream.Records`): what it says
it took follows what it took before, and a write that fails took nothing. Then what
one send leaves is a part of the frame from its front, and the whole frame if the
send succeeds (`Frame.Sent`).

Tokens are sent one after the other until the first failure. A run of sends is
described by an inductive relation with one rule for each way in which a send ends
(`Frame.Sending`): the frames of the first tokens are on the wire, and of the next
one at most a torn piece. What a reader makes of that is then a matter of the bytes
alone (`Frame.Torn`): the piece is no frame, and it does not declare a length that
nobody sent.
-/
import GssContext.Proofs.Frame.Reading

set_option autoImplicit false

namespace GssContext

/-! ## Writers

Writers are looked at in the same two steps as readers. The attempts are honest, or even
take something each time, and both survives the repetition. Then `writeAll` hands over
what was not taken yet until nothing is left or the writer fails. -/

namespace Stream

variable {ε σ : Type}

/-- What the stream says it took is what was written. Here `written` tells the states in
which some bytes were written. -/
structure Records (stream : Stream (Action ε σ)) (written : σ → Bytes → Prop) : Prop where
  takes : ∀ s wire bytes count, written s wire → ((stream.write bytes).run s).1 = .ok count →
    count ≤ bytes.length ∧ written ((stream.write bytes).run s).2 (wire ++ bytes.take count)
  fails : ∀ s wire bytes e, written s wire → ((stream.write bytes).run s).1 = .error e →
    written ((stream.write bytes).run s).2 wire
  flush : ∀ s wire, written s wire → written (stream.flush.run s).2 wire

/-- In those states, what the stream writes is what the repeated attempts of another come
to. A flush is tried once. -/
structure RepeatsWrites (stream attempts : Stream (Action ε σ)) (written : σ → Bytes → Prop) :
    Prop where
  write : ∀ s wire bytes, written s wire →
    (attempts.write bytes).repeated s = Part.some ((stream.write bytes).run s)
  flush : stream.flush = attempts.flush

/-- What is repeated in some states is so in fewer of them. -/
theorem RepeatsWrites.mono {stream attempts : Stream (Action ε σ)}
    {written fewer : σ → Bytes → Prop} (h : stream.RepeatsWrites attempts written)
    (hfewer : ∀ s wire, fewer s wire → written s wire) : stream.RepeatsWrites attempts fewer :=
  ⟨fun s wire bytes hs => h.write s wire bytes (hfewer s wire hs), h.flush⟩

/-- In those states, no attempt to write is interrupted without end. -/
def WritesEnd (attempts : Stream (Action ε σ)) (written : σ → Bytes → Prop) : Prop :=
  ∀ s wire bytes, written s wire → ((attempts.write bytes).repeated s).Dom

/-- A raw stream can be written to by repeating its attempts, if that ends. -/
theorem repeating_repeatsWrites {attempts : Stream (Action ε σ)} {written : σ → Bytes → Prop}
    (hends : attempts.WritesEnd written) : attempts.repeating.RepeatsWrites attempts written where
  write s wire bytes hs := by
    classical
    have hdom := hends s wire bytes hs
    exact (Part.some_get hdom).symm.trans
      (congrArg Part.some (Part.getOrElse_of_dom _ hdom _).symm)
  flush := rfl

/-- A stream that never fails: an attempt to write takes at least one byte, unless it
is interrupted. -/
structure Accepts (attempts : Stream (Action ε σ)) (written : σ → Bytes → Prop) : Prop
    extends attempts.Records written where
  progress : ∀ s wire bytes, written s wire → bytes ≠ [] →
    IoError.Interrupts ((attempts.write bytes).run s).1 ∨
      ∃ count, 0 < count ∧ ((attempts.write bytes).run s).1 = .ok count
  flushes : ∀ s wire, written s wire → (attempts.flush.run s).1 = .ok ()

/-- A stream in both directions: reading delivers what is unread, writing takes all there
is to write, and neither of the two disturbs the other. Here `holds` tells the states in
which some bytes are unread and some were written. -/
structure Duplex (stream attempts : Stream (Action ε σ)) (holds : σ → Bytes → Bytes → Prop) :
    Prop where
  delivers : ∀ wire, attempts.Delivers fun s unread => holds s unread wire
  repeatsReads : ∀ wire, stream.RepeatsReads attempts fun s unread => holds s unread wire
  accepts : ∀ unread, attempts.Accepts (holds · unread)
  repeatsWrites : ∀ unread, stream.RepeatsWrites attempts (holds · unread)

variable {stream attempts : Stream (Action ε σ)} {written : σ → Bytes → Prop} {s : σ}
  {wire : Bytes}

/-- Interruptions write nothing, so honesty survives the repetition, by induction on the
attempts. -/
theorem Records.of_repeats (h : attempts.Records written)
    (hwrites : stream.RepeatsWrites attempts written) : stream.Records written := by
  have hrepeated {s : σ} {wire : Bytes} (hs : written s wire) (bytes : Bytes)
      {result : Except IoError Nat × σ} (hresult : result ∈ (attempts.write bytes).repeated s) :
      (∀ count, result.1 = .ok count →
        count ≤ bytes.length ∧ written result.2 (wire ++ bytes.take count)) ∧
      ∀ e, result.1 = .error e → written result.2 wire := by
    -- honesty of the state is part of what is proved, since an interruption moves the state
    revert hs
    refine Action.repeated_induction ?_ ?_ hresult
    · intro s _ hs
      exact ⟨fun count => h.takes _ _ _ count hs, fun e => h.fails _ _ _ e hs⟩
    · rintro s result ⟨e, herror, -⟩ ih hs
      exact ih (h.fails _ _ _ e hs herror)
  have hwrite {s : σ} {wire : Bytes} (hs : written s wire) (bytes : Bytes) :=
    hrepeated hs bytes (Part.eq_some_iff.mp (hwrites.write s wire bytes hs))
  refine ⟨fun s wire bytes count hs => (hwrite hs bytes).1 count,
    fun s wire bytes e hs => (hwrite hs bytes).2 e, ?_⟩
  rw [hwrites.flush]
  exact h.flush

/-- A writer that never fails takes some bytes in the end. The repetition comes to an
end, and what it ends with is no interruption, so it is something that was taken. -/
theorem Accepts.write_ok (h : attempts.Accepts written)
    (hwrites : stream.RepeatsWrites attempts written) (hs : written s wire) {bytes : Bytes}
    (hsome : bytes ≠ []) : ∃ count, ((stream.write bytes).run s).1 = .ok (count + 1) := by
  have hrepeated {s : σ} (hs : written s wire) {result : Except IoError Nat × σ}
      (hresult : result ∈ (attempts.write bytes).repeated s) :
      ∃ count, result.1 = .ok (count + 1) := by
    revert hs
    refine Action.repeated_induction ?_ ?_ hresult
    · intro s hdone hs
      rcases h.progress s wire bytes hs hsome with hinterrupted | ⟨count, hpos, hok⟩
      · exact absurd hinterrupted hdone
      · obtain ⟨count, rfl⟩ := Nat.exists_eq_add_one.mpr hpos
        exact ⟨count, hok⟩
    · rintro s result ⟨e, herror, -⟩ ih hs
      exact ih (h.fails _ _ _ e hs herror)
  exact hrepeated hs (Part.eq_some_iff.mp (hwrites.write s wire bytes hs))

/-- After some of the bytes were taken the others are written. -/
theorem run_writeAll_more {bytes : Bytes} {count : Nat} (hsome : bytes ≠ []) (hpos : 0 < count)
    (hwrite : ((stream.write bytes).run s).1 = .ok count) :
    (stream.writeAll bytes).run s =
      (stream.writeAll (bytes.drop count)).run ((stream.write bytes).run s).2 := by
  obtain ⟨count, rfl⟩ := Nat.exists_eq_add_one.mpr hpos
  cases bytes with
  | nil => exact absurd rfl hsome
  | cons b more =>
    rw [writeAll, Action.run_bind, hwrite]
    rfl

/-- **Writing all bytes.** Some of them are written, from the front, and all of them
exactly if it succeeds. The induction is on how many there are: a write takes some of
them, or it fails, or it takes none, and then nobody tries again. -/
theorem Records.run_writeAll (h : stream.Records written) (hs : written s wire) (bytes : Bytes) :
    ∃ piece, piece <+: bytes ∧ written ((stream.writeAll bytes).run s).2 (wire ++ piece) ∧
      (((stream.writeAll bytes).run s).1 = .ok () ↔ piece = bytes) := by
  induction hlength : bytes.length using Nat.strongRecOn generalizing s wire bytes with
  | ind length ih =>
    cases bytes with
    | nil =>
      rw [writeAll]
      refine ⟨[], List.prefix_refl _, ?_, iff_of_true rfl rfl⟩
      rw [List.append_nil]
      exact hs
    | cons b more =>
      rw [writeAll, Action.run_bind]
      cases hwrite : ((stream.write (b :: more)).run s).1 with
      | error e =>
        refine ⟨[], List.nil_prefix, ?_,
          iff_of_false (fun h => by cases h) (List.cons_ne_nil b more).symm⟩
        rw [List.append_nil]
        exact h.fails s wire _ e hs hwrite
      | ok count =>
        obtain ⟨hle, htook⟩ := h.takes s wire _ count hs hwrite
        cases count with
        | zero =>
          exact ⟨[], List.nil_prefix, htook,
            iff_of_false (fun h => by cases h) (List.cons_ne_nil b more).symm⟩
        | succ count =>
          rw [List.take_succ_cons] at htook
          have hshort : (more.drop count).length < length := by
            rw [← hlength, List.length_drop, List.length_cons]
            omega
          obtain ⟨piece, hpiece, hwritten, hall⟩ := ih _ hshort htook (more.drop count) rfl
          have hcut : b :: more.take count ++ more.drop count = b :: more := by
            rw [List.cons_append, List.take_append_drop]
          refine ⟨b :: more.take count ++ piece, ?_, ?_, ?_⟩
          · rw [← hcut]
            exact (List.prefix_append_right_inj _).mpr hpiece
          · rw [← List.append_assoc]
            exact hwritten
          · refine hall.trans ?_
            rw [← hcut, List.append_cancel_left_eq]

/-- A writer that never fails takes all bytes. It takes some with each attempt, so fewer
are left each time, and none in the end. -/
theorem Accepts.run_writeAll (h : attempts.Accepts written)
    (hwrites : stream.RepeatsWrites attempts written) (hs : written s wire) (bytes : Bytes) :
    ((stream.writeAll bytes).run s).1 = .ok () ∧
      written ((stream.writeAll bytes).run s).2 (wire ++ bytes) := by
  -- that it succeeds is shown first, and then that a success has written all is known
  have hok : ((stream.writeAll bytes).run s).1 = .ok () := by
    induction hlength : bytes.length using Nat.strongRecOn generalizing s wire bytes with
    | ind length ih =>
      cases bytes with
      | nil =>
        rw [writeAll]
        rfl
      | cons b more =>
        obtain ⟨count, hwrite⟩ := h.write_ok hwrites hs (List.cons_ne_nil b more)
        obtain ⟨-, hs'⟩ := (h.of_repeats hwrites).takes s wire _ _ hs hwrite
        rw [run_writeAll_more (List.cons_ne_nil b more) (Nat.succ_pos count) hwrite]
        refine ih _ ?_ hs' (more.drop count) rfl
        rw [← hlength, List.length_drop, List.length_cons]
        omega
  obtain ⟨piece, -, hwritten, hall⟩ := (h.of_repeats hwrites).run_writeAll hs bytes
  obtain rfl := hall.mp hok
  exact ⟨hok, hwritten⟩

end Stream

/-! ## One token

A frame is written in two pieces, and then the stream is flushed. Each of these can
fail, and the wire tells how far it came. That the flush failed is a case of its own:
the frame is whole, though the sender was told that it is not. -/

namespace Frame

variable {ε σ : Type} {stream attempts : Stream (Action ε σ)} {written : σ → Bytes → Prop} {s : σ}
  {wire : Bytes}

/-- Tokens that have a frame: those that say something, of a length that can be written. -/
def Sendable (token : Bytes) : Prop := token ≠ [] ∧ token.length ≤ maxSendable

instance (token : Bytes) : Decidable (Sendable token) :=
  inferInstanceAs (Decidable (token ≠ [] ∧ token.length ≤ maxSendable))

/-- How sending a token ends, and what it leaves on the wire. -/
inductive Sent (stream : Stream (Action ε σ)) (token : Bytes) :
    Except TransportError Unit × σ → Bytes → Prop
  /-- A token without a frame leaves nothing. -/
  | refused {e : TransportError} {s : σ} (hrefused : ¬ Sendable token) :
      Sent stream token (.error e, s) []
  /-- The writer failed before the end of the frame. -/
  | broken {e : IoError} {s : σ} {piece : Bytes} (hsendable : Sendable token)
      (hpiece : piece <+: encode token) (hshort : piece ≠ encode token) :
      Sent stream token (.error (.io e), s) piece
  /-- Only passing on what was written failed. -/
  | unflushed {e : IoError} {before s : σ} (hsendable : Sendable token)
      (hflush : stream.flush.run before = (.error e, s)) :
      Sent stream token (.error (.io e), s) (encode token)
  | whole {s : σ} (hsendable : Sendable token) : Sent stream token (.ok (), s) (encode token)

/-- A token without a frame is refused before anything is written. -/
theorem run_send_refused (stream : Stream (Action ε σ)) {token : Bytes}
    (hrefused : ¬ Sendable token) (s : σ) :
    ∃ e, (send stream token).run s = (.error e, s) := by
  by_cases hsome : token = []
  · rw [send, if_pos hsome]
    exact ⟨_, rfl⟩
  · have hlong : maxSendable < token.length :=
      Nat.lt_of_not_le fun hlength => hrefused ⟨hsome, hlength⟩
    rw [send, if_neg hsome, if_pos hlong]
    exact ⟨_, rfl⟩

/-- **Sending a token.** The length, the token and the flush are three steps, and after
each of them what is on the wire is a part of the frame from its front. -/
theorem run_send (h : stream.Records written) (hs : written s wire) (token : Bytes) :
    ∃ piece, Sent stream token ((send stream token).run s) piece ∧
      written ((send stream token).run s).2 (wire ++ piece) := by
  by_cases hsendable : Sendable token
  · rw [send, if_neg hsendable.1, if_neg (Nat.not_lt_of_le hsendable.2), Action.run_bind]
    obtain ⟨front, hfront, hs₁, hall⟩ :=
      h.run_writeAll hs (Bytes.ofNatBE lengthSize token.length)
    generalize (stream.writeAll (Bytes.ofNatBE lengthSize token.length)).run s = first at hs₁ hall
    obtain ⟨e | _, s₁⟩ := first
    · have hshort : front ≠ Bytes.ofNatBE lengthSize token.length := fun heq => nomatch hall.mpr heq
      refine ⟨front, .broken hsendable (hfront.trans (List.prefix_append _ _)) ?_, hs₁⟩
      -- a part of the length is shorter than the length, and so than the frame
      intro heq
      refine hshort (hfront.eq_of_length_le ?_)
      rw [heq, encode, List.length_append]
      exact Nat.le_add_right _ _
    · obtain rfl := hall.mp rfl
      dsimp only at hs₁ ⊢
      rw [Action.run_bind]
      obtain ⟨back, hback, hs₂, hall'⟩ := h.run_writeAll hs₁ token
      rw [List.append_assoc] at hs₂
      generalize (stream.writeAll token).run s₁ = second at hs₂ hall'
      obtain ⟨e | _, s₂⟩ := second
      · have hshort : back ≠ token := fun heq => nomatch hall'.mpr heq
        refine ⟨_, .broken hsendable ((List.prefix_append_right_inj _).mpr hback) ?_, hs₂⟩
        exact fun heq => hshort (List.append_cancel_left heq)
      · obtain rfl := hall'.mp rfl
        dsimp only at hs₂ ⊢
        rw [Action.run_bind]
        have hs₃ := h.flush s₂ _ hs₂
        cases hflush : stream.flush.run s₂ with
        | mk result s₃ =>
          rw [hflush] at hs₃
          cases result with
          | error e => exact ⟨encode back, .unflushed hsendable hflush, hs₃⟩
          | ok _ => exact ⟨encode back, .whole hsendable, hs₃⟩
  · obtain ⟨e, hrun⟩ := run_send_refused stream hsendable s
    rw [hrun]
    refine ⟨[], .refused hsendable, ?_⟩
    rw [List.append_nil]
    exact hs

/-- Over a writer that never fails every token with a frame is sent. -/
theorem run_send_ok (h : attempts.Accepts written)
    (hwrites : stream.RepeatsWrites attempts written) (hs : written s wire) {token : Bytes}
    (hsendable : Sendable token) :
    ((send stream token).run s).1 = .ok () ∧
      written ((send stream token).run s).2 (wire ++ encode token) := by
  obtain ⟨hlength, hs₁⟩ := h.run_writeAll hwrites hs (Bytes.ofNatBE lengthSize token.length)
  obtain ⟨htoken, hs₂⟩ := h.run_writeAll hwrites hs₁ token
  rw [List.append_assoc] at hs₂
  rw [send, if_neg hsendable.1, if_neg (Nat.not_lt_of_le hsendable.2), Action.run_bind, hlength]
  dsimp only
  rw [Action.run_bind, htoken]
  dsimp only
  rw [Action.run_bind, hwrites.flush, h.flushes _ _ hs₂]
  exact ⟨rfl, h.flush _ _ hs₂⟩

/-! ## Tokens one after the other

A run of sends stops at the first failure. `Sending` says with two numbers what is on
the wire then, and its constructors follow the list of tokens: the first one fails in
one of three ways, or it is sent and the others follow. -/

/-- Send tokens until one fails. -/
def sendMany {m : Type → Type} [Monad m] (stream : Stream m) :
    List Bytes → m (List (Except TransportError Unit))
  | [] => pure []
  | token :: tokens => do
    match ← send stream token with
    | .error e => return [.error e]
    | .ok () =>
      let rest ← sendMany stream tokens
      return .ok () :: rest

/-- How sending a list of tokens ends: the frames of the first `whole` of them are on
the wire, and of the next one a piece. -/
inductive Sending (stream : Stream (Action ε σ)) :
    List Bytes → List (Except TransportError Unit) × σ → (whole : Nat) → (piece : Bytes) → Prop
  | finished {s : σ} : Sending stream [] ([], s) 0 []
  | refused {token : Bytes} {tokens : List Bytes} {e : TransportError} {s : σ}
      (hrefused : ¬ Sendable token) : Sending stream (token :: tokens) ([.error e], s) 0 []
  | broken {token piece : Bytes} {tokens : List Bytes} {e : IoError} {s : σ}
      (hsendable : Sendable token) (hpiece : piece <+: encode token)
      (hshort : piece ≠ encode token) :
      Sending stream (token :: tokens) ([.error (.io e)], s) 0 piece
  | unflushed {token : Bytes} {tokens : List Bytes} {e : IoError} {before s : σ}
      (hsendable : Sendable token) (hflush : stream.flush.run before = (.error e, s)) :
      Sending stream (token :: tokens) ([.error (.io e)], s) 1 []
  | sent {token piece : Bytes} {tokens : List Bytes} {results : List (Except TransportError Unit)}
      {s : σ} {whole : Nat} (hsendable : Sendable token)
      (hrest : Sending stream tokens (results, s) whole piece) :
      Sending stream (token :: tokens) (.ok () :: results, s) (whole + 1) piece

/-- Every run of sends ends in one of these ways, and the wire shows it. By induction on
the tokens, with whatever is on the wire before the first of them. -/
theorem run_sendMany (h : stream.Records written) (hs : written s wire) (tokens : List Bytes) :
    ∃ whole piece, Sending stream tokens ((sendMany stream tokens).run s) whole piece ∧
      written ((sendMany stream tokens).run s).2
        (wire ++ ((tokens.take whole).flatMap encode ++ piece)) := by
  induction tokens generalizing s wire with
  | nil =>
    refine ⟨0, [], .finished, ?_⟩
    rw [List.take_nil, List.flatMap_nil, List.append_nil, List.append_nil]
    exact hs
  | cons token tokens ih =>
    obtain ⟨piece, hsent, hwritten⟩ := run_send h hs token
    rw [sendMany, Action.run_bind]
    generalize (send stream token).run s = result at hsent hwritten
    cases hsent with
    | refused hrefused => exact ⟨0, [], .refused hrefused, hwritten⟩
    | broken hsendable hpiece hshort => exact ⟨0, piece, .broken hsendable hpiece hshort, hwritten⟩
    | unflushed hsendable hflush =>
      refine ⟨1, [], .unflushed hsendable hflush, ?_⟩
      rw [List.take_succ_cons, List.take_zero, List.flatMap_singleton, List.append_nil]
      exact hwritten
    | whole hsendable =>
      obtain ⟨whole, piece, hsending, hrest⟩ := ih hwritten
      refine ⟨whole + 1, piece, .sent hsendable hsending, ?_⟩
      rw [List.take_succ_cons, List.flatMap_cons, List.append_assoc, ← List.append_assoc]
      exact hrest

/-- Over a writer that never fails all tokens with a frame are sent. -/
theorem run_sendMany_ok (h : attempts.Accepts written)
    (hwrites : stream.RepeatsWrites attempts written) (hs : written s wire) {tokens : List Bytes}
    (hsendable : ∀ token ∈ tokens, Sendable token) :
    ((sendMany stream tokens).run s).1 = List.replicate tokens.length (.ok ()) ∧
      written ((sendMany stream tokens).run s).2 (wire ++ tokens.flatMap encode) := by
  induction tokens generalizing s wire with
  | nil =>
    rw [List.flatMap_nil, List.append_nil]
    exact ⟨rfl, hs⟩
  | cons token tokens ih =>
    obtain ⟨htoken, htokens⟩ := List.forall_mem_cons.mp hsendable
    obtain ⟨hok, hs'⟩ := run_send_ok h hwrites hs htoken
    obtain ⟨hrest, hs''⟩ := ih hs' htokens
    rw [sendMany, Action.run_bind, hok, List.flatMap_cons, ← List.append_assoc]
    refine ⟨?_, hs''⟩
    show Except.ok () :: ((sendMany stream tokens).run _).1 = _
    rw [hrest, List.length_cons, List.replicate_succ]

/-! ## What a reader makes of it

The reader has only the bytes. They are whole frames and a piece, and the piece is
shorter than the frame it belongs to. So it does not begin with a frame, and a length
that can be read off it is the length of the token that was sent there; the reader's
bound admits that one, so it goes on to wait for bytes that never come. -/

/-- The frames of the first `whole` tokens can be followed by such a piece: by nothing,
or by a part of the next frame. -/
structure Torn (tokens : List Bytes) (whole : Nat) (piece : Bytes) : Prop where
  within : whole ≤ tokens.length
  sendable : ∀ token ∈ tokens.take whole, Sendable token
  piece : piece = [] ∨ ∃ token, tokens[whole]? = some token ∧ Sendable token ∧
    piece <+: encode token ∧ piece ≠ encode token

namespace Sending

variable {tokens : List Bytes} {result : List (Except TransportError Unit) × σ} {whole : Nat}
  {piece : Bytes}

/-- However sending ended, the wire is torn at one place at most. -/
theorem torn (h : Sending stream tokens result whole piece) : Torn tokens whole piece := by
  induction h with
  | finished => exact ⟨Nat.le_refl _, nofun, .inl rfl⟩
  | refused => exact ⟨Nat.zero_le _, nofun, .inl rfl⟩
  | broken hsendable hpiece hshort =>
    exact ⟨Nat.zero_le _, nofun, .inr ⟨_, rfl, hsendable, hpiece, hshort⟩⟩
  | unflushed hsendable =>
    exact ⟨Nat.succ_le_succ (Nat.zero_le _), List.forall_mem_cons.mpr ⟨hsendable, nofun⟩, .inl rfl⟩
  | sent hsendable _ ih =>
    refine ⟨Nat.succ_le_succ ih.within, List.forall_mem_cons.mpr ⟨hsendable, ih.sendable⟩, ?_⟩
    rw [List.getElem?_cons_succ]
    exact ih.piece

/-- Sending goes on until the first failure. A frame is whole if its token was sent, and
also if only the flush after it failed. -/
theorem results (h : Sending stream tokens result whole piece) :
    ∃ sent, (result.1 = List.replicate sent (.ok ()) ∧ sent = tokens.length ∧ whole = sent) ∨
      sent < tokens.length ∧ ∃ e, result.1 = List.replicate sent (.ok ()) ++ [.error e] ∧
        (whole = sent ∨ whole = sent + 1 ∧ ∃ failure before, e = .io failure ∧
          stream.flush.run before = (.error failure, result.2)) := by
  induction h with
  | finished => exact ⟨0, .inl ⟨rfl, rfl, rfl⟩⟩
  | refused => exact ⟨0, .inr ⟨Nat.succ_pos _, _, rfl, .inl rfl⟩⟩
  | broken => exact ⟨0, .inr ⟨Nat.succ_pos _, _, rfl, .inl rfl⟩⟩
  | unflushed _ hflush =>
    exact ⟨0, .inr ⟨Nat.succ_pos _, _, rfl, .inr ⟨rfl, _, _, rfl, hflush⟩⟩⟩
  | sent _ _ ih =>
    obtain ⟨sent, ⟨hresults, hsent, hwhole⟩ | ⟨hsent, e, hresults, hwhole⟩⟩ := ih
    · refine ⟨sent + 1, .inl ⟨?_, congrArg (· + 1) hsent, congrArg (· + 1) hwhole⟩⟩
      exact congrArg (Except.ok () :: ·) hresults
    · refine ⟨sent + 1, .inr ⟨Nat.succ_lt_succ hsent, e, ?_, ?_⟩⟩
      · exact congrArg (Except.ok () :: ·) hresults
      · rcases hwhole with hwhole | ⟨hwhole, hflush⟩
        · exact .inl (congrArg (· + 1) hwhole)
        · exact .inr ⟨congrArg (· + 1) hwhole, hflush⟩

/-- What is on the wire belongs to the tokens that were tried. -/
theorem tried (h : Sending stream tokens result whole piece) :
    (tokens.take whole).flatMap encode ++ piece <+:
      (tokens.take result.1.length).flatMap encode := by
  induction h with
  | finished => exact List.prefix_refl _
  | refused => exact List.nil_prefix
  | broken _ hpiece =>
    show _ <+: List.flatMap encode [_]
    rw [List.flatMap_singleton]
    exact hpiece
  | unflushed =>
    rw [List.append_nil]
    exact List.prefix_refl _
  | sent _ _ ih =>
    rw [List.length_cons, List.take_succ_cons, List.take_succ_cons, List.flatMap_cons,
      List.flatMap_cons, List.append_assoc]
    exact (List.prefix_append_right_inj _).mpr ih

end Sending

namespace Torn

variable {tokens : List Bytes} {whole : Nat} {piece : Bytes}

/-- The next frame, if there is a next token, is not there. -/
theorem length_piece_lt (h : Torn tokens whole piece) {token : Bytes}
    (hnext : tokens[whole]? = some token) : piece.length < (encode token).length := by
  rcases h.piece with rfl | ⟨token', hnext', -, hpiece, hshort⟩
  · exact List.length_pos_iff.mpr (encode_ne_nil token)
  · obtain rfl : token = token' := Option.some.inj (hnext.symm.trans hnext')
    exact Nat.lt_of_not_le fun hlong => hshort (hpiece.eq_of_length_le hlong)

/-- Exactly the first `whole` tokens are completely on the wire. If one more were, its
frame would be there as a whole, and what follows the first ones is a piece of it. -/
theorem take_prefix_iff (h : Torn tokens whole piece) {count : Nat}
    (hcount : count ≤ tokens.length) :
    (tokens.take count).flatMap encode <+: (tokens.take whole).flatMap encode ++ piece ↔
      count ≤ whole := by
  have hmono {few many : Nat} (hle : few ≤ many) :
      (tokens.take few).flatMap encode <+: (tokens.take many).flatMap encode := by
    obtain ⟨more, hmore⟩ := List.take_prefix_take_left hle (l := tokens)
    rw [← hmore, List.flatMap_append]
    exact List.prefix_append _ _
  constructor
  · intro hprefix
    by_contra hmany
    have hnext : tokens[whole]? = some tokens[whole] := List.getElem?_eq_getElem (by omega)
    have hshort := h.length_piece_lt hnext
    have hlong := (hmono (Nat.lt_of_not_le hmany)).trans hprefix |>.length_le
    rw [List.take_add_one, hnext, List.flatMap_append, List.length_append,
      List.length_append] at hlong
    rw [Option.toList_some, List.flatMap_singleton] at hlong
    omega
  · exact fun hfew => (hmono hfew).trans (List.prefix_append _ _)

variable {bound : Nat}

/-- A part of a frame is no frame, and the length in it is the length of a token.
Otherwise a frame would begin as another one does, and a frame tells where it ends. -/
theorem piece_ends (h : Torn tokens whole piece) (hbound : bound ≤ maxSendable)
    (hadmits : ∀ token ∈ tokens, Sendable token → token.length ≤ bound) :
    ¬ Begins bound piece ∧ Stops bound piece (.io .endOfInput) [] := by
  rcases h.piece with rfl | ⟨token, hnext, hsendable, ⟨missing, hmissing⟩, hshort⟩
  · exact ends_nil bound
  · have hadmitted : token.length ≤ bound := hadmits token (List.mem_of_getElem? hnext) hsendable
    refine ⟨?_, .ended ?_⟩
    · rintro ⟨token', more, hfits, rfl⟩
      rw [List.append_assoc, ← List.append_nil (encode token)] at hmissing
      obtain ⟨rfl, hnone⟩ := encode_append_inj (Nat.le_trans hfits hbound) hsendable.2 hmissing
      rw [(List.append_eq_nil_iff.mp hnone).1, List.append_nil] at hshort
      exact hshort rfl
    · rintro declared more hlength rfl
      rw [encode, List.append_assoc] at hmissing
      have hsize (n : Nat) : (Bytes.ofNatBE lengthSize n).length = lengthSize :=
        Bytes.length_ofNatBE _ _
      obtain ⟨hfront, -⟩ := List.append_inj hmissing (by rw [hsize, hsize])
      rw [← toNatBE_length hlength, hfront, toNatBE_length hsendable.2]
      exact hadmitted

/-- So a reader whose bound admits the tokens gets those that are whole. -/
theorem splits (h : Torn tokens whole piece) (hbound : bound ≤ maxSendable)
    (hadmits : ∀ token ∈ tokens, Sendable token → token.length ≤ bound) :
    Splits bound ((tokens.take whole).flatMap encode ++ piece) (tokens.take whole) piece where
  whole := rfl
  fits token htoken := hadmits token (List.mem_of_mem_take htoken) (h.sendable token htoken)
  ends := (h.piece_ends hbound hadmits).1

end Torn

end Frame

end GssContext
