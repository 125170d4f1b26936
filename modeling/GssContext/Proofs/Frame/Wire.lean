/-
From one side of a stream to the other.

What is read off a stream is decided by its bytes (`Frame.Splits`, `Frame.Stops`), and
what sending leaves in it by how far the writer came (`Frame.Sending`). Put together,
the reader gets the tokens whose frames are whole: all that were sent, at most one more
that could only not be flushed, and never one that nobody sent. A frame that was cut
off is seen as the end of the input.
-/
import GssContext.Proofs.Frame.Pipe

set_option autoImplicit false

namespace GssContext

namespace Frame

/-! ## Reading back

The two halves meet at the bytes. The writer's half says which bytes are on the wire, the
reader's half what they split into, and neither knows of the other or of its stream. -/

/-- A bound of four bytes is a length that can be written, so splits within it are
unique. -/
theorem toNat_le_maxSendable (bound : UInt32) : bound.toNat ≤ maxSendable :=
  Nat.le_of_lt_succ bound.toNat_lt

/-- What was written for tokens splits into them, and nothing is left over. -/
theorem splits_flatMap {bound : Nat} {tokens : List Bytes}
    (hfits : ∀ token ∈ tokens, token.length ≤ bound) :
    Splits bound (tokens.flatMap encode) tokens [] :=
  ⟨(List.append_nil _).symm, hfits, (ends_nil bound).1⟩

/-- **Reading frames is taking the bytes apart.** Whatever the bytes are, there is one way
to split them into frames within the bound and a rest that does not begin with one, and
however they are delivered, reading gives the tokens of these frames and the error that
the rest stops with. So what was written for tokens within the bound, by a writer that
takes everything, reads back as these tokens. -/
theorem readsAs_splits (bound : UInt32) :
    (∀ bytes, ∃ tokens rest error unread,
      Splits bound.toNat bytes tokens rest ∧
      (∀ tokens' rest', Splits bound.toNat bytes tokens' rest' → tokens' = tokens ∧ rest' = rest) ∧
      Stops bound.toNat rest error unread ∧
      ReadsAs bound.toNat bytes (tokens.map .ok ++ [.error error]) unread) ∧
    ∀ {ε σ : Type} {stream attempts : Stream (Action ε σ)} {written : σ → Bytes → Prop} {s : σ},
      attempts.Accepts written → stream.RepeatsWrites attempts written → written s [] →
      ∀ tokens : List Bytes, (∀ token ∈ tokens, token ≠ [] ∧ token.length ≤ bound.toNat) →
        ((sendMany stream tokens).run s).1 = List.replicate tokens.length (.ok ()) ∧
        ∃ wire, written ((sendMany stream tokens).run s).2 wire ∧
          Splits bound.toNat wire tokens [] ∧
          ReadsAs bound.toNat wire (tokens.map .ok ++ [.error (.io .endOfInput)]) [] := by
  have hbound := toNat_le_maxSendable bound
  constructor
  · intro bytes
    obtain ⟨tokens, rest, hsplits⟩ := Splits.exists_splits bound.toNat bytes
    obtain ⟨error, unread, hstops⟩ := exists_stops bound.toNat rest
    exact ⟨tokens, rest, error, unread, hsplits, fun _ _ => hsplits.unique hbound, hstops,
      hsplits.readsAs hbound hstops⟩
  · intro ε σ stream attempts written s haccepts hwrites hs tokens htokens
    obtain ⟨hresults, hwire⟩ := run_sendMany_ok haccepts hwrites hs fun token htoken =>
      ⟨(htokens token htoken).1, Nat.le_trans (htokens token htoken).2 hbound⟩
    rw [List.nil_append] at hwire
    have hsplits := splits_flatMap fun token htoken => (htokens token htoken).2
    exact ⟨hresults, _, hwire, hsplits, hsplits.readsAs hbound (ends_nil bound.toNat).2⟩

/-- Two tokens go through a pipe that takes three bytes at a time, and come out of one that
is interrupted and then gives them one by one. -/
theorem readsAs_splits_slow :
    let writer : Pipe := { unread := [], writes := ⟨[.fails .interrupted], some 3⟩ }
    let after := (sendMany (Pipe.stream : Stream (Action Empty Pipe)) [[7], [1, 2]]).run writer
    after.1 = [.ok (), .ok ()] ∧ ∃ wire, after.2.Takes wire ∧
      let reader : Pipe := { unread := wire, reads := ⟨[.fails .interrupted], some 1⟩ }
      ((receiveMany (Pipe.stream : Stream (Action Empty Pipe)) 8 (pure ()) (wire.length + 1)).run
        reader).1.map Prod.fst = [.ok [7], .ok [1, 2], .error (.io .endOfInput)] := by
  intro writer after
  have hpatient (limit : Nat) (hlimit : limit ≠ 0) :
      Schedule.Patient ⟨[.fails .interrupted], some limit⟩ :=
    ⟨List.forall_mem_cons.mpr ⟨.inl rfl, nofun⟩, fun hzero => hlimit (Option.some.inj hzero)⟩
  have htakes : writer.Takes [] := ⟨rfl, hpatient 3 (by decide), rfl, rfl, rfl⟩
  obtain ⟨hsent, wire, hwire, -, hreads⟩ := (readsAs_splits 8).2 Pipe.attempts_accepts
    (Pipe.stream_repeatsWrites.mono fun _ _ => Pipe.Takes.wrote) htakes [[7], [1, 2]] (by decide)
  refine ⟨hsent, wire, hwire, ?_⟩
  exact (hreads Pipe.attempts_delivers Pipe.stream_repeatsReads (fun _ => rfl)
    ⟨rfl, hpatient 1 (by decide)⟩ (Nat.lt_succ_self _)).1

/-- **Over raw streams.** The attempts of one raw stream take everything in the end and
those of another deliver what was taken; both may be interrupted, though not for ever.
Then what is sent by repeating the attempts of the one is received by repeating those
of the other. -/
theorem run_receiveMany_repeating {ε σ ε' τ α : Type} {writer : Stream (Action ε σ)}
    {written : σ → Bytes → Prop} {reader : Stream (Action ε' τ)} {holds : τ → Bytes → Prop}
    (haccepts : writer.Accepts written) (hwrites : writer.WritesEnd written)
    (hdelivers : reader.Delivers holds) (hreads : reader.ReadsEnd holds) {s : σ}
    (hs : written s []) {bound : Nat} (hbound : bound ≤ maxSendable) {tokens : List Bytes}
    (htokens : ∀ token ∈ tokens, token ≠ [] ∧ token.length ≤ bound) :
    ((sendMany writer.repeating tokens).run s).1 = List.replicate tokens.length (.ok ()) ∧
    ∃ wire, written ((sendMany writer.repeating tokens).run s).2 wire ∧
      ∀ (mark : Action ε' τ α) (t : τ), (∀ t, (mark.run t).2 = t) → holds t wire →
        ((receiveMany reader.repeating bound mark (wire.length + 1)).run t).1.map Prod.fst =
          tokens.map .ok ++ [.error (.io .endOfInput)] := by
  obtain ⟨hresults, hwire⟩ := run_sendMany_ok haccepts (Stream.repeating_repeatsWrites hwrites) hs
    fun token htoken => ⟨(htokens token htoken).1, Nat.le_trans (htokens token htoken).2 hbound⟩
  rw [List.nil_append] at hwire
  have hsplits := splits_flatMap fun token htoken => (htokens token htoken).2
  refine ⟨hresults, _, hwire, fun mark t hmark ht => ?_⟩
  have hrepeats := Stream.repeating_repeatsReads hreads
  exact (hsplits.readsAs hbound (ends_nil bound).2 hdelivers hrepeats hmark ht
    (Nat.lt_succ_self _)).1

/-- **Writing in part never forges a token.** Whatever an honest writer does, the wire is a
part of the frames of the tokens that were tried, from the front. Exactly the first
`whole` frames are complete: those of the tokens that were sent, and possibly the one whose
flush failed. A reader whose bound admits the tokens gets exactly these, and then the end of
the input. -/
theorem readsAs_sendMany {ε σ : Type} {stream attempts : Stream (Action ε σ)}
    {written : σ → Bytes → Prop} (hrecords : attempts.Records written)
    (hwrites : stream.RepeatsWrites attempts written) {s : σ} (hs : written s [])
    (tokens : List Bytes) :
    (∀ token s, token = [] ∨ maxSendable < token.length →
      ∃ e, (send stream token).run s = (.error e, s)) ∧
    ∃ wire sent whole,
      written ((sendMany stream tokens).run s).2 wire ∧
      wire <+: (tokens.take ((sendMany stream tokens).run s).1.length).flatMap encode ∧
      (((sendMany stream tokens).run s).1 = List.replicate sent (.ok ()) ∧
          sent = tokens.length ∧ whole = sent ∨
        sent < tokens.length ∧ ∃ e,
          ((sendMany stream tokens).run s).1 = List.replicate sent (.ok ()) ++ [.error e] ∧
          (whole = sent ∨ whole = sent + 1 ∧ ∃ failure before, e = .io failure ∧
            stream.flush.run before = (.error failure, ((sendMany stream tokens).run s).2))) ∧
      (∀ count, count ≤ tokens.length →
        ((tokens.take count).flatMap encode <+: wire ↔ count ≤ whole)) ∧
      ∀ bound : UInt32, (∀ token ∈ tokens, Sendable token → token.length ≤ bound.toNat) →
        ReadsAs bound.toNat wire ((tokens.take whole).map .ok ++ [.error (.io .endOfInput)]) [] := by
  constructor
  · intro token s hrefused
    refine run_send_refused stream ?_ s
    rintro ⟨hsome, hlength⟩
    exact hrefused.elim hsome (Nat.not_lt_of_le hlength)
  · obtain ⟨whole, piece, hsending, hwire⟩ :=
      run_sendMany (hrecords.of_repeats hwrites) hs tokens
    rw [List.nil_append] at hwire
    obtain ⟨sent, hresults⟩ := hsending.results
    refine ⟨_, sent, whole, hwire, hsending.tried, hresults,
      fun count hcount => hsending.torn.take_prefix_iff hcount, fun bound hadmits => ?_⟩
    have hbound := toNat_le_maxSendable bound
    exact (hsending.torn.splits hbound hadmits).readsAs hbound
      (hsending.torn.piece_ends hbound hadmits).2

/-- A pipe breaks after the length of the second token: only the first one is read. -/
theorem readsAs_sendMany_broken :
    let writer : Pipe :=
      { unread := [], writes := ⟨[.upTo (some 3), .fails .interrupted, .upTo none, .upTo none,
          .upTo none, .fails .brokenPipe], none⟩ }
    let after :=
      (sendMany (Pipe.stream : Stream (Action Empty Pipe)) [[7], [1, 2], [3]]).run writer
    after.1 = [.ok (), .error (.io (.ofKind .brokenPipe))] ∧
      after.2.Wrote [0, 0, 0, 1, 7, 0, 0, 0, 2] ∧
      ReadsAs 8 [0, 0, 0, 1, 7, 0, 0, 0, 2] [.ok [7], .error (.io .endOfInput)] [] := by
  intro writer after
  have hresults : after.1 = [.ok (), .error (.io (.ofKind .brokenPipe))] := by decide +kernel
  have hwritten : after.2.written = [0, 0, 0, 1, 7, 0, 0, 0, 2] := by decide +kernel
  obtain ⟨-, wire, sent, whole, hwire, -, -, hcomplete, hreads⟩ := readsAs_sendMany
    Pipe.attempts_records Pipe.stream_repeatsWrites (⟨rfl, nofun⟩ : writer.Wrote [])
    [[7], [1, 2], [3]]
  obtain rfl : wire = [0, 0, 0, 1, 7, 0, 0, 0, 2] := hwire.1.symm.trans hwritten
  -- of the nine bytes the first five are a frame, and the others begin one
  have hfirst : 1 ≤ whole := (hcomplete 1 (by decide)).mp (by decide)
  have hsecond : ¬ 2 ≤ whole := fun hwhole =>
    absurd ((hcomplete 2 (by decide)).mpr hwhole) (by decide)
  obtain rfl : whole = 1 := by omega
  exact ⟨hresults, hwire, hreads 8 (by decide)⟩

end Frame

end GssContext
