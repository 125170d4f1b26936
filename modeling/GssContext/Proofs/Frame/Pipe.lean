/-
The simulated stream, attempt by attempt.

A pipe passes over interrupted attempts by itself: its reads and writes are already
those of a program that repeats them. Here the attempts are taken apart again
(`Pipe.attempts`), each interruption being one attempt that fails, and the pipe is
shown to repeat them. So whatever holds of streams that repeat their attempts holds
of pipes, for every schedule: a pipe with a patient schedule delivers its bytes, and
every pipe records what is written to it. Reading does not disturb what was written, nor
writing what is unread, so one pipe can serve both directions (`stream_duplex`).
-/
import GssContext.Frame.Pipe
import GssContext.Proofs.Frame.Writing

set_option autoImplicit false

namespace GssContext

/-! ## Schedules

A schedule is a list of attempts with a limit for all those after them, and `next` skips
the interruptions in it. Here an interruption is taken off as a step of its own, and it
is shown that this changes nothing of what comes next. -/

namespace Schedule

variable {limit : Option Nat} {attempt : Attempt} {rest : List Attempt}

/-- When the list is used up only the limit is left. -/
theorem next_nil : next ⟨[], limit⟩ = (.upTo limit, ⟨[], limit⟩) := rfl

theorem next_interrupted : next ⟨.fails .interrupted :: rest, limit⟩ = next ⟨rest, limit⟩ := rfl

theorem next_cons (hattempt : attempt ≠ .fails .interrupted) :
    next ⟨attempt :: rest, limit⟩ = (attempt, ⟨rest, limit⟩) := by
  rw [next, List.dropWhile_cons_of_neg (by simpa using hattempt)]

/-- What comes next is never an interruption. -/
theorem next_ne_interrupted (s : Schedule) : s.next.1 ≠ .fails .interrupted := by
  obtain ⟨first, limit⟩ := s
  induction first with
  | nil =>
    rw [next_nil]
    exact nofun
  | cons attempt rest ih =>
    by_cases hattempt : attempt = .fails .interrupted
    · rw [hattempt, next_interrupted]
      exact ih
    · rw [next_cons hattempt]
      exact hattempt

/-- The schedule after an interruption, if the next attempt is interrupted. -/
def afterInterruption? : Schedule → Option Schedule
  | ⟨.fails .interrupted :: rest, limit⟩ => some ⟨rest, limit⟩
  | _ => none

/-- A schedule that is interrupted next begins with an interruption. -/
theorem eq_of_afterInterruption? {s t : Schedule} (h : s.afterInterruption? = some t) :
    s = ⟨.fails .interrupted :: t.first, t.limit⟩ := by
  unfold afterInterruption? at h
  split at h
  · rw [← Option.some.inj h]
  · cases h

/-- An interruption makes no difference to what comes after it. -/
theorem next_of_afterInterruption? {s t : Schedule} (h : s.afterInterruption? = some t) :
    t.next = s.next := by
  rw [eq_of_afterInterruption? h, next_interrupted]

/-- Every attempt is interrupted or moves something. -/
structure Patient (s : Schedule) : Prop where
  first : ∀ attempt ∈ s.first,
    attempt = .fails .interrupted ∨ ∃ limit, attempt = .upTo limit ∧ limit ≠ some 0
  limit : s.limit ≠ some 0

/-- An interruption is no reason not to be patient. -/
theorem Patient.of_interrupted {limit : Option Nat} (hlimit : limit ≠ some 0) :
    Patient ⟨[.fails .interrupted], limit⟩ :=
  ⟨List.forall_mem_singleton.mpr (.inl rfl), hlimit⟩

/-- In the end something is moved, and it stays so. By induction on the attempts that
are listed, of which each is skipped or is the one that moves something. -/
theorem Patient.next {s : Schedule} (h : s.Patient) :
    ∃ limit rest, s.next = (.upTo limit, rest) ∧ limit ≠ some 0 ∧ rest.Patient := by
  obtain ⟨first, limit⟩ := s
  induction first with
  | nil => exact ⟨limit, _, next_nil, h.limit, h⟩
  | cons attempt rest ih =>
    obtain ⟨hattempt, hrest⟩ := List.forall_mem_cons.mp h.first
    rcases hattempt with rfl | ⟨most, rfl, hmost⟩
    · rw [next_interrupted]
      exact ih ⟨hrest, h.limit⟩
    · exact ⟨most, _, next_cons nofun, hmost, hrest, h.limit⟩

/-- And after an interruption it is as patient as before. -/
theorem Patient.of_afterInterruption? {s t : Schedule} (h : s.Patient)
    (ht : s.afterInterruption? = some t) : t.Patient := by
  rw [eq_of_afterInterruption? ht] at h
  exact ⟨(List.forall_mem_cons.mp h.first).2, h.limit⟩

end Schedule

/-! ## Attempts of a pipe

Reading and writing follow a schedule each, but they do so in the same way. One
definition makes single attempts of either, and one lemma shows that these come to the
step itself when they are repeated. -/

namespace Pipe

variable {ε α : Type}

/-- One attempt of a step that follows a schedule. An interruption uses up a part of
the schedule and does nothing else. -/
def attempt (schedule : Pipe → Schedule) (reschedule : Pipe → Schedule → Pipe)
    (step : Pipe → Except IoError α × Pipe) (p : Pipe) : Except IoError α × Pipe :=
  match (schedule p).afterInterruption? with
  | some rest => (.error (.ofKind .interrupted), reschedule p rest)
  | none => step p

/-- The single attempts of a pipe. -/
def attempts : Stream (Action ε Pipe) where
  read want := Action.step (attempt reads (fun p reads => { p with reads }) (read want))
  write bytes := Action.step (attempt writes (fun p writes => { p with writes }) (write bytes))
  flush := Action.step flush

section Attempt

variable (schedule : Pipe → Schedule) (reschedule : Pipe → Schedule → Pipe)
  (step : Pipe → Except IoError α × Pipe)

/-- An attempt is interrupted, or it is the step itself. -/
theorem attempt_cases (p : Pipe) :
    (∃ rest, (schedule p).afterInterruption? = some rest ∧
      attempt schedule reschedule step p =
        (.error (.ofKind .interrupted), reschedule p rest)) ∨
    attempt schedule reschedule step p = step p := by
  rw [attempt]
  cases (schedule p).afterInterruption? with
  | none => exact .inr rfl
  | some rest => exact .inl ⟨rest, rfl, rfl⟩

/-- A step that passes over interruptions is what its repeated attempts come to, wherever
it is not interrupted itself. -/
theorem repeated_attempt (hschedule : ∀ p s, schedule (reschedule p s) = s)
    (hover : ∀ p rest, (schedule p).afterInterruption? = some rest →
      step (reschedule p rest) = step p)
    {p : Pipe} (hdone : ¬ IoError.Interrupts (step p).1) :
    (Action.step (attempt schedule reschedule step) : Action ε Pipe _).repeated p =
      Part.some (step p) := by
  -- each interruption uses up one of the first attempts
  induction hlength : (schedule p).first.length using Nat.strongRecOn generalizing p with
  | ind length ih =>
    have hrun : (Action.step (attempt schedule reschedule step) : Action ε Pipe _).run p =
        attempt schedule reschedule step p := rfl
    rcases attempt_cases schedule reschedule step p with ⟨rest, hrest, hattempt⟩ | hattempt
    · rw [hattempt] at hrun
      have hsame := hover p rest hrest
      have hinterrupted : IoError.Interrupts
          ((Action.step (attempt schedule reschedule step) : Action ε Pipe _).run p).1 := by
        rw [hrun]
        exact ⟨_, rfl, rfl⟩
      rw [Action.repeated_of_interrupted hinterrupted, hrun, ← hsame]
      refine ih _ ?_ (by rw [hsame]; exact hdone) rfl
      rw [hschedule, ← hlength, Schedule.eq_of_afterInterruption? hrest]
      exact Nat.lt_succ_self _
    · rw [hattempt] at hrun
      rw [← hrun] at hdone ⊢
      exact Action.repeated_of_done hdone

end Attempt

/-! ## Reading from a pipe

A pipe with a patient schedule delivers its bytes. It may delay them and give them one
by one, but no attempt fails for good. -/

/-- A pipe from which these bytes will be read: its schedule only delays them. -/
def Holds (p : Pipe) (bytes : Bytes) : Prop := p.unread = bytes ∧ p.reads.Patient

/-- A read that is not held up gives some of the bytes, from the front, and leaves the
others. How many it gives is the schedule's choice, but not none. -/
theorem Holds.read {p : Pipe} {bytes : Bytes} (h : p.Holds bytes) {want : Nat} (hwant : 0 < want) :
    ∃ count, count ≤ want ∧ count ≤ bytes.length ∧ (bytes ≠ [] → 0 < count) ∧
      (p.read want).1 = .ok (bytes.take count) ∧ (p.read want).2.Holds (bytes.drop count) := by
  obtain ⟨rfl, hpatient⟩ := h
  obtain ⟨limit, reads, hnext, hlimit, hreads⟩ := hpatient.next
  -- a patient schedule lets some bytes through, and a reader asks for some
  have hpos : 0 < capped limit want := by
    cases limit with
    | none => exact hwant
    | some most =>
      have hmost : most ≠ 0 := fun hzero => hlimit (congrArg some hzero)
      exact Nat.lt_min.mpr ⟨Nat.pos_of_ne_zero hmost, hwant⟩
  have hle : capped limit want ≤ want := by
    cases limit with
    | none => exact Nat.le_refl _
    | some most => exact Nat.min_le_right _ _
  have hlength : (p.unread.take (capped limit want)).length =
      min (capped limit want) p.unread.length := List.length_take
  have hread : p.read want = (.ok (p.unread.take (capped limit want)),
      { p with reads
               unread := p.unread.drop (p.unread.take (capped limit want)).length
               consumed := p.consumed + (p.unread.take (capped limit want)).length }) := by
    rw [Pipe.read, hnext]
  refine ⟨min (capped limit want) p.unread.length, ?_, Nat.min_le_right _ _, ?_, ?_, ?_⟩
  · omega
  · intro hsome
    have hthere : 0 < p.unread.length := List.length_pos_iff.mpr hsome
    omega
  · rw [hread]
    exact congrArg Except.ok (List.take_eq_take_iff.mpr (by omega))
  · rw [hread, hlength]
    exact ⟨rfl, hreads⟩

/-- What such a pipe reads is what its attempts to read come to. -/
theorem stream_repeatsReads :
    (stream : Stream (Action ε Pipe)).RepeatsReads attempts Holds := by
  intro p bytes want hp hwant
  refine repeated_attempt _ _ _ (fun _ _ => rfl) (fun p rest hrest => ?_) ?_
  · simp only [Pipe.read, Schedule.next_of_afterInterruption? hrest]
  · obtain ⟨count, -, -, -, hread, -⟩ := hp.read hwant
    rintro ⟨e, herror, -⟩
    rw [hread] at herror
    cases herror

/-- An attempt to read is interrupted or is a read. -/
theorem run_attempts_read (p : Pipe) (want : Nat) :
    (∃ rest, p.reads.afterInterruption? = some rest ∧
      (attempts.read want : Action ε Pipe _).run p =
        (.error (.ofKind .interrupted), { p with reads := rest })) ∨
    (attempts.read want : Action ε Pipe _).run p = p.read want :=
  attempt_cases reads (fun p reads => { p with reads }) (Pipe.read want) p

/-- Attempt by attempt, the bytes of a pipe are delivered. -/
theorem attempts_delivers : (attempts : Stream (Action ε Pipe)).Delivers Holds := by
  intro p bytes want hp hwant
  rcases run_attempts_read (ε := ε) p want with ⟨rest, hrest, hrun⟩ | hrun
  · rw [hrun]
    exact .inl ⟨⟨_, rfl, rfl⟩, hp.1, hp.2.of_afterInterruption? hrest⟩
  · rw [hrun]
    exact .inr (hp.read hwant)

/-! ## Writing to a pipe

A pipe is honest in any case, with a patient schedule or without, full or broken. Only
one thing must not be: that a full pipe answers every attempt with an interruption. -/

/-- A pipe to which these bytes were written. One that is interrupted for good when it
is full would be written to for ever. -/
def Wrote (p : Pipe) (wire : Bytes) : Prop := p.written = wire ∧ p.whenFull ≠ some .interrupted

/-- How a full pipe answers does not change. -/
theorem whenFull_write (p : Pipe) (bytes : Bytes) : (p.write bytes).2.whenFull = p.whenFull := by
  simp only [Pipe.write]
  rcases p.writes.next with ⟨limit | kind, writes⟩
  · dsimp only
    split <;> rfl
  · rfl

/-- A write that fails leaves no trace, and it says why: the schedule has a failure
there, or the pipe is full and fails for that. -/
theorem write_error {p : Pipe} {bytes : Bytes} {e : IoError} (h : (p.write bytes).1 = .error e) :
    (p.write bytes).2.written = p.written ∧
      ∃ kind, e = .ofKind kind ∧ (p.writes.next.1 = .fails kind ∨ p.whenFull = some kind) := by
  simp only [Pipe.write] at h ⊢
  cases hnext : p.writes.next.1 with
  | fails kind =>
    rw [hnext] at h
    exact ⟨rfl, kind, (Except.error.inj h).symm, .inl rfl⟩
  | upTo limit =>
    rw [hnext] at h
    dsimp only at h ⊢
    -- nothing is taken when the pipe is full, and what then happens is its own choice
    cases hpiece : upTo p.room (upTo limit bytes) with
    | cons b piece =>
      rw [hpiece] at h
      cases h
    | nil =>
      cases hfull : p.whenFull with
      | none =>
        rw [hpiece, hfull] at h
        cases h
      | some kind =>
        rw [hpiece, hfull] at h
        exact ⟨rfl, kind, (Except.error.inj h).symm, .inr rfl⟩

/-- A write fails without a trace, or takes some bytes from the front. -/
theorem Wrote.write {p : Pipe} {wire : Bytes} (h : p.Wrote wire) (bytes : Bytes) :
    (∃ e, (p.write bytes).1 = .error e ∧ e.kind ≠ .interrupted ∧ (p.write bytes).2.Wrote wire) ∨
    ∃ count, (p.write bytes).1 = .ok count ∧ count ≤ bytes.length ∧
      (p.write bytes).2.Wrote (wire ++ bytes.take count) := by
  obtain ⟨rfl, hfull⟩ := h
  have hfull' : (p.write bytes).2.whenFull ≠ some .interrupted := by
    rw [whenFull_write]
    exact hfull
  cases hresult : (p.write bytes).1 with
  | error e =>
    obtain ⟨hwritten, kind, rfl, hkind⟩ := write_error hresult
    refine .inl ⟨_, rfl, ?_, hwritten, hfull'⟩
    rintro rfl
    exact hkind.elim (Schedule.next_ne_interrupted _) hfull
  | ok count =>
    obtain ⟨piece, rfl, hpiece, hwritten⟩ := written_of_write (Prod.ext hresult rfl)
    refine .inr ⟨_, rfl, hpiece.length_le, ?_, hfull'⟩
    rw [hwritten, ← List.prefix_iff_eq_take.mp hpiece]

/-- What such a pipe writes is what its attempts to write come to. -/
theorem stream_repeatsWrites :
    (stream : Stream (Action ε Pipe)).RepeatsWrites attempts Wrote where
  write p wire bytes hp := by
    refine repeated_attempt _ _ _ (fun _ _ => rfl) (fun p rest hrest => ?_) ?_
    · simp only [Pipe.write, Schedule.next_of_afterInterruption? hrest]
    · rintro ⟨e, herror, hinterrupted⟩
      rcases hp.write bytes with ⟨e', hwrite, hkind, -⟩ | ⟨count, hwrite, -, -⟩
      · rw [hwrite] at herror
        cases herror
        exact hkind hinterrupted
      · rw [hwrite] at herror
        cases herror
  flush := rfl

theorem Wrote.flush {p : Pipe} {wire : Bytes} (h : p.Wrote wire) : p.flush.2.Wrote wire := by
  rw [Pipe.flush]
  cases p.flushFault <;> exact h

/-- An attempt to write is interrupted or is a write. -/
theorem run_attempts_write (p : Pipe) (bytes : Bytes) :
    (∃ rest, p.writes.afterInterruption? = some rest ∧
      (attempts.write bytes : Action ε Pipe _).run p =
        (.error (.ofKind .interrupted), { p with writes := rest })) ∨
    (attempts.write bytes : Action ε Pipe _).run p = p.write bytes :=
  attempt_cases writes (fun p writes => { p with writes }) (Pipe.write bytes) p

/-- Attempt by attempt, what a pipe says it took is what was written to it. -/
theorem attempts_records : (attempts : Stream (Action ε Pipe)).Records Wrote where
  takes p wire bytes count hp hok := by
    rcases run_attempts_write (ε := ε) p bytes with ⟨rest, -, hrun⟩ | hrun
    · rw [hrun] at hok
      cases hok
    · rw [hrun] at hok ⊢
      rcases hp.write bytes with ⟨e, herror, -⟩ | ⟨count', hok', hle, hwrote⟩
      · cases hok.symm.trans herror
      · cases hok.symm.trans hok'
        exact ⟨hle, hwrote⟩
  fails p wire bytes e hp herror := by
    rcases run_attempts_write (ε := ε) p bytes with ⟨rest, -, hrun⟩ | hrun
    · rw [hrun]
      exact hp
    · rw [hrun] at herror ⊢
      rcases hp.write bytes with ⟨_, -, -, hwrote⟩ | ⟨count, hok, -⟩
      · exact hwrote
      · cases herror.symm.trans hok
  flush p wire hp := hp.flush

/-! ## A pipe that takes everything

With a patient schedule, room without a bound and no fault, a pipe takes all that it is
given, in pieces if need be. -/

/-- A pipe to which these bytes were written, and that takes all that is still to come:
its schedule only delays it. -/
structure Takes (p : Pipe) (wire : Bytes) : Prop where
  written : p.written = wire
  patient : p.writes.Patient
  room : p.room = none
  whenFull : p.whenFull = none
  flushFault : p.flushFault = none

theorem Takes.wrote {p : Pipe} {wire : Bytes} (h : p.Takes wire) : p.Wrote wire :=
  ⟨h.written, fun hfull => nomatch h.whenFull.symm.trans hfull⟩

/-- A write that is not held up takes some of the bytes. The schedule is patient and the
pipe has no end, so what is taken begins the bytes and is not empty. -/
theorem Takes.write {p : Pipe} {wire : Bytes} (h : p.Takes wire) (bytes : Bytes) :
    ∃ count, (p.write bytes).1 = .ok count ∧ (bytes ≠ [] → 0 < count) ∧
      (p.write bytes).2.Takes (wire ++ bytes.take count) := by
  obtain ⟨limit, writes, hnext, hlimit, hwrites⟩ := h.patient.next
  have hwrite : p.write bytes = (.ok (upTo limit bytes).length,
      { p with writes
               pieces := upTo limit bytes :: p.pieces
               produced := p.produced + (upTo limit bytes).length
               room := none }) := by
    have hall : upTo none (upTo limit bytes) = upTo limit bytes := rfl
    simp only [Pipe.write, hnext, h.room, h.whenFull, hall]
    cases upTo limit bytes <;> rfl
  obtain ⟨piece, hlength, hpiece, hwritten⟩ := written_of_write hwrite
  refine ⟨_, congrArg Prod.fst hwrite, ?_, ?_⟩
  · intro hsome
    rw [List.length_pos_iff]
    cases limit with
    | none => exact hsome
    | some most =>
      have hmost : most ≠ 0 := fun hzero => hlimit (congrArg some hzero)
      exact fun hnone => (List.take_eq_nil_iff.mp hnone).elim hmost hsome
  · rw [hwrite, ← h.written]
    refine ⟨?_, hwrites, rfl, h.whenFull, h.flushFault⟩
    rw [hwritten, ← hlength, ← List.prefix_iff_eq_take.mp hpiece]

/-- Attempt by attempt, such a pipe takes everything. An interruption changes only the
schedule, which has one attempt less and is as patient as before. -/
theorem attempts_accepts : (attempts : Stream (Action ε Pipe)).Accepts Takes where
  takes p wire bytes count hp hok := by
    have hle := ((attempts_records (ε := ε)).takes p wire bytes count hp.wrote hok).1
    rcases run_attempts_write (ε := ε) p bytes with ⟨rest, -, hrun⟩ | hrun
    · rw [hrun] at hok
      cases hok
    · rw [hrun] at hok ⊢
      obtain ⟨count', hok', -, htakes⟩ := hp.write bytes
      cases hok.symm.trans hok'
      exact ⟨hle, htakes⟩
  fails p wire bytes e hp herror := by
    rcases run_attempts_write (ε := ε) p bytes with ⟨rest, hrest, hrun⟩ | hrun
    · rw [hrun]
      exact ⟨hp.written, hp.patient.of_afterInterruption? hrest, hp.room, hp.whenFull,
        hp.flushFault⟩
    · rw [hrun] at herror
      obtain ⟨count, hok, -⟩ := hp.write bytes
      cases herror.symm.trans hok
  flush p wire hp := by
    show p.flush.2.Takes wire
    rw [Pipe.flush, hp.flushFault]
    exact ⟨hp.written, hp.patient, hp.room, hp.whenFull, rfl⟩
  progress p wire bytes hp hsome := by
    rcases run_attempts_write (ε := ε) p bytes with ⟨rest, -, hrun⟩ | hrun
    · rw [hrun]
      exact .inl ⟨_, rfl, rfl⟩
    · rw [hrun]
      obtain ⟨count, hok, hpos, -⟩ := hp.write bytes
      exact .inr ⟨count, hpos hsome, hok⟩
  flushes p wire hp := by
    show p.flush.1 = .ok ()
    rw [Pipe.flush, hp.flushFault]

/-! ## Both directions

What is unread and what was written are two parts of a pipe, with a schedule each. An
operation on the one leaves the other, so what was shown of each direction holds of both
together. -/

/-- To read from a pipe is nothing to its writes. -/
theorem Takes.run_read {p : Pipe} {wire : Bytes} (h : p.Takes wire) (want : Nat) :
    ((attempts.read want : Action ε Pipe _).run p).2.Takes wire := by
  rcases run_attempts_read (ε := ε) p want with ⟨rest, -, hrun⟩ | hrun
  · rw [hrun]
    exact ⟨h.written, h.patient, h.room, h.whenFull, h.flushFault⟩
  · rw [hrun, Pipe.read]
    rcases p.reads.next with ⟨limit | kind, reads⟩ <;>
      exact ⟨h.written, h.patient, h.room, h.whenFull, h.flushFault⟩

/-- And to write to it is nothing to its reads. -/
theorem Holds.run_write {p : Pipe} {bytes : Bytes} (h : p.Holds bytes) (piece : Bytes) :
    ((attempts.write piece : Action ε Pipe _).run p).2.Holds bytes := by
  rcases run_attempts_write (ε := ε) p piece with ⟨rest, -, hrun⟩ | hrun
  · rw [hrun]
    exact h
  · rw [hrun]
    simp only [Pipe.write]
    rcases p.writes.next with ⟨limit | kind, writes⟩
    · dsimp only
      split <;> exact h
    · exact h

theorem Holds.run_flush {p : Pipe} {bytes : Bytes} (h : p.Holds bytes) :
    ((attempts.flush : Action ε Pipe _).run p).2.Holds bytes := by
  show p.flush.2.Holds bytes
  rw [Pipe.flush]
  cases p.flushFault <;> exact h

/-- A pipe with patient schedules serves both directions. The two have schedules of
their own, and what is done in one direction leaves the other one as it was. -/
theorem stream_duplex : (stream : Stream (Action ε Pipe)).Duplex attempts fun p unread wire =>
    p.Holds unread ∧ p.Takes wire where
  delivers wire := by
    intro p bytes want hp hwant
    have htakes := hp.2.run_read (ε := ε) want
    rcases attempts_delivers (ε := ε) p bytes want hp.1 hwant with
      ⟨hinterrupted, hholds⟩ | ⟨count, hwanted, hhad, hprogress, hread, hholds⟩
    · exact .inl ⟨hinterrupted, hholds, htakes⟩
    · exact .inr ⟨count, hwanted, hhad, hprogress, hread, hholds, htakes⟩
  repeatsReads wire p bytes want hp := stream_repeatsReads p bytes want hp.1
  accepts unread :=
    { takes := by
        intro p wire bytes count hp hok
        obtain ⟨hle, htakes⟩ := attempts_accepts.takes p wire bytes count hp.2 hok
        exact ⟨hle, hp.1.run_write bytes, htakes⟩
      fails := fun p wire bytes e hp herror =>
        ⟨hp.1.run_write bytes, attempts_accepts.fails p wire bytes e hp.2 herror⟩
      flush := fun p wire hp => ⟨hp.1.run_flush, attempts_accepts.flush p wire hp.2⟩
      progress := fun p wire bytes hp => attempts_accepts.progress p wire bytes hp.2
      flushes := fun p wire hp => attempts_accepts.flushes p wire hp.2 }
  repeatsWrites unread := stream_repeatsWrites.mono fun _ _ hp => hp.2.wrote

end Pipe

end GssContext
