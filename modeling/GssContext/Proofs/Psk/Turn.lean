/-
The steps of a handshake, and everything each of them can do.

A side takes one step for each call. A run is a list of calls, each with the
world in which it is made, so nothing is assumed about the clock and the
randomness between two steps, nor about where the tokens come from.

For both sides there is one relation that lists the outcomes: a step is
refused and leaves the context, or it is the first one and creates a context,
or it is the last one and opens it. A refusal carries the reason why it is not
the last step, so that nothing but what `Proven` says can open a context.
-/
import GssContext.Proofs.Handshake
import GssContext.Proofs.Psk.Call
import GssContext.Proofs.Psk.Transcript
import GssContext.Psk.Acceptor
import GssContext.Psk.Initiator

set_option autoImplicit false

namespace GssContext.Psk

/-! ## Runs

A side is a function from a context, a call and a world to a step and a context. The
world is given anew with each call, so a run may have any clock and any randomness at
any point, and time may even go back between two steps. What is proved of all runs is
then true of those in which one world is passed on. -/

/-- One step of one side: what it was given, and what came of it. -/
structure Turn (ι : Type) where
  before : Option Context
  call : ι
  step : Step
  after : Option Context

/-- What a side does with a call in a world. -/
abbrev Side (ι σ : Type) := Option Context → ι → σ → Step × Option Context

variable {ι σ ε : Type}

/-- A single turn. -/
def Side.turn (side : Side ι σ) (before : Option Context) (call : ι × σ) : Turn ι :=
  ⟨before, call.1, (side before call.1 call.2).1, (side before call.1 call.2).2⟩

/-- The turns of a run from a context. -/
def Side.turns (side : Side ι σ) : Option Context → List (ι × σ) → List (Turn ι)
  | _, [] => []
  | before, call :: calls =>
    side.turn before call :: side.turns (side.turn before call).after calls

/-- The context at the end of a run. -/
def Side.ending (side : Side ι σ) (before : Option Context) (calls : List (ι × σ)) :
    Option Context :=
  calls.foldl (fun context call => (side.turn context call).after) before

@[simp] theorem Side.turns_nil (side : Side ι σ) (before : Option Context) :
    side.turns before [] = [] := rfl

@[simp] theorem Side.turns_cons (side : Side ι σ) (before : Option Context) (call : ι × σ)
    (calls : List (ι × σ)) : side.turns before (call :: calls) =
      side.turn before call :: side.turns (side.turn before call).after calls := rfl

@[simp] theorem Side.ending_nil (side : Side ι σ) (before : Option Context) :
    side.ending before [] = before := rfl

@[simp] theorem Side.ending_cons (side : Side ι σ) (before : Option Context) (call : ι × σ)
    (calls : List (ι × σ)) :
    side.ending before (call :: calls) = side.ending (side.turn before call).after calls := rfl

/-- There is a context, and it is established. -/
def IsOpen (context : Option Context) : Prop := context.any Context.isOpen = true

instance (context : Option Context) : Decidable (IsOpen context) :=
  inferInstanceAs (Decidable (_ = _))

theorem exists_of_isOpen {context : Option Context} (h : IsOpen context) :
    ∃ c, context = some c ∧ c.isOpen = true := by
  cases context with
  | none => cases h
  | some c => exact ⟨c, rfl, h⟩

/-- What holds of a single turn, wherever it is taken, holds of each turn of a run. The
context need not be one that a run can lead to, which is what makes this an induction
without an invariant. -/
theorem Side.forall_turns {side : Side ι σ} {P : Turn ι → Prop}
    (hturn : ∀ before call, P (side.turn before call)) (before : Option Context)
    (calls : List (ι × σ)) : ∀ t ∈ side.turns before calls, P t := by
  induction calls generalizing before with
  | nil =>
    intro t ht
    cases ht
  | cons call calls ih =>
    intro t ht
    rcases List.mem_cons.mp ht with rfl | ht
    · exact hturn before call
    · exact ih _ t ht

/-! ## The initiator

The condition for a last step is stated first, in terms of what comes in: a context that
awaits a reply, and a reply that is vouched for. Then every step is shown to be one of
three, and a refused one to lack the condition. Both directions go through `finish`,
whose success is exactly that condition. -/

/-- The arguments of one step of the initiator. -/
structure InitCall where
  target : ServiceName
  wanted : Option Oid
  flags : Flags
  input : Option Bytes

/-- What a reply says, together with the hello it answers. -/
def Said.of (hello : Bytes) (reply : Reply) : Said :=
  ⟨hello, reply.nonce, reply.acceptor, reply.granted⟩

namespace Initiator

/-- The initiator as a side. -/
def side (env : Environment (Action ε σ)) (config : Config) : Side InitCall σ :=
  fun before call world =>
    ((initStep env config before call.target call.wanted call.flags call.input).run world).1

/-- The input is a reply from the service that was called, and it has the proof
that its sender holds the key and saw the same handshake. -/
structure Vouched (config : Config) (hello nonce : Bytes) (target : ServiceName) (input : Bytes)
    (reply : Reply) : Prop where
  decoded : Reply.decode input = .ok reply
  size : reply.nonce.length = Handshake.nonceSize
  service : ∃ acceptor, ServiceName.parse? reply.acceptor = some acceptor ∧
    target.accepts acceptor = true
  proof : reply.proof = Hmac.ofParts (config.key.handshakeKeys nonce reply.nonce).acceptor
    [transcript hello reply.nonce reply.acceptor reply.granted]

/-- The step is the last one, and the acceptor is proven to hold the key. -/
def Proven (config : Config) (before : Option Context) (call : InitCall) : Prop :=
  ∃ context hello nonce requested input reply,
    before = some context ∧ context.phase = .awaitingReply hello nonce requested ∧
      (call.wanted = none ∨ call.wanted = some .psk) ∧ call.input = some input ∧
      Vouched config hello nonce call.target input reply

/-- The hello that is sent reads back. -/
theorem decode_start_output {config : Config} (target : ServiceName) (flags : Flags)
    {nonce : Bytes} (hnonce : nonce.length = Handshake.nonceSize)
    (hname : (Utf8.encode config.name).length < 2 ^ 64)
    (htarget : (Utf8.encode target.text).length < 2 ^ 64) :
    Hello.decode (start config target flags nonce).1.output =
      .ok (hello config target flags nonce) := by
  have hsized : (hello config target flags nonce).Sized := by
    refine ⟨by simp [hello, Oid.psk], hname, htarget, ?_⟩
    rw [hello, hnonce]
    decide
  have hread := Hello.decode_encode_append hsized []
  rw [List.append_nil] at hread
  exact hread

/-- What the last step gives. -/
def finished (config : Config) (context : Context) (now : Instant) (nonce : Bytes)
    (requested : Flags) (said : Said) : Step × Context :=
  let flags := granted requested said.granted
  let proof : Finish :=
    ⟨Hmac.ofParts (config.key.handshakeKeys nonce said.nonce).initiator [said.digest]⟩
  (⟨.complete, proof.encode, flags⟩,
    { context with
      acceptor := said.acceptor
      flags
      phase := .established (Session.start (config.key.sessionKeys said.digest) true flags
        (now.plus? config.lifetime)) })

/-- A reply is taken exactly if it decodes, its nonce has the right size, and its name
is one that the called service accepts. Each of these is one check, in this order. -/
theorem readReply_eq_ok_iff {target : ServiceName} {input : Bytes} {reply : Reply} :
    readReply target input = .ok reply ↔
      Reply.decode input = .ok reply ∧ reply.nonce.length = Handshake.nonceSize ∧
        ∃ acceptor, ServiceName.parse? reply.acceptor = some acceptor ∧
          target.accepts acceptor = true := by
  constructor
  · intro h
    unfold readReply at h
    -- the reader's checks in their order: the decoding, the size, the name, the match
    split at h
    · cases h
    rename_i found hdecode
    split at h
    · cases h
    rename_i hsize
    split at h
    · cases h
    rename_i acceptor hparse
    split at h
    · rename_i haccepts
      cases h
      exact ⟨hdecode, Decidable.not_not.mp hsize, acceptor, hparse, haccepts⟩
    · cases h
  · rintro ⟨hdecode, hsize, acceptor, hparse, haccepts⟩
    rw [readReply, hdecode]
    dsimp only
    rw [if_neg (not_not_intro hsize), hparse]
    dsimp only
    rw [if_pos haccepts]

/-- The last step succeeds exactly on a reply that is vouched for, and its result is
then determined. From left to right the checks are passed one after the other, and each
leaves one conjunct; from right to left the conjuncts decide the checks. -/
theorem finish_eq_ok_iff {config : Config} {context : Context} {target : ServiceName}
    {input : Option Bytes} {now : Instant} {result : Step × Context} :
    finish config context target input now = .ok result ↔
      ∃ hello nonce requested token reply,
        context.phase = .awaitingReply hello nonce requested ∧ input = some token ∧
          Vouched config hello nonce target token reply ∧
          result = finished config context now nonce requested (.of hello reply) := by
  constructor
  · intro h
    unfold finish at h
    split at h
    · rename_i hello nonce requested hphase
      cases input with
      | none => cases h
      | some token =>
        dsimp only [bind, Except.bind] at h
        -- the token is read before its proof is verified, and both may refuse it
        cases hread : readReply target token with
        | error e =>
          rw [hread] at h
          cases h
        | ok reply =>
          rw [hread] at h
          dsimp only at h
          split at h
          · rename_i hverifies
            cases h
            obtain ⟨hdecode, hsize, hservice⟩ := readReply_eq_ok_iff.mp hread
            exact ⟨hello, nonce, requested, token, reply, hphase, rfl,
              ⟨hdecode, hsize, hservice, Hmac.verifies_iff.mp hverifies⟩, rfl⟩
          · cases h
    · cases h
  · rintro ⟨hello, nonce, requested, token, reply, hphase, rfl, hvouched, rfl⟩
    have hread : readReply target token = .ok reply :=
      readReply_eq_ok_iff.mpr ⟨hvouched.decoded, hvouched.size, hvouched.service⟩
    have hverifies := Hmac.verifies_iff.mpr hvouched.proof
    unfold finish
    rw [hphase]
    dsimp only [bind, Except.bind]
    rw [hread]
    dsimp only
    rw [if_pos hverifies]
    rfl

/-- Everything a step of the initiator can do. -/
inductive Took (env : Environment (Action ε σ)) (config : Config) :
    Option Context → InitCall → Step → Option Context → Prop where
  | refused {before : Option Context} {call : InitCall} (status : Status)
      (hnot : ¬ Proven config before call) : Took env config before call (.failure status) before
  | greeted {call : InitCall} {nonce : Bytes} (world : σ)
      (hdraw : ((env.draw Handshake.nonceSize).run world).1 = .ok nonce) :
      Took env config none call (start config call.target call.flags nonce).1
        (some (start config call.target call.flags nonce).2)
  | finished {context : Context} {call : InitCall} {hello nonce token : Bytes}
      {requested : Flags} {reply : Reply} (now : Instant)
      (hphase : context.phase = .awaitingReply hello nonce requested)
      (hwanted : call.wanted = none ∨ call.wanted = some .psk) (hinput : call.input = some token)
      (hvouched : Vouched config hello nonce call.target token reply) :
      Took env config (some context) call
        (Initiator.finished config context now nonce requested (.of hello reply)).1
        (some (Initiator.finished config context now nonce requested (.of hello reply)).2)

section

variable {env : Environment (Action ε σ)} {config : Config}

/-- What a first step comes to: a nonce is drawn, and the hello depends on nothing else
of the world. -/
theorem run_startStep (target : ServiceName) (flags : Flags) (w : σ) :
    ((startStep env config target flags).run w).1 =
      match ((env.draw Handshake.nonceSize).run w).1 with
      | .error e => (.failure (Refusal.noEntropy e).status, none)
      | .ok nonce => ((start config target flags nonce).1,
          some (start config target flags nonce).2) := by
  rw [startStep, Action.run_bind, Context.run_drawNonce]
  cases ((env.draw Handshake.nonceSize).run w).1 <;> rfl

/-- What a later step comes to. The journal is left out, since it does not affect the
result. -/
theorem run_finishStep (context : Context) (target : ServiceName) (input : Option Bytes) (w : σ) :
    ((finishStep env config context target input).run w).1 =
      match finish config context target input (env.now.run w).1 with
      | .ok (step, context') => (step, some context')
      | .error e => (.failure e.status, some context) := by
  rw [finishStep, Action.run_bind]
  cases finish config context target input (env.now.run w).1 with
  | ok result => rfl
  | error e => cases e <;> rfl

/-! The four ways into a step of the initiator, in the order of its checks. -/

theorem wanted_iff (wanted : Option Oid) :
    wanted.any (· ≠ .psk) = true ↔ ¬(wanted = none ∨ wanted = some .psk) := by
  cases wanted <;> simp

theorem initStep_other {wanted : Option Oid} (hother : ¬(wanted = none ∨ wanted = some .psk))
    (before : Option Context) (target : ServiceName) (flags : Flags) (input : Option Bytes) :
    initStep env config before target wanted flags input =
      pure (.failure Refusal.otherMechanism.status, before) := by
  unfold initStep
  rw [if_pos ((wanted_iff wanted).mpr hother)]

theorem initStep_early {wanted : Option Oid} (hwanted : wanted = none ∨ wanted = some .psk)
    (target : ServiceName) (flags : Flags) (token : Bytes) :
    initStep env config none target wanted flags (some token) =
      pure (.failure Refusal.earlyToken.status, none) := by
  unfold initStep
  rw [if_neg fun hany => (wanted_iff wanted).mp hany hwanted]

theorem initStep_first {wanted : Option Oid} (hwanted : wanted = none ∨ wanted = some .psk)
    (target : ServiceName) (flags : Flags) :
    initStep env config none target wanted flags none = startStep env config target flags := by
  unfold initStep
  rw [if_neg fun hany => (wanted_iff wanted).mp hany hwanted]

theorem initStep_later {wanted : Option Oid} (hwanted : wanted = none ∨ wanted = some .psk)
    (context : Context) (target : ServiceName) (flags : Flags) (input : Option Bytes) :
    initStep env config (some context) target wanted flags input =
      finishStep env config context target input := by
  unfold initStep
  rw [if_neg fun hany => (wanted_iff wanted).mp hany hwanted]

theorem side_other (before : Option Context) (call : InitCall) (w : σ)
    (hother : ¬(call.wanted = none ∨ call.wanted = some .psk)) :
    side env config before call w = (.failure Refusal.otherMechanism.status, before) := by
  rw [side, initStep_other hother]
  rfl

theorem side_early (call : InitCall) (w : σ)
    (hwanted : call.wanted = none ∨ call.wanted = some .psk) {token : Bytes}
    (hinput : call.input = some token) :
    side env config none call w = (.failure Refusal.earlyToken.status, none) := by
  rw [side, hinput, initStep_early hwanted]
  rfl

theorem side_first (call : InitCall) (w : σ)
    (hwanted : call.wanted = none ∨ call.wanted = some .psk) (hinput : call.input = none) :
    side env config none call w =
      match ((env.draw Handshake.nonceSize).run w).1 with
      | .error e => (.failure (Refusal.noEntropy e).status, none)
      | .ok nonce => ((start config call.target call.flags nonce).1,
          some (start config call.target call.flags nonce).2) := by
  rw [side, hinput, initStep_first hwanted]
  exact run_startStep call.target call.flags w

theorem side_later (context : Context) (call : InitCall) (w : σ)
    (hwanted : call.wanted = none ∨ call.wanted = some .psk) :
    side env config (some context) call w =
      match finish config context call.target call.input (env.now.run w).1 with
      | .ok (step, context') => (step, some context')
      | .error e => (.failure e.status, some context) := by
  rw [side, initStep_later hwanted]
  exact run_finishStep context call.target call.input w

/-- A step does nothing else. The cases are the checks in their order: the mechanism,
whether there is a context, and whether there is a token. A refusal by a check in front
is not a last step since the condition includes that check; a refusal by `finish` is not
one since success is equivalent to the condition. -/
theorem side_took (before : Option Context) (call : InitCall) (w : σ) :
    Took env config before call (side env config before call w).1
      (side env config before call w).2 := by
  by_cases hwanted : call.wanted = none ∨ call.wanted = some .psk
  · cases before with
    | none =>
      have hnot : ¬ Proven config none call := by
        rintro ⟨_, _, _, _, _, _, hcontext, -⟩
        cases hcontext
      cases hinput : call.input with
      | some token =>
        rw [side_early call w hwanted hinput]
        exact .refused _ hnot
      | none =>
        rw [side_first call w hwanted hinput]
        cases hdraw : ((env.draw Handshake.nonceSize).run w).1 with
        | error e => exact .refused _ hnot
        | ok nonce => exact .greeted w hdraw
    -- there is a context, so everything depends on the reply
    | some context =>
      rw [side_later context call w hwanted]
      cases hfinish : finish config context call.target call.input (env.now.run w).1 with
      | error e =>
        refine .refused _ ?_
        rintro ⟨context', hello, nonce, requested, token, reply, hcontext, hphase, -, hinput,
          hvouched⟩
        cases hcontext
        have hok : finish config context call.target call.input (env.now.run w).1 = .ok _ :=
          finish_eq_ok_iff.mpr
            ⟨hello, nonce, requested, token, reply, hphase, hinput, hvouched, rfl⟩
        rw [hfinish] at hok
        cases hok
      | ok result =>
        obtain ⟨hello, nonce, requested, token, reply, hphase, hinput, hvouched, rfl⟩ :=
          finish_eq_ok_iff.mp hfinish
        exact .finished _ hphase hwanted hinput hvouched
  · rw [side_other before call w hwanted]
    refine .refused _ ?_
    rintro ⟨_, _, _, _, _, _, -, -, hpsk, -⟩
    exact hwanted hpsk

end

end Initiator

/-! ## The acceptor

The acceptor is dealt with in the same way. Its first step can be refused for more
reasons, none of which concerns the condition for the last one: without a context there
is no last step. -/

namespace Acceptor

/-- The acceptor as a side. -/
def side (env : Environment (Action ε σ)) (acceptor : Acceptor) : Side Bytes σ :=
  fun before input world => ((acceptStep env acceptor before input).run world).1

/-- The reply that answers a hello. -/
def answer (acceptor : Acceptor) (hello : Hello) (input nonce : Bytes) : Reply :=
  let granted := grants hello.flags acceptor.confidentiality
  ⟨nonce, acceptor.name.text, granted,
    Hmac.ofParts (acceptor.config.key.handshakeKeys hello.nonce nonce).acceptor
      [transcript input nonce acceptor.name.text granted]⟩

/-- The reply that is sent reads back. -/
theorem decode_reply_output (acceptor : Acceptor) (hello : Hello) (input : Bytes) {nonce : Bytes}
    (hnonce : nonce.length = Handshake.nonceSize)
    (hname : (Utf8.encode acceptor.name.text).length < 2 ^ 64) :
    Reply.decode (acceptor.reply hello input nonce).1.output =
      .ok (acceptor.answer hello input nonce) := by
  have hsized : (acceptor.answer hello input nonce).Sized := by
    refine ⟨?_, hname, ?_⟩
    · rw [answer, hnonce]
      decide
    · rw [answer, Hmac.length_ofParts]
      decide
  have hread := Reply.decode_encode_append hsized []
  rw [List.append_nil] at hread
  exact hread

/-- A hello that is answered was decoded, as the first of the checks. So the names and
the flags in it are those in the bytes that came in. -/
theorem decode_of_readHello {acceptor : Acceptor} {input : Bytes} {hello : Hello}
    (h : acceptor.readHello input = .ok hello) : Hello.decode input = .ok hello := by
  unfold readHello at h
  split at h
  · cases h
  rename_i found hdecode
  rw [hdecode]
  split at h
  · cases h
  split at h
  · cases h
  split at h
  · cases h
  split at h
  · cases h
  split at h
  · cases h
    rfl
  · cases h

/-- The step is the last one, and the initiator is proven to hold the key: the
input is a finish with the code of the stored transcript. -/
def Proven (before : Option Context) (input : Bytes) : Prop :=
  ∃ context digest proofKey finish,
    before = some context ∧ context.phase = .awaitingFinish digest proofKey ∧
      Finish.decode input = .ok finish ∧ finish.proof = Hmac.ofParts proofKey [digest]

/-- What the last step gives. -/
def confirmed (acceptor : Acceptor) (context : Context) (digest : Bytes) (now : Instant) :
    Step × Context :=
  let flags := context.flags ||| onceOpen
  (⟨.complete, [], flags⟩,
    { context with
      flags
      phase := .established (Session.start (acceptor.config.key.sessionKeys digest) false flags
        (now.plus? acceptor.config.lifetime)) })

/-- The last step succeeds exactly on the code of the stored transcript, which was
computed when the reply was made. The finish itself has nothing else to be looked at. -/
theorem confirm_eq_ok_iff {acceptor : Acceptor} {context : Context} {input : Bytes}
    {now : Instant} {result : Step × Context} :
    acceptor.confirm context input now = .ok result ↔
      ∃ digest proofKey finish,
        context.phase = .awaitingFinish digest proofKey ∧ Finish.decode input = .ok finish ∧
          finish.proof = Hmac.ofParts proofKey [digest] ∧
          result = acceptor.confirmed context digest now := by
  constructor
  · intro h
    unfold confirm at h
    split at h
    · rename_i digest proofKey hphase
      cases hdecode : Finish.decode input with
      | error e =>
        rw [hdecode] at h
        cases h
      | ok finish =>
        rw [hdecode] at h
        dsimp only at h
        split at h
        · rename_i hverifies
          cases h
          exact ⟨digest, proofKey, finish, hphase, rfl, Hmac.verifies_iff.mp hverifies, rfl⟩
        · cases h
    · cases h
  · rintro ⟨digest, proofKey, finish, hphase, hdecode, hproof, rfl⟩
    have hverifies := Hmac.verifies_iff.mpr hproof
    unfold confirm
    rw [hphase]
    dsimp only
    rw [hdecode]
    dsimp only
    rw [if_pos hverifies]
    rfl

/-- Everything a step of the acceptor can do. -/
inductive Took (env : Environment (Action ε σ)) (acceptor : Acceptor) :
    Option Context → Bytes → Step → Option Context → Prop where
  | refused {before : Option Context} {input : Bytes} (status : Status)
      (hnot : ¬ Proven before input) : Took env acceptor before input (.failure status) before
  | replied {input nonce : Bytes} {hello : Hello} (world : σ)
      (hhello : acceptor.readHello input = .ok hello)
      (hdraw : ((env.draw Handshake.nonceSize).run world).1 = .ok nonce) :
      Took env acceptor none input (acceptor.reply hello input nonce).1
        (some (acceptor.reply hello input nonce).2)
  | confirmed {context : Context} {input digest proofKey : Bytes} {finish : Finish}
      (now : Instant) (hphase : context.phase = .awaitingFinish digest proofKey)
      (hdecode : Finish.decode input = .ok finish)
      (hproof : finish.proof = Hmac.ofParts proofKey [digest]) :
      Took env acceptor (some context) input (acceptor.confirmed context digest now).1
        (some (acceptor.confirmed context digest now).2)

section

variable {env : Environment (Action ε σ)} {acceptor : Acceptor}

/-- Without a context the input is taken for a hello. If that is refused no nonce is
drawn. -/
theorem side_first (input : Bytes) (w : σ) :
    side env acceptor none input w =
      match acceptor.readHello input with
      | .error e => (.failure e.status, none)
      | .ok hello =>
        match ((env.draw Handshake.nonceSize).run w).1 with
        | .error e => (.failure (Refusal.noEntropy e).status, none)
        | .ok nonce => ((acceptor.reply hello input nonce).1,
            some (acceptor.reply hello input nonce).2) := by
  rw [side, acceptStep, replyStep]
  cases acceptor.readHello input with
  | error e => cases e <;> rfl
  | ok hello =>
    dsimp only
    rw [Action.run_bind, Context.run_drawNonce]
    cases ((env.draw Handshake.nonceSize).run w).1 <;> rfl

/-- On a context the input is taken for a finish. -/
theorem side_later (context : Context) (input : Bytes) (w : σ) :
    side env acceptor (some context) input w =
      match acceptor.confirm context input (env.now.run w).1 with
      | .ok (step, context') => (step, some context')
      | .error e => (.failure e.status, some context) := by
  rw [side, acceptStep, confirmStep, Action.run_bind]
  cases acceptor.confirm context input (env.now.run w).1 <;> rfl

/-- A step does nothing else. There are only two ways into a step here, since an
acceptor is not told a mechanism and always has a token. -/
theorem side_took (before : Option Context) (input : Bytes) (w : σ) :
    Took env acceptor before input (side env acceptor before input w).1
      (side env acceptor before input w).2 := by
  cases before with
  | none =>
    have hnot : ¬ Proven none input := by
      rintro ⟨_, _, _, _, hcontext, -⟩
      cases hcontext
    rw [side_first]
    cases hhello : acceptor.readHello input with
    | error e => exact .refused _ hnot
    | ok hello =>
      dsimp only
      cases hdraw : ((env.draw Handshake.nonceSize).run w).1 with
      | error e => exact .refused _ hnot
      | ok nonce => exact .replied w hhello hdraw
  | some context =>
    rw [side_later]
    cases hconfirm : acceptor.confirm context input (env.now.run w).1 with
    | error e =>
      refine .refused _ ?_
      -- with a proof the step would have succeeded
      rintro ⟨context', digest, proofKey, finish, hcontext, hphase, hdecode, hproof⟩
      cases hcontext
      have hok : acceptor.confirm context input (env.now.run w).1 = .ok _ :=
        confirm_eq_ok_iff.mpr ⟨digest, proofKey, finish, hphase, hdecode, hproof, rfl⟩
      rw [hconfirm] at hok
      cases hok
    | ok result =>
      obtain ⟨digest, proofKey, finish, hphase, hdecode, hproof, rfl⟩ :=
        confirm_eq_ok_iff.mp hconfirm
      exact .confirmed _ hphase hdecode hproof

end

end Acceptor

/-! ## Both together

What it means that the two sides agree, and the run that is meant when tokens arrive as
they were sent. Each call of such a run holds the token that the other side's turn gave,
so the two lists of calls are defined together, turn by turn. -/

/-- Two contexts record the same, and their sessions fit each other. -/
structure Context.Agrees (c c' : Context) : Prop where
  initiator : c.initiator = c'.initiator
  acceptor : c.acceptor = c'.acceptor
  flags : c.flags = c'.flags
  sessions : ∃ s r, c.phase = .established s ∧ c'.phase = .established r ∧ s.Mirrors r

/-- The calls of a handshake in which each token arrives as it was sent, the
initiator's in one world and the acceptor's in another. -/
def relayed (initiator : Side InitCall σ) (acceptor : Side Bytes σ) (target : ServiceName)
    (flags : Flags) (world world' : σ) : List (InitCall × σ) × List (Bytes × σ) :=
  let first : InitCall × σ := (⟨target, none, flags, none⟩, world)
  let hello := initiator.turn none first
  let reply := acceptor.turn none (hello.step.output, world')
  let last : InitCall × σ := (⟨target, none, flags, some reply.step.output⟩, world)
  let finish := initiator.turn hello.after last
  ([first, last], [(hello.step.output, world'), (finish.step.output, world')])

end GssContext.Psk
