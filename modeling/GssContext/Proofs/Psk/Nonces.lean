/-
No two nonces share randomness.

Any number of contexts, of initiators and of acceptors, take their bytes from
one environment, and whoever holds them asks for anything in any order. What is
sent carries a nonce if it is a hello, a reply or a sealed message, and the
nonces are read off what was sent.

Everything follows from what one operation can do to its surroundings, which
`Spends` lists: it draws once at most, after it may have looked at the clock,
and what it sends carries the bytes that were drawn and no others. Checks that
fail after the draw, and draws that fail, waste a piece of the stream. So what
the stream has behind it grows from one operation to the next, and a nonce lies
in the piece by which its own operation made it grow.
-/
import GssContext.Proofs.Psk.Rejection
import GssContext.Proofs.RandomStream
import Mathlib.Logic.Function.Basic

set_option autoImplicit false

namespace GssContext.Psk

variable {ε σ : Type}

/-! ## Nonces in what is sent

What is sent is looked at from outside, as someone would who records it: a hello and a
reply are decoded, and of a sealed message the bytes behind the header are taken. That
these are the bytes which were drawn is part of what is proved. Beside the nonce itself
there is its size, and which operations have none at all. -/

/-- The nonce of a sealed message. -/
def sealedNonce? (token : Bytes) : Option Bytes :=
  match MessageHeader.split? token with
  | some (header, body) =>
    if header.kind? = some .sealed then some (body.take Sealed.nonceSize) else none
  | none => none

namespace Operation

/-- The nonce in what an operation sent, as it is read there. -/
def nonce? : Operation → Response → Option Bytes
  | .initStep _, .stepped ⟨.continueNeeded, output, _⟩ =>
    (Hello.decode output).toOption.map Hello.nonce
  | .acceptStep _, .stepped ⟨.continueNeeded, output, _⟩ =>
    (Reply.decode output).toOption.map Reply.nonce
  | .message (.wrap ..), .answered (.wrapped wrapped) => sealedNonce? wrapped.token
  | _, _ => none

/-- How long a nonce there has to be in what an operation sent. -/
def nonceSize? : Operation → Response → Option Nat
  | .initStep _, .stepped ⟨.continueNeeded, _, _⟩ => some Handshake.nonceSize
  | .acceptStep _, .stepped ⟨.continueNeeded, _, _⟩ => some Handshake.nonceSize
  | .message (.wrap ..), .answered (.wrapped ⟨_, true⟩) => some Sealed.nonceSize
  | _, _ => none

/-- Operations that have no use for randomness: the second step of a handshake,
a step that is refused and not for want of randomness, a message that is not
sealed, and everything else that is done with messages. -/
def Quiet (c : Option Context) (response : Response) : Operation → Prop
  | .initStep _ | .acceptStep _ => c.isSome ∨ response.Refuses
  | .message (.wrap _ confidential) =>
    ∀ s, c.bind Context.session? = some s → s.seals confidential = false
  | .message _ => True

/-- The texts that an operation writes are short enough to be written. Texts in
memory always are. -/
def Sized (config : Config) (acceptor : Acceptor) : Operation → Prop
  | .initStep call =>
    (Utf8.encode config.name).length < 2 ^ 64 ∧ (Utf8.encode call.target.text).length < 2 ^ 64
  | .acceptStep _ => (Utf8.encode acceptor.name.text).length < 2 ^ 64
  | .message _ => True

end Operation

/-- The kind in the header decides whether there is a nonce. -/
theorem sealedNonce?_append (kind : TokenKind) (direction : Direction) (seq : UInt64)
    (body : Bytes) :
    sealedNonce? ((MessageHeader.of kind direction seq).toBytes ++ body) =
      if kind = .sealed then some (body.take Sealed.nonceSize) else none := by
  rw [sealedNonce?, MessageHeader.split?_toBytes_append]
  simp only [Session.kind?_of, Option.some.injEq]

theorem sealedNonce?_wrapToken (key : Bytes) (direction : Direction) (seq : UInt64)
    (message : Bytes) : sealedNonce? (Session.wrapToken key direction seq message) = none := by
  rw [Session.wrapToken, List.append_assoc, sealedNonce?_append, if_neg (by decide)]

/-- A sealed message carries the nonce that it was sealed under. -/
theorem sealedNonce?_sealedToken {key : Bytes} {direction : Direction} {seq : UInt64}
    {nonce message token : Bytes} (hnonce : nonce.length = Sealed.nonceSize)
    (h : Session.sealedToken? key direction seq nonce message = some token) :
    sealedNonce? token = some nonce := by
  obtain ⟨text, -, rfl⟩ := Option.map_eq_some_iff.mp h
  rw [List.append_assoc, sealedNonce?_append, if_pos rfl, List.take_left' hnonce]

/-- A first step that asks for an answer has a use for randomness, and so has one that fails
for want of it: neither comes after another step, and neither is refused for what was
asked. -/
theorem not_quiet_of_first {step : Step}
    (h : step.status = .continueNeeded ∨ step.status = .failure withoutEntropy) :
    ¬ ((none : Option Context).isSome = true ∨ (Response.stepped step).Refuses) := by
  obtain ⟨status, output, granted⟩ := step
  rintro (hlater | hrefuses)
  · cases hlater
  · rcases h with rfl | rfl
    · obtain ⟨_, hrefusal, -⟩ := hrefuses
      cases hrefusal
    · obtain ⟨_, ⟨⟩, hother⟩ := hrefuses
      exact hother rfl

/-! ## What an operation does to its surroundings

An operation is charged for what it drew and credited with the nonce that it sent. There
are four possibilities: nothing was drawn, the draw failed, what was drawn was wasted,
or it was sent. An operation may look at the clock on the way, which does not count.
Three lemmas build such an account from a single draw, or from none, so each operation
below has only to say which of them applies. -/

/-- Nothing happened, but somebody may have looked at the clock. -/
def Looks (env : Environment (Action ε σ)) (w w' : σ) : Prop := w' = w ∨ w' = (env.now.run w).2

/-- What was drawn on the way from `w` to `w'`, and which nonce was sent. -/
inductive Spends (env : Environment (Action ε σ)) (w w' : σ) : Option Bytes → Prop where
  | nothing (hlooks : Looks env w w') : Spends env w w' none
  /-- The draw failed. -/
  | failed {w₀ : σ} {size : Nat} {e : EntropyError} (hlooks : Looks env w w₀)
      (hdraw : (env.draw size).run w₀ = (.error e, w')) : Spends env w w' none
  /-- What was drawn is not sent. -/
  | wasted {w₀ : σ} {size : Nat} {nonce : Bytes} (hlooks : Looks env w w₀)
      (hdraw : (env.draw size).run w₀ = (.ok nonce, w')) : Spends env w w' none
  | sent {w₀ : σ} {size : Nat} {nonce : Bytes} (hlooks : Looks env w w₀)
      (hdraw : (env.draw size).run w₀ = (.ok nonce, w')) : Spends env w w' (some nonce)

/-- An operation's account of the randomness it had. -/
structure Accounted (env : Environment (Action ε σ)) (c : Option Context) (w : σ)
    (operation : Operation) (response : Response) (w' : σ) : Prop where
  spends : Spends env w w' (operation.nonce? response)
  /-- A nonce is there where it has to be and nowhere else, and in its full length. -/
  size : (operation.nonce? response).map List.length = operation.nonceSize? response
  quiet : operation.Quiet c response → Looks env w w'

section

variable {env : Environment (Action ε σ)} {c : Option Context} {w w' w₀ : σ}
  {operation : Operation} {response : Response}

/-- An operation that draws nothing sends no nonce. -/
theorem Accounted.of_looks (hlooks : Looks env w w') (hnone : operation.nonce? response = none)
    (hsize : operation.nonceSize? response = none) :
    Accounted env c w operation response w' where
  spends := by
    rw [hnone]
    exact .nothing hlooks
  size := by
    rw [hnone, hsize]
    rfl
  quiet _ := hlooks

/-- A draw whose bytes are not sent, because it failed or what comes after it did. -/
theorem Accounted.of_draw {size : Nat} (hlooks : Looks env w w₀)
    (hloud : ¬ operation.Quiet c response) (hnone : operation.nonce? response = none)
    (hsize : operation.nonceSize? response = none) :
    Accounted env c w operation response ((env.draw size).run w₀).2 where
  spends := by
    rw [hnone]
    cases hdraw : (env.draw size).run w₀ with
    | mk given w' =>
      cases given with
      | error e => exact .failed hlooks hdraw
      | ok nonce => exact .wasted hlooks hdraw
  size := by
    rw [hnone, hsize]
    rfl
  quiet hquiet := absurd hquiet hloud

/-- A draw whose bytes are sent. -/
theorem Accounted.of_sent (hexact : env.Exact) {size : Nat} {nonce : Bytes}
    (hlooks : Looks env w w₀) (hdraw : ((env.draw size).run w₀).1 = .ok nonce)
    (hloud : ¬ operation.Quiet c response) (hnonce : operation.nonce? response = some nonce)
    (hsize : operation.nonceSize? response = some size) :
    Accounted env c w operation response ((env.draw size).run w₀).2 where
  spends := by
    rw [hnonce]
    exact .sent hlooks (Prod.ext hdraw rfl)
  size := by
    rw [hnonce, hsize, Option.map_some, hexact size w₀ nonce hdraw]
  quiet hquiet := absurd hquiet hloud

/-- A draw moves the surroundings, and the line about a failure does not. -/
theorem Context.state_drawNonce (size : Nat) (w : σ) :
    ((drawNonce env size).run w).2 = ((env.draw size).run w).2 := by
  rw [drawNonce, Action.run_bind]
  cases ((env.draw size).run w).1 <;> rfl

end

/-! ## One operation

Each operation is taken through its checks in their order, and accounted for at each
point where it can end. What was drawn is wasted where a check after the draw fails. In
the handshake there is no such check, so a nonce is drawn exactly for what is sent; in
wrapping there are two. -/

section

variable {env : Environment (Action ε σ)} {config : Config} {acceptor : Acceptor}

/-- The first step of the initiator leaves the world as its draw does. -/
theorem Initiator.state_startStep (target : ServiceName) (flags : Flags) (w : σ) :
    ((startStep env config target flags).run w).2 =
      ((env.draw Handshake.nonceSize).run w).2 := by
  rw [startStep, Action.run_bind, ← Context.state_drawNonce]
  cases ((Context.drawNonce env Handshake.nonceSize).run w).1 <;> rfl

/-- The first step of the initiator draws for its hello; no other does. -/
theorem Initiator.initStep_accounted (hexact : env.Exact) (c : Option Context) (call : InitCall)
    (hsized : (Operation.initStep call).Sized config acceptor) (w : σ) :
    Accounted env c w (.initStep call) (.stepped (side env config c call w).1)
      ((initStep env config c call.target call.wanted call.flags call.input).run w).2 := by
  by_cases hwanted : call.wanted = none ∨ call.wanted = some .psk
  · cases c with
    | none =>
      cases hinput : call.input with
      | some token =>
        rw [side_early call w hwanted hinput, initStep_early hwanted]
        exact .of_looks (.inl rfl) rfl rfl
      | none =>
        rw [side_first call w hwanted hinput, initStep_first hwanted, state_startStep]
        -- nothing is checked after the draw, so it is the draw that decides
        cases hdraw : ((env.draw Handshake.nonceSize).run w).1 with
        | error e =>
          exact .of_draw (.inl rfl) (not_quiet_of_first (.inr rfl)) rfl rfl
        | ok nonce =>
          refine .of_sent hexact (.inl rfl) hdraw (not_quiet_of_first (.inl rfl)) ?_ rfl
          have hread := decode_start_output call.target call.flags
            (hexact _ _ _ hdraw) hsized.1 hsized.2
          exact congrArg (fun found => found.toOption.map Hello.nonce) hread
    | some context =>
      rw [side_later context call w hwanted, initStep_later hwanted, state_finishStep]
      cases hfinish : finish config context call.target call.input (env.now.run w).1 with
      | error e => exact .of_looks (.inr rfl) rfl rfl
      | ok result =>
        obtain ⟨_, _, _, _, _, _, _, _, rfl⟩ := finish_eq_ok_iff.mp hfinish
        exact .of_looks (.inr rfl) rfl rfl
  · rw [side_other c call w hwanted, initStep_other hwanted]
    exact .of_looks (.inl rfl) rfl rfl

/-- The first step of the acceptor does so for a hello that it answers. -/
theorem Acceptor.state_replyStep {input : Bytes} {hello : Hello}
    (hhello : acceptor.readHello input = .ok hello) (w : σ) :
    ((replyStep env acceptor input).run w).2 = ((env.draw Handshake.nonceSize).run w).2 := by
  rw [replyStep, hhello]
  dsimp only
  rw [Action.run_bind, ← Context.state_drawNonce]
  cases ((Context.drawNonce env Handshake.nonceSize).run w).1 <;> rfl

/-- The first step of the acceptor draws for its reply, and only for a hello
that it answers. -/
theorem Acceptor.acceptStep_accounted (hexact : env.Exact) (c : Option Context) (input : Bytes)
    (hname : (Utf8.encode acceptor.name.text).length < 2 ^ 64) (w : σ) :
    Accounted env c w (.acceptStep input) (.stepped (side env acceptor c input w).1)
      ((acceptStep env acceptor c input).run w).2 := by
  cases c with
  | none =>
    rw [side_first, acceptStep]
    cases hhello : acceptor.readHello input with
    | error e =>
      have hstate : ((replyStep env acceptor input).run w).2 = w := by
        rw [replyStep, hhello]
        cases e <;> rfl
      rw [hstate]
      exact .of_looks (.inl rfl) rfl rfl
    | ok hello =>
      rw [state_replyStep hhello]
      dsimp only
      cases hdraw : ((env.draw Handshake.nonceSize).run w).1 with
      | error e =>
        exact .of_draw (.inl rfl) (not_quiet_of_first (.inr rfl)) rfl rfl
      | ok nonce =>
        -- the nonce can be read in the reply, since the reply reads back
        refine .of_sent hexact (.inl rfl) hdraw (not_quiet_of_first (.inl rfl)) ?_ rfl
        have hread := acceptor.decode_reply_output hello input (hexact _ _ _ hdraw) hname
        exact congrArg (fun found => found.toOption.map Reply.nonce) hread
  | some context =>
    rw [side_later, acceptStep, state_confirmStep]
    cases hconfirm : acceptor.confirm context input (env.now.run w).1 with
    | error e => exact .of_looks (.inr rfl) rfl rfl
    | ok result =>
      obtain ⟨_, _, _, _, _, _, rfl⟩ := confirm_eq_ok_iff.mp hconfirm
      exact .of_looks (.inr rfl) rfl rfl

/-- What a wrap does to its surroundings once the context's time is not over. -/
theorem Context.state_wrap {c : Context} {s : Session} (hc : c.phase = .established s) (w : σ)
    (message : Bytes) (confidential : Bool) (hlive : s.checkExpiry (env.now.run w).1 = .ok ()) :
    ((c.wrap env message confidential).run w).2 =
      if s.seals confidential then ((env.draw Sealed.nonceSize).run (env.now.run w).2).2
      else (env.now.run w).2 := by
  simp only [Context.wrap, session_of_established hc, Action.run_bind, hlive]
  by_cases hseals : s.seals confidential = true
  · rw [if_pos hseals, if_pos hseals, Action.run_bind, ← state_drawNonce]
    cases ((drawNonce env Sealed.nonceSize).run (env.now.run w).2).1 <;> rfl
  · rw [if_neg hseals, if_neg hseals]
    cases s.wrapOpen message <;> rfl

/-- A wrap draws if it seals. The bytes are wasted on a message that is too long
and on a counter that is at its end. -/
theorem Context.wrap_accounted (hexact : env.Exact) (c : Context) (message : Bytes)
    (confidential : Bool) (w : σ) :
    Accounted env (some c) w (.message (.wrap message confidential))
      (.answered (.of .wrapped ((c.wrap env message confidential).run w).1.1))
      ((c.wrap env message confidential).run w).2 := by
  cases hsession : c.session? with
  | none =>
    have hclosed : c.session = .error .noContext := by
      rw [Context.session, hsession]
    rw [Context.wrap, hclosed]
    exact .of_looks (.inl rfl) rfl rfl
  | some s =>
    have hc : c.phase = .established s := session?_eq_some_iff.mp hsession
    cases hlive : s.checkExpiry (env.now.run w).1 with
    | error e =>
      rw [run_wrap_expired hc w message confidential hlive]
      exact .of_looks (.inr rfl) rfl rfl
    | ok =>
      rw [run_wrap hc w message confidential hlive, state_wrap hc w message confidential hlive]
      by_cases hseals : s.seals confidential = true
      · rw [if_pos hseals, if_pos hseals]
        have hloud {response : Response} :
            ¬ (Operation.message (.wrap message confidential)).Quiet (some c) response := by
          intro hquiet
          rw [hquiet s hsession] at hseals
          cases hseals
        cases hdraw : ((env.draw Sealed.nonceSize).run (env.now.run w).2).1 with
        | error e => exact .of_draw (.inr rfl) hloud rfl rfl
        | ok nonce =>
          -- two checks come after the draw, of the number and of the message's length
          dsimp only
          rw [Session.wrapSealed_eq]
          by_cases hnumber : s.HasNumber
          · rw [if_pos hnumber]
            cases htoken : Session.sealedToken? s.sendEnc s.outbound s.sendSeq nonce message with
            | none => exact .of_draw (.inr rfl) hloud rfl rfl
            | some token =>
              exact .of_sent hexact (.inr rfl) hdraw hloud
                (sealedNonce?_sealedToken (hexact _ _ _ hdraw) htoken) rfl
          · rw [if_neg hnumber]
            exact .of_draw (.inr rfl) hloud rfl rfl
      · -- in the open nothing is drawn, and the token's kind says that it has no nonce
        rw [if_neg hseals, if_neg hseals, Session.wrapOpen_eq]
        by_cases hnumber : s.HasNumber
        · rw [if_pos hnumber]
          exact .of_looks (.inr rfl) (sealedNonce?_wrapToken s.sendMac s.outbound s.sendSeq message)
            rfl
        · rw [if_neg hnumber]
          exact .of_looks (.inr rfl) rfl rfl

/-- **Every operation accounts for the randomness it had.** The steps of the handshake
and wrapping are dealt with above; the three other calls look at the clock and draw
nothing. -/
theorem Operation.perform_accounted (hexact : env.Exact) (c : Option Context)
    (operation : Operation) (hsized : operation.Sized config acceptor) (w : σ) :
    Accounted env c w operation ((operation.perform env config acceptor c).run w).1.1
      ((operation.perform env config acceptor c).run w).2 := by
  cases operation with
  | initStep call => exact Initiator.initStep_accounted hexact c call hsized w
  | acceptStep input => exact Acceptor.acceptStep_accounted hexact c input hsized w
  | message call =>
    cases c with
    | none =>
      refine .of_looks (.inl rfl) ?_ ?_
      · cases call <;> rfl
      · cases call <;> rfl
    | some c =>
      cases call with
      | wrap message confidential => exact c.wrap_accounted hexact message confidential w
      | getMic message =>
        exact .of_looks (.inr (c.state_timed (fun now => c.getMic now message) w)) rfl rfl
      | unwrap token =>
        exact .of_looks (.inr (c.state_timed (fun now => c.unwrap now token) w)) rfl rfl
      | verifyMic message token =>
        exact .of_looks (.inr (c.state_timed (fun now => c.verifyMic now message token) w)) rfl rfl

end

/-! ## What becomes of the stream

A stream is what a source of randomness has given so far, as a relation between states
and bytes. An account says by what the stream has grown: by nothing, or by one piece,
and in the second case it contains the nonce if one was sent. -/

section

variable {env : Environment (Action ε σ)} {past : σ → Bytes → Prop} {w w' : σ} {p : Bytes}

/-- Looking at the clock advances the stream by nothing. -/
theorem Looks.still_past (h : Looks env w w') (hstreams : env.Streams past) (hpast : past w p) :
    past w' p := by
  rcases h with rfl | rfl
  · exact hpast
  · exact hstreams.now hpast

/-- The stream never goes back, and a nonce that was sent lies in the piece by
which it advanced. -/
theorem Spends.advances {nonce? : Option Bytes} (h : Spends env w w' nonce?)
    (hstreams : env.Streams past) (hpast : past w p) :
    ∃ more, past w' (p ++ more) ∧
      ∀ nonce, nonce? = some nonce → ∃ skipped lost, more = skipped ++ nonce ++ lost := by
  cases h with
  | nothing hlooks =>
    refine ⟨[], ?_, fun nonce h => by cases h⟩
    rw [List.append_nil]
    exact hlooks.still_past hstreams hpast
  | failed hlooks hdraw =>
    -- bytes of the stream may be lost in a draw that fails, and no nonce comes of it
    obtain ⟨lost, hlost⟩ := hstreams.failed (hlooks.still_past hstreams hpast) hdraw
    exact ⟨lost, hlost, fun nonce h => by cases h⟩
  | wasted hlooks hdraw =>
    obtain ⟨skipped, lost, hdrawn⟩ := hstreams.drawn (hlooks.still_past hstreams hpast) hdraw
    exact ⟨_, hdrawn, fun nonce h => by cases h⟩
  | sent hlooks hdraw =>
    obtain ⟨skipped, lost, hdrawn⟩ := hstreams.drawn (hlooks.still_past hstreams hpast) hdraw
    refine ⟨_, hdrawn, ?_⟩
    rintro nonce ⟨⟩
    exact ⟨skipped, lost, rfl⟩

end

/-! ## Many contexts and one environment

The contexts stand in slots, and each errand is an operation on one of them. Between
errands others may use the same environment, as long as they do not put bytes back. So
the positions of two nonces on the stream are compared over everything that happened in
between. That each stands behind the one before it is what keeps them apart, whatever
the bytes on the stream are. -/

/-- An operation on one of the contexts, with the configuration for the one half
of the mechanism and the acceptor for the other. Before it the surroundings may
change: time passes, and others draw. -/
structure Errand (σ : Type) where
  meanwhile : σ → σ
  slot : Nat
  config : Config
  acceptor : Acceptor
  operation : Operation

/-- An errand that was done, with what it found and what it left. -/
structure Performed (σ : Type) where
  operation : Operation
  before : Option Context
  world : σ
  response : Response
  after : Option Context
  left : σ

/-- The nonce that was sent. -/
def Performed.nonce? (s : Performed σ) : Option Bytes := s.operation.nonce? s.response

/-- Do an errand. -/
def Errand.perform (env : Environment (Action ε σ)) (contexts : Nat → Option Context) (w : σ)
    (errand : Errand σ) : Performed σ :=
  let w := errand.meanwhile w
  let done := (errand.operation.perform env errand.config errand.acceptor
    (contexts errand.slot)).run w
  ⟨errand.operation, contexts errand.slot, w, done.1.1, done.1.2, done.2⟩

/-- Do errands one after the other, each on the context in its slot. -/
def Errand.performAll (env : Environment (Action ε σ)) :
    (Nat → Option Context) → σ → List (Errand σ) → List (Performed σ) × σ
  | _, w, [] => ([], w)
  | contexts, w, errand :: rest =>
    let performed := errand.perform env contexts w
    let later := performAll env (Function.update contexts errand.slot performed.after)
      performed.left rest
    (performed :: later.1, later.2)

/-- The texts of an errand are short enough to be written. -/
def Errand.Sized (errand : Errand σ) : Prop :=
  errand.operation.Sized errand.config errand.acceptor

/-- What others do before an errand only takes from the stream. -/
def Errand.Forward (past : σ → Bytes → Prop) (errand : Errand σ) : Prop :=
  ∀ w p, past w p → ∃ more, past (errand.meanwhile w) (p ++ more)

/-- What holds of the nonces that were sent while a stream went from `p` to where it is in
the state `w`. -/
structure NoncesApart (past : σ → Bytes → Prop) (p : Bytes) (performed : List (Performed σ))
    (w : σ) : Prop where
  /-- In the order in which they were sent they stand on the stream, each after the end of
  the one before it. -/
  apart : ∃ more, past w (p ++ more) ∧
    Laid (p ++ more) p.length (performed.filterMap Performed.nonce?)
  /-- What has no use for randomness does not advance the stream. -/
  quiet : ∀ s ∈ performed, s.operation.Quiet s.before s.response →
    ∀ p, past s.world p → past s.left p

section

variable {env : Environment (Action ε σ)}

/-- Each errand of a run accounts for its randomness, in the world in which it was done. -/
theorem performAll_accounted (hexact : env.Exact) (contexts : Nat → Option Context) (w : σ)
    (errands : List (Errand σ)) (hsized : ∀ errand ∈ errands, errand.Sized) :
    ∀ s ∈ (Errand.performAll env contexts w errands).1,
      Accounted env s.before s.world s.operation s.response s.left := by
  induction errands generalizing contexts w with
  | nil =>
    intro s hs
    cases hs
  | cons errand rest ih =>
    obtain ⟨hfirst, hrest⟩ := List.forall_mem_cons.mp hsized
    intro s hs
    rcases List.mem_cons.mp hs with rfl | hs
    · exact errand.operation.perform_accounted hexact _ hfirst _
    · exact ih _ _ hrest s hs

/-- The induction is on the errands. The nonce of the first one ends where the stream is
before the others begin. -/
theorem exists_laid_performAll {past : σ → Bytes → Prop} (hstreams : env.Streams past)
    (contexts : Nat → Option Context) (w : σ) (errands : List (Errand σ))
    (hforward : ∀ errand ∈ errands, errand.Forward past)
    (haccounted : ∀ s ∈ (Errand.performAll env contexts w errands).1,
      Accounted env s.before s.world s.operation s.response s.left)
    {p : Bytes} (hpast : past w p) :
    ∃ more, past (Errand.performAll env contexts w errands).2 (p ++ more) ∧
      Laid (p ++ more) p.length
        ((Errand.performAll env contexts w errands).1.filterMap Performed.nonce?) := by
  induction errands generalizing contexts w p with
  | nil => exact ⟨[], by rwa [List.append_nil], laid_nil _ _⟩
  | cons errand rest ih =>
    obtain ⟨hmeanwhile, hforward⟩ := List.forall_mem_cons.mp hforward
    obtain ⟨hfirst, haccounted⟩ := List.forall_mem_cons.mp haccounted
    obtain ⟨others, hothers⟩ := hmeanwhile w p hpast
    obtain ⟨own, hown, hnonce⟩ := hfirst.spends.advances hstreams hothers
    obtain ⟨later, hlater, hlaid⟩ := ih _ _ hforward haccounted hown
    -- the stream went on three times: for others, for this errand, and for those after it
    simp only [List.append_assoc] at hlater hlaid
    refine ⟨others ++ (own ++ later), hlater, ?_⟩
    rw [Errand.performAll]
    dsimp only
    cases hsent : (errand.perform env contexts w).nonce? with
    | none =>
      rw [List.filterMap_cons_none hsent]
      exact hlaid.mono (by simp only [List.length_append]; omega)
    | some nonce =>
      rw [List.filterMap_cons_some hsent]
      obtain ⟨skipped, lost, rfl⟩ := hnonce nonce hsent
      have hplaces : p ++ (others ++ (skipped ++ nonce ++ lost ++ later)) =
          (p ++ others ++ skipped) ++ nonce ++ (lost ++ later) := by
        simp only [List.append_assoc]
      -- it stands behind what others took before it, and in front of what was lost
      rw [hplaces] at hlaid ⊢
      refine (hlaid.cons ?_).mono ?_
      · simp only [List.length_append]
        omega
      · simp only [List.length_append]
        omega

end

/-- **No two nonces share randomness.** Any number of contexts share an environment, and any
operations are performed on them in any order. Each of them draws once at most. The nonces
of hellos, replies and sealed messages are what was drawn for them, in their full length,
and they stand on the environment's stream in the order in which they were sent, each after
the end of the one before it. Refused hellos, second steps of a handshake, messages in the
open and everything that takes a message or makes a code advance the stream by nothing. -/
theorem nonces_apart (env : Environment (Action ε σ)) (hexact : env.Exact)
    (contexts : Nat → Option Context) (w : σ) (errands : List (Errand σ))
    (hsized : ∀ errand ∈ errands, errand.Sized) :
    let done := Errand.performAll env contexts w errands
    (∀ s ∈ done.1, Accounted env s.before s.world s.operation s.response s.left) ∧
    ∀ past : σ → Bytes → Prop, env.Streams past →
      (∀ errand ∈ errands, errand.Forward past) →
      ∀ p, past w p → NoncesApart past p done.1 done.2 := by
  intro done
  have haccounted := performAll_accounted hexact contexts w errands hsized
  refine ⟨haccounted, fun past hstreams hforward p hpast => ?_⟩
  exact
    { apart := exists_laid_performAll hstreams contexts w errands hforward haccounted hpast
      quiet := fun s hs hquiet _ => ((haccounted s hs).quiet hquiet).still_past hstreams }

/-- An initiator says hello and an acceptor, after bytes that are no hello, replies; five
seconds later a message is sealed, another one is signed, and a second initiator is to say
hello. From a supply that is too short for that the three nonces are the supply up to there.
From a seed the nonces stand on its keystream. -/
theorem nonces_apart_of_two_sources :
    let key : PreSharedKey := ⟨List.replicate 16 7, Nat.le_refl 16⟩
    let config : Config := ⟨key, "alice", Config.defaultLifetime⟩
    let service : ServiceName := ⟨"echo", some "host"⟩
    let acceptor : Acceptor := ⟨⟨key, "echo@host", Config.defaultLifetime⟩, service, true⟩
    let env : Environment (Action Empty Simulated) := Simulated.environment
    let nonces : List Bytes := [List.replicate 32 1, List.replicate 32 2, List.replicate 24 3]
    let supply : Bytes := nonces.flatten ++ List.replicate 31 4
    let session := Session.start ⟨[1], [2], [3], [4]⟩ true (.of [.confidentiality]) none
    let contexts := Function.update (fun _ => none) 2
      (some ⟨"alice", "echo@host", true, .empty, .established session⟩)
    let hello := (Initiator.start config service .empty (List.replicate 32 1)).1.output
    let errands : List (Errand Simulated) :=
      [⟨id, 0, config, acceptor, .initStep ⟨service, none, .empty, none⟩⟩,
        ⟨id, 1, config, acceptor, .acceptStep [1, 2, 3]⟩,
        ⟨id, 1, config, acceptor, .acceptStep hello⟩,
        ⟨Simulated.advance (.ofSeconds 5), 2, config, acceptor, .message (.wrap [5] true)⟩,
        ⟨id, 2, config, acceptor, .message (.getMic [5])⟩,
        ⟨id, 3, config, acceptor, .initStep ⟨service, none, .empty, none⟩⟩]
    let supplied := Errand.performAll env contexts (Simulated.ofSupply supply) errands
    let streamed := Errand.performAll env contexts (Simulated.ofSeed 7) errands
    supplied.1.filterMap Performed.nonce? = nonces ∧
      NoncesApart (Simulated.Supplied supply) [] supplied.1 supplied.2 ∧
      NoncesApart (Simulated.Streamed (WordStream.ofSeed 7).key) [] streamed.1 streamed.2 := by
  intro key config service acceptor env nonces supply session contexts hello errands supplied
    streamed
  have hsized : ∀ errand ∈ errands, errand.Sized := by
    have hhello : (Utf8.encode config.name).length < 2 ^ 64 ∧
        (Utf8.encode service.text).length < 2 ^ 64 := by decide
    have hreply : (Utf8.encode acceptor.name.text).length < 2 ^ 64 := by decide
    simp only [errands, List.forall_mem_cons]
    exact ⟨hhello, hreply, hreply, trivial, trivial, hhello, List.forall_mem_nil _⟩
  -- between the errands time passes once, and nobody else draws
  have hforward (past : Simulated → Bytes → Prop)
      (hclock : ∀ span s p, past s p → past (s.advance span) p) :
      ∀ errand ∈ errands, errand.Forward past := by
    have hsame (f : Simulated → Simulated) (hf : ∀ s p, past s p → past (f s) p) (s : Simulated)
        (p : Bytes) (h : past s p) : ∃ more, past (f s) (p ++ more) :=
      ⟨[], by rw [List.append_nil]; exact hf s p h⟩
    simp only [errands, List.forall_mem_cons]
    exact ⟨hsame id fun _ _ h => h, hsame id fun _ _ h => h, hsame id fun _ _ h => h,
      hsame _ (hclock _), hsame id fun _ _ h => h, hsame id fun _ _ h => h,
      List.forall_mem_nil _⟩
  refine ⟨by decide +kernel, ?_, ?_⟩
  · exact (nonces_apart env Simulated.environment_exact contexts _ errands hsized).2 _
      (Simulated.streams_supplied supply) (hforward _ fun _ _ _ h => h) [] ⟨supply, rfl, rfl⟩
  · exact (nonces_apart env Simulated.environment_exact contexts _ errands hsized).2 _
      (Simulated.streams_streamed _) (hforward _ fun _ _ _ h => h) [] ⟨0, rfl, rfl⟩

end GssContext.Psk
