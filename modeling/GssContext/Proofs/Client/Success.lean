/-
A session in which every part succeeds.

`Achieved` takes a success apart; here one is put together. Each part of a session
is run by one equation: the operations it asks for give certain values, and so it
does too. The worlds between the operations are named, so nothing is asked of an
operation in any other world than the one in which it is done.
-/
import GssContext.Client.Session
import GssContext.Proofs.Negotiation

set_option autoImplicit false

namespace GssContext

/-- What follows an action goes on with its value where it ended. -/
theorem Action.run_bind_of {ε σ α β : Type} {x : Action ε σ α} {f : α → Action ε σ β} {s s' : σ}
    {a : α} (hx : x.run s = (a, s')) : (x >>= f).run s = (f a).run s' := by
  rw [run_bind, hx]

open GssContext.Action

variable {ε σ ν κ : Type} {mechanism : Mechanism (Action ε σ) ν κ}

/-! ## Rounds

Of the many ways through a round there are two on which a negotiation can succeed: an
answer is needed and comes, or the step completes. Each is a case of the equation for a
round, with all that has to go well as hypotheses. -/

namespace Negotiation

variable {transport : Transport (Action ε σ)} {request : Request ν} {ctx : SecurityContext κ}
  {left round : Nat} {input : Option Bytes} {step : Step} {handle : Option κ} {token : Bytes}
  {w w₁ w₂ w₃ : σ}

/-- A step that needs an answer, and the answer. -/
theorem run_rounds_answered (hleft : left ≠ 0)
    (hstep : (mechanism.initStep ctx.handle request.target request.wanted request.flags input).run w
      = ((step, handle), w₁))
    (hstatus : step.status = .continueNeeded) (hsome : step.output ≠ [])
    (hsent : (transport.send step.output).run w₁ = (.ok (), w₂))
    (hreceived : transport.receive.run w₂ = (.ok token, w₃)) :
    (rounds mechanism transport request (left + 1) round input ctx).run w =
      (rounds mechanism transport request left (round + 1) (some token)
        (ctx.stepped handle)).run w₃ := by
  rw [run_rounds_sent hstep ((run_sendOutput hsome w₁).trans hsent), hstatus]
  dsimp only
  rw [if_neg hleft, hreceived]

theorem run_rounds_completed
    (hstep : (mechanism.initStep ctx.handle request.target request.wanted request.flags input).run w
      = ((step, handle), w₁))
    (hstatus : step.status = .complete) (hsome : step.output ≠ [])
    (hsent : (transport.send step.output).run w₁ = (.ok (), w₂)) :
    (rounds mechanism transport request (left + 1) round input ctx).run w =
      (.ok ((ctx.stepped handle).opened step.granted), w₂) := by
  rw [run_rounds_sent hstep ((run_sendOutput hsome w₁).trans hsent), hstatus]

end Negotiation

/-! ## Messages

The engine's operations on messages do the mechanism's, if the context is open, and keep
what that left of its own context. -/

section

variable {ctx : SecurityContext κ} {before after : κ} {message token : Bytes} {confidential : Bool}
  {w w' : σ}

/-- Whatever the mechanism answers, what it left of its context is held. -/
theorem SecurityContext.run_protect {result : Except Status Wrapped}
    (hopen : ctx.openHandle = .ok before)
    (hwrap : (mechanism.wrap before message confidential).run w = ((result, after), w')) :
    (ctx.protect mechanism message confidential).run w =
      ((result.mapError .rejected, { ctx with handle := some after }), w') := by
  rw [protect, hopen]
  dsimp only
  rw [run_bind_of hwrap]
  cases result with
  | error status => rfl
  | ok wrapped =>
    dsimp only
    split <;> rfl

/-- The same for a code. Why it was rejected is judged by its status. -/
theorem SecurityContext.run_verify {result : Except Status Unit}
    (hopen : ctx.openHandle = .ok before)
    (hverify : (mechanism.verifyMic before message token).run w = ((result, after), w')) :
    (ctx.verify mechanism message token).run w =
      ((result.mapError .ofVerifying, { ctx with handle := some after }), w') := by
  rw [verify, hopen]
  dsimp only
  rw [run_bind_of hverify]
  cases result <;> rfl

end

/-! ## The parts of a session

From here on everything succeeds. Each part is a list of operations, and its equation is
obtained by putting in their values one after the other. -/

namespace Client.Session

variable {surroundings : Surroundings (Action ε σ)} {channel : Channel (Action ε σ)}
  {connector : Connector (Action ε σ)} {ctx ctx' : SecurityContext κ} {config : Config}
  {request : Request} {state : SessionState} {w w₁ w₂ w₃ w₄ : σ}

/-- To note the names changes nothing. -/
theorem run_noteNames (names : List Oid) (w : σ) :
    (noteNames names : Action ε σ Unit).run w = ((), w) := by
  rw [noteNames]
  induction names.zipIdx with
  | nil => rfl
  | cons name rest ih => exact ih

/-- A context is described by what the mechanism tells about it. -/
theorem run_describe {context : κ} {info : ContextInfo} {now : Instant} {names : List Oid}
    (hhandle : ctx.handle = some context)
    (hinquired : (mechanism.inquire context).run w = (.ok info, w₁))
    (hnow : surroundings.now.run w₁ = (now, w₂))
    (hnames : (mechanism.namesFor info.mechanism).run w₂ = (.ok names, w₃)) :
    (describe surroundings mechanism ctx).run w = (.ok info, w₃) := by
  rw [describe, SecurityContext.inquire, hhandle]
  dsimp only
  rw [run_bind_of hinquired]
  dsimp only
  rw [run_bind_of hnow, run_bind_of (run_note _ _), run_bind_of hnames]
  dsimp only
  rw [run_bind_of (run_note _ _), run_bind_of (run_noteNames names w₃)]
  rfl

/-- The message is wrapped, and the token is sent. -/
theorem run_sendMessage {before after : κ} {message : Bytes} {confidential : Bool}
    {wrapped : Wrapped} (hopen : ctx.openHandle = .ok before)
    (hwrap : (mechanism.wrap before message confidential).run w = ((.ok wrapped, after), w₁))
    (hsent : (channel.send wrapped.token).run w₁ = (.ok (), w₂)) :
    (sendMessage channel mechanism ctx message confidential).run w =
      ((.ok wrapped.confidential, .protecting, { ctx with handle := some after }), w₂) := by
  rw [sendMessage, run_bind_of (SecurityContext.run_protect hopen hwrap)]
  dsimp only [Except.mapError]
  rw [run_bind_of hsent]
  rfl

/-- A token comes in, and it verifies. -/
theorem run_receiveSignature {before after : κ} {message signature : Bytes}
    (hopen : ctx.openHandle = .ok before)
    (hreceived : channel.receive.run w = (.ok signature, w₁))
    (hverify : (mechanism.verifyMic before message signature).run w₁ = ((.ok (), after), w₂)) :
    (receiveSignature channel mechanism ctx message).run w =
      ((.ok (), .verifying, { ctx with handle := some after }), w₂) := by
  rw [receiveSignature, run_bind_of hreceived]
  dsimp only
  rw [run_bind_of (SecurityContext.run_verify hopen hverify)]
  rfl

/-- What happens under a context, from its four parts. -/
theorem run_converse {info : ContextInfo} {message : Bytes} {wasConfidential : Bool}
    {sending : SessionState} {sent : SecurityContext κ}
    (hdescribed : (describe surroundings mechanism ctx).run w = (.ok info, w₁))
    (hloaded : (request.payload.load surroundings : Action ε σ _).run w₁ = (.ok message, w₂))
    (hsent : (sendMessage channel mechanism ctx message request.sealed).run w₂ =
      ((.ok wasConfidential, sending, sent), w₃))
    (hverified : (receiveSignature channel mechanism sent message).run w₃ =
      ((.ok (), state, ctx'), w₄)) :
    (converse surroundings channel mechanism request ctx).run w =
      ((.ok ⟨ctx.granted, wasConfidential, info⟩, state, ctx'), w₄) := by
  rw [converse, run_bind_of hdescribed]
  dsimp only
  rw [run_bind_of hloaded]
  dsimp only
  rw [run_bind_of hsent]
  dsimp only
  rw [run_bind_of hverified]
  rfl

/-- Between the connection and its closing. The context is given back whatever came of
it. -/
theorem run_exchange {result : Except SessionError Achievement}
    (hestablished : (Negotiation.establish mechanism channel.toTransport config.maxRounds
      request.service request.flags request.wanted).run w = (.ok ctx, w₁))
    (hconversed : (converse surroundings channel mechanism request ctx).run w₁ =
      ((result, state, ctx'), w₂)) :
    (exchange surroundings channel mechanism config request).run w =
      ((result, state), ((ctx'.release mechanism).run w₂).2) := by
  rw [exchange, run_bind_of hestablished]
  dsimp only
  rw [run_bind_of (run_note _ _), run_bind_of hconversed]
  rfl

/-- From the connection to its closing. How the closing ends makes no difference. -/
theorem run_connectAndExchange {ended : Except SessionError Achievement × SessionState}
    (hconnected : (connector.connect config).run w = (.ok channel, w₁))
    (hexchanged : (exchange surroundings channel mechanism config request).run w₁ = (ended, w₂)) :
    (connectAndExchange surroundings connector mechanism config request).run w =
      (ended, (channel.close.run w₂).2) := by
  obtain ⟨result, state⟩ := ended
  rw [connectAndExchange, run_bind_of hconnected]
  dsimp only
  rw [run_bind_of (run_note _ _), run_bind_of hexchanged]
  dsimp only
  rw [run_bind]
  split <;> rfl

end Client.Session

end GssContext
