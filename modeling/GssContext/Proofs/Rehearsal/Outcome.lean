/-
How a negotiation with an acceptor in memory ends.

The two halves of the mechanism, the link between them and the rounds of the
negotiation together. Which of the ends is reached depends on the text of the
target, the number of rounds, the mechanism that is asked for and the service,
in this order. Where a context is established, both sides record the same.

The steps of the two sides are those of a handshake in which every token
arrives; here they are put into the rounds, one after the other.
-/
import GssContext.Proofs.Negotiation
import GssContext.Proofs.Psk.Honest
import GssContext.Proofs.Rehearsal.Link
import GssContext.Rehearsal.Engagement

set_option autoImplicit false

namespace GssContext.Rehearsal.Link

open Psk

variable {ε σ : Type}

/-! ## The two sides as the negotiation sees them

The negotiation is run on a state of two parts. The initiator works on the one, and the
link with the acceptor in it is the other. So a step leaves the link as it is, and to
send leaves the initiator. -/

/-- The initiator beside a link. -/
def initiator (env : Environment (Action ε σ)) (config : Config) :
    Mechanism (Action ε (σ × Link)) ServiceName Context :=
  (Initiator.mechanism env config).hoist Action.onFst

/-- The link beside an initiator. -/
def beside : Transport (Action ε (σ × Link)) :=
  ⟨fun token => Action.onSnd (send token), Action.onSnd receive⟩

/-- A link before its first token. -/
def fresh (acceptor : Acceptor) (env : Simulated) : Link := { acceptor, env }

section

variable (env : Environment (Action ε σ)) (config : Config) (w : σ) (l : Link)

theorem run_importName (text : String) (s : σ × Link) :
    ((initiator env config).importName text).run s = (ServiceName.parse text, s) := rfl

/-- A step of the initiator leaves the link. -/
theorem run_initStep (context : Option Context) (call : InitCall) :
    ∃ w', ((initiator env config).initStep context call.target call.wanted call.flags
        call.input).run (w, l) = (Initiator.side env config context call w, (w', l)) :=
  ⟨_, rfl⟩

theorem state_release (ctx : SecurityContext Context) (s : σ × Link) :
    ((ctx.release (initiator env config)).run s).2 = s := by
  rw [SecurityContext.release]
  cases ctx.handle <;> rfl

/-- Sending a token to the link is a step of its acceptor. -/
theorem run_sendOutput_beside {output : Bytes} (hne : output ≠ []) {step : Step}
    {context : Option Context}
    (hstep : l.acceptor.side (environment : Environment (Action ε Link)) l.context output l =
      (step, context)) :
    ∃ sim, (Negotiation.sendOutput beside output : Action ε (σ × Link) _).run (w, l) =
      (.ok (), (w, l.after sim step context)) := by
  obtain ⟨sim, hsend⟩ := run_send hne hstep
  refine ⟨sim, ?_⟩
  rw [Negotiation.run_sendOutput hne, beside, Action.run_onSnd, hsend]

end

/-! ## How it has to end

The order of the checks is written down as a definition, from the text of the target to
the service that is asked for. What can be said of the link is said along with each end:
as long as no token was sent it is untouched. -/

/-- Both sides hold an open context, and the two record the same. Nothing is
left to receive and no step of the acceptor failed. -/
structure Established (config : Config) (acceptor : Acceptor) (flags : Flags)
    (ctx : SecurityContext Context) (l : Link) : Prop where
  isOpen : ctx.isOpen = true
  granted : ctx.granted = flags
  contexts : ∃ c c', ctx.handle = some c ∧ l.context = some c' ∧
    c.isOpen = true ∧ c'.isOpen = true ∧ c.Agrees c' ∧
    c.initiator = config.name ∧ c.acceptor = acceptor.name.text ∧ c.flags = flags ∧
    c.locallyInitiated = true ∧ c'.locallyInitiated = false
  replies : l.replies = []
  failure : l.failure = none

/-- The end of a negotiation, by the first of the checks that is not met. Until
a token is sent the link is as it was. -/
def Ends (config : Config) (acceptor : Acceptor) (call : Engagement.Call) (l : Link)
    (result : Except NegotiationError (SecurityContext Context)) (l' : Link) : Prop :=
  match ServiceName.parse? call.target with
  | none => result = .error (.badName ⟨.badName, 0⟩) ∧ l' = l
  | some target =>
    if call.maxRounds = 0 then result = .error (.tooManyRounds 0) ∧ l' = l
    else if ¬(call.wanted = none ∨ call.wanted = some .psk) then
      result = .error (.rejected ⟨.badMech, 0⟩) ∧ l' = l
    else if call.maxRounds = 1 then result = .error (.tooManyRounds 1)
    else if target.accepts acceptor.name then
      ∃ ctx, result = .ok ctx ∧
        Established config acceptor (finalFlags call.flags acceptor.confidentiality) ctx l'
    else
      result = .error (.transport (.io (.ofKind .unexpectedEof))) ∧
        l'.failure = some ⟨.noCred, Minor.unknownTarget⟩

/-! ## The two rounds

A negotiation that succeeds has two rounds, and one that fails has one or none. The
first round is the same in all cases up to what the acceptor did with the hello; that is
a parameter of the lemma, so it serves for an answer and for a refusal. -/

section

variable {env : Environment (Action ε σ)} {config : Config} {acceptor : Acceptor}
  {w : σ} {sim : Simulated} {nonce nonce' : Bytes} {target : ServiceName}

/-- What has to be there for a negotiation: two sides that can meet, and
randomness on either side. -/
structure Ready (env : Environment (Action ε σ)) (config : Config) (acceptor : Acceptor)
    (target : ServiceName) (w : σ) (sim : Simulated) (nonce nonce' : Bytes) : Prop where
  meeting : Meeting config acceptor target
  draw : ((env.draw Handshake.nonceSize).run w).1 = .ok nonce
  draw' : (sim.draw Handshake.nonceSize).1 = .ok nonce'
  size : nonce.length = Handshake.nonceSize
  size' : nonce'.length = Handshake.nonceSize

variable (request : Negotiation.Request ServiceName) (left : Nat)

/-- The context after the first step. -/
def awaiting (config : Config) (nonce : Bytes) : SecurityContext Context :=
  SecurityContext.new.stepped (some (greeted config request.target request.flags nonce).2)

/-- The first round sends the hello. If it was not the last one that is
allowed, the reply is awaited. -/
theorem run_first_round (h : Ready env config acceptor request.target w sim nonce nonce')
    (hwanted : request.wanted = none ∨ request.wanted = some .psk) {step : Step}
    {context : Option Context}
    (hstep : acceptor.side (environment : Environment (Action ε Link)) none
      (greeted config request.target request.flags nonce).1.output (fresh acceptor sim) =
        (step, context)) :
    ∃ w' sim', (Negotiation.rounds (initiator env config) beside request (left + 1) 1 none
        .new).run (w, fresh acceptor sim) =
      if left = 0 then
        (.error (.tooManyRounds request.maxRounds),
          (w', (fresh acceptor sim).after sim' step context))
      else
        match (beside : Transport (Action ε (σ × Link))).receive.run
            (w', (fresh acceptor sim).after sim' step context) with
        | (.error e, s) => (.error (.transport e), s)
        | (.ok token, s) =>
          (Negotiation.rounds (initiator env config) beside request left 2 (some token)
            (awaiting request config nonce)).run s := by
  obtain ⟨w', hinit⟩ := run_initStep env config w (fresh acceptor sim) none
    ⟨request.target, request.wanted, request.flags, none⟩
  rw [Meeting.side_greets _ hwanted rfl h.draw] at hinit
  have hne : (greeted config request.target request.flags nonce).1.output ≠ [] :=
    Cbor.writeRecord_ne_nil _
  -- the acceptor's step happens while the hello is sent, since the link calls it then
  obtain ⟨sim', hsent⟩ := run_sendOutput_beside w' (fresh acceptor sim) hne hstep
  refine ⟨w', sim', ?_⟩
  have hstatus : (greeted config request.target request.flags nonce).1.status =
      .continueNeeded := rfl
  rw [Negotiation.run_rounds_sent hinit hsent, hstatus]
  dsimp only
  by_cases hleft : left = 0
  · rw [if_pos hleft, if_pos hleft, state_release]
  · rw [if_neg hleft, if_neg hleft]
    obtain ⟨received, s⟩ := (beside : Transport (Action ε (σ × Link))).receive.run
      (w', (fresh acceptor sim).after sim' step context)
    cases received with
    | error e =>
      dsimp only
      rw [state_release]
    | ok token => rfl

/-- The last round sends the finish, and the link's acceptor confirms it. The initiator
is open before that and does not learn of it. -/
theorem run_last_round (env : Environment (Action ε σ)) (w : σ) (l : Link)
    (h : Meeting config acceptor request.target)
    (haccepts : request.target.accepts acceptor.name = true)
    (hsize' : nonce'.length = Handshake.nonceSize)
    (hwanted : request.wanted = none ∨ request.wanted = some .psk)
    (hacceptor : l.acceptor = acceptor)
    (hcontext : l.context =
      some (answered config acceptor request.target request.flags nonce nonce').2) :
    ∃ w' sim' now now', (Negotiation.rounds (initiator env config) beside request (left + 1) 2
        (some (answered config acceptor request.target request.flags nonce nonce').1.output)
        (awaiting request config nonce)).run (w, l) =
      (.ok (((awaiting request config nonce).stepped
          (some (concluded config acceptor request.target request.flags nonce nonce' now).2)).opened
            (concluded config acceptor request.target request.flags nonce nonce' now).1.granted),
        (w', l.after sim'
          (settled config acceptor request.target request.flags nonce nonce' now').1
          (some (settled config acceptor request.target request.flags nonce nonce' now').2))) := by
  obtain ⟨w', hinit⟩ := run_initStep env config w l
    (some (greeted config request.target request.flags nonce).2)
    ⟨request.target, request.wanted, request.flags,
      some (answered config acceptor request.target request.flags nonce nonce').1.output⟩
  rw [h.side_concludes haccepts hsize' _ hwanted rfl rfl] at hinit
  have hne : (concluded config acceptor request.target request.flags nonce nonce'
      (env.now.run w).1).1.output ≠ [] := Cbor.writeRecord_ne_nil _
  have hstep : l.acceptor.side (environment : Environment (Action ε Link)) l.context
      (concluded config acceptor request.target request.flags nonce nonce'
        (env.now.run w).1).1.output l =
      ((settled config acceptor request.target request.flags nonce nonce'
          ((environment : Environment (Action ε Link)).now.run l).1).1,
        some (settled config acceptor request.target request.flags nonce nonce'
          ((environment : Environment (Action ε Link)).now.run l).1).2) := by
    rw [hacceptor, hcontext]
    exact h.side_settles
  -- and again the acceptor answers as it is handed the token
  obtain ⟨sim', hsent⟩ := run_sendOutput_beside w' l hne hstep
  exact ⟨w', sim', _, _, Negotiation.run_rounds_sent hinit hsent⟩

/-- With the mechanism of another, the first step is refused. -/
theorem run_otherMechanism (hother : ¬(request.wanted = none ∨ request.wanted = some .psk))
    (l : Link) :
    ∃ w', (Negotiation.rounds (initiator env config) beside request (left + 1) 1 none .new).run
        (w, l) = (.error (.rejected Refusal.otherMechanism.status), (w', l)) := by
  obtain ⟨w', hinit⟩ := run_initStep env config w l none
    ⟨request.target, request.wanted, request.flags, none⟩
  rw [Initiator.side_other none _ w hother] at hinit
  refine ⟨w', ?_⟩
  rw [Negotiation.run_rounds_sent hinit (Negotiation.run_sendOutput_nil beside (w', l))]
  rw [Step.failure, state_release]

/-- With one round the hello is sent, and nothing waits for the reply. -/
theorem run_one_round (h : Ready env config acceptor request.target w sim nonce nonce')
    (hwanted : request.wanted = none ∨ request.wanted = some .psk) :
    ((Negotiation.rounds (initiator env config) beside request 1 1 none .new).run
      (w, fresh acceptor sim)).1 = .error (.tooManyRounds request.maxRounds) := by
  obtain ⟨w', sim', hfirst⟩ := run_first_round request 0 h hwanted rfl
  rw [hfirst, if_pos rfl]

/-- A service that the acceptor is not gets no reply, and the link keeps the
reason. -/
theorem run_otherTarget (h : Ready env config acceptor request.target w sim nonce nonce')
    (hwanted : request.wanted = none ∨ request.wanted = some .psk)
    (hother : ¬ request.target.accepts acceptor.name = true) :
    ∃ w' l, (Negotiation.rounds (initiator env config) beside request (left + 2) 1 none .new).run
        (w, fresh acceptor sim) =
        (.error (.transport (.io (.ofKind .unexpectedEof))), (w', l)) ∧
      l.failure = some (Refusal.unknownTarget request.target).status := by
  obtain ⟨w', sim', hfirst⟩ := run_first_round request (left + 1) h hwanted
    (h.meeting.side_refuses hother h.size)
  rw [if_neg (Nat.succ_ne_zero left)] at hfirst
  -- the step that failed queued nothing, so there is nothing to receive
  let l : Link := (fresh acceptor sim).after sim'
    (.failure (Refusal.unknownTarget request.target).status) none
  have hreceive := run_receive_nil (ε := ε) (l := l) rfl
  refine ⟨w', l, ?_, rfl⟩
  rw [hfirst, beside, Action.run_onSnd, hreceive]

/-- With the acceptor's own service and two rounds, there is a context. The first round
brings the reply, the second one completes, and both sides hold the keys of one session. -/
theorem run_ownTarget (h : Ready env config acceptor request.target w sim nonce nonce')
    (hwanted : request.wanted = none ∨ request.wanted = some .psk)
    (haccepts : request.target.accepts acceptor.name = true) :
    ∃ ctx s, (Negotiation.rounds (initiator env config) beside request (left + 2) 1 none .new).run
        (w, fresh acceptor sim) = (.ok ctx, s) ∧
      Established config acceptor (grants request.flags acceptor.confidentiality ||| onceOpen)
        ctx s.2 := by
  have hdraw' : (((environment : Environment (Action ε Link)).draw Handshake.nonceSize).run
      (fresh acceptor sim)).1 = .ok nonce' := h.draw'
  obtain ⟨w', sim', hfirst⟩ := run_first_round request (left + 1) h hwanted
    (h.meeting.side_answers haccepts h.size hdraw')
  rw [if_neg (Nat.succ_ne_zero left)] at hfirst
  -- after the first round the reply is the only token that waits
  let reply := answered config acceptor request.target request.flags nonce nonce'
  have hreply : reply.1.output ≠ [] := Cbor.writeRecord_ne_nil _
  let l : Link := (fresh acceptor sim).after sim' reply.1 (some reply.2)
  have hreplies : l.replies = [reply.1.output] := by
    change (if reply.1.output = [] then [] else [] ++ [reply.1.output]) = _
    rw [if_neg hreply, List.nil_append]
  have hreceive := run_receive_cons (ε := ε) hreplies
  obtain ⟨w'', sim'', now, now', hlast⟩ := run_last_round request left env w'
    { l with replies := [] } h.meeting haccepts h.size' hwanted rfl rfl
  -- and after the last one both sides have what the handshake leaves them
  let finish := concluded config acceptor request.target request.flags nonce nonce' now
  let last := settled config acceptor request.target request.flags nonce nonce' now'
  have hagrees : finish.2.Agrees last.2 := h.meeting.agrees
  have hflags : finish.2.flags = grants request.flags acceptor.confidentiality ||| onceOpen :=
    granted_grants request.flags acceptor.confidentiality
  let ctx := ((awaiting request config nonce).stepped (some finish.2)).opened finish.1.granted
  let l' := Link.after { l with replies := [] } sim'' last.1 (some last.2)
  refine ⟨ctx, (w'', l'), ?_, ?_⟩
  · rw [hfirst, beside, Action.run_onSnd, hreceive]
    exact hlast
  · exact {
      isOpen := rfl
      granted := hflags
      contexts := ⟨finish.2, last.2, rfl, rfl, rfl, rfl, hagrees, rfl, rfl, hflags, rfl, rfl⟩
      replies := rfl
      failure := rfl }

end

/-! ## Establishing a context

The rounds are put behind the reading of the name, and the case analysis is the one of
the definition. With exact randomness on both sides there is a nonce for each, and then
everything else is determined. -/

/-- What two sides with one key and enough randomness bring to a negotiation
is all that the rounds need. -/
theorem ready_of_parse? {ε σ : Type} {env : Environment (Action ε σ)} (hexact : env.Exact)
    {config : Config} {acceptor : Acceptor} (hkey : config.key = acceptor.config.key)
    (hown : ServiceName.parse? acceptor.config.name = some acceptor.name) {w : σ} {sim : Simulated}
    (hsupplies : env.Supplies Handshake.nonceSize w)
    (hsupplies' : (Simulated.environment : Environment (Action ε Simulated)).Supplies
      Handshake.nonceSize sim)
    {text : String} {target : ServiceName} (htarget : ServiceName.parse? text = some target)
    (hinitiatorFits : (Utf8.encode config.name).length < 2 ^ 64)
    (hownFits : (Utf8.encode acceptor.config.name).length < 2 ^ 64)
    (htargetFits : (Utf8.encode text).length < 2 ^ 64) :
    ∃ nonce nonce', Ready env config acceptor target w sim nonce nonce' := by
  obtain ⟨nonce, hdraw⟩ := hsupplies
  obtain ⟨nonce', hdraw'⟩ := hsupplies'
  exact ⟨nonce, nonce', {
    meeting := {
      key := hkey
      targetName := ServiceName.parse?_text htarget
      ownName := ServiceName.parse?_text hown
      initiatorFits := hinitiatorFits
      targetFits := by
        rw [ServiceName.length_encode_text htarget]
        exact htargetFits
      ownFits := by
        rw [ServiceName.length_encode_text hown]
        exact hownFits }
    draw := hdraw
    draw' := hdraw'
    size := hexact _ _ _ hdraw
    size' := Simulated.environment_exact _ _ _ hdraw' }⟩

/-- An acceptor that could be made has its configuration and a name. -/
theorem of_eq_ok {config : Config} {confidentiality : Bool} {acceptor : Acceptor}
    (h : Acceptor.of config confidentiality = .ok acceptor) :
    acceptor.config = config ∧ ServiceName.parse? config.name = some acceptor.name ∧
      acceptor.confidentiality = confidentiality := by
  rw [Acceptor.of, ServiceName.parse] at h
  cases hname : ServiceName.parse? config.name with
  | none =>
    rw [hname] at h
    cases h
  | some name =>
    rw [hname] at h
    cases h
    exact ⟨rfl, rfl, rfl⟩

/-- The rounds of a request, once its target is a name. By cases of the bound: none,
one, or at least two, and then by what is asked for. -/
theorem run_rounds_ends {ε σ : Type} {env : Environment (Action ε σ)} {config : Config}
    {acceptor : Acceptor} {target : ServiceName} {w : σ} {sim : Simulated} {nonce nonce' : Bytes}
    (h : Ready env config acceptor target w sim nonce nonce') {call : Engagement.Call}
    (htarget : ServiceName.parse? call.target = some target)
    {done : Except NegotiationError (SecurityContext Context) × σ × Link}
    (hdone : (Negotiation.rounds (initiator env config) beside
      ⟨target, call.wanted, call.flags ||| .of [.replay], call.maxRounds⟩ call.maxRounds 1 none
      .new).run (w, fresh acceptor sim) = done) :
    Ends config acceptor call (fresh acceptor sim) done.1 done.2.2 := by
  obtain ⟨text, flags, wanted, maxRounds⟩ := call
  rw [Ends, htarget]
  dsimp only at hdone ⊢
  -- the cases are those of `Ends`: no round or one, a wanted mechanism that is not this
  -- one, and a target that the acceptor is or is not
  cases maxRounds with
  | zero =>
    rw [if_pos rfl, ← hdone, Negotiation.run_rounds_zero, state_release]
    exact ⟨rfl, rfl⟩
  | succ left =>
    let request : Negotiation.Request ServiceName :=
      ⟨target, wanted, flags ||| .of [.replay], left + 1⟩
    rw [if_neg (Nat.succ_ne_zero left)]
    by_cases hwanted : wanted = none ∨ wanted = some .psk
    · rw [if_neg (not_not_intro hwanted)]
      cases left with
      | zero =>
        rw [if_pos rfl, ← hdone]
        exact run_one_round request h hwanted
      | succ left =>
        rw [if_neg (by omega)]
        by_cases haccepts : target.accepts acceptor.name = true
        · obtain ⟨ctx, s, hrounds, hestablished⟩ := run_ownTarget request left h hwanted haccepts
          rw [if_pos haccepts, ← hdone, hrounds]
          rw [grants_onceOpen] at hestablished
          exact ⟨ctx, rfl, hestablished⟩
        · obtain ⟨w', l, hrounds, hfailure⟩ := run_otherTarget request left h hwanted haccepts
          rw [if_neg haccepts, ← hdone, hrounds]
          exact ⟨rfl, hfailure⟩
    · obtain ⟨w', hrounds⟩ := run_otherMechanism request left hwanted (fresh acceptor sim)
      rw [if_pos hwanted, ← hdone, hrounds]
      exact ⟨rfl, rfl⟩

/-- **How establishing a context ends.** Two sides have one key and their
randomness does not fail. Whatever the target, the flags, the mechanism and the
number of rounds are, the negotiation ends as the order of the checks says, and
where it succeeds both sides hold an open context and record the same. The three
texts have fewer than `2^64` bytes, as every text in memory has. -/
theorem establish_ends {ε σ : Type} (env : Environment (Action ε σ)) (hexact : env.Exact)
    (config config' : Config) (hkey : config.key = config'.key) {confidentiality : Bool}
    {acceptor : Acceptor} (hacceptor : Acceptor.of config' confidentiality = .ok acceptor)
    (w : σ) (sim : Simulated) (hsupplies : env.Supplies Handshake.nonceSize w)
    (hsupplies' : (Simulated.environment : Environment (Action ε Simulated)).Supplies
      Handshake.nonceSize sim)
    (hinitiatorFits : (Utf8.encode config.name).length < 2 ^ 64)
    (hacceptorFits : (Utf8.encode config'.name).length < 2 ^ 64)
    (call : Engagement.Call) (htargetFits : (Utf8.encode call.target).length < 2 ^ 64) :
    let done := (Negotiation.establish (initiator env config) beside call.maxRounds call.target
      call.flags call.wanted).run (w, fresh acceptor sim)
    Ends config acceptor call (fresh acceptor sim) done.1 done.2.2 := by
  intro done
  obtain ⟨rfl, hown, -⟩ := of_eq_ok hacceptor
  have himport := run_importName env config call.target (w, fresh acceptor sim)
  rw [ServiceName.parse] at himport
  cases htarget : ServiceName.parse? call.target with
  | none =>
    rw [htarget] at himport
    have hdone : done = _ := Negotiation.run_establish_badName himport
    rw [hdone, Ends, htarget]
    exact ⟨rfl, rfl⟩
  | some target =>
    rw [htarget] at himport
    obtain ⟨nonce, nonce', h⟩ := ready_of_parse? hexact hkey hown hsupplies hsupplies' htarget
      hinitiatorFits hacceptorFits htargetFits
    exact run_rounds_ends h htarget (Negotiation.run_establish himport).symm

/-- A host is the same in other letters, so here a context is established. -/
theorem established_of_lowered :
    let key : PreSharedKey := ⟨List.replicate 16 7, Nat.le_refl 16⟩
    let config : Config := ⟨key, "alice", Config.defaultLifetime⟩
    let acceptor : Acceptor :=
      ⟨⟨key, "echo@Host", Config.defaultLifetime⟩, ⟨"echo", some "host"⟩, true⟩
    let env : Environment (Action Empty Simulated) := Simulated.environment
    let world := Simulated.ofSeed 7
    let world' := Simulated.ofSupply (List.replicate 32 5)
    let done := (Negotiation.establish (initiator env config) beside 2 "echo@HOST"
      (.of [.mutuality]) (some .psk)).run (world, fresh acceptor world')
    ∃ ctx, done.1 = .ok ctx ∧
      Established config acceptor (finalFlags (.of [.mutuality]) true) ctx done.2.2 := by
  intro key config acceptor env world world' done
  have hown : ServiceName.parse? acceptor.config.name = some acceptor.name := by decide +kernel
  have htarget : ServiceName.parse? "echo@HOST" = some acceptor.name := by decide +kernel
  have hof : Acceptor.of acceptor.config true = .ok acceptor := by
    rw [Acceptor.of, ServiceName.parse, hown]
    rfl
  have h := establish_ends env Simulated.environment_exact config acceptor.config rfl hof world
    world' (Simulated.environment_supplies _ _ _ _) ⟨_, rfl⟩ (by decide) (by decide)
    ⟨"echo@HOST", .of [.mutuality], some .psk, 2⟩ (by decide)
  rw [Ends, htarget] at h
  dsimp only at h
  rw [if_neg (by decide), if_neg (by decide), if_neg (by decide),
    if_pos (ServiceName.accepts_self _)] at h
  exact h

end GssContext.Rehearsal.Link
