/-
What the other side has shown if a session succeeds.

With a pre-shared key a session succeeds only in one way, whatever comes in.
Each step of the initiator and each operation on its context is one that can
succeed, so `Achieved` leaves one dialogue: the hello, a reply whose proof is
the code of the handshake under the key, the finish, the message under its
protection, and the code of that same message under the key of the other side.

A `Dialogue` holds what the other side and the surroundings contributed to it.
Everything else is a function of that: the tokens that are sent, the digest of
the handshake, the keys and what is granted.
-/
import GssContext.Proofs.Client.Achieved
import GssContext.Proofs.Client.Calling
import GssContext.Proofs.Psk.Forgery
import GssContext.Proofs.Psk.Honest

set_option autoImplicit false

namespace GssContext

open GssContext.Action

variable {ε σ ν κ : Type}

/-! ## What passes to and from a session

Most of what a session does stays inside: the mechanism's steps and its inquiries. The
other side sees tokens, and the surroundings are asked for a file. These deeds are told
apart from the others, and they are what a dialogue accounts for. -/

/-- A token sent or received, or a file read. -/
def Deed.isOutside : Deed ν κ → Bool
  | .sent .. | .received _ | .loaded .. => true
  | _ => false

/-- These deeds of a list. -/
def outside (deeds : List (Deed ν κ)) : List (Deed ν κ) := deeds.filter Deed.isOutside

/-- They can be looked for in the parts of a list. -/
theorem outside_append (deeds later : List (Deed ν κ)) :
    outside (deeds ++ later) = outside deeds ++ outside later := List.filter_append ..

/-- What two rounds have to do with the other side, if both send a token. -/
theorem Negotiation.outside_two {text : String} {name : Except Status ν} {taken taken' : Taken ν κ}
    {first answer second : Bytes} (hfirst : first ≠ []) (hsecond : second ≠ []) :
    outside (.imported text name :: .stepped taken :: (carried first ++
        .received (.ok answer) :: .stepped taken' :: (carried second ++ []))) =
      [.sent first (.ok ()), .received (.ok answer), .sent second (.ok ())] := by
  rw [carried, carried, if_neg hfirst, if_neg hsecond]
  rfl

/-- Under a context these are the loading of the payload, the token of the message and
the signature. -/
theorem Client.Conversation.outside_deeds (request : Request) (c : Conversation κ) :
    outside (c.deeds request : List (Deed ν κ)) = loads request.payload c.message ++
      [.sent c.wrapped.token (.ok ()), .received (.ok c.signature)] := by
  rw [deeds, outside_append, outside_append]
  cases request.payload <;> rfl

namespace Psk

/-! ## The operations of the mechanism

What is known of a success is that the mechanism gave certain values. Here such a value
is turned into what it means for the handshake or for the session, with the equations
and the relations that hold for every step. -/

section

variable {env : Environment (Action ε σ)} {config : Config} {c c' : Context} {s : Session}
  {message token : Bytes}

/-- A message that is wrapped is wrapped by the session, and what is left of the context
is what is left of the session. -/
theorem Initiator.step_of_wrap (hexact : env.Exact) (hc : c.phase = .established s)
    {confidential : Bool} {wrapped : Wrapped}
    (h : ((mechanism env config).wrap c message confidential).CanGive (.ok wrapped, c')) :
    ∃ now s', c' = c.withSession s' ∧
      s.Step now (.wrap message confidential) (.wrapped wrapped) s' := by
  obtain ⟨w, hgives⟩ := h
  obtain ⟨result, s', hrun, hstep⟩ := Context.wrap_step hexact hc w message confidential
  have hvalue : (((mechanism env config).wrap c message confidential).run w).1 =
      (result.mapError Refusal.status, c.withSession s') := by
    change (((c.wrap env message confidential).run w).1.1.mapError Refusal.status,
      ((c.wrap env message confidential).run w).1.2) = _
    rw [hrun]
  rw [hvalue] at hgives
  cases result with
  | error e => cases hgives
  | ok made =>
    cases hgives
    exact ⟨_, s', rfl, hstep⟩

/-- A code that verifies is verified by the session, at some time. -/
theorem Initiator.verifies_of_verifyMic (hc : c.phase = .established s)
    (h : ((mechanism env config).verifyMic c message token).CanGive (.ok (), c')) :
    ∃ now s', s.verifyMic now message token = .ok s' := by
  obtain ⟨w, hgives⟩ := h
  have hvalue : (((mechanism env config).verifyMic c message token).run w).1.1 =
      ((c.timed env fun now => c.verifyMic now message token).run w).1.1.mapError
        Refusal.status := rfl
  rw [hgives, Context.run_timed, Context.verifyMic_eq hc] at hvalue
  cases hverify : s.verifyMic (env.now.run w).1 message token with
  | error e =>
    rw [hverify] at hvalue
    cases hvalue
  | ok s' => exact ⟨_, s', hverify⟩

/-- A step of the mechanism is one of the initiator. -/
theorem Initiator.took_of_initStep {before after : Option Context} {target : ServiceName}
    {wanted : Option Oid} {flags : Flags} {input : Option Bytes} {step : Step}
    (h : ((mechanism env config).initStep before target wanted flags input).CanGive
      (step, after)) :
    Took env config before ⟨target, wanted, flags, input⟩ step after := by
  obtain ⟨w, hgives⟩ := h
  have htook := @side_took _ _ env config before ⟨target, wanted, flags, input⟩ w
  have hside : side env config before ⟨target, wanted, flags, input⟩ w = (step, after) := hgives
  rwa [hside] at htook

/-- The hello is a token, so it is sent. -/
theorem Initiator.start_output_ne_nil (config : Config) (target : ServiceName) (flags : Flags)
    (nonce : Bytes) : (start config target flags nonce).1.output ≠ [] :=
  Cbor.writeRecord_ne_nil _

theorem Initiator.finished_output_ne_nil (config : Config) (context : Context) (now : Instant)
    (nonce : Bytes) (requested : Flags) (said : Said) :
    (Initiator.finished config context now nonce requested said).1.output ≠ [] :=
  Cbor.writeRecord_ne_nil _

/-- **A negotiation that succeeds takes two steps.** The hello is sent, the reply comes
in and is vouched for, and the finish is sent. There is no induction on the rounds: a
first step that is not refused says hello and asks for an answer, and a second one that
is not refused finishes, so there is no third. -/
theorem Initiator.establish_gives (hexact : env.Exact) {transport : Transport (Action ε σ)}
    {maxRounds : Nat} {service : String} {requested : Flags} {wanted : Option Oid}
    {ctx : SecurityContext Context} {deeds : List (Deed ServiceName Context)}
    (h : (Negotiation.establish (mechanism env config).observed transport.observed maxRounds
      service requested wanted).Gives (.ok ctx) deeds) :
    ∃ (target : ServiceName) (nonce answer : Bytes) (reply : Reply) (now : Instant),
      let flags := requested ||| .of [.replay]
      let greeted := start config target flags nonce
      let finished := finished config greeted.2 now nonce flags (.of greeted.1.output reply)
      ServiceName.parse? service = some target ∧ nonce.length = Handshake.nonceSize ∧
        Vouched config greeted.1.output nonce target answer reply ∧
        ctx.handle = some finished.2 ∧ ctx.granted = finished.1.granted ∧
        outside deeds = [.sent greeted.1.output (.ok ()), .received (.ok answer),
          .sent finished.1.output (.ok ())] := by
  obtain ⟨imported, _, himported, hthen, rfl⟩ := h.of_told_bind
  cases imported with
  | error status => cases hthen.of_pure.1
  | ok target =>
    have hparse : ServiceName.parse? service = some target := by
      obtain ⟨w, hparse⟩ := himported
      exact ServiceName.parse_eq_ok_iff.mp hparse
    -- the first step has nothing to go by, so it can only say hello
    obtain ⟨first, c, _, hfirst, rfl, hgoes⟩ := Negotiation.rounds_gives hthen.of_note_bind
    have hfirst' : ((mechanism env config).initStep none target wanted
      (requested ||| .of [.replay]) none).CanGive (first, c) := hfirst
    cases took_of_initStep hfirst' with
    | refused status hnot =>
      obtain ⟨hstatus, -⟩ | ⟨-, -, -, hstatus, -⟩ := hgoes
      · cases hstatus
      · cases hstatus
    | @greeted _ nonce world hdraw =>
      obtain ⟨hstatus, -⟩ | ⟨left, answer, rest, -, rfl, hrest⟩ := hgoes
      · cases hstatus
      -- the second step knows the hello, so it can only finish
      obtain ⟨second, c', _, hsecond, rfl, hends⟩ := Negotiation.rounds_gives hrest
      have hsecond' : ((mechanism env config).initStep
        (some (start config target (requested ||| .of [.replay]) nonce).2) target wanted
        (requested ||| .of [.replay]) (some answer)).CanGive (second, c') := hsecond
      cases took_of_initStep hsecond' with
      | refused status hnot =>
        obtain ⟨hstatus, -⟩ | ⟨-, -, -, hstatus, -⟩ := hends
        · cases hstatus
        · cases hstatus
      | @finished _ _ hello nonce' token flags reply now hphase hwanted hinput hvouched =>
        obtain ⟨-, rfl, rfl⟩ | ⟨-, -, -, hstatus, -⟩ := hends
        · cases hphase
          cases hinput
          refine ⟨target, nonce, answer, reply, now, hparse, hexact _ _ _ hdraw, hvouched, rfl,
            rfl, ?_⟩
          exact Negotiation.outside_two (start_output_ne_nil _ _ _ _)
            (finished_output_ne_nil _ _ _ _ _ _)
        · cases hstatus

end

/-! ## The first message of an initiator

The session sends one message, the first under its context, so the number that is in it
is known. The signature that comes back is made by the other side for some number. -/

section

variable {keys : SessionKeys} {flags : Flags} {expiresAt : Option Instant} {now : Instant}

/-- It has number zero, and it is sealed if that is asked for and granted. -/
theorem Session.first_wrapped {message : Bytes} {confidential : Bool} {wrapped : Wrapped}
    {s' : Session} (h : (start keys true flags expiresAt).Step now (.wrap message confidential)
      (.wrapped wrapped) s') :
    s' = (start keys true flags expiresAt).advanced ∧
      wrapped.confidential = (confidential && flags.has .confidentiality) ∧
      (wrapped.confidential = false →
        wrapped.token = wrapToken keys.initiatorMac .initiatorToAcceptor 0 message) ∧
      (wrapped.confidential = true → ∃ nonce, nonce.length = Sealed.nonceSize ∧
        sealedToken? keys.initiatorEnc .initiatorToAcceptor 0 nonce message =
          some wrapped.token) := by
  cases h with
  | wrapOpen hlive hnumber hopen => exact ⟨rfl, hopen.symm, fun _ => rfl, nofun⟩
  | @wrapSealed _ nonce _ hlive hnumber hseals hnonce htoken =>
    have hgranted : flags.has .confidentiality = true := hseals
    refine ⟨rfl, ?_, nofun, fun _ => ⟨nonce, hnonce, htoken⟩⟩
    rw [hgranted]
    rfl

/-- After it only codes of the acceptor verify. -/
theorem Session.first_verified {message token : Bytes} {s' : Session}
    (h : (start keys true flags expiresAt).advanced.verifyMic now message token = .ok s') :
    ∃ seq, token = micToken keys.acceptorMac .acceptorToInitiator seq message := by
  obtain ⟨seq, -, htoken⟩ := (verifyMic_iff (checkExpiry_of_verifyMic h)).mp ⟨s', h⟩
  exact ⟨seq, htoken⟩

end

/-! ## Dialogues

What is claimed of a success: there was a dialogue, and it was authentic. All that the
session computes from it is a definition, so that the claim can say what was sent and
what was granted without any room to choose. -/

/-- What the other side and the surroundings contribute to a session. -/
structure Dialogue where
  target : ServiceName
  nonce : Bytes
  /-- The first token that comes in, and what it says. -/
  answer : Bytes
  reply : Reply
  payload : Bytes
  /-- The message under its protection. -/
  wrapped : Bytes
  /-- The second token that comes in. -/
  signature : Bytes

namespace Dialogue

variable (config : Config) (request : Client.Request) (d : Dialogue)

/-- What a session asks for. -/
def asked : Flags := request.flags ||| .of [.replay]

/-- The hello, as it was sent. -/
def hello : Bytes := (Initiator.hello config d.target (asked request) d.nonce).encode

/-- The digest of the handshake. -/
def digest : Bytes :=
  transcript (d.hello config request) d.reply.nonce d.reply.acceptor d.reply.granted

/-- The keys of the session. -/
def keys : SessionKeys := config.key.sessionKeys (d.digest config request)

/-- The finish, with the proof of the initiator. -/
def finish : Bytes :=
  Finish.encode ⟨Hmac.ofParts (config.key.handshakeKeys d.nonce d.reply.nonce).initiator
    [d.digest config request]⟩

/-- The flags that the initiator takes as granted. -/
def granted : Flags := Initiator.granted (asked request) d.reply.granted

/-- Is the message sealed? -/
def isSealed : Bool := request.sealed && (d.granted request).has .confidentiality

/-- What is sent, received and read, in this order: three tokens out, two tokens in,
and the payload if it is in a file. -/
def deeds : List (Deed ServiceName Context) :=
  [.sent (d.hello config request) (.ok ()), .received (.ok d.answer),
    .sent (d.finish config request) (.ok ())] ++
      (Client.Conversation.loads request.payload d.payload ++
        [.sent d.wrapped (.ok ()), .received (.ok d.signature)])

/-- Both tokens that come in are made with the key: the reply over this handshake,
and the signature over the payload that was loaded and sent. -/
structure Authentic : Prop where
  target : ServiceName.parse? request.service = some d.target
  nonce : d.nonce.length = Handshake.nonceSize
  vouched : Initiator.Vouched config (d.hello config request) d.nonce d.target d.answer d.reply
  /-- A payload that is written out is the message. -/
  literal : ∀ text, request.payload = .literal text → d.payload = Utf8.encode text
  plain : d.isSealed request = false →
    d.wrapped = Session.wrapToken (d.keys config request).initiatorMac .initiatorToAcceptor 0
      d.payload
  sealed : d.isSealed request = true → ∃ nonce, nonce.length = Sealed.nonceSize ∧
    Session.sealedToken? (d.keys config request).initiatorEnc .initiatorToAcceptor 0 nonce
      d.payload = some d.wrapped
  signature : ∃ seq, d.signature =
    Session.micToken (d.keys config request).acceptorMac .acceptorToInitiator seq d.payload

end Dialogue

/-- From the connection to its closing there is one way to succeed. The handshake
determines the context, the first message is wrapped under that, and the signature is
verified under what wrapping left of it; the dialogue is put together from what these
three showed. -/
theorem authentic_of_gives {env : Environment (Action ε σ)} (hexact : env.Exact)
    {config : Config} {surroundings : Client.Surroundings (Action ε σ)}
    {connector : Client.Connector (Action ε σ)} {clientConfig : Client.Config}
    {request : Client.Request} {achievement : Client.Achievement} {state : Client.SessionState}
    {deeds : List (Deed ServiceName Context)}
    (h : (Client.Session.connectAndExchange surroundings.observed connector.observed
      (Initiator.mechanism env config).observed clientConfig request).Gives
        (.ok achievement, state) deeds) :
    ∃ d : Dialogue, d.Authentic config request ∧ outside deeds = d.deeds config request ∧
      achievement.wasConfidential = d.isSealed request ∧
      achievement.granted = d.granted request := by
  obtain ⟨channel, ctx, established, c, closed, hestablish, hgiven, hbefore, rfl, rfl⟩ :=
    Client.Session.connectAndExchange_gives h
  obtain ⟨target, nonce, answer, reply, now, htarget, hnonce, hvouched, hhandle, hgranted,
    houtside⟩ := Initiator.establish_gives hexact hestablish
  let d : Dialogue := ⟨target, nonce, answer, reply, c.message, c.wrapped.token, c.signature⟩
  -- messages are protected under the context that the finish left
  have hphase : c.before.phase = .established (Session.start (d.keys config request) true
      (d.granted request) (now.plus? config.lifetime)) := by
    rw [Option.some.inj (hbefore.symm.trans hhandle)]
    rfl
  obtain ⟨_, s', hbetween, hstep⟩ := Initiator.step_of_wrap hexact hphase hgiven.wraps
  obtain ⟨rfl, hconfidential, hplain, hsealed⟩ := Session.first_wrapped hstep
  -- and the signature is verified under what wrapping left of it
  have hphase' : c.between.phase = .established (Session.start (d.keys config request) true
      (d.granted request) (now.plus? config.lifetime)).advanced := by
    rw [hbetween]
    rfl
  obtain ⟨_, _, hverify⟩ := Initiator.verifies_of_verifyMic hphase' hgiven.verifies
  have hsignature := Session.first_verified hverify
  have hisSealed : c.wrapped.confidential = d.isSealed request := hconfidential
  rw [hisSealed] at hplain hsealed
  refine ⟨d, ?_, ?_, hisSealed, hgranted⟩
  · exact ⟨htarget, hnonce, hvouched, hgiven.literal, hplain, hsealed, hsignature⟩
  · have hends : outside ([.released c.after, .closed closed] :
        List (Deed ServiceName Context)) = [] := rfl
    rw [← List.singleton_append, outside_append, outside_append, outside_append,
      houtside, Client.Conversation.outside_deeds, hends, List.append_nil]
    rfl

/-- **A reported success is an authenticated success.** Whatever the other side does, a
session with a pre-shared key that succeeds had an authentic dialogue, and nothing else
was sent, received or read. What it reports is what was granted there, and that the
message was sealed exactly if that was asked for and granted. -/
theorem authentic_of_success {env : Environment (Action ε σ)} (hexact : env.Exact)
    (config : Config) (surroundings : Client.Surroundings (Action ε σ))
    (connector : Client.Connector (Action ε σ)) (s : Client.Session) (w : σ)
    {achievement : Client.Achievement}
    (hsuccess : ((s.run surroundings connector (Initiator.mechanism env config)).run w).1.1 =
      .ok achievement) :
    let observed : Action (Deed ServiceName Context) σ _ := s.run surroundings.observed
      connector.observed (Initiator.mechanism env config).observed
    observed.run w = (s.run surroundings connector (Initiator.mechanism env config)).run w ∧
      ∃ d : Dialogue, d.Authentic config s.request ∧
        outside (observed.events w) = d.deeds config s.request ∧
        achievement.wasConfidential = d.isSealed s.request ∧
        achievement.granted = d.granted s.request := by
  intro observed
  have hidle : s.state = .idle := by
    by_contra hover
    rw [Client.Session.run, if_pos hover] at hsuccess
    cases hsuccess
  -- that the session is observed makes no difference to what it does
  obtain ⟨hplain, -⟩ := Client.Session.run_first surroundings connector
    (Initiator.mechanism env config) hidle w
  obtain ⟨hrun, hevents⟩ := Client.Session.run_first surroundings.observed connector.observed
    (Initiator.mechanism env config).observed hidle w
  have hsame := Client.Session.run_connectAndExchange_observed surroundings connector
    (Initiator.mechanism env config) s.config s.request
  refine ⟨?_, ?_⟩
  · rw [hplain, ← hsame]
    exact hrun
  · rw [hplain, ← hsame] at hsuccess
    rw [hevents]
    exact authentic_of_gives hexact ⟨w, Prod.ext hsuccess rfl, rfl⟩

/-- An acceptor that is not there, but whose tokens wait to be read, is enough. What
comes in is not made for this run, and still it is what the key shows over what the run
sent. -/
theorem authentic_of_recorded :
    let key : PreSharedKey := ⟨List.replicate 16 7, Nat.le_refl 16⟩
    let config : Config := ⟨key, "alice", Config.defaultLifetime⟩
    let service : ServiceName := ⟨"echo", some "host"⟩
    let acceptor : Acceptor := ⟨⟨key, "echo@host", Config.defaultLifetime⟩, service, true⟩
    let env : Environment (Action Empty (Simulated × List Bytes)) := Simulated.environment.beside
    let surroundings : Client.Surroundings (Action Empty (Simulated × List Bytes)) :=
      ⟨fun _ => pure (.error .noSuchFile), pure ⟨.zero⟩⟩
    let channel : Channel (Action Empty (Simulated × List Bytes)) :=
      { send := fun _ => pure (.ok ())
        receive := Action.onSnd (Action.step fun queue => (.ok (queue.headD []), queue.tail))
        close := pure (.ok ()) }
    let connector : Client.Connector (Action Empty (Simulated × List Bytes)) :=
      ⟨fun _ => pure (.ok channel)⟩
    let s : Client.Session :=
      { config := {}, request := ⟨"echo@host", .empty, none, .literal "sign this", false⟩ }
    let nonce := List.replicate 32 9
    let nonce' := List.replicate 32 5
    let flags := Dialogue.asked s.request
    let digest := (heard config acceptor service flags nonce nonce').digest
    let message := Utf8.encode "sign this"
    let signature := Session.micToken (key.sessionKeys digest).acceptorMac .acceptorToInitiator 0
      message
    let world := (Simulated.ofSupply nonce,
      [(answered config acceptor service flags nonce nonce').1.output, signature])
    let observed : Action (Deed ServiceName Context) _ _ := s.run surroundings.observed
      connector.observed (Initiator.mechanism env config).observed
    ∃ d : Dialogue, d.Authentic config s.request ∧
      outside (observed.events world) = d.deeds config s.request := by
  intro key config service acceptor env surroundings channel connector s nonce nonce' flags digest
    message signature world observed
  have hmeeting : Meeting config acceptor service :=
    ⟨rfl, by decide +kernel, by decide +kernel, by decide, by decide, by decide⟩
  have hservice : ServiceName.parse? s.request.service = some service := by decide +kernel
  obtain ⟨last, hlast⟩ : ∃ last,
      concluded config acceptor service flags nonce nonce' ⟨.zero⟩ = last := ⟨_, rfl⟩
  let mine := Session.start (key.sessionKeys digest) true
    (Initiator.granted flags (grants flags true)) (Instant.plus? ⟨.zero⟩ config.lifetime)
  have hphase : last.2.phase = .established mine := by
    rw [← hlast]
    rfl
  have hlive : mine.checkExpiry ⟨.zero⟩ = .ok () :=
    Session.checkExpiry_of_lasts rfl (Instant.lasts_of_lt (by decide))
  have hlive' : mine.advanced.checkExpiry ⟨.zero⟩ = .ok () := hlive
  let later : Simulated × List Bytes := (.ofSupply [], [signature])
  have hlooked : surroundings.now.run later = (⟨.zero⟩, later) := rfl
  have hloaded : (s.request.payload.load surroundings : Action _ _ _).run later =
      (.ok message, later) := rfl
  have hwrapped : (last.2.wrap env message s.request.sealed).run later =
      ((.ok ⟨Session.wrapToken mine.sendMac mine.outbound mine.sendSeq message, false⟩,
        last.2.withSession mine.advanced), later) :=
    Context.run_wrap_open hphase rfl hlive (Session.hasNumber_start ..) rfl
  have hverified : mine.advanced.verifyMic ⟨.zero⟩ message signature =
      .ok (mine.advanced.accepted 0) :=
    (Session.verifyMic_micToken _ _ 0 message hlive').trans (if_pos rfl)
  -- every operation gives what it should, so the session succeeds
  have hestablished : (Negotiation.establish (Initiator.mechanism env config) channel.toTransport
      s.config.maxRounds s.request.service s.request.flags s.request.wanted).run world =
        (.ok ⟨some last.2, .established, last.1.granted⟩, later) :=
    Initiator.run_establish_answered hmeeting (ServiceName.accepts_self service) rfl (by decide)
      (.inl rfl) hservice rfl hlast rfl rfl rfl rfl rfl
  have hexchanged : (Client.Session.exchange surroundings channel (Initiator.mechanism env config)
      s.config s.request).run world =
        ((.ok ⟨last.1.granted, false, last.2.info⟩, .verifying), (.ofSupply [], [])) :=
    Initiator.run_exchange hestablished hlooked hloaded hwrapped rfl rfl rfl rfl hverified
  have hconnected : (Client.Session.connectAndExchange surroundings connector
      (Initiator.mechanism env config) s.config s.request).run world = _ :=
    Client.Session.run_connectAndExchange rfl hexchanged
  have hrun := (Client.Session.run_first surroundings connector (Initiator.mechanism env config)
    (show s.state = .idle from rfl) world).1
  rw [hconnected] at hrun
  obtain ⟨-, d, hauthentic, hdeeds, -⟩ := authentic_of_success Simulated.environment_exact.beside
    config surroundings connector s world (congrArg (fun done => done.1.1) hrun)
  exact ⟨d, hauthentic, hdeeds⟩

end Psk

end GssContext
