/-
A handshake in which every token arrives as it was sent.

Two sides with one key, and a service that the acceptor is or is not. Step by
step: the acceptor answers the hello, or it has no key for the service; the
initiator vouches for the reply; the acceptor confirms the finish. Each of the
three is about the bytes that the step before sent, so what is used of them is
that they read back.
-/
import GssContext.Proofs.Psk.Grants
import GssContext.Proofs.Psk.Turn
import GssContext.Proofs.ServiceName

set_option autoImplicit false

namespace GssContext.Psk

/-! ## The four steps

Each of the four is given a name, as a function of what the two sides bring along and of
the two nonces. The later ones mention the earlier ones where their bytes go in. With
the names the statements below stay readable, and nobody has to look at the encodings
again. -/

section

variable (config : Config) (acceptor : Acceptor) (target : ServiceName) (flags : Flags)
  (nonce nonce' : Bytes) (now : Instant)

/-- The initiator says hello. -/
def greeted : Step × Context := Initiator.start config target flags nonce

/-- The acceptor answers the hello. -/
def answered : Step × Context :=
  acceptor.reply (Initiator.hello config target flags nonce)
    (Initiator.hello config target flags nonce).encode nonce'

/-- What both sides hash. -/
def heard : Said :=
  ⟨(Initiator.hello config target flags nonce).encode, nonce', acceptor.name.text,
    grants flags acceptor.confidentiality⟩

/-- The initiator finishes on the reply. -/
def concluded : Step × Context :=
  Initiator.finished config (greeted config target flags nonce).2 now nonce flags
    (heard config acceptor target flags nonce nonce')

/-- The acceptor confirms the finish. -/
def settled : Step × Context :=
  acceptor.confirmed (answered config acceptor target flags nonce nonce').2
    (heard config acceptor target flags nonce nonce').digest now

end

/-- An initiator, an acceptor with the same key, and a service to ask for. The
names are names, and no text is too long for its length to be written. -/
structure Meeting (config : Config) (acceptor : Acceptor) (target : ServiceName) : Prop where
  key : config.key = acceptor.config.key
  targetName : ServiceName.parse? target.text = some target
  ownName : ServiceName.parse? acceptor.name.text = some acceptor.name
  initiatorFits : (Utf8.encode config.name).length < 2 ^ 64
  targetFits : (Utf8.encode target.text).length < 2 ^ 64
  ownFits : (Utf8.encode acceptor.name.text).length < 2 ^ 64

namespace Meeting

variable {config : Config} {acceptor : Acceptor} {target : ServiceName} {flags : Flags}
  {nonce nonce' : Bytes} {now now' : Instant}

theorem decode_hello (h : Meeting config acceptor target)
    (hnonce : nonce.length = Handshake.nonceSize) :
    Hello.decode (Initiator.hello config target flags nonce).encode =
      .ok (Initiator.hello config target flags nonce) :=
  Initiator.decode_start_output target flags hnonce h.initiatorFits h.targetFits

/-- The acceptor takes the hello if it is the service that is asked for. -/
theorem readHello_hello (h : Meeting config acceptor target)
    (hnonce : nonce.length = Handshake.nonceSize) :
    acceptor.readHello (Initiator.hello config target flags nonce).encode =
      if target.accepts acceptor.name then .ok (Initiator.hello config target flags nonce)
      else .error (.unknownTarget target) := by
  rw [Acceptor.readHello, h.decode_hello hnonce]
  simp only [Initiator.hello, ne_eq, not_true_eq_false, if_false, hnonce, h.targetName]

/-- The initiator vouches for the reply. It decodes, it is from the service that was
called, and its proof is over the same transcript: the hello is the same bytes on both
sides. -/
theorem vouched_reply (h : Meeting config acceptor target)
    (hnonce' : nonce'.length = Handshake.nonceSize)
    (haccepts : target.accepts acceptor.name = true) :
    Initiator.Vouched config (Initiator.hello config target flags nonce).encode nonce target
      (answered config acceptor target flags nonce nonce').1.output
      (acceptor.answer (Initiator.hello config target flags nonce)
        (Initiator.hello config target flags nonce).encode nonce') where
  decoded := acceptor.decode_reply_output _ _ hnonce' h.ownFits
  size := hnonce'
  service := ⟨acceptor.name, h.ownName, haccepts⟩
  proof := by
    rw [h.key]
    rfl

/-- So the last step of the initiator succeeds. -/
theorem finish_reply (h : Meeting config acceptor target)
    (hnonce' : nonce'.length = Handshake.nonceSize)
    (haccepts : target.accepts acceptor.name = true) :
    Initiator.finish config (greeted config target flags nonce).2 target
        (some (answered config acceptor target flags nonce nonce').1.output) now =
      .ok (concluded config acceptor target flags nonce nonce' now) :=
  Initiator.finish_eq_ok_iff.mpr
    ⟨_, nonce, flags, _, _, rfl, rfl, h.vouched_reply hnonce' haccepts, rfl⟩

/-- And the acceptor confirms the finish. The proof in it is made under the key that the
acceptor stored when it replied, for the digest that it stored. -/
theorem confirm_finish (h : Meeting config acceptor target) :
    acceptor.confirm (answered config acceptor target flags nonce nonce').2
        (concluded config acceptor target flags nonce nonce' now).1.output now' =
      .ok (settled config acceptor target flags nonce nonce' now') := by
  let proof : Bytes := Hmac.ofParts (config.key.handshakeKeys nonce nonce').initiator
    [(heard config acceptor target flags nonce nonce').digest]
  have hlength : (Finish.mk proof).proof.length < 2 ^ 64 := by
    rw [Hmac.length_ofParts]
    decide
  have hread := Finish.decode_encode_append hlength []
  rw [List.append_nil] at hread
  -- the initiator's code is under the key that the acceptor stored
  refine Acceptor.confirm_eq_ok_iff.mpr ⟨_, _, ⟨proof⟩, rfl, hread, ?_, rfl⟩
  rw [← h.key]
  rfl

/-! ## What the two sides end with

After the four steps both contexts are established, and what they record can be read off
the names of the steps. Only the moment at which a context ends may differ, since each
side has its own clock. -/

/-- Both record the same, and the sessions fit each other. The flags agree because
cutting the grant down takes nothing away from it. -/
theorem agrees (h : Meeting config acceptor target) :
    (concluded config acceptor target flags nonce nonce' now).2.Agrees
      (settled config acceptor target flags nonce nonce' now').2 where
  initiator := rfl
  acceptor := rfl
  flags := granted_grants flags acceptor.confidentiality
  sessions := by
    refine ⟨_, _, rfl, rfl, ?_⟩
    rw [← h.key]
    exact Session.start_mirrors _ _ _ _ _

section

variable {ε σ : Type} {env env' : Environment (Action ε σ)} {world world' : σ}

/-! The four steps, as turns of the two sides. Each of them needs only what the one
before it sent, and a nonce where it draws one. -/

theorem side_greets (call : InitCall) (hwanted : call.wanted = none ∨ call.wanted = some .psk)
    (hinput : call.input = none)
    (hdraw : ((env.draw Handshake.nonceSize).run world).1 = .ok nonce) :
    Initiator.side env config none call world =
      ((greeted config call.target call.flags nonce).1,
        some (greeted config call.target call.flags nonce).2) := by
  rw [Initiator.side_first call world hwanted hinput, hdraw]
  rfl

theorem side_answers (h : Meeting config acceptor target)
    (haccepts : target.accepts acceptor.name = true)
    (hnonce : nonce.length = Handshake.nonceSize)
    (hdraw' : ((env'.draw Handshake.nonceSize).run world').1 = .ok nonce') :
    acceptor.side env' none (greeted config target flags nonce).1.output world' =
      ((answered config acceptor target flags nonce nonce').1,
        some (answered config acceptor target flags nonce nonce').2) := by
  rw [Acceptor.side_first, greeted, Initiator.start, h.readHello_hello hnonce, if_pos haccepts,
    hdraw']
  rfl

theorem side_refuses (h : Meeting config acceptor target)
    (hother : ¬ target.accepts acceptor.name = true)
    (hnonce : nonce.length = Handshake.nonceSize) :
    acceptor.side env' none (greeted config target flags nonce).1.output world' =
      (.failure (Refusal.unknownTarget target).status, none) := by
  rw [Acceptor.side_first, greeted, Initiator.start, h.readHello_hello hnonce, if_neg hother]

theorem side_concludes (h : Meeting config acceptor target)
    (haccepts : target.accepts acceptor.name = true)
    (hnonce' : nonce'.length = Handshake.nonceSize) (call : InitCall)
    (hwanted : call.wanted = none ∨ call.wanted = some .psk) (htarget : call.target = target)
    (hinput : call.input = some (answered config acceptor target flags nonce nonce').1.output) :
    Initiator.side env config (some (greeted config target flags nonce).2) call world =
      ((concluded config acceptor target flags nonce nonce' (env.now.run world).1).1,
        some (concluded config acceptor target flags nonce nonce' (env.now.run world).1).2) := by
  rw [Initiator.side_later _ call world hwanted, htarget, hinput,
    h.finish_reply hnonce' haccepts]

theorem side_settles (h : Meeting config acceptor target) :
    acceptor.side env' (some (answered config acceptor target flags nonce nonce').2)
        (concluded config acceptor target flags nonce nonce' now).1.output world' =
      ((settled config acceptor target flags nonce nonce' (env'.now.run world').1).1,
        some (settled config acceptor target flags nonce nonce' (env'.now.run world').1).2) := by
  rw [Acceptor.side_later, h.confirm_finish]

/-- **A handshake in which every token arrives.** Both sides take their two steps, and
both contexts are established. The calls of the run are computed along with it, since
each token in them is the output of a turn. -/
theorem turns_relayed (h : Meeting config acceptor target)
    (haccepts : target.accepts acceptor.name = true)
    (hnonce : nonce.length = Handshake.nonceSize) (hnonce' : nonce'.length = Handshake.nonceSize)
    (hdraw : ((env.draw Handshake.nonceSize).run world).1 = .ok nonce)
    (hdraw' : ((env'.draw Handshake.nonceSize).run world').1 = .ok nonce') :
    let calls := relayed (Initiator.side env config) (acceptor.side env') target flags world world'
    let hello := greeted config target flags nonce
    let reply := answered config acceptor target flags nonce nonce'
    let finish := concluded config acceptor target flags nonce nonce' (env.now.run world).1
    let last := settled config acceptor target flags nonce nonce' (env'.now.run world').1
    (Initiator.side env config).turns none calls.1 =
        [⟨none, ⟨target, none, flags, none⟩, hello.1, some hello.2⟩,
          ⟨some hello.2, ⟨target, none, flags, some reply.1.output⟩, finish.1, some finish.2⟩] ∧
      (Initiator.side env config).ending none calls.1 = some finish.2 ∧
      (acceptor.side env').turns none calls.2 =
        [⟨none, hello.1.output, reply.1, some reply.2⟩,
          ⟨some reply.2, finish.1.output, last.1, some last.2⟩] ∧
      (acceptor.side env').ending none calls.2 = some last.2 := by
  intro calls hello reply finish last
  have hgreets : Initiator.side env config none ⟨target, none, flags, none⟩ world =
      (hello.1, some hello.2) := side_greets _ (.inl rfl) rfl hdraw
  have hanswers : acceptor.side env' none hello.1.output world' = (reply.1, some reply.2) :=
    h.side_answers haccepts hnonce hdraw'
  have hconcludes : Initiator.side env config (some hello.2)
      ⟨target, none, flags, some reply.1.output⟩ world = (finish.1, some finish.2) :=
    h.side_concludes haccepts hnonce' _ (.inl rfl) rfl rfl
  have hsettles : acceptor.side env' (some reply.2) finish.1.output world' =
      (last.1, some last.2) := h.side_settles
  -- the calls are those of the definition, with the outputs that the turns were shown to
  -- have
  have hcalls : calls =
      ([(⟨target, none, flags, none⟩, world), (⟨target, none, flags, some reply.1.output⟩, world)],
        [(hello.1.output, world'), (finish.1.output, world')]) := by
    simp only [calls, relayed, Side.turn, hgreets, hanswers, hconcludes]
  rw [hcalls]
  refine ⟨?_, ?_, ?_, ?_⟩
  · simp only [Side.turns_cons, Side.turns_nil, Side.turn, hgreets, hconcludes]
  · simp only [Side.ending_cons, Side.ending_nil, Side.turn, hgreets, hconcludes]
  · simp only [Side.turns_cons, Side.turns_nil, Side.turn, hanswers, hsettles]
  · rw [Side.ending_cons, Side.ending_cons, Side.ending_nil, Side.turn, Side.turn]
    dsimp only
    rw [hanswers]
    dsimp only
    rw [hsettles]

end

end Meeting

end GssContext.Psk
