/-
What a peer with a key has seen when it says that all went well.

Nothing is assumed about the client: it writes any bytes, cut in any way, reads
when it likes, and goes away. The peer reads frames out of what it wrote, and its
loop has no bound of its own; it ends because the acceptor never asks for a third
token of the handshake.

Between two tokens a peer is at one of the stages of `Stage`, which say what was
read and sent so far and what is known of it. A token takes a stage to a stage
(`Stage.feed`), and so do bytes that arrive (`Stage.absorb`), whatever they are.
A report is only there at the last stage, and that one says what was in the three
tokens.
-/
import GssContext.Proofs.Psk.Forgery
import GssContext.Proofs.Rehearsal.Serving
import GssContext.Proofs.Rehearsal.Stream

set_option autoImplicit false

namespace GssContext

open Psk

/-! ## A hello that is answered

An acceptor looks at a hello five times before it answers. What it has made sure of by
then is put into one structure, since a report of the peer is to say all of it. -/

/-- The bytes are a hello of this version and mechanism, with a nonce of the right
size, for a service that this acceptor is. -/
structure Psk.Acceptor.Hears (acceptor : Acceptor) (input : Bytes) (hello : Hello) : Prop where
  decoded : Hello.decode input = .ok hello
  version : hello.version = Handshake.version
  mechanism : hello.mechanism = .psk
  size : hello.nonce.length = Handshake.nonceSize
  target : ∃ target, ServiceName.parse? hello.target = some target ∧
    target.accepts acceptor.name = true

/-- A hello that was read is one that is heard. The checks are undone one after the
other, in the order in which they are made. -/
theorem Psk.Acceptor.hears_of_readHello {acceptor : Acceptor} {input : Bytes} {hello : Hello}
    (h : acceptor.readHello input = .ok hello) : acceptor.Hears input hello := by
  have hdecoded := decode_of_readHello h
  unfold readHello at h
  rw [hdecoded] at h
  dsimp only at h
  -- each check that fails is a refusal, and this hello was not refused
  by_cases hversion : hello.version ≠ Handshake.version
  · rw [if_pos hversion] at h
    cases h
  by_cases hmechanism : hello.mechanism ≠ .psk
  · rw [if_neg hversion, if_pos hmechanism] at h
    cases h
  by_cases hsize : hello.nonce.length ≠ Handshake.nonceSize
  · rw [if_neg hversion, if_neg hmechanism, if_pos hsize] at h
    cases h
  rw [if_neg hversion, if_neg hmechanism, if_neg hsize] at h
  cases hparse : ServiceName.parse? hello.target with
  | none =>
    rw [hparse] at h
    cases h
  | some target =>
    rw [hparse] at h
    dsimp only at h
    by_cases haccepts : target.accepts acceptor.name = true
    · exact ⟨hdecoded, not_not.mp hversion, not_not.mp hmechanism, not_not.mp hsize, target,
        hparse, haccepts⟩
    · rw [if_neg haccepts] at h
      cases h

namespace Rehearsal

/-! ## What passes between a client and a peer

A session that goes well is determined by what came in, by one nonce and by two moments.
`Opening` holds what is there when the hello is answered, and `Passed` all of it. The
answers and the keys are functions of these, so a report can be held against them. -/

/-- A first token, the hello in it, and the nonce with which it is answered. -/
structure Opening where
  token : Bytes
  hello : Hello
  nonce : Bytes

namespace Opening

variable (o : Opening) (acceptor : Acceptor)

/-- The answer. -/
def reply : Reply := acceptor.answer o.hello o.token o.nonce

/-- The digest of the hello as it came and of the reply as it was sent. -/
def digest : Bytes :=
  transcript o.token (o.reply acceptor).nonce (o.reply acceptor).acceptor
    (o.reply acceptor).granted

/-- The hello is one that the acceptor answers, with a nonce of the right size. -/
structure Heard : Prop where
  hears : acceptor.Hears o.token o.hello
  size : o.nonce.length = Handshake.nonceSize

/-- A second token has the initiator's proof for the digest. -/
def Proved (token : Bytes) : Prop :=
  ∃ finish, Finish.decode token = .ok finish ∧
    finish.proof = Hmac.ofParts
      (acceptor.config.key.handshakeKeys o.hello.nonce o.nonce).initiator [o.digest acceptor]

/-- The keys for messages. -/
def keys : SessionKeys := acceptor.config.key.sessionKeys (o.digest acceptor)

/-- The session that the proof opens, up to a moment. -/
def session (expiresAt : Option Instant) : Session :=
  Session.start (o.keys acceptor) false ((o.reply acceptor).granted ||| onceOpen) expiresAt

end Opening

/-- All that passes in a session that goes well. -/
structure Passed extends Opening where
  finishToken : Bytes
  messageToken : Bytes
  /-- When the message was read. -/
  now : Instant
  /-- When the session would have ended. -/
  expiresAt : Option Instant

/-- What a report says is what the three tokens have in them. -/
structure Passed.Authentic (passed : Passed) (acceptor : Acceptor) (report : PeerReport) :
    Prop where
  heard : passed.toOpening.Heard acceptor
  proved : passed.toOpening.Proved acceptor passed.finishToken
  unwraps : ∃ after, (passed.toOpening.session acceptor passed.expiresAt).unwrap passed.now
    passed.messageToken = .ok (⟨report.message, report.confidential⟩, after)
  handshakeTokens : report.handshakeTokens = [passed.token, passed.finishToken]

/-- The tokens that the peer reads. -/
def Passed.read (passed : Passed) : List Bytes :=
  [passed.token, passed.finishToken, passed.messageToken]

/-- The tokens that the peer sends: its reply, and a signature with the first
number over the message. -/
def Passed.sent (passed : Passed) (acceptor : Acceptor) (report : PeerReport) : List Bytes :=
  [(passed.toOpening.reply acceptor).encode,
    Session.micToken (passed.toOpening.keys acceptor).acceptorMac .acceptorToInitiator 0
      report.message]

namespace PskPeer

variable {acceptor : Acceptor} {p : PskPeer} {read sent : List Bytes}

/-- Where a peer can be between two tokens, with what it read and what it sent. -/
inductive Stage (acceptor : Acceptor) : PskPeer → (read sent : List Bytes) → Prop where
  | waiting {p : PskPeer} (hacceptor : p.acceptor = acceptor) (hphase : p.phase = .handshake)
      (hcontext : p.context = none) (hseen : p.seen = []) : Stage acceptor p [] []
  | answered {p : PskPeer} {o : Opening} (hacceptor : p.acceptor = acceptor)
      (hphase : p.phase = .handshake) (hheard : o.Heard acceptor)
      (hcontext : p.context = some (acceptor.reply o.hello o.token o.nonce).2)
      (hseen : p.seen = [o.token]) : Stage acceptor p [o.token] [(o.reply acceptor).encode]
  | accepted {p : PskPeer} {o : Opening} {token : Bytes} {c : Context}
      {expiresAt : Option Instant} (hphase : p.phase = .message) (hheard : o.Heard acceptor)
      (hproved : o.Proved acceptor token) (hcontext : p.context = some c)
      (hsession : c.phase = .established (o.session acceptor expiresAt))
      (hseen : p.seen = [token, o.token]) :
      Stage acceptor p [o.token, token] [(o.reply acceptor).encode]
  | reported {p : PskPeer} {report : PeerReport} {passed : Passed}
      (hphase : p.phase = .done report) (hauthentic : passed.Authentic acceptor report) :
      Stage acceptor p passed.read (passed.sent acceptor report)
  | failed {p : PskPeer} {e : PeerError} {read sent : List Bytes} (hphase : p.phase = .failed e)
      (hread : read.length ≤ 3) (hsent : sent.length ≤ 1) : Stage acceptor p read sent

namespace Stage

/-- No stage is further than three tokens that were read and two that were sent. -/
theorem length_le (h : Stage acceptor p read sent) : read.length ≤ 3 ∧ sent.length ≤ 2 := by
  cases h with
  | waiting | answered | accepted => simp
  | reported => simp [Passed.read, Passed.sent]
  | failed _ hread hsent => exact ⟨hread, by omega⟩

/-- A peer that is still reading has something to read for, and may fail. -/
theorem length_le_of_reading (h : Stage acceptor p read sent)
    (hreading : p.phase.isReading = true) : read.length ≤ 2 ∧ sent.length ≤ 1 := by
  cases h with
  | waiting | answered | accepted => simp
  | reported hphase | failed hphase =>
    rw [hphase] at hreading
    cases hreading

/-- A report is there at the last stage only. -/
theorem authentic_of_done (h : Stage acceptor p read sent) {report : PeerReport}
    (hdone : p.phase = .done report) :
    ∃ passed : Passed, passed.Authentic acceptor report ∧ read = passed.read ∧
      sent = passed.sent acceptor report := by
  cases h with
  | waiting _ hphase | answered _ hphase | accepted hphase | failed hphase =>
    rw [hphase] at hdone
    cases hdone
  | reported hphase hauthentic =>
    rw [hphase] at hdone
    cases hdone
    exact ⟨_, hauthentic, rfl, rfl⟩

end Stage

/-! ## One token

For each stage but the last two there is a lemma that says where a token leads. It never
leads back, and apart from the stage that comes next it can only lead to failure. -/

/-- In the handshake a token is a step of the acceptor, and the step says how the
loop goes on. -/
theorem exists_step (hphase : p.phase = .handshake) (token : Bytes) :
    ∃ step after env,
      Acceptor.Took (Simulated.environment : Environment (Action Empty Simulated)) p.acceptor
        p.context token step after ∧
      p.feed token =
        ({ p with
            context := after
            env
            seen := token :: p.seen
            phase := match step.status with
              | .continueNeeded => .handshake
              | .complete => .message
              | .failure status =>
                .failed (.protocol ("accepting context: " ++ status.text)) },
          if step.output = [] then [] else [step.output]) := by
  refine ⟨_, _, (p.accept token).2.env, Acceptor.side_took p.context token p.env, ?_⟩
  let side := p.acceptor.side (Simulated.environment : Environment (Action Empty Simulated))
  have haccept : p.accept token = ((side p.context token p.env).1, { p with
      context := (side p.context token p.env).2
      env := (p.accept token).2.env }) := rfl
  rw [feed, hphase]
  dsimp only
  rw [handshakeToken, haccept]
  dsimp only
  cases hstatus : (side p.context token p.env).1.status with
  | continueNeeded => rw [hphase]
  | complete => rfl
  | failure status => rfl

/-- A first token is answered, or the peer fails. What is said of the answer is what the
acceptor's step is known to have done. -/
theorem Stage.feed_waiting (hacceptor : p.acceptor = acceptor) (hphase : p.phase = .handshake)
    (hcontext : p.context = none) (hseen : p.seen = []) (token : Bytes) :
    Stage acceptor (p.feed token).1 [token] (p.feed token).2 := by
  obtain ⟨step, after, env, htook, hfeed⟩ := exists_step hphase token
  rw [hfeed]
  rw [hacceptor, hcontext] at htook
  cases htook with
  | refused status => exact .failed rfl (by simp) (by simp [Step.failure])
  | replied world hhello hdraw =>
    rename_i nonce hello
    have hheard : Opening.Heard ⟨token, hello, nonce⟩ acceptor :=
      ⟨Acceptor.hears_of_readHello hhello, Simulated.environment_exact _ _ _ hdraw⟩
    have hsome : (acceptor.reply hello token nonce).1.output ≠ [] := Cbor.writeRecord_ne_nil _
    dsimp only
    rw [if_neg hsome]
    refine .answered ?_ rfl hheard rfl ?_
    · exact hacceptor
    · rw [hseen]

/-- A second token completes the handshake, or the peer fails. It cannot be answered
once more, since an acceptor that has a context confirms or refuses. -/
theorem Stage.feed_answered {o : Opening} (hacceptor : p.acceptor = acceptor)
    (hphase : p.phase = .handshake) (hheard : o.Heard acceptor)
    (hcontext : p.context = some (acceptor.reply o.hello o.token o.nonce).2)
    (hseen : p.seen = [o.token]) (token : Bytes) :
    Stage acceptor (p.feed token).1 [o.token, token]
      ([(o.reply acceptor).encode] ++ (p.feed token).2) := by
  obtain ⟨step, after, env, htook, hfeed⟩ := exists_step hphase token
  rw [hfeed]
  rw [hacceptor, hcontext] at htook
  cases htook with
  | refused status => exact .failed rfl (by simp) (by simp [Step.failure])
  | confirmed now hawaits hdecode hproof =>
    -- what the context awaits is the proof for what was hashed
    cases hawaits
    exact .accepted rfl hheard ⟨_, hdecode, hproof⟩ rfl rfl (by rw [hseen])

/-- A third token is signed, or the peer fails. What was unwrapped can be signed,
since the session still lives and no number was used. -/
theorem Stage.feed_accepted {o : Opening} {second : Bytes} {c : Context}
    {expiresAt : Option Instant} (hphase : p.phase = .message) (hheard : o.Heard acceptor)
    (hproved : o.Proved acceptor second) (hcontext : p.context = some c)
    (hsession : c.phase = .established (o.session acceptor expiresAt))
    (hseen : p.seen = [second, o.token]) (token : Bytes) :
    Stage acceptor (p.feed token).1 [o.token, second, token]
      ([(o.reply acceptor).encode] ++ (p.feed token).2) := by
  cases hunwrap : (o.session acceptor expiresAt).unwrap p.env.now token with
  | error e =>
    have hfeed : p.feed token = (p.refused "unsealing message" e, []) := by
      rw [feed, hphase]
      dsimp only
      rw [messageToken, hcontext]
      dsimp only
      rw [Context.unwrap_eq hsession, hunwrap]
    rw [hfeed]
    exact .failed rfl (by simp) (by simp)
  | ok result =>
    obtain ⟨u, after⟩ := result
    let passed : Passed := ⟨o, second, token, p.env.now, expiresAt⟩
    obtain ⟨seq, -, hafter⟩ := Session.accepted_of_unwrap hunwrap
    -- accepting changes neither the session's time nor whether it is over
    have hlive : after.checkExpiry p.env.now = .ok () := by
      have hbefore := Session.checkExpiry_of_unwrap hunwrap
      rw [hafter]
      exact hbefore
    have hsigned : after.getMic p.env.now u.message =
        .ok (Session.micToken (o.keys acceptor).acceptorMac .acceptorToInitiator 0 u.message,
          after.advanced) := by
      rw [Session.getMic_eq _ _ _ hlive, hafter]
      exact if_pos (Session.hasNumber_start ..)
    rw [feed_signed hphase hcontext hsession hunwrap hsigned]
    have hauthentic : passed.Authentic acceptor
        ⟨p.seen.reverse, u.message, u.confidential⟩ :=
      ⟨hheard, hproved, ⟨after, hunwrap⟩, by rw [hseen]; rfl⟩
    exact .reported rfl hauthentic

/-- **One token takes a stage to a stage**, as long as the peer reads. By cases of the
stage it was in. -/
theorem Stage.feed (h : Stage acceptor p read sent) (hreading : p.phase.isReading = true)
    (token : Bytes) :
    Stage acceptor (p.feed token).1 (read ++ [token]) (sent ++ (p.feed token).2) := by
  cases h with
  | waiting hacceptor hphase hcontext hseen =>
    exact feed_waiting hacceptor hphase hcontext hseen token
  | answered hacceptor hphase hheard hcontext hseen =>
    exact feed_answered hacceptor hphase hheard hcontext hseen token
  | accepted hphase hheard hproved hcontext hsession hseen =>
    exact feed_accepted hphase hheard hproved hcontext hsession hseen token
  | reported hphase | failed hphase =>
    rw [hphase] at hreading
    cases hreading

/-- A peer that is still reading may fail at any moment. -/
theorem Stage.fail (h : Stage acceptor p read sent) (hreading : p.phase.isReading = true)
    (e : PeerError) : Stage acceptor { p with phase := .failed e } read sent := by
  obtain ⟨hread, hsent⟩ := h.length_le_of_reading hreading
  exact .failed rfl (Nat.le_succ_of_le hread) hsent

/-! ## Bytes

The peer sees frames and not tokens. `Ledger` keeps the two together: what the client
wrote is the frames of what was read followed by what is on its way, and the same the
other way round. No byte is lost in that, and none is read twice. -/

/-- A whole frame is the frame of its token. The four bytes in front are the ones that
would be written for the length they declare, and the token is of that length. -/
theorem eq_of_wholeFrame? {bytes token rest : Bytes} {declared : Nat}
    (hdeclared : Loopback.declared? bytes = some declared)
    (h : Loopback.wholeFrame? bytes = some (token, rest)) :
    bytes = Frame.encode token ++ rest ∧ token.length = declared := by
  obtain ⟨length, hlength, hlong, rfl, rfl⟩ := Loopback.wholeFrame?_eq_some_iff.mp h
  have htoken : ((bytes.drop Frame.lengthSize).take length).length = length := by
    rw [List.length_take, List.length_drop]
    omega
  have hhead : (bytes.take Frame.lengthSize).length = Frame.lengthSize := by
    rw [List.length_take]
    omega
  -- four bytes are written for a number as they were read
  have hwritten : Bytes.ofNatBE Frame.lengthSize length = bytes.take Frame.lengthSize := by
    have hback := Bytes.ofNatBE_toNatBE (bytes.take Frame.lengthSize)
    rw [hhead, ← hlength] at hback
    exact hback
  constructor
  · rw [Frame.encode, htoken, hwritten, List.append_assoc, ← List.drop_drop,
      List.take_append_drop, List.take_append_drop]
  · rw [htoken, hlength]
    unfold Loopback.declared? at hdeclared
    rw [if_neg (by omega)] at hdeclared
    exact Option.some.inj hdeclared

end PskPeer

/-- What a peer has read and sent, against what its client wrote and has read so
far: the frames of the one and the bytes of the other, with what is on its way. -/
structure Ledger (acceptor : Acceptor) (read sent : List Bytes) (written got : Bytes)
    (peer : Peer) (toPeer toClient : Bytes) : Prop where
  stage : ∃ p, peer = .psk p ∧ PskPeer.Stage acceptor p read sent
  fits : ∀ token ∈ read, token.length ≤ Frame.defaultBound
  toPeer : written = read.flatMap Frame.encode ++ toPeer
  toClient : sent.flatMap Frame.encode = got ++ toClient

namespace Ledger

variable {acceptor : Acceptor} {read sent : List Bytes} {written got toPeer toClient : Bytes}
  {peer : Peer}

/-- A whole frame is read. -/
theorem feed (h : Ledger acceptor read sent written got peer toPeer toClient)
    (hreading : peer.phase.isReading = true) {token rest : Bytes}
    (hfits : token.length ≤ Frame.defaultBound) (hcut : toPeer = Frame.encode token ++ rest) :
    Ledger acceptor (read ++ [token]) (sent ++ (peer.feed token).2) written got
      (peer.feed token).1 rest (toClient ++ (peer.feed token).2.flatMap Frame.encode) where
  stage := by
    obtain ⟨p, rfl, hstage⟩ := h.stage
    exact ⟨(p.feed token).1, rfl, hstage.feed hreading token⟩
  fits := by
    intro t ht
    rcases List.mem_append.mp ht with ht | ht
    · exact h.fits t ht
    · rw [List.mem_singleton.mp ht]
      exact hfits
  toPeer := by
    rw [h.toPeer, hcut, List.flatMap_append, List.flatMap_singleton, List.append_assoc]
  toClient := by
    rw [List.flatMap_append, h.toClient, List.append_assoc]

/-- A peer that is still reading may fail. -/
theorem fail (h : Ledger acceptor read sent written got peer toPeer toClient)
    (hreading : peer.phase.isReading = true) (e : PeerError) :
    Ledger acceptor read sent written got (peer.fail e) toPeer toClient where
  stage := by
    obtain ⟨p, rfl, hstage⟩ := h.stage
    exact ⟨_, rfl, hstage.fail hreading e⟩
  fits := h.fits
  toPeer := h.toPeer
  toClient := h.toClient

/-- **The loop keeps the books**, however many frames are whole. The induction is on the
fuel of the loop; each round of it stops, or fails because of a frame that is too long,
or reads one frame, and the last is what `feed` is about. -/
theorem absorb (h : Ledger acceptor read sent written got peer toPeer toClient) (fuel : Nat) :
    let (peer', toPeer', toClient') := Loopback.absorb fuel peer toPeer toClient
    ∃ read' sent', Ledger acceptor read' sent' written got peer' toPeer' toClient' := by
  induction fuel generalizing read sent peer toPeer toClient with
  | zero => exact ⟨read, sent, h⟩
  | succ fuel ih =>
    rw [Loopback.absorb]
    -- a peer that reads takes a whole frame, fails at one that is too long, or waits
    by_cases hreading : peer.phase.isReading = true
    · rw [hreading]
      cases hdeclared : Loopback.declared? toPeer with
      | none => exact ⟨read, sent, h⟩
      | some declared =>
        by_cases hlong : Frame.defaultBound < declared
        · simp only [Bool.not_true, Bool.false_eq_true, if_false, if_pos hlong]
          exact ⟨read, sent, h.fail hreading _⟩
        · simp only [Bool.not_true, Bool.false_eq_true, if_false, if_neg hlong]
          cases hwhole : Loopback.wholeFrame? toPeer with
          | none => exact ⟨read, sent, h⟩
          | some cut =>
            obtain ⟨token, rest⟩ := cut
            obtain ⟨hcut, hlength⟩ := PskPeer.eq_of_wholeFrame? hdeclared hwhole
            exact ih (h.feed hreading (by omega) hcut)
    · rw [Bool.not_eq_true] at hreading
      rw [hreading]
      exact ⟨read, sent, h⟩

end Ledger

/-! ## Clients

A client is anything that writes and reads. Its deeds are folded over the network, and
the books are kept by each of them, so they are kept by all. -/

/-- What a client does with its connection. -/
inductive ClientDeed where
  | writes (bytes : Bytes)
  | reads (want : Nat)
  deriving DecidableEq

namespace ClientDeed

/-- The bytes that the client writes. -/
def written : ClientDeed → Bytes
  | writes bytes => bytes
  | reads _ => []

/-- The bytes that the client is given by a deed, and the network after it. -/
def onto (l : Loopback) : ClientDeed → Bytes × Loopback
  | writes bytes => ([], l.arrive bytes)
  | reads want => ((l.read want).1.toOption.getD [], (l.read want).2)

/-- Many deeds, one after the other. -/
def allOnto (l : Loopback) : List ClientDeed → Bytes × Loopback
  | [] => ([], l)
  | deed :: deeds =>
    let first := deed.onto l
    let rest := allOnto first.2 deeds
    (first.1 ++ rest.1, rest.2)

theorem snd_allOnto_nil (l : Loopback) : (allOnto l []).2 = l := rfl

/-- The first deed is done, and then the others. -/
theorem snd_allOnto_cons (l : Loopback) (deed : ClientDeed) (deeds : List ClientDeed) :
    (allOnto l (deed :: deeds)).2 = (allOnto (deed.onto l).2 deeds).2 := rfl

theorem snd_onto_writes (l : Loopback) (bytes : Bytes) :
    ((writes bytes).onto l).2 = l.arrive bytes := rfl

/-- Reading where nothing is there changes nothing. -/
theorem snd_onto_reads {l : Loopback} (hnone : l.toClient = []) (want : Nat) :
    ((reads want).onto l).2 = l := by
  change (l.read want).2 = l
  unfold Loopback.read
  rw [if_pos hnone]
  split <;> rfl

end ClientDeed

/-- The books of a network with one peer. -/
def Loopback.Serves (acceptor : Acceptor) (written got : Bytes) (l : Loopback) : Prop :=
  ∃ peer read sent, l.peer = some peer ∧
    Ledger acceptor read sent written got peer l.toPeer l.toClient

namespace Loopback.Serves

variable {acceptor : Acceptor} {written got : Bytes} {l : Loopback}

/-- Bytes that arrive are on their way first, and then the loop reads what is whole. -/
theorem arrive (h : l.Serves acceptor written got) (bytes : Bytes) :
    (l.arrive bytes).Serves acceptor (written ++ bytes) got := by
  obtain ⟨peer, read, sent, hpeer, hledger⟩ := h
  have hmore : Ledger acceptor read sent (written ++ bytes) got peer (l.toPeer ++ bytes)
      l.toClient :=
    ⟨hledger.stage, hledger.fits, by rw [hledger.toPeer, List.append_assoc], hledger.toClient⟩
  obtain ⟨read', sent', habsorbed⟩ := hmore.absorb (l.toPeer ++ bytes).length
  rw [arrive_eq hpeer]
  exact ⟨_, read', sent', rfl, habsorbed⟩

/-- Bytes that are read were written by the peer, and are gone then. -/
theorem read (h : l.Serves acceptor written got) (want : Nat) :
    ((ClientDeed.reads want).onto l).2.Serves acceptor written
      (got ++ ((ClientDeed.reads want).onto l).1) := by
  obtain ⟨peer, read, sent, hpeer, hledger⟩ := h
  rw [show (ClientDeed.reads want).onto l =
    ((l.read want).1.toOption.getD [], (l.read want).2) from rfl]
  unfold Loopback.read
  by_cases hnone : l.toClient = []
  · -- nothing is there to be read, so nothing changes
    rw [if_pos hnone]
    split
    · exact ⟨peer, read, sent, hpeer, by rwa [Except.toOption, Option.getD_none, List.append_nil]⟩
    · exact ⟨peer, read, sent, hpeer, by rwa [Except.toOption, Option.getD_some, List.append_nil]⟩
  · rw [if_neg hnone]
    refine ⟨peer, read, sent, hpeer, hledger.stage, hledger.fits, hledger.toPeer, ?_⟩
    rw [Except.toOption, Option.getD_some, List.append_assoc, List.take_append_drop]
    exact hledger.toClient

/-- **A deed of the client keeps the books**, whatever it is. -/
theorem deed (h : l.Serves acceptor written got) (d : ClientDeed) :
    (d.onto l).2.Serves acceptor (written ++ d.written) (got ++ (d.onto l).1) := by
  cases d with
  | writes bytes =>
    rw [show ((ClientDeed.writes bytes).onto l).1 = [] from rfl, List.append_nil]
    exact h.arrive bytes
  | reads want =>
    rw [show (ClientDeed.reads want).written = [] from rfl, List.append_nil]
    exact h.read want

/-- And so do many, by induction on the deeds. -/
theorem deeds (h : l.Serves acceptor written got) (ds : List ClientDeed) :
    (ClientDeed.allOnto l ds).2.Serves acceptor (written ++ ds.flatMap ClientDeed.written)
      (got ++ (ClientDeed.allOnto l ds).1) := by
  induction ds generalizing l written got with
  | nil =>
    rw [List.flatMap_nil, List.append_nil]
    exact (List.append_nil got).symm ▸ h
  | cons d ds ih =>
    have hrest := ih (h.deed d)
    rw [List.append_assoc, List.append_assoc] at hrest
    rw [List.flatMap_cons]
    exact hrest

end Loopback.Serves

/-- When the client is gone the peer has ended, and its report is its own: going
away makes none. -/
theorem Loopback.exists_report {l : Loopback} {peer : Peer} (hpeer : l.peer = some peer) :
    ∃ outcome, l.report? = some outcome ∧
      ∀ report, outcome = .ok report → peer.phase = .done report := by
  cases hphase : peer.phase with
  | done report =>
    refine ⟨.ok report, report?_of_done hpeer hphase, ?_⟩
    intro found hfound
    cases hfound
    rfl
  | failed e =>
    have hhangUp : l.hangUp = l := by
      rw [hangUp, hpeer]
      dsimp only
      rw [hphase]
      rfl
    refine ⟨.error e, ?_, fun report h => by cases h⟩
    rw [report?, hhangUp, hpeer, Option.bind_some, hphase]
  | handshake | message =>
    refine ⟨.error (.transport (.io .endOfInput)), ?_, fun report h => by cases h⟩
    rw [report?, hangUp, hpeer]
    dsimp only
    rw [hphase]
    cases peer <;> rfl

/-- **A report is authentic.** A client writes any bytes to a peer with a key, in
any pieces, reads in between, and goes away. The peer reads three tokens at most,
sends two at most, and ends. If it reports success, then the first token was a
hello for its acceptor, the second had the proof for exactly those bytes and the
reply that was sent, the third unwrapped under the keys of that transcript to what
is reported, and the signature over it was sent last. -/
theorem report_authentic (acceptor : Acceptor) (env : Simulated) (port : UInt16)
    (deeds : List ClientDeed) :
    let start : Loopback := { peer := some (.psk { acceptor, env }), port }
    let ended := ClientDeed.allOnto start deeds
    ∃ read sent outcome,
      deeds.flatMap ClientDeed.written = read.flatMap Frame.encode ++ ended.2.toPeer ∧
      (∀ token ∈ read, token.length ≤ Frame.defaultBound) ∧
      sent.flatMap Frame.encode = ended.1 ++ ended.2.toClient ∧
      read.length ≤ 3 ∧ sent.length ≤ 2 ∧ ended.2.report? = some outcome ∧
      ∀ report, outcome = .ok report → ∃ passed : Passed, passed.Authentic acceptor report ∧
        read = passed.read ∧ sent = passed.sent acceptor report := by
  intro start ended
  -- nothing was read or sent yet, and the ledger is kept by every deed of the client
  have hstart : start.Serves acceptor [] [] :=
    ⟨_, [], [], rfl, ⟨_, rfl, .waiting rfl rfl rfl rfl⟩, nofun, rfl, rfl⟩
  obtain ⟨peer, read, sent, hpeer, hledger⟩ := hstart.deeds deeds
  obtain ⟨p, rfl, hstage⟩ := hledger.stage
  obtain ⟨hread, hsent⟩ := hstage.length_le
  obtain ⟨outcome, hreport, hdone⟩ := Loopback.exists_report hpeer
  refine ⟨read, sent, outcome, hledger.toPeer, hledger.fits, hledger.toClient, hread, hsent,
    hreport, ?_⟩
  intro report hok
  exact hstage.authentic_of_done (hdone report hok)

/-! ## A client with the key

That the report can be there at all takes a client that knows the key. Its three tokens
are fed to the peer as frames that come in whole; however they are cut, it ends the same
way. -/

section

variable {config : Config} {acceptor : Acceptor} {target : ServiceName} {nonce nonce' : Bytes}
  {env env' : Simulated}

/-- The third token of a client with the key, in the open. -/
def openMessage (config : Config) (acceptor : Acceptor) (target : ServiceName) (flags : Flags)
    (nonce nonce' message : Bytes) : Bytes :=
  Session.wrapToken (config.key.sessionKeys
    (heard config acceptor target flags nonce nonce').digest).initiatorMac .initiatorToAcceptor 0
    message

/-- Three frames take the peer to its report: the hello is answered, the finish is
confirmed, and the message is signed and reported. -/
theorem rests_of_client (h : Meeting config acceptor target) (flags : Flags)
    (haccepts : target.accepts acceptor.name = true) (hnonce : nonce.length = Handshake.nonceSize)
    (hdraw : env.draw Handshake.nonceSize = (.ok nonce', env')) (now : Instant)
    (hlasts : env'.now.Lasts acceptor.config.lifetime env'.now) {l : Loopback}
    (hrests : l.Rests (.psk { acceptor, env }) []) {hello finish message token : Bytes}
    (hhello : hello = (greeted config target flags nonce).1.output)
    (hfinish : finish = (concluded config acceptor target flags nonce nonce' now).1.output)
    (htoken : token = openMessage config acceptor target flags nonce nonce' message)
    (hfits : ∀ t ∈ [hello, finish, token], t.length ≤ Frame.defaultBound) :
    ∃ p written,
      (((l.arrive (Frame.encode hello)).arrive (Frame.encode finish)).arrive
        (Frame.encode token)).Rests (.psk p) written ∧
      p.phase = .done ⟨[hello, finish], message, false⟩ := by
  have hfirst := h.feed_hello flags haccepts hnonce hdraw
  have hsecond := @Meeting.feed_finish config acceptor target env' h flags nonce nonce' now [hello]
  rw [← hhello] at hfirst
  rw [← hfinish] at hsecond
  let r : Session := Session.start
    (acceptor.config.key.sessionKeys (heard config acceptor target flags nonce nonce').digest)
    false (settled config acceptor target flags nonce nonce' env'.now).2.flags
    (env'.now.plus? acceptor.config.lifetime)
  have hlive : r.checkExpiry env'.now = .ok () := Session.checkExpiry_of_lasts rfl hlasts
  -- the two sides have one key, so the message is for the session that was opened
  have hunwrap : r.unwrap env'.now token = .ok (⟨message, false⟩, r.accepted 0) := by
    rw [htoken, openMessage, h.key]
    exact Session.unwrap_wrapToken r env'.now 0 message hlive
  have hsigned : (r.accepted 0).getMic env'.now message = .ok (_, (r.accepted 0).advanced) :=
    Session.getMic_eq (r.accepted 0) env'.now message hlive
  let c := (settled config acceptor target flags nonce nonce' env'.now).2
  let p : PskPeer :=
    { acceptor, env := env', context := some c, seen := [finish, hello], phase := .message }
  have hthird : p.feed token = _ := PskPeer.feed_signed rfl rfl rfl hunwrap hsigned
  have hrests₁ := hrests.arrive rfl (hfits hello (by simp)) (Peer.feed_psk hfirst)
  have hrests₂ := hrests₁.arrive rfl (hfits finish (by simp)) (Peer.feed_psk hsecond)
  have hrests₃ := hrests₂.arrive rfl (hfits token (by simp)) (Peer.feed_psk hthird)
  exact ⟨_, _, hrests₃, rfl⟩

end

/-- The client reads too early, cuts its hello in two, sends its finish and its
message in one piece, and a byte too many. -/
theorem authentic_of_cut :
    let key : PreSharedKey := ⟨List.replicate 16 7, Nat.le_refl 16⟩
    let config : Config := ⟨key, "alice", Config.defaultLifetime⟩
    let service : ServiceName := ⟨"echo", some "host"⟩
    let acceptor : Acceptor := ⟨⟨key, "echo@host", Config.defaultLifetime⟩, service, true⟩
    let nonce : Bytes := List.replicate 32 5
    let env := Simulated.ofSupply nonce
    let hello := (greeted config service .empty nonce).1.output
    let finish := (concluded config acceptor service .empty nonce nonce env.now).1.output
    let token := openMessage config acceptor service .empty nonce nonce [1, 2, 3]
    let start : Loopback := { peer := some (.psk { acceptor, env }), port := 8080 }
    let deeds : List ClientDeed := [.reads 10, .writes ((Frame.encode hello).take 7),
      .writes ((Frame.encode hello).drop 7),
      .writes (Frame.encode finish ++ Frame.encode token), .writes [0xff]]
    let report : PeerReport := ⟨[hello, finish], [1, 2, 3], false⟩
    (ClientDeed.allOnto start deeds).2.report? = some (.ok report) ∧
      ∃ passed : Passed, passed.Authentic acceptor report ∧ passed.token = hello ∧
        passed.finishToken = finish := by
  intro key config service acceptor nonce env hello finish token start deeds report
  have hmeeting : Meeting config acceptor service :=
    ⟨rfl, by decide +kernel, by decide +kernel, by decide, by decide, by decide⟩
  have hdraw : env.draw Handshake.nonceSize = (.ok nonce, (env.draw Handshake.nonceSize).2) := rfl
  have hlasts : (env.draw Handshake.nonceSize).2.now.Lasts acceptor.config.lifetime
      (env.draw Handshake.nonceSize).2.now := Instant.lasts_of_lt (by decide)
  have hfits : ∀ t ∈ [hello, finish, token], t.length ≤ Frame.defaultBound := by
    have hhello : hello.length ≤ Frame.defaultBound := by decide +kernel
    have hfinish : finish.length ≤ Frame.defaultBound := by
      refine Nat.le_trans (Finish.length_encode_le _) ?_
      rw [Hmac.length_ofParts]
      decide
    have htoken : token.length ≤ Frame.defaultBound := by
      simp only [token, openMessage, Session.wrapToken, List.length_append,
        MessageHeader.length_toBytes, Hmac.length_ofParts]
      decide
    simp [hhello, hfinish, htoken]
  obtain ⟨p, written, hrests, hdone⟩ := rests_of_client hmeeting .empty
    (ServiceName.accepts_self service) rfl hdraw env.now hlasts (l := start) ⟨rfl, rfl, rfl⟩ rfl
    rfl rfl hfits
  have hreport : (ClientDeed.allOnto start deeds).2.report? = some (.ok report) := by
    rw [ClientDeed.snd_allOnto_cons, ClientDeed.snd_onto_reads rfl]
    simp only [ClientDeed.snd_allOnto_cons, ClientDeed.snd_onto_writes, ClientDeed.snd_allOnto_nil]
    -- the pieces are the three frames, and the last byte changes nothing
    rw [Loopback.arrive_append start, List.take_append_drop,
      ← Loopback.arrive_append _ (Frame.encode finish)]
    have hover : (Peer.psk p).phase.isReading = false := by
      rw [Peer.phase, hdone]
      rfl
    exact Loopback.report?_of_done (Loopback.peer_arrive_over hrests.peer hover _) hdone
  obtain ⟨read, sent, outcome, -, -, -, -, -, hfound, hauthentic⟩ :=
    report_authentic acceptor env 8080 deeds
  obtain ⟨passed, hpassed, -⟩ :=
    hauthentic report (Option.some.inj (hfound.symm.trans hreport))
  have htokens : [hello, finish] = [passed.token, passed.finishToken] := hpassed.handshakeTokens
  refine ⟨hreport, passed, hpassed, ?_, ?_⟩
  · exact (List.head_eq_of_cons_eq htokens).symm
  · exact (List.head_eq_of_cons_eq (List.tail_eq_of_cons_eq htokens)).symm

end Rehearsal

end GssContext
