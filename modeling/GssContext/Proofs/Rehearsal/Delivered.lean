/-
From one end to the other.

A client and a peer share a key, and between them is a stream that loses nothing
but cuts what it carries anywhere. Then the session succeeds, and both ends know
the same: the message, whether it was sealed, and what was granted.

The proof follows the five tokens. Each is made by one side, carried by the stream,
and read by the other, so each is three equations that fit together, and the state
of the network between two tokens is said by `Rests`. What the client takes from
its surroundings on the way is `takings`, a program of its own: that the surroundings
suffice for a session is that it gives something.
-/
import GssContext.Proofs.Client.Course
import GssContext.Proofs.Rehearsal.Outcome
import GssContext.Proofs.Rehearsal.Serving
import GssContext.Proofs.Rehearsal.Stream

set_option autoImplicit false

namespace GssContext

open GssContext.Action

/-! ## Flags and times

The two sides compute what they need from different things: the client from the reply,
the peer from its own grant. Here it is shown that this comes to the same for the one
flag that matters to a message. -/

/-- What was granted has confidentiality if the acceptor allows it. -/
theorem Psk.has_confidentiality_grants (requested : Flags) (confidentiality : Bool) :
    (grants requested confidentiality ||| onceOpen).has .confidentiality = confidentiality := by
  have hmutual : (Flags.of [.mutuality]).has .confidentiality = false := by decide
  have halways : alwaysGranted.has .confidentiality = false := by decide
  have hconf : (Flags.of [.confidentiality]).has .confidentiality = true := by decide
  have hopen : onceOpen.has .confidentiality = false := by decide
  rw [Flags.has_union, has_grants, hmutual, halways, hconf, hopen, Bool.and_false, Bool.and_true,
    Bool.or_false, Bool.or_false, Bool.false_or]

/-- So the initiator seals a message if that is asked for and the acceptor allows it. -/
theorem Psk.Session.seals_start_granted (keys : SessionKeys) (requested : Flags)
    (confidentiality confidential : Bool) (expiresAt : Option Instant) :
    (start keys true (Initiator.granted requested (grants requested confidentiality))
      expiresAt).seals confidential = (confidential && confidentiality) := by
  have hconfidentiality : (start keys true
      (Initiator.granted requested (grants requested confidentiality)) expiresAt).confidentiality =
        confidentiality := by
    change (Initiator.granted requested (grants requested confidentiality)).has
      .confidentiality = _
    rw [granted_grants, has_confidentiality_grants]
  rw [seals, hconfidentiality]

/-- The sessions of two sides with one key fit each other. -/
theorem Psk.Session.start_mirrors_of_key {key key' : PreSharedKey} (hkey : key = key')
    (digest : Bytes) (flags flags' : Flags) (expiresAt expiresAt' : Option Instant) :
    (start (key.sessionKeys digest) true flags expiresAt).Mirrors
      (start (key'.sessionKeys digest) false flags' expiresAt') := by
  subst hkey
  exact start_mirrors _ _ _ _ _

/-! ## What a client takes from its surroundings

A session draws one nonce or two, looks at the clock four times and loads a payload,
with tokens sent and received in between. All that it takes in this is a program without
any channel. If it gives a value, the surroundings were good enough, and the value has
in it everything that the tokens are made of. -/

/-- An action that follows another one follows its value, where it ended. -/
theorem Action.exists_of_run_bind {ε σ α β : Type} {x : Action ε σ α} {f : α → Action ε σ β}
    {s : σ} {ended : β × σ} (h : (x >>= f).run s = ended) :
    ∃ a s', x.run s = (a, s') ∧ (f a).run s' = ended := ⟨_, _, rfl, h⟩

namespace Client

/-- All that a session takes. -/
structure Takings where
  nonce : Bytes
  /-- When the handshake is finished. -/
  began : Instant
  message : Bytes
  wrappedAt : Instant
  /-- The nonce under which the message is sealed, if it is. -/
  sealNonce : Bytes
  verifiedAt : Instant

variable {ε σ ν : Type}

/-- A nonce to seal a message, if it is to be sealed. -/
def sealNonce (env : Environment (Action ε σ)) (sealing : Bool) :
    Action ε σ (Except EntropyError Bytes) :=
  if sealing then env.draw Sealed.nonceSize else pure (.ok [])

/-- Take it in the order of a session, without one. -/
def takings (env : Environment (Action ε σ)) (surroundings : Surroundings (Action ε σ))
    (payload : Payload) (sealing : Bool) : Action ε σ (Option Takings) := do
  match ← env.draw Handshake.nonceSize with
  | .error _ => return none
  | .ok nonce =>
    let began ← env.now
    let _ ← surroundings.now
    match ← payload.load surroundings with
    | .error _ => return none
    | .ok message =>
      let wrappedAt ← env.now
      match ← sealNonce env sealing with
      | .error _ => return none
      | .ok sealNonce => return some ⟨nonce, began, message, wrappedAt, sealNonce, ← env.now⟩

/-- The lifetime of the context outlasts its use. -/
structure Takings.Within (t : Takings) (lifetime : Duration) : Prop where
  wraps : t.began.Lasts lifetime t.wrappedAt
  verifies : t.began.Lasts lifetime t.verifiedAt

/-- The worlds in which a session takes them, one after the other. -/
structure Takings.Taken (env : Environment (Action ε σ)) (surroundings : Surroundings (Action ε σ))
    (payload : Payload) (sealing : Bool) (t : Takings) (w w₁ w₂ w₃ w₄ w₅ w₆ w₇ : σ) : Prop where
  nonce : (env.draw Handshake.nonceSize).run w = (.ok t.nonce, w₁)
  began : env.now.run w₁ = (t.began, w₂)
  looked : ∃ now, surroundings.now.run w₂ = (now, w₃)
  message : (payload.load surroundings : Action ε σ _).run w₃ = (.ok t.message, w₄)
  wrappedAt : env.now.run w₄ = (t.wrappedAt, w₅)
  plain : sealing = false → w₅ = w₆
  sealNonce : sealing = true → (env.draw Sealed.nonceSize).run w₅ = (.ok t.sealNonce, w₆)
  verifiedAt : env.now.run w₆ = (t.verifiedAt, w₇)

/-- The program is taken apart, and every world it went through is named. A draw or a
payload that failed would have ended it without a value. -/
theorem taken_of_takings {env : Environment (Action ε σ)}
    {surroundings : Surroundings (Action ε σ)} {payload : Payload} {sealing : Bool} {w w' : σ}
    {t : Takings} (h : (takings env surroundings payload sealing).run w = (some t, w')) :
    ∃ w₁ w₂ w₃ w₄ w₅ w₆, t.Taken env surroundings payload sealing w w₁ w₂ w₃ w₄ w₅ w₆ w' := by
  obtain ⟨drawn, w₁, hnonce, h⟩ := exists_of_run_bind h
  cases drawn with
  | error e => cases h
  | ok nonce =>
    obtain ⟨began, w₂, hbegan, h⟩ := exists_of_run_bind h
    obtain ⟨looked, w₃, hlooked, h⟩ := exists_of_run_bind h
    obtain ⟨loaded, w₄, hmessage, h⟩ := exists_of_run_bind h
    cases loaded with
    | error e => cases h
    | ok message =>
      obtain ⟨wrappedAt, w₅, hwrappedAt, h⟩ := exists_of_run_bind h
      obtain ⟨drawn, w₆, hdrawn, h⟩ := exists_of_run_bind h
      cases drawn with
      | error e => cases h
      | ok sealNonce =>
        obtain ⟨verifiedAt, w₇, hverifiedAt, h⟩ := exists_of_run_bind h
        cases h
        -- a nonce for the message is drawn if the message is sealed, and else nothing is
        refine ⟨w₁, w₂, w₃, w₄, w₅, w₆, hnonce, hbegan, ⟨looked, hlooked⟩, hmessage, hwrappedAt,
          ?_, ?_, hverifiedAt⟩
        · rintro rfl
          exact congrArg Prod.snd hdrawn
        · rintro rfl
          exact hdrawn

end Client

/-! ## A message under its protection

Sealed or not, a message goes into one token whose length is known beforehand. So that
it fits can be asked of the message, before anything is wrapped. -/

namespace Psk

/-- The bytes of a message that is wrapped. -/
def Session.wrappedSize (sealing : Bool) (length : Nat) : Nat :=
  MessageHeader.size +
    if sealing then Sealed.nonceSize + length + Sealed.tagSize else length + Hmac.size

/-- A code has the same length for every message. -/
theorem Session.length_micToken (key : Bytes) (direction : Direction) (seq : UInt64)
    (message : Bytes) :
    (micToken key direction seq message).length = MessageHeader.size + Hmac.size := by
  rw [micToken, List.length_append, MessageHeader.length_toBytes, Hmac.length_ofParts]

/-- A token for a message is that long. It is a header, the message and a tag, and if it
is sealed a nonce as well. -/
theorem Session.Emits.length_eq {s : Session} {seq : UInt64} {token : Bytes} {u : Unwrapped}
    (h : s.Emits seq ⟨.unwrap token, .unwrapped u⟩) :
    token.length = wrappedSize u.confidential u.message.length := by
  cases h with
  | wrapOpen message =>
    rw [wrapToken, List.length_append, List.length_append, MessageHeader.length_toBytes,
      Hmac.length_ofParts, Nat.add_assoc]
    rfl
  | wrapSealed nonce message _ hnonce htoken =>
    obtain ⟨text, hseal, rfl⟩ := Option.map_eq_some_iff.mp htoken
    have htext : text.length = message.length + Sealed.tagSize := by
      rw [Sealed.seal?] at hseal
      split at hseal
      · cases hseal
        rw [List.length_append, Sealed.length_mask, Sealed.length_tag]
      · cases hseal
    rw [List.length_append, List.length_append, MessageHeader.length_toBytes, hnonce, htext,
      Nat.add_assoc, ← Nat.add_assoc Sealed.nonceSize]
    rfl

variable {ε σ : Type}

/-- **A message is wrapped.** Whether or not it is sealed, the token is one that the
other side takes the message from, and it is as long as it should be. -/
theorem Context.run_wrap_emits {env : Environment (Action ε σ)} (hexact : env.Exact) {c : Context}
    {s : Session} (hc : c.phase = .established s) {message nonce : Bytes}
    {confidential sealing : Bool} {now : Instant} {w w₁ w₂ : σ}
    (hsealing : s.seals confidential = sealing) (hlive : s.checkExpiry now = .ok ())
    (hnumber : s.HasNumber) (hfits : message.length ≤ Sealed.maxLength)
    (hnow : env.now.run w = (now, w₁)) (hplain : sealing = false → w₁ = w₂)
    (hdraw : sealing = true → (env.draw Sealed.nonceSize).run w₁ = (.ok nonce, w₂)) :
    ∃ token, (c.wrap env message confidential).run w =
        ((.ok ⟨token, sealing⟩, c.withSession s.advanced), w₂) ∧
      s.Emits s.sendSeq ⟨.unwrap token, .unwrapped ⟨message, sealing⟩⟩ := by
  cases sealing with
  | false =>
    obtain rfl := hplain rfl
    exact ⟨_, Context.run_wrap_open hc hnow hlive hnumber hsealing, .wrapOpen message⟩
  | true =>
    have hnonce := hdraw rfl
    obtain ⟨token, htoken⟩ := Option.isSome_iff_exists.mp
      (Session.sealedToken?_isSome s.sendEnc s.outbound s.sendSeq nonce message hfits)
    have hlength : nonce.length = Sealed.nonceSize := hexact _ w₁ _ (congrArg Prod.fst hnonce)
    exact ⟨token, Context.run_wrap_sealed hc hnow hlive hnumber hsealing hnonce htoken,
      .wrapSealed nonce message token hlength htoken⟩

end Psk

/-! ## The two sides

What has to be arranged before the two meet, and what has to fit where. The bounds are
on tokens; that the texts inside of them can be written follows. -/

namespace Rehearsal

open Psk

/-- A client and an acceptor before they meet: they have one key, and the client
asks for the service that the acceptor is. -/
structure Arranged (config : Psk.Config) (acceptor : Acceptor) (s : Client.Session)
    (target : ServiceName) : Prop where
  key : config.key = acceptor.config.key
  own : Acceptor.of acceptor.config acceptor.confidentiality = .ok acceptor
  idle : s.state = .idle
  rounds : 2 ≤ s.config.maxRounds
  wanted : s.request.wanted = none ∨ s.request.wanted = some .psk
  service : ServiceName.parse? s.request.service = some target
  accepts : target.accepts acceptor.name = true

/-- Every token is within the bound of the side that reads it. The finish always is. -/
structure Fits (config : Psk.Config) (acceptor : Acceptor) (s : Client.Session)
    (target : ServiceName) (nonce nonce' : Bytes) (sealing : Bool) (message : Bytes) : Prop where
  hello : (greeted config target (s.request.flags ||| .of [.replay]) nonce).1.output.length ≤
    Frame.defaultBound
  reply : (answered config acceptor target (s.request.flags ||| .of [.replay]) nonce
    nonce').1.output.length ≤ s.config.maxTokenSize
  message : Session.wrappedSize sealing message.length ≤ Frame.defaultBound
  signature : MessageHeader.size + Hmac.size ≤ s.config.maxTokenSize
  /-- The client's bound is a length that can be written. -/
  bound : s.config.maxTokenSize ≤ Frame.maxSendable

section

variable {config : Psk.Config} {acceptor : Acceptor} {s : Client.Session} {target : ServiceName}
  {nonce nonce' message : Bytes} {sealing : Bool}

/-- Texts in tokens that fit are not too long to be written. So what is arranged for a
run over a stream is what a meeting of the two sides asks for. -/
theorem Arranged.meeting (h : Arranged config acceptor s target)
    (hfits : Fits config acceptor s target nonce nonce' sealing message) :
    Meeting config acceptor target := by
  obtain ⟨-, hown, -⟩ := Link.of_eq_ok h.own
  have hhello : (Initiator.hello config target (s.request.flags ||| .of [.replay]) nonce).Sized :=
    Hello.sized_of_length_encode (Nat.lt_of_le_of_lt hfits.hello (by decide))
  have hbound : s.config.maxTokenSize < 2 ^ 64 := Nat.lt_of_le_of_lt hfits.bound (by decide)
  have hreply : (acceptor.answer (Initiator.hello config target
      (s.request.flags ||| .of [.replay]) nonce) (Initiator.hello config target
        (s.request.flags ||| .of [.replay]) nonce).encode nonce').Sized :=
    Reply.sized_of_length_encode (Nat.lt_of_le_of_lt hfits.reply hbound)
  exact
    { key := h.key
      targetName := ServiceName.parse?_text h.service
      ownName := ServiceName.parse?_text hown
      initiatorFits := hhello.initiator
      targetFits := hhello.target
      ownFits := hreply.acceptor }

/-- The finish always fits, since it holds nothing but a proof. -/
theorem length_concluded_le (config : Psk.Config) (acceptor : Acceptor) (target : ServiceName)
    (flags : Flags) (nonce nonce' : Bytes) (now : Instant) :
    (concluded config acceptor target flags nonce nonce' now).1.output.length ≤
      Frame.defaultBound := by
  refine Nat.le_trans (Finish.length_encode_le _) ?_
  rw [Hmac.length_ofParts]
  decide

/-- A message whose token fits is not too long to be sealed. -/
theorem Fits.length_le (h : Fits config acceptor s target nonce nonce' sealing message) :
    message.length ≤ Sealed.maxLength := by
  have hsize : message.length ≤ Session.wrappedSize sealing message.length := by
    rw [Session.wrappedSize]
    split <;> omega
  have hbound : Frame.defaultBound ≤ Sealed.maxLength := by decide
  exact Nat.le_trans hsize (Nat.le_trans h.message hbound)

end

/-! ## From one end to the other

The session in two halves: the handshake, which leaves two contexts that fit each other,
and the exchange, which needs no more than that. After each half the network rests, so
the halves can be put one after the other. -/

section

variable {ε σ ν : Type} {socket : Client.Socket (Action ε (σ × ν))} {view : ν → Loopback}
  {env : Environment (Action ε σ)} {config : Psk.Config} {acceptor : Acceptor}
  {s : Client.Session} {target : ServiceName} {nonce nonce' message : Bytes} {sealing : Bool}
  {peerEnv peerEnv' : Simulated} {began : Instant} {w w₁ w₂ w₃ w₄ : σ} {n : ν}

theorem now_of_draw {count : Nat} (h : peerEnv.draw count = (.ok nonce', peerEnv')) :
    peerEnv'.now = peerEnv.now := by
  have hstate : (peerEnv.draw count).2 = peerEnv' := congrArg Prod.snd h
  rw [← hstate]
  rfl

/-- The handshake over the stream: three tokens are carried, and both contexts are
established. -/
theorem run_establish_carried (hcarries : Carries socket view)
    (harranged : Arranged config acceptor s target)
    (hfits : Fits config acceptor s target nonce nonce' sealing message)
    (hnonce : nonce.length = Handshake.nonceSize)
    (hdraw : (env.draw Handshake.nonceSize).run w = (.ok nonce, w₁))
    (hbegan : env.now.run w₁ = (began, w₂))
    (hdraw' : peerEnv.draw Handshake.nonceSize = (.ok nonce', peerEnv'))
    (hrests : (view n).Rests (.psk { acceptor, env := peerEnv }) []) {flags : Flags}
    (hflags : s.request.flags ||| .of [.replay] = flags) {hello last : Step × Context}
    (hhello : greeted config target flags nonce = hello)
    (hlast : concluded config acceptor target flags nonce nonce' began = last) :
    ∃ n', (Negotiation.establish (Initiator.mechanism env.beside config)
        (Client.Network.channel socket s.config.maxTokenSize).toTransport s.config.maxRounds
        s.request.service s.request.flags s.request.wanted).run (w, n) =
          (.ok ⟨some last.2, .established, last.1.granted⟩, (w₂, n')) ∧
      (view n').Rests (.psk
        { acceptor
          env := peerEnv'
          context := some (settled config acceptor target flags nonce nonce' peerEnv'.now).2
          seen := [last.1.output, hello.1.output]
          phase := .message }) [] := by
  have hmeeting := harranged.meeting hfits
  have hnonce' : nonce'.length = Handshake.nonceSize :=
    Entropy.length_of_draw (congrArg Prod.fst hdraw')
  obtain ⟨hhelloFits, hreplyFits, -, -, hbound⟩ := hfits
  rw [hflags] at hhelloFits hreplyFits
  -- the hello, and its answer
  have hgreets := Peer.feed_psk (hmeeting.feed_hello flags harranged.accepts hnonce hdraw')
  have hsome : (greeted config target flags nonce).1.output ≠ [] := Cbor.writeRecord_ne_nil _
  obtain ⟨n₁, hsent, hrests₁⟩ :=
    hcarries.run_send_rests w₁ hrests rfl hsome hhelloFits hgreets
  obtain ⟨n₂, hreceived, hrests₂⟩ := hcarries.run_receive_rests w₁ hrests₁ hbound hreplyFits
  -- the finish, which is not answered
  have hfinishes := Peer.feed_psk (@Meeting.feed_finish _ _ _ peerEnv' hmeeting flags nonce nonce'
    began [(greeted config target flags nonce).1.output])
  have hsome' : (concluded config acceptor target flags nonce nonce' began).1.output ≠ [] :=
    Cbor.writeRecord_ne_nil _
  obtain ⟨n₃, hfinished, hrests₃⟩ := hcarries.run_send_rests w₂ hrests₂ rfl hsome'
    (length_concluded_le config acceptor target flags nonce nonce' began) hfinishes
  rw [hlast] at hfinished hrests₃
  rw [hhello] at hrests₃
  refine ⟨n₃, ?_, hrests₃⟩
  exact Initiator.run_establish_answered hmeeting harranged.accepts hnonce' harranged.rounds
    harranged.wanted harranged.service hflags hlast (run_onFst_of hdraw n) hsent hreceived
    (run_onFst_of hbegan n₂) hfinished

/-- A message over the stream: it is carried one way, and the signature over it the
other way. Nothing is asked of the two contexts but that their sessions fit each
other, have numbers left, and are not over. -/
theorem run_exchange_carried (hcarries : Carries socket view) (hexact : env.Exact)
    {surroundings : Client.Surroundings (Action ε σ)} {t : Client.Takings} {w₅ w₆ w₇ : σ}
    {granted : Flags} {c c' : Context} {mine theirs : Psk.Session} {p : PskPeer}
    (htaken : t.Taken env surroundings s.request.payload sealing w w₁ w₂ w₃ w₄ w₅ w₆ w₇)
    {world : σ × ν} (hestablished : (Negotiation.establish
      (Initiator.mechanism env.beside config)
      (Client.Network.channel socket s.config.maxTokenSize).toTransport s.config.maxRounds
      s.request.service s.request.flags s.request.wanted).run world =
        (.ok ⟨some c, .established, granted⟩, (w₂, n)))
    (hc : c.phase = .established mine) (hseals : mine.seals s.request.sealed = sealing)
    (hwraps : mine.checkExpiry t.wrappedAt = .ok ())
    (hverifies : mine.checkExpiry t.verifiedAt = .ok ()) (hnumber : mine.HasNumber)
    (hrests : (view n).Rests (.psk p) []) (hphase : p.phase = .message)
    (hcontext : p.context = some c') (hc' : c'.phase = .established theirs)
    (hlive : theirs.checkExpiry p.env.now = .ok ()) (hnumber' : theirs.HasNumber)
    (hmirrors : mine.Mirrors theirs) (hfresh : theirs.isFresh mine.sendSeq = true)
    (hfresh' : mine.isFresh theirs.sendSeq = true)
    (hfits : Fits config acceptor s target nonce nonce' sealing t.message) :
    ∃ n' theirs', (Client.Session.exchange surroundings.beside
        (Client.Network.channel socket s.config.maxTokenSize)
        (Initiator.mechanism env.beside config) s.config s.request).run world =
          ((.ok ⟨granted, sealing, c.info⟩, .verifying), (w₇, n')) ∧
      (view n').Rests (.psk
        { p with
          context := some (c'.withSession theirs')
          phase := .done ⟨p.seen.reverse, t.message, sealing⟩ }) [] := by
  obtain ⟨looked, hlooked⟩ := htaken.looked
  have hloaded : (s.request.payload.load surroundings.beside : Action ε (σ × ν) _).run (w₃, n) =
      (.ok t.message, (w₄, n)) := by
    rw [Client.Payload.run_load_beside, htaken.message]
  -- the message goes to the peer
  obtain ⟨token, hwrapped, hemits⟩ := Context.run_wrap_emits hexact.beside hc hseals hwraps hnumber
    hfits.length_le (run_onFst_of htaken.wrappedAt n)
    (fun hplain => by rw [htaken.plain hplain]) fun hseal => run_onFst_of (htaken.sealNonce hseal) n
  have hlength := hemits.length_eq
  have hsome : token ≠ [] := by
    refine List.ne_nil_of_length_pos ?_
    rw [hlength, Session.wrappedSize]
    exact Nat.add_pos_left (by decide) _
  -- the peer takes it and signs it
  have hunwrap := hmirrors.unwrap_of_emits hemits hlive hfresh
  have hsigned : (theirs.accepted mine.sendSeq).getMic p.env.now t.message =
      .ok (Session.micToken theirs.sendMac theirs.outbound theirs.sendSeq t.message,
        (theirs.accepted mine.sendSeq).advanced) := by
    have hlive' : (theirs.accepted mine.sendSeq).checkExpiry p.env.now = .ok () := hlive
    have hnumber'' : (theirs.accepted mine.sendSeq).HasNumber := hnumber'
    rw [Session.getMic_eq _ _ _ hlive', if_pos hnumber'']
    rfl
  have hfeed := Peer.feed_psk (PskPeer.feed_signed hphase hcontext hc' hunwrap hsigned)
  obtain ⟨n₁, hsent, hrests₁⟩ := hcarries.run_send_rests w₆ hrests
    (congrArg PeerPhase.isReading hphase) hsome (Nat.le_trans (Nat.le_of_eq hlength) hfits.message)
    hfeed
  -- and the signature comes back
  have hshort : (Session.micToken theirs.sendMac theirs.outbound theirs.sendSeq t.message).length ≤
      s.config.maxTokenSize := by
    rw [Session.length_micToken]
    exact hfits.signature
  obtain ⟨n₂, hreceived, hrests₂⟩ := hcarries.run_receive_rests w₆ hrests₁ hfits.bound hshort
  have hverified : mine.advanced.verifyMic t.verifiedAt t.message
      (Session.micToken theirs.sendMac theirs.outbound theirs.sendSeq t.message) =
        .ok (mine.advanced.accepted theirs.sendSeq) := by
    have hlive' : mine.advanced.checkExpiry t.verifiedAt = .ok () := hverifies
    have hfresh'' : mine.advanced.isFresh theirs.sendSeq = true := hfresh'
    have hmac : theirs.sendMac = mine.advanced.receiveMac := hmirrors.macBack
    have hdirection : theirs.outbound = mine.advanced.inbound := hmirrors.symm.direction
    rw [hmac, hdirection, Session.verifyMic_micToken _ _ _ _ hlive', if_pos hfresh'']
  refine ⟨n₂, _, ?_, hrests₂⟩
  exact Initiator.run_exchange hestablished (run_onFst_of hlooked n) hloaded hwrapped hsent
    hreceived rfl (run_onFst_of htaken.verifiedAt n₂) hverified

/-- **From one end to the other.** A client dials a peer that has the same key and is
the service it asks for, over a stream that loses nothing and cuts what it carries
anywhere. Its surroundings give what a session takes, the peer can draw a nonce, the
lifetimes of both contexts outlast the session, and every token fits. Then the session
succeeds and is closed. The peer reports the hello and the finish, the message and
whether it was sealed, which is if that was asked for and allowed, and the client says
the same. The flags it was granted are those of the peer's context. -/
theorem delivered_end_to_end (hcarries : Carries socket view) (hexact : env.Exact)
    {surroundings : Client.Surroundings (Action ε σ)}
    {connector : Client.Connector (Action ε (σ × ν))}
    (harranged : Arranged config acceptor s target) {world : σ × ν}
    (hdials : (connector.connect s.config).run world =
      (.ok (Client.Network.channel socket s.config.maxTokenSize), (w, n)))
    (hrests : (view n).Rests (.psk { acceptor, env := peerEnv }) [])
    (hdraws : peerEnv.draw Handshake.nonceSize = (.ok nonce', peerEnv'))
    (hlasts' : peerEnv.now.Lasts acceptor.config.lifetime peerEnv.now) {t : Client.Takings}
    (htakes : (Client.takings env surroundings s.request.payload
      (s.request.sealed && acceptor.confidentiality)).run w = (some t, w₁))
    (hlasts : t.Within config.lifetime)
    (hfits : Fits config acceptor s target t.nonce nonce'
      (s.request.sealed && acceptor.confidentiality) t.message) :
    let flags := s.request.flags ||| .of [.replay]
    let hello := (greeted config target flags t.nonce).1.output
    let finish := (concluded config acceptor target flags t.nonce nonce' t.began).1.output
    let sealing := s.request.sealed && acceptor.confidentiality
    ∃ (achievement : Client.Achievement) (n' : ν) (peer : PskPeer) (c : Context),
      (s.run surroundings.beside connector (Initiator.mechanism env.beside config)).run world =
          ((.ok achievement, { s with state := .closed }), (w₁, n')) ∧
        (view n').report? = some (.ok ⟨[hello, finish], t.message, sealing⟩) ∧
        achievement.wasConfidential = sealing ∧ (view n').peer = some (.psk peer) ∧
        peer.context = some c ∧ achievement.granted = c.flags := by
  intro flags hello finish sealing
  obtain ⟨u₁, u₂, u₃, u₄, u₅, u₆, htaken⟩ := Client.taken_of_takings htakes
  have hnonce : t.nonce.length = Handshake.nonceSize :=
    hexact _ _ _ (congrArg Prod.fst htaken.nonce)
  have hnow := now_of_draw hdraws
  obtain ⟨first, hfirst⟩ : ∃ first, greeted config target flags t.nonce = first := ⟨_, rfl⟩
  obtain ⟨last, hlast⟩ :
      ∃ last, concluded config acceptor target flags t.nonce nonce' t.began = last := ⟨_, rfl⟩
  obtain ⟨n₁, hestablished, hrests₁⟩ := run_establish_carried hcarries harranged hfits hnonce
    htaken.nonce htaken.began hdraws hrests rfl hfirst hlast
  -- the two sessions in which it ends
  let digest := (heard config acceptor target flags t.nonce nonce').digest
  let mine := Psk.Session.start (config.key.sessionKeys digest) true
    (Initiator.granted flags (grants flags acceptor.confidentiality))
    (t.began.plus? config.lifetime)
  let theirs := Psk.Session.start (acceptor.config.key.sessionKeys digest) false
    (grants flags acceptor.confidentiality ||| onceOpen)
    (peerEnv'.now.plus? acceptor.config.lifetime)
  have hc : last.2.phase = .established mine := by
    rw [← hlast]
    rfl
  have hmirrors : mine.Mirrors theirs := Session.start_mirrors_of_key harranged.key ..
  have hlive : theirs.checkExpiry peerEnv'.now = .ok () := by
    refine Session.checkExpiry_of_lasts rfl ?_
    rw [hnow]
    exact hlasts'
  obtain ⟨n₂, theirs', hexchanged, hrests₂⟩ := run_exchange_carried hcarries hexact htaken
    hestablished hc (Session.seals_start_granted ..) (Session.checkExpiry_of_lasts rfl hlasts.wraps)
    (Session.checkExpiry_of_lasts rfl hlasts.verifies) (Session.hasNumber_start ..) hrests₁ rfl rfl
    rfl hlive (Session.hasNumber_start ..) hmirrors rfl rfl hfits
  -- closing the connection is the last thing, and it is not seen
  obtain ⟨n₃, hclosed, hview⟩ := hcarries.run_close w₁ n₂ s.config.maxTokenSize
  have hconnected := Client.Session.run_connectAndExchange hdials hexchanged
  rw [hclosed] at hconnected
  obtain ⟨hrun, -⟩ := Client.Session.run_first surroundings.beside connector
    (Initiator.mechanism env.beside config) harranged.idle world
  rw [hconnected] at hrun
  rw [← hview] at hrests₂
  refine ⟨_, n₃, _, _, hrun, ?_, rfl, hrests₂.peer, rfl, ?_⟩
  · have hhello : hello = first.1.output := by rw [← hfirst]
    have hfinish : finish = last.1.output := by rw [← hlast]
    rw [Loopback.report?_of_done hrests₂.peer rfl, hhello, hfinish]
    rfl
  · rw [← hlast]
    have hagrees := @Meeting.agrees _ _ _ flags t.nonce nonce' t.began peerEnv'.now
      (harranged.meeting hfits)
    exact hagrees.flags

/-- A session over a stream that moves three bytes at a time. -/
theorem delivered_of_slow :
    let key : PreSharedKey := ⟨List.replicate 16 7, Nat.le_refl 16⟩
    let config : Psk.Config := ⟨key, "alice", Psk.Config.defaultLifetime⟩
    let acceptor : Acceptor :=
      ⟨⟨key, "echo@Host", Psk.Config.defaultLifetime⟩, ⟨"echo", some "host"⟩, true⟩
    let env : Environment (Action Empty Simulated) := Simulated.environment
    let surroundings : Client.Surroundings (Action Empty Simulated) :=
      ⟨fun _ => pure (.error .noSuchFile), pure ⟨.zero⟩⟩
    let connector : Client.Connector (Action Empty (Simulated × Loopback)) :=
      ⟨fun config => pure (.ok (Client.Network.channel (slowSocket 3) config.maxTokenSize))⟩
    let s : Client.Session :=
      { config := { maxRounds := 2, maxTokenSize := 2048 }
        request := ⟨"echo@HOST", .of [.mutuality], some .psk, .literal "sign this", true⟩ }
    let peer : PskPeer := { acceptor, env := .ofSupply (List.replicate 32 5) }
    let world : Simulated × Loopback :=
      (.ofSupply (List.replicate 56 9), { peer := some (.psk peer), port := 4444 })
    let ended := (s.run surroundings.beside connector
      (Initiator.mechanism env.beside config)).run world
    ∃ achievement hello finish,
      ended.1 = (.ok achievement, { s with state := .closed }) ∧
        ended.2.2.report? = some (.ok ⟨[hello, finish], Utf8.encode "sign this", true⟩) ∧
        achievement.wasConfidential = true := by
  intro key config acceptor env surroundings connector s peer world ended
  have hown : ServiceName.parse? "echo@Host" = some acceptor.name := by decide +kernel
  have htarget : ServiceName.parse? "echo@HOST" = some acceptor.name := by decide +kernel
  have hof : Acceptor.of acceptor.config acceptor.confidentiality = .ok acceptor := by
    rw [Acceptor.of, ServiceName.parse_eq_ok_iff.mpr hown]
    rfl
  have harranged : Arranged config acceptor s acceptor.name :=
    ⟨rfl, hof, rfl, Nat.le_refl 2, .inr rfl, htarget, ServiceName.accepts_self _⟩
  let t : Client.Takings :=
    ⟨List.replicate 32 9, ⟨.zero⟩, Utf8.encode "sign this", ⟨.zero⟩, List.replicate 24 9, ⟨.zero⟩⟩
  have hreply : (answered config acceptor acceptor.name (s.request.flags ||| .of [.replay])
      t.nonce (List.replicate 32 5)).1.output.length ≤ s.config.maxTokenSize := by
    refine Nat.le_trans (Reply.length_encode_le _) ?_
    rw [Hmac.length_ofParts]
    decide +kernel
  have hfits : Fits config acceptor s acceptor.name t.nonce (List.replicate 32 5)
      (s.request.sealed && acceptor.confidentiality) t.message :=
    ⟨by decide +kernel, hreply, by decide, by decide, by decide⟩
  -- what the surroundings of both sides give, and how long a context lasts
  have hdials : (connector.connect s.config).run world =
      (.ok (Client.Network.channel (slowSocket 3) s.config.maxTokenSize), (world.1, world.2)) := rfl
  have htakes : (Client.takings env surroundings s.request.payload
      (s.request.sealed && acceptor.confidentiality)).run world.1 =
        (some t, .ofSupply []) := rfl
  have hdraws : peer.env.draw Handshake.nonceSize =
      (.ok (List.replicate 32 5), .ofSupply []) := rfl
  have hlasts : t.Within config.lifetime :=
    ⟨Instant.lasts_of_lt (by decide), Instant.lasts_of_lt (by decide)⟩
  have hlasts' : peer.env.now.Lasts acceptor.config.lifetime peer.env.now :=
    Instant.lasts_of_lt (by decide)
  obtain ⟨achievement, n', _, _, hrun, hreport, hconfidential, -⟩ :=
    delivered_end_to_end (slowSocket_carries (by decide)) Simulated.environment_exact harranged
      hdials ⟨rfl, rfl, rfl⟩ hdraws hlasts' htakes hlasts hfits
  have hended : ended = _ := hrun
  rw [hended]
  exact ⟨achievement, _, _, rfl, hreport, hconfidential⟩

end

end Rehearsal

end GssContext
