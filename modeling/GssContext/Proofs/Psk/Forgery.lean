/-
What an accepted token proves.

A tag covers a string of bytes: the header and the message for a code, and the
nonce, the header and the ciphertext for a sealed message. `Call.tagged?` reads
off a token what its tag covers, and the tag. Nothing in a token is left out, so
the two determine the call that brings the token.

A token is accepted only if its tag is the right one for what it covers. So if
the sender never made the token, then it never made a tag for what this one
covers: whoever made the token forged a tag for something new. That no one can
is for the cipher and the hash to promise, and nothing here assumes it.
-/
import GssContext.Proofs.Psk.Acceptance
import GssContext.Proofs.Psk.Delivery

set_option autoImplicit false

namespace GssContext.Psk

/-! ## What a tag covers

A tag is a code or the end of a sealed text. What it is computed from is here a value of
its own, and so is reading the two off a token: this is done without any key, by anyone
who sees the token. The right tag for something covered is then a function of the keys.
Being authentic means that the tag which is there is that one. -/

/-- What a tag covers. -/
inductive Covered where
  | code (input : Bytes)
  | sealed (nonce head ciphertext : Bytes)
  deriving DecidableEq

/-- The tag that belongs to it, under the key for codes and the one for sealing. -/
def Covered.tag (mac enc : Bytes) : Covered → Bytes
  | code input => Hmac.code mac input
  | sealed nonce head ciphertext => Sealed.tag enc nonce head ciphertext

/-- What the tag of a token covers that a call brings, and the tag itself. -/
def Call.tagged? : Call → Option (Covered × Bytes)
  | .unwrap token =>
    match MessageHeader.split? token with
    | none => none
    | some (header, body) =>
      match header.kind? with
      | some .wrap =>
        let size := body.length - Hmac.size
        some (.code (header.toBytes ++ body.take size), body.drop size)
      | some .sealed =>
        let text := body.drop Sealed.nonceSize
        let size := text.length - Sealed.tagSize
        some (.sealed (body.take Sealed.nonceSize) header.toBytes (text.take size),
          text.drop size)
      | _ => none
  | .verifyMic message token =>
    match MessageHeader.split? token with
    | none => none
    | some (header, tag) =>
      match header.kind? with
      | some .mic => some (.code (header.toBytes ++ message), tag)
      | _ => none
  | .wrap .. | .getMic _ => none

/-- The token of a call has the tag that belongs to what it covers. -/
def Call.Authentic (mac enc : Bytes) (call : Call) : Prop :=
  ∃ covered, call.tagged? = some (covered, covered.tag mac enc)

/-! ## Nothing is left out

If a token had a part that its tag does not cover, then a token with another such part
would be accepted without any tag being forged. So it has to be shown that there is no
such part: from what is covered and from the tag the token can be put together again.
The relation below has each kind of token written out for that purpose, and the parts
are then compared one by one. -/

/-- A header is cut off the front of a string in one way, since it has a fixed length
and is determined by its bytes. -/
theorem toBytes_append_inj {h h' : MessageHeader} {rest rest' : Bytes}
    (heq : h.toBytes ++ rest = h'.toBytes ++ rest') : h = h' ∧ rest = rest' := by
  have hsplit := MessageHeader.split?_toBytes_append h rest
  rw [heq, MessageHeader.split?_toBytes_append] at hsplit
  obtain ⟨rfl, rfl⟩ := Prod.mk.inj (Option.some.inj hsplit)
  exact ⟨rfl, rfl⟩

/-- What a code covers determines the kind, the direction, the number and the
message. -/
theorem eq_of_covered {kind kind' : TokenKind} {direction direction' : Direction}
    {seq seq' : UInt64} {message message' : Bytes}
    (h : (MessageHeader.of kind direction seq).toBytes ++ message =
      (MessageHeader.of kind' direction' seq').toBytes ++ message') :
    kind = kind' ∧ direction = direction' ∧ seq = seq' ∧ message = message' := by
  obtain ⟨hheader, rfl⟩ := toBytes_append_inj h
  have hkind := Session.kind?_of kind direction seq
  have hdirection := Session.direction?_of kind direction seq
  rw [hheader, Session.kind?_of] at hkind
  rw [hheader, Session.direction?_of] at hdirection
  exact ⟨(Option.some.inj hkind).symm, (Option.some.inj hdirection).symm,
    congrArg MessageHeader.seq hheader, rfl⟩

/-- The ways in which a call brings a tag. The token is written out, with all
that is in it. -/
inductive Call.Brings : Call → Covered → Bytes → Prop where
  | wrap {header : MessageHeader} (message tag : Bytes) (hkind : header.kind? = some .wrap) :
      Brings (.unwrap (header.toBytes ++ (message ++ tag))) (.code (header.toBytes ++ message)) tag
  | sealed {header : MessageHeader} (nonce ciphertext tag : Bytes)
      (hkind : header.kind? = some .sealed) :
      Brings (.unwrap (header.toBytes ++ (nonce ++ (ciphertext ++ tag))))
        (.sealed nonce header.toBytes ciphertext) tag
  | mic {header : MessageHeader} (message tag : Bytes) (hkind : header.kind? = some .mic) :
      Brings (.verifyMic message (header.toBytes ++ tag)) (.code (header.toBytes ++ message)) tag

/-- A token of which a tag can be read off is the parts that were read, one after the
other. The proof follows the reading and puts each cut back together. -/
theorem Call.brings_of_tagged? {call : Call} {covered : Covered} {tag : Bytes}
    (h : call.tagged? = some (covered, tag)) : call.Brings covered tag := by
  cases call with
  | wrap | getMic => cases h
  | unwrap token =>
    rw [tagged?] at h
    cases hsplit : MessageHeader.split? token with
    | none =>
      rw [hsplit] at h
      cases h
    | some cut =>
      obtain ⟨header, body⟩ := cut
      obtain rfl := MessageHeader.split?_eq_some_iff.mp hsplit
      rw [hsplit] at h
      dsimp only at h
      split at h
      · rename_i hkind
        cases h
        have hwrap := Brings.wrap (body.take (body.length - Hmac.size))
          (body.drop (body.length - Hmac.size)) hkind
        rwa [List.take_append_drop] at hwrap
      · rename_i hkind
        cases h
        -- the nonce is at the front and the tag at the end; the ciphertext is what is left
        let text := body.drop Sealed.nonceSize
        have hsealed := Brings.sealed (body.take Sealed.nonceSize)
          (text.take (text.length - Sealed.tagSize)) (text.drop (text.length - Sealed.tagSize))
          hkind
        rwa [List.take_append_drop, List.take_append_drop] at hsealed
      · cases h
  | verifyMic message token =>
    rw [tagged?] at h
    cases hsplit : MessageHeader.split? token with
    | none =>
      rw [hsplit] at h
      cases h
    | some cut =>
      obtain ⟨header, tag'⟩ := cut
      obtain rfl := MessageHeader.split?_eq_some_iff.mp hsplit
      rw [hsplit] at h
      dsimp only at h
      split at h
      · rename_i hkind
        cases h
        exact .mic message _ hkind
      · cases h

/-- **A call is determined by what its tag covers, and the tag.** The header is part of
what is covered, so a token cannot be taken for one of another kind. A message in the
open and a code cover strings of one form; they are told apart by the kind in that
header. -/
theorem Call.Brings.eq {call call' : Call} {covered : Covered} {tag : Bytes}
    (h : call.Brings covered tag) (h' : call'.Brings covered tag) : call = call' := by
  -- the form of what is covered tells sealed calls from the others, and its head tells
  -- wrapping from signing
  generalize hcovered : covered = covered' at h'
  cases h with
  | wrap message tag hkind =>
    cases h' with
    | wrap message' tag hkind' =>
      obtain ⟨rfl, rfl⟩ := toBytes_append_inj (Covered.code.inj hcovered)
      rfl
    | mic message' tag hkind' =>
      obtain ⟨rfl, -⟩ := toBytes_append_inj (Covered.code.inj hcovered)
      rw [hkind] at hkind'
      cases hkind'
    | sealed => cases hcovered
  | sealed nonce ciphertext tag hkind =>
    cases h' with
    | sealed nonce' ciphertext' tag hkind' =>
      obtain ⟨rfl, hhead, rfl⟩ := Covered.sealed.inj hcovered
      rw [hhead]
    | wrap | mic => cases hcovered
  | mic message tag hkind =>
    cases h' with
    | mic message' tag hkind' =>
      obtain ⟨rfl, rfl⟩ := toBytes_append_inj (Covered.code.inj hcovered)
      rfl
    | wrap message' tag hkind' =>
      obtain ⟨rfl, -⟩ := toBytes_append_inj (Covered.code.inj hcovered)
      rw [hkind] at hkind'
      cases hkind'
    | sealed => cases hcovered

/-! ## What is made and what is accepted

Both ends are brought to the same form. What a sender makes is authentic, since it
computed the tag that it wrote. What a receiver accepts is a token that the sender's
session would make under some number, by the equivalences of `Proofs.Psk.Acceptance`; so
it is authentic as well, whoever made it. -/

namespace Session

/-- The ends of a string are told apart by their lengths. -/
theorem take_drop_of_length (front : Bytes) {back : Bytes} {size : Nat}
    (hsize : back.length = size) :
    (front ++ back).take ((front ++ back).length - size) = front ∧
      (front ++ back).drop ((front ++ back).length - size) = back := by
  have hcut : (front ++ back).length - size = front.length := by
    rw [List.length_append, hsize, Nat.add_sub_cancel]
  rw [hcut]
  exact ⟨List.take_left, List.drop_left⟩

/-- The token of a delivery has the tag that belongs to what it covers: its
sender computed it. -/
theorem Emits.authentic {s : Session} {seq : UInt64} {d : Delivery} (h : s.Emits seq d) :
    d.call.Authentic s.sendMac s.sendEnc := by
  -- each token is cut again at the header and at the tag, which have fixed sizes
  cases h with
  | wrapOpen message =>
    let head := (MessageHeader.of .wrap s.outbound seq).toBytes
    refine ⟨.code (head ++ message), ?_⟩
    rw [Call.tagged?, wrapToken, List.append_assoc, MessageHeader.split?_toBytes_append]
    dsimp only
    obtain ⟨htake, hdrop⟩ := take_drop_of_length message
      (Hmac.length_ofParts s.sendMac [head, message])
    rw [kind?_of]
    dsimp only
    rw [htake, hdrop, Covered.tag, Hmac.ofParts, List.flatten_cons, List.flatten_singleton]
  | wrapSealed nonce message token hnonce htoken =>
    let head := (MessageHeader.of .sealed s.outbound seq).toBytes
    obtain ⟨text, hseal, rfl⟩ := Option.map_eq_some_iff.mp htoken
    rw [Sealed.seal?] at hseal
    split at hseal
    · cases hseal
      let ciphertext := Sealed.mask s.sendEnc nonce message
      refine ⟨.sealed nonce head ciphertext, ?_⟩
      rw [Call.tagged?, List.append_assoc, MessageHeader.split?_toBytes_append]
      dsimp only
      obtain ⟨htake, hdrop⟩ := take_drop_of_length ciphertext
        (Sealed.length_tag s.sendEnc nonce head ciphertext)
      rw [kind?_of]
      dsimp only
      rw [List.take_left' hnonce, List.drop_left' hnonce, htake, hdrop, Covered.tag]
    · cases hseal
  | getMic message =>
    let head := (MessageHeader.of .mic s.outbound seq).toBytes
    refine ⟨.code (head ++ message), ?_⟩
    rw [Call.tagged?, micToken, MessageHeader.split?_toBytes_append]
    dsimp only
    rw [kind?_of]
    dsimp only
    rw [Covered.tag, Hmac.ofParts, List.flatten_cons, List.flatten_singleton]

/-- A session that takes a token is not over. -/
theorem checkExpiry_of_unwrap {r r' : Session} {now : Instant} {token : Bytes} {u : Unwrapped}
    (h : r.unwrap now token = .ok (u, r')) : r.checkExpiry now = .ok () := by
  cases hlive : r.checkExpiry now with
  | ok => rfl
  | error e =>
    rw [unwrap, hlive] at h
    cases h

/-- The same for one that verifies a code. -/
theorem checkExpiry_of_verifyMic {r r' : Session} {now : Instant} {message token : Bytes}
    (h : r.verifyMic now message token = .ok r') : r.checkExpiry now = .ok () := by
  cases hlive : r.checkExpiry now with
  | ok => rfl
  | error e =>
    rw [verifyMic, hlive] at h
    cases h

/-- What a session accepts is what the other side makes under some number. Nothing is
said about whether the other side did make it, or about which number its next one is. -/
theorem Step.emits_of_accepted {s r r' : Session} {now : Instant} {call : Call} {answer : Answer}
    (hmirrors : s.Mirrors r) (h : r.Step now call answer r') (hreceives : call.sends = false)
    (haccepted : ∀ refusal, answer ≠ .refused refusal) : ∃ seq, s.Emits seq ⟨call, answer⟩ := by
  cases h with
  | wrapOpen | wrapSealed | getMic | tooLong | exhausted | noEntropy =>
    first | cases hreceives | exact absurd rfl (haccepted _)
  | expired | notUnwrapped | notVerified => exact absurd rfl (haccepted _)
  -- what is accepted has the form of an own token, and the peer's keys are the same
  | @unwrapped token u _ h =>
    have hlive := checkExpiry_of_unwrap h
    obtain ⟨message, _ | _⟩ := u
    · obtain ⟨seq, -, rfl⟩ := (unwrap_open_iff hlive).mp ⟨_, h⟩
      rw [← hmirrors.mac, ← hmirrors.direction]
      exact ⟨seq, .wrapOpen message⟩
    · obtain ⟨seq, nonce, -, hnonce, htoken⟩ := (unwrap_sealed_iff hlive).mp ⟨_, h⟩
      rw [← hmirrors.enc, ← hmirrors.direction] at htoken
      exact ⟨seq, .wrapSealed nonce message token hnonce htoken⟩
  | @verified message token _ h =>
    obtain ⟨seq, -, rfl⟩ := (verifyMic_iff (checkExpiry_of_verifyMic h)).mp ⟨_, h⟩
    rw [← hmirrors.mac, ← hmirrors.direction]
    exact ⟨seq, .getMic message⟩

/-! ## Tokens of another kind, direction, number or message

Here nothing is assumed about the key of the token or about who made it. The kind, the
direction and the number are read off the header and compared with what is expected, so
these cannot be mistaken for others in any case. The message in a token in the open is
what is there. Only for a code the message comes from elsewhere, and then a code for
another message can verify: if the two inputs have one code. -/

section

variable {t t' : Session} {now : Instant} {key message message' : Bytes} {direction : Direction}
  {seq : UInt64} {u : Unwrapped}

/-- A token in the open is good for its own message, number and direction, whatever
key it was made with. -/
theorem eq_of_unwrap_wrapToken
    (h : t.unwrap now (wrapToken key direction seq message) = .ok (u, t')) :
    direction = t.inbound ∧ u = ⟨message, false⟩ ∧ t' = t.accepted seq := by
  have hlive := checkExpiry_of_unwrap h
  obtain ⟨message', _ | _⟩ := u
  · obtain ⟨seq', -, htoken⟩ := (unwrap_open_iff hlive).mp ⟨_, h⟩
    have hcut := htoken
    rw [wrapToken, wrapToken, List.append_assoc, List.append_assoc] at hcut
    obtain ⟨-, hbody⟩ := toBytes_append_inj hcut
    -- the codes at the end are equally long, so the messages are the same
    obtain ⟨rfl, -⟩ := List.append_inj' hbody (by rw [Hmac.length_ofParts, Hmac.length_ofParts])
    obtain ⟨-, rfl, rfl, -⟩ := eq_of_covered (List.append_inj' htoken
      (by rw [Hmac.length_ofParts, Hmac.length_ofParts])).1
    rw [htoken, unwrap_wrapToken t now seq message hlive] at h
    split at h
    · cases h
      exact ⟨rfl, rfl, rfl⟩
    · cases h
  · obtain ⟨seq', nonce, -, -, htoken⟩ := (unwrap_sealed_iff hlive).mp ⟨_, h⟩
    obtain ⟨text, -, htoken⟩ := Option.map_eq_some_iff.mp htoken
    rw [wrapToken, List.append_assoc, List.append_assoc] at htoken
    cases (eq_of_covered htoken).1

/-- A code is never taken for a message: the kind in its header is one that unwrapping
refuses, and no tag makes up for that. -/
theorem unwrap_micToken_ne_ok :
    t.unwrap now (micToken key direction seq message) ≠ .ok (u, t') := by
  intro h
  have hlive := checkExpiry_of_unwrap h
  obtain ⟨message', _ | _⟩ := u
  · obtain ⟨seq', -, htoken⟩ := (unwrap_open_iff hlive).mp ⟨_, h⟩
    rw [micToken, wrapToken, List.append_assoc] at htoken
    cases (eq_of_covered htoken).1
  · obtain ⟨seq', nonce, -, -, htoken⟩ := (unwrap_sealed_iff hlive).mp ⟨_, h⟩
    obtain ⟨text, -, htoken⟩ := Option.map_eq_some_iff.mp htoken
    rw [micToken, List.append_assoc] at htoken
    cases (eq_of_covered htoken).1

/-- A message with its code is never taken for the code of one. -/
theorem verifyMic_wrapToken_ne_ok :
    t.verifyMic now message' (wrapToken key direction seq message) ≠ .ok t' := by
  intro h
  obtain ⟨seq', -, htoken⟩ := (verifyMic_iff (checkExpiry_of_verifyMic h)).mp ⟨_, h⟩
  rw [micToken, wrapToken, List.append_assoc] at htoken
  cases (eq_of_covered htoken).1

/-- A code is good for its own number and direction. For another message it is only
if two inputs have one code. -/
theorem eq_of_verifyMic_micToken
    (h : t.verifyMic now message' (micToken key direction seq message) = .ok t') :
    direction = t.inbound ∧ t' = t.accepted seq ∧
      Hmac.code t.receiveMac ((MessageHeader.of .mic direction seq).toBytes ++ message') =
        Hmac.code key ((MessageHeader.of .mic direction seq).toBytes ++ message) := by
  have hlive := checkExpiry_of_verifyMic h
  obtain ⟨seq', -, htoken⟩ := (verifyMic_iff hlive).mp ⟨_, h⟩
  have hcut := htoken
  rw [micToken, micToken] at hcut
  obtain ⟨hheader, hcode⟩ := toBytes_append_inj hcut
  obtain ⟨-, rfl, rfl, -⟩ := eq_of_covered (congrArg (· ++ message) (congrArg (·.toBytes) hheader))
  rw [htoken, verifyMic_micToken t now seq message' hlive] at h
  split at h
  · cases h
    refine ⟨rfl, rfl, ?_⟩
    simpa only [Hmac.ofParts, List.flatten_cons, List.flatten_nil, List.append_nil]
      using hcode.symm
  · cases h

end

end Session

/-! ## A run

The invariant keeps three things of what happened: that the sessions still have the keys
from the start, that what was sent is the sender's, and that what was accepted is what
the sender would make. In contrast to the invariant of delivery nothing is said about
numbers, and nothing is required of the run. So the receiver may be handed any bytes, at
any time, and time may be over for either party. -/

/-- The call brings the right tag for something that the tags of the tokens `made` do
not cover. -/
def Call.Forged (mac enc : Bytes) (made : List Delivery) (call : Call) : Prop :=
  ∃ covered, call.tagged? = some (covered, covered.tag mac enc) ∧
    ∀ d ∈ made, ∀ tag, d.call.tagged? ≠ some (covered, tag)

/-- What was never made is forged, if its tag is right: a token is determined by what
its tag covers, and the tag by that and the key. For if one of the tokens made had a tag
for the same, it would be the right one as well, and the token the same. -/
theorem Call.forged_of_not_made {mac enc : Bytes} {made : List Delivery} {call : Call}
    (hauthentic : call.Authentic mac enc) (hmade : ∀ d ∈ made, d.call.Authentic mac enc)
    (hnew : call ∉ made.map (·.call)) : call.Forged mac enc made := by
  obtain ⟨covered, htagged⟩ := hauthentic
  refine ⟨covered, htagged, ?_⟩
  intro d hd tag hcovers
  obtain ⟨covered', htagged'⟩ := hmade d hd
  obtain ⟨rfl, rfl⟩ := Prod.mk.inj (Option.some.inj (hcovers.symm.trans htagged'))
  have heq := (brings_of_tagged? htagged).eq (brings_of_tagged? htagged')
  exact hnew (List.mem_map.mpr ⟨d, hd, heq.symm⟩)

/-- The receiver accepts what it is handed by a call. -/
def Entry.Takes (e : Entry) (call : Call) : Prop :=
  e.event = .call .receiver call ∧ call.sends = false ∧
    ∀ refusal, e.answer ≠ .refused refusal

namespace Exchange

variable {ε σ : Type}

/-- In a run that began with the sessions `s` and `r`, whatever is sent or accepted
is what `s` makes under some number. -/
structure Written (s r : Session) (x : Exchange σ) : Prop where
  sender : ∃ seq last, x.sender.phase = .established (s.withCounters seq last)
  receiver : ∃ seq last, x.receiver.phase = .established (r.withCounters seq last)
  made : ∀ d ∈ sent x.trace, ∃ n, s.Emits n d
  taken : ∀ e ∈ x.trace, ∀ call, e.Takes call → ∃ n, s.Emits n ⟨call, e.answer⟩

variable {s r : Session} {x : Exchange σ}

/-- At the start nothing was sent and nothing accepted. -/
theorem Written.initial {sender receiver : Context} (hsender : sender.phase = .established s)
    (hreceiver : receiver.phase = .established r) (world : σ) :
    Written s r ⟨world, sender, receiver, []⟩ where
  sender := ⟨s.sendSeq, s.lastAccepted, hsender⟩
  receiver := ⟨r.sendSeq, r.lastAccepted, hreceiver⟩
  made _ hd := absurd hd List.not_mem_nil
  taken _ he := absurd he List.not_mem_nil

variable {world : σ} {now : Instant} {answer : Answer} {call : Call} {t : Session}

/-- A call of the sender. The token that it makes is the session's. -/
theorem Written.sender_step (h : x.Written s r) {seq : UInt64} {last : Option UInt64}
    (hstep : (s.withCounters seq last).Step now call answer t) :
    Written s r { x with
      world
      sender := x.sender.withSession t
      trace := x.trace ++ [⟨.call .sender call, now, answer⟩] } := by
  refine ⟨⟨t.sendSeq, t.lastAccepted, ?_⟩, h.receiver, ?_, ?_⟩
  · rw [Context.withSession, hstep.eq_withCounters]
    rfl
  · intro d hd
    rw [sent_append] at hd
    rcases List.mem_append.mp hd with hd | hd
    · exact h.made d hd
    · exact ⟨seq, (hstep.emits (Option.mem_toList.mp hd)).1.of_withCounters⟩
  · intro e he call' htakes
    rcases List.mem_append.mp he with he | he
    · exact h.taken e he call' htakes
    · cases List.mem_singleton.mp he
      cases htakes.1

/-- A call of the receiver, be it its own or the delivery of one of the tokens. What it
accepts is what the sender makes. -/
theorem Written.receiver_step (h : x.Written s r) (hmirrors : s.Mirrors r) {seq : UInt64}
    {last : Option UInt64} (hstep : (r.withCounters seq last).Step now call answer t)
    {event : Event} (hparty : event.party = .receiver)
    (hcall : ∀ own, event = .call .receiver own → own = call) :
    Written s r { x with
      world
      receiver := x.receiver.withSession t
      trace := x.trace ++ [⟨event, now, answer⟩] } := by
  have hsent : sent (x.trace ++ [⟨event, now, answer⟩]) = sent x.trace := by
    have hnone : Entry.sent? ⟨event, now, answer⟩ = none := by
      cases event with
      | deliver => rfl
      | call party =>
        cases hparty
        rfl
    rw [sent_append, hnone, Option.toList_none, List.append_nil]
  refine ⟨h.sender, ⟨t.sendSeq, t.lastAccepted, ?_⟩, ?_, ?_⟩
  · rw [Context.withSession, hstep.eq_withCounters]
    rfl
  · rw [hsent]
    exact h.made
  · intro e he call' htakes
    rcases List.mem_append.mp he with he | he
    · exact h.taken e he call' htakes
    · cases List.mem_singleton.mp he
      obtain ⟨hevent, hreceives, haccepted⟩ := htakes
      obtain rfl := hcall call' hevent
      -- the sender's tokens are the same under all its counters
      obtain ⟨n, hemits⟩ := hstep.emits_of_accepted
        (hmirrors.withCounters s.sendSeq seq s.lastAccepted last) hreceives haccepted
      exact ⟨n, hemits.of_withCounters⟩

/-- Every event keeps to what is written. A call of the sender may add a token of its
own, and a call or a delivery on the other side adds one only to what is accepted. -/
theorem Written.step {envs : Party → Environment (Action ε σ)}
    (hexact : ∀ party, (envs party).Exact) (hmirrors : s.Mirrors r) (h : x.Written s r)
    (event : Event) : (x.step envs event).Written s r := by
  obtain ⟨sendSeq, sendLast, hsender⟩ := h.sender
  obtain ⟨seq, last, hreceiver⟩ := h.receiver
  cases event with
  | call party call =>
    cases party with
    | sender =>
      obtain ⟨w, now, answer, t, hstep, hmake⟩ :=
        make_eq hexact x (.call .sender call) call hsender
      rw [Exchange.step, hmake]
      exact h.sender_step hstep
    | receiver =>
      obtain ⟨w, now, answer, t, hstep, hmake⟩ :=
        make_eq hexact x (.call .receiver call) call hreceiver
      rw [Exchange.step, hmake]
      refine h.receiver_step hmirrors hstep rfl ?_
      rintro _ ⟨⟩
      rfl
  | deliver index =>
    rw [Exchange.step]
    cases (sent x.trace)[index]? with
    | none => exact h
    | some d =>
      obtain ⟨w, now, answer, t, hstep, hmake⟩ := make_eq hexact x (.deliver index) d.call hreceiver
      dsimp only
      rw [hmake]
      refine h.receiver_step hmirrors hstep rfl ?_
      rintro _ ⟨⟩

theorem Written.run {envs : Party → Environment (Action ε σ)}
    (hexact : ∀ party, (envs party).Exact) (hmirrors : s.Mirrors r) (events : List Event)
    (h : x.Written s r) : (x.run envs events).Written s r := by
  induction events generalizing x with
  | nil => exact h
  | cons event events ih => exact ih (h.step hexact hmirrors event)

/-- What the receiver accepts has the right tag, and whatever of it was not made by
then is forged. -/
theorem Written.forged (h : x.Written s r) (hmirrors : s.Mirrors r) {e : Entry}
    (he : e ∈ x.trace) (htakes : e.Takes call) {made : List Delivery}
    (hmade : made ⊆ sent x.trace) (hnew : call ∉ made.map (·.call)) :
    call.Forged r.receiveMac r.receiveEnc made := by
  rw [← hmirrors.mac, ← hmirrors.enc]
  obtain ⟨n, hemits⟩ := h.taken e he call htakes
  refine Call.forged_of_not_made hemits.authentic ?_ hnew
  intro d hd
  obtain ⟨m, hemits'⟩ := h.made d (hmade hd)
  exact hemits'.authentic

end Exchange

/-! ## What a token cannot be used for

The last part of the theorem is about single tokens, of any origin, in any session. It
rules out that a token that was made for one purpose serves for another. -/

/-- A session that is handed a token in the open, or a code, whoever made it and under
whatever key, can use it for nothing but what it was made for. -/
structure Session.Bound (t : Session) (now : Instant) (key : Bytes) (direction : Direction)
    (seq : UInt64) (message : Bytes) : Prop where
  wrap : ∀ u t', t.unwrap now (wrapToken key direction seq message) = .ok (u, t') →
    direction = t.inbound ∧ u = ⟨message, false⟩ ∧ t' = t.accepted seq
  wrapAsMic : ∀ message' t',
    t.verifyMic now message' (wrapToken key direction seq message) ≠ .ok t'
  micAsWrap : ∀ u t', t.unwrap now (micToken key direction seq message) ≠ .ok (u, t')
  /-- For another message a code verifies only where two inputs have one code. -/
  mic : ∀ message' t',
    t.verifyMic now message' (micToken key direction seq message) = .ok t' →
      direction = t.inbound ∧ t' = t.accepted seq ∧
        Hmac.code t.receiveMac ((MessageHeader.of .mic direction seq).toBytes ++ message') =
          Hmac.code key ((MessageHeader.of .mic direction seq).toBytes ++ message)

/-- This holds of every session and every token: the four facts above, together. -/
theorem Session.bound (t : Session) (now : Instant) (key : Bytes) (direction : Direction)
    (seq : UInt64) (message : Bytes) : t.Bound now key direction seq message where
  wrap _ _ h := eq_of_unwrap_wrapToken h
  wrapAsMic _ _ h := verifyMic_wrapToken_ne_ok h
  micAsWrap _ _ h := unwrap_micToken_ne_ok h
  mic _ _ h := eq_of_verifyMic_micToken h

/-- **What is accepted without having been made is forged.** Two open contexts mirror
each other. Whatever the sender makes, and whatever bytes the receiver is handed in
whatever order: what the sender's tags cover is read off its tokens, and whenever the
receiver accepts a token that the sender did not make, be it until then or ever, the
token has the right tag for something that no tag of the sender's covers. What a code
covers is told apart by kind, direction, number and message, so no token is good for
anything else. -/
theorem Exchange.accepted_made_or_forged {ε σ : Type} {envs : Party → Environment (Action ε σ)}
    (hexact : ∀ party, (envs party).Exact) {s r : Session} (hmirrors : s.Mirrors r)
    {sender receiver : Context} (hsender : sender.phase = .established s)
    (hreceiver : receiver.phase = .established r) (world : σ) (events : List Event) :
    let trace := ((⟨world, sender, receiver, []⟩ : Exchange σ).run envs events).trace
    (∀ d ∈ sent trace, d.call.Authentic s.sendMac s.sendEnc) ∧
      (∀ before e after call, trace = before ++ e :: after → e.Takes call →
        (call ∉ (sent before).map (·.call) →
          call.Forged r.receiveMac r.receiveEnc (sent before)) ∧
        (call ∉ (sent trace).map (·.call) →
          call.Forged r.receiveMac r.receiveEnc (sent trace))) ∧
      (∀ kind kind' direction direction' seq seq' (message message' : Bytes),
        (MessageHeader.of kind direction seq).toBytes ++ message =
            (MessageHeader.of kind' direction' seq').toBytes ++ message' →
          kind = kind' ∧ direction = direction' ∧ seq = seq' ∧ message = message') ∧
      ∀ (t : Session) now key direction seq message, t.Bound now key direction seq message := by
  intro trace
  have hwritten : Exchange.Written s r _ :=
    (Exchange.Written.initial hsender hreceiver world).run hexact hmirrors events
  refine ⟨?_, ?_, ?_, ?_⟩
  · intro d hd
    obtain ⟨n, hemits⟩ := hwritten.made d hd
    exact hemits.authentic
  · intro before e after call hsplit htakes
    have he : e ∈ trace := by
      rw [hsplit]
      exact List.mem_append_right _ List.mem_cons_self
    have hbefore : sent before ⊆ sent trace := by
      rw [hsplit, sent, sent, List.filterMap_append]
      exact List.subset_append_left _ _
    exact ⟨hwritten.forged hmirrors he htakes hbefore,
      hwritten.forged hmirrors he htakes (List.Subset.refl _)⟩
  · intro kind kind' direction direction' seq seq' message message' h
    exact eq_of_covered h
  · intro t now key direction seq message
    exact t.bound now key direction seq message

/-- Someone else who has the keys makes a token with number five. The receiver accepts it
after the sender's first one, and it is forged. -/
theorem Exchange.forged_of_elsewhere :
    let keys : SessionKeys := ⟨[1], [2], [3], [4]⟩
    let flags := Flags.of [.confidentiality]
    let s := Session.start keys true flags none
    let r := Session.start keys false flags none
    let x : Exchange Simulated :=
      ⟨.ofSeed 7, ⟨"here", "there", true, flags, .established s⟩,
        ⟨"here", "there", false, flags, .established r⟩, []⟩
    let call : Call := .unwrap (Session.wrapToken [1] .initiatorToAcceptor 5 [99])
    let trace := (x.run (fun _ => (Simulated.environment : Environment (Action Empty Simulated)))
      [.call .sender (.wrap [10] false), .deliver 0, .call .receiver call]).trace
    ∃ before e after, trace = before ++ e :: after ∧ e.answer = .unwrapped ⟨[99], false⟩ ∧
      call.Forged r.receiveMac r.receiveEnc (sent before) := by
  intro keys flags s r x call trace
  let e : Entry := ⟨.call .receiver call, ⟨.zero⟩, .unwrapped ⟨[99], false⟩⟩
  have hsplit : trace = trace.take 2 ++ e :: [] := by decide +kernel
  have hnew : call ∉ (sent (trace.take 2)).map (·.call) := by decide +kernel
  have htakes : e.Takes call := ⟨rfl, rfl, nofun⟩
  have hsender : x.sender.phase = .established s := rfl
  have hreceiver : x.receiver.phase = .established r := rfl
  obtain ⟨-, hforged, -⟩ := accepted_made_or_forged (fun _ => Simulated.environment_exact)
    (Session.start_mirrors keys flags flags none none) hsender hreceiver (.ofSeed 7) _
  exact ⟨trace.take 2, e, [], hsplit, rfl, (hforged _ _ _ _ hsplit htakes).1 hnew⟩

end GssContext.Psk
