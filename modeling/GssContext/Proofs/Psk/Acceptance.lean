/-
Which tokens an established context takes.

A context takes a token if and only if it is, byte for byte, what the other
side writes for a message under a number that is above the last accepted one.
Taking a token apart and putting one together are written separately, so this
is a statement about the pair: each check of the receiver is turned into an
equation for the bytes that it let through, and the equations of all checks
together are the token.

The direction from the token to the equation is the one that matters. It says
that there is no second encoding: no shortened code, no byte at the end, no
token of another kind or of one's own direction.
-/
import GssContext.Proofs.Psk.Call

set_option autoImplicit false

namespace GssContext.Psk

namespace Session

/-! ## What the checks let through

There are three checks, one for the header and one for each kind of body, and for each
of them an equivalence: it gives a result exactly if the bytes it was given are those
that belong to the result. The direction from left to right is by going through the
check; the other one says that reading what was written gives it back, and most of it is
known from `Proofs.Psk.Token`. -/

/-- A number above the last accepted one, if there is one. -/
def Above (s : Session) (seq : UInt64) : Prop := ∀ last, s.lastAccepted = some last → last < seq

/-- Freshness as the session checks it is being above the last accepted number. -/
theorem isFresh_iff_above {s : Session} {seq : UInt64} : s.isFresh seq = true ↔ s.Above seq := by
  unfold isFresh Above
  cases s.lastAccepted with
  | none =>
    refine iff_of_true rfl ?_
    intro last hlast
    cases hlast
  | some last =>
    rw [decide_eq_true_iff]
    constructor
    · intro hlt last' hlast
      cases hlast
      exact hlt
    · intro h
      exact h last rfl

/-- A token that is opened starts with the bytes of its header, and that is of the other
side's direction and has a fresh number. A header is read from any ten bytes, so there
is no further condition on them. -/
theorem openHeader_eq_ok_iff {s : Session} {token body : Bytes} {header : MessageHeader} :
    s.openHeader token = .ok (header, body) ↔
      token = header.toBytes ++ body ∧ header.direction? = some s.inbound ∧
        s.Above header.seq := by
  rw [← MessageHeader.split?_eq_some_iff, ← isFresh_iff_above, openHeader]
  cases hsplit : MessageHeader.split? token with
  | none => simp
  | some cut =>
    obtain ⟨header', body'⟩ := cut
    dsimp only
    -- the checks in their order: the direction, then the number
    by_cases hdirection : header'.direction? = some s.inbound
    · rw [if_neg (not_not_intro hdirection)]
      by_cases hfresh : s.isFresh header'.seq = true
      · rw [if_pos hfresh]
        constructor
        · intro h
          cases h
          exact ⟨rfl, hdirection, hfresh⟩
        · rintro ⟨h, -, -⟩
          cases h
          rfl
      · rw [if_neg hfresh]
        refine iff_of_false (fun h => by cases h) ?_
        rintro ⟨h, -, hfresh'⟩
        cases h
        exact hfresh hfresh'
    · rw [if_pos hdirection]
      refine iff_of_false (fun h => by cases h) ?_
      rintro ⟨h, hdirection', -⟩
      cases h
      exact hdirection hdirection'

/-- A body in the open is its message and the message's code. The code has a fixed
length, so the last bytes are compared with what the message in front of them should
have. -/
theorem verifyBody_eq_ok_iff {s : Session} {head body message : Bytes} :
    s.verifyBody head body = .ok message ↔
      body = message ++ Hmac.ofParts s.receiveMac [head, message] := by
  constructor
  · intro h
    unfold verifyBody at h
    split at h
    · cases h
    · dsimp only at h
      split at h
      · rename_i hverifies
        cases h
        -- the code is what is left behind the message, so the two are the whole body
        rw [← Hmac.verifies_iff.mp hverifies, List.take_append_drop]
      · cases h
  · rintro rfl
    exact verifyBody_append s head message

/-- A sealed body is its nonce and what sealing under it gives. Opening is the converse
of sealing under the same nonce, and the nonce is what stands in front. -/
theorem unsealBody_eq_ok_iff {s : Session} {head body message : Bytes} :
    s.unsealBody head body = .ok message ↔
      ∃ nonce text, nonce.length = Sealed.nonceSize ∧
        Sealed.seal? s.receiveEnc nonce head message = some text ∧ body = nonce ++ text := by
  constructor
  · intro h
    unfold unsealBody at h
    split at h
    · cases h
    · rename_i hlong
      split at h
      · rename_i hopen
        cases h
        have hnonce : (body.take Sealed.nonceSize).length = Sealed.nonceSize := by
          rw [List.length_take]
          omega
        -- opening succeeds only on what sealing gives: here the second encoding is excluded
        exact ⟨_, _, hnonce, Sealed.seal?_of_open? hopen, (List.take_append_drop _ _).symm⟩
      · cases h
  · rintro ⟨nonce, text, hnonce, hseal, rfl⟩
    exact unsealBody_append s head nonce message text hnonce hseal

/-! ## What is taken

With the checks as equations the three operations are equations too. An operation is the
check of the header and then of a body, so what it takes is a header's bytes and the
body that belongs to it: that is a token, for the number that the header has. For sealed
tokens it is one for some nonce, which the token brings along. -/

/-- A token from which a message is taken has a header of the other side and
one of two kinds, and the body that belongs to the kind. -/
theorem body_of_unwrap {s s' : Session} {now : Instant} {token : Bytes} {u : Unwrapped}
    (h : s.unwrap now token = .ok (u, s')) :
    ∃ header body, s.openHeader token = .ok (header, body) ∧
      (header.kind? = some .wrap ∧ s.verifyBody header.toBytes body = .ok u.message ∧
          u.confidential = false ∨
        header.kind? = some .sealed ∧ s.unsealBody header.toBytes body = .ok u.message ∧
          u.confidential = true) := by
  simp only [unwrap, bind, Except.bind] at h
  split at h
  · cases h
  split at h
  · cases h
  rename_i cut hcut
  obtain ⟨header, body⟩ := cut
  refine ⟨header, body, hcut, ?_⟩
  -- the kind of the header decides which body is read
  split at h
  · rename_i hkind
    cases hunseal : s.unsealBody header.toBytes body with
    | error e =>
      rw [hunseal] at h
      cases h
    | ok message =>
      rw [hunseal] at h
      cases h
      exact .inr ⟨hkind, rfl, rfl⟩
  · rename_i hkind
    cases hverify : s.verifyBody header.toBytes body with
    | error e =>
      rw [hverify] at h
      cases h
    | ok message =>
      rw [hverify] at h
      cases h
      exact .inl ⟨hkind, rfl, rfl⟩
  · cases h

/-- An opened header of a known kind is that of the other side. -/
theorem eq_of_openHeader {s : Session} {token body : Bytes} {header : MessageHeader}
    {kind : TokenKind} (h : s.openHeader token = .ok (header, body))
    (hkind : header.kind? = some kind) :
    ∃ seq, s.Above seq ∧ header = .of kind s.inbound seq ∧ token = header.toBytes ++ body := by
  obtain ⟨htoken, hdirection, habove⟩ := openHeader_eq_ok_iff.mp h
  exact ⟨header.seq, habove, MessageHeader.eq_of hkind hdirection, htoken⟩

variable {s : Session} {now : Instant} {message token : Bytes}

/-- A message in the open is taken exactly from the other side's token for it: the
header is the one for its kind, and the body the message with its code. -/
theorem unwrap_open_iff (hlive : s.checkExpiry now = .ok ()) :
    (∃ s', s.unwrap now token = .ok (⟨message, false⟩, s')) ↔
      ∃ seq, s.Above seq ∧ token = wrapToken s.receiveMac s.inbound seq message := by
  constructor
  · rintro ⟨s', h⟩
    obtain ⟨header, body, hopen, ⟨hkind, hbody, -⟩ | ⟨-, -, hsealed⟩⟩ := body_of_unwrap h
    · obtain ⟨seq, habove, rfl, htoken⟩ := eq_of_openHeader hopen hkind
      refine ⟨seq, habove, ?_⟩
      rw [htoken, verifyBody_eq_ok_iff.mp hbody, wrapToken, List.append_assoc]
    · cases hsealed
  · rintro ⟨seq, habove, rfl⟩
    refine ⟨s.accepted seq, ?_⟩
    rw [unwrap_wrapToken s now seq message hlive, if_pos (isFresh_iff_above.mpr habove)]

/-- A sealed message is taken exactly from a token that seals it. -/
theorem unwrap_sealed_iff (hlive : s.checkExpiry now = .ok ()) :
    (∃ s', s.unwrap now token = .ok (⟨message, true⟩, s')) ↔
      ∃ seq nonce, s.Above seq ∧ nonce.length = Sealed.nonceSize ∧
        sealedToken? s.receiveEnc s.inbound seq nonce message = some token := by
  constructor
  · rintro ⟨s', h⟩
    obtain ⟨header, body, hopen, ⟨-, -, hplain⟩ | ⟨hkind, hbody, -⟩⟩ := body_of_unwrap h
    · cases hplain
    · obtain ⟨seq, habove, rfl, htoken⟩ := eq_of_openHeader hopen hkind
      obtain ⟨nonce, text, hnonce, hseal, rfl⟩ := unsealBody_eq_ok_iff.mp hbody
      refine ⟨seq, nonce, habove, hnonce, ?_⟩
      rw [sealedToken?, hseal, Option.map_some, htoken, List.append_assoc]
  · rintro ⟨seq, nonce, habove, hnonce, htoken⟩
    refine ⟨s.accepted seq, ?_⟩
    rw [unwrap_sealedToken s now seq nonce message token hlive hnonce htoken,
      if_pos (isFresh_iff_above.mpr habove)]

/-- A code verifies exactly in the other side's token for the message, which is a header
with a number that is fresh and the code of header and message after it. -/
theorem verifyMic_iff (hlive : s.checkExpiry now = .ok ()) :
    (∃ s', s.verifyMic now message token = .ok s') ↔
      ∃ seq, s.Above seq ∧ token = micToken s.receiveMac s.inbound seq message := by
  constructor
  · rintro ⟨s', h⟩
    rw [verifyMic, hlive] at h
    simp only [bind, Except.bind] at h
    split at h
    · cases h
    rename_i cut hcut
    obtain ⟨header, tag⟩ := cut
    dsimp only at h
    -- the kind and the length are checked at once, and only then the code
    split at h
    · cases h
    rename_i hshape
    split at h
    · rename_i hverifies
      have hkind : header.kind? = some .mic :=
        Decidable.of_not_not fun hother => hshape (.inl hother)
      obtain ⟨seq, habove, rfl, htoken⟩ := eq_of_openHeader hcut hkind
      refine ⟨seq, habove, ?_⟩
      rw [htoken, Hmac.verifies_iff.mp hverifies, micToken]
    · cases h
  · rintro ⟨seq, habove, rfl⟩
    refine ⟨s.accepted seq, ?_⟩
    rw [verifyMic_micToken s now seq message hlive, if_pos (isFresh_iff_above.mpr habove)]

/-! ## What the other side makes

So far a token is a function of keys and a number. Here it is what an operation of
another session gives, one that has these keys for sending. Such a session makes the
token when the number is its next one. It has to be a number that it can use, and that
is every number but the last: of a token with that one no session is the author,
although it would be taken. -/

/-- The session when `seq` is its next number. -/
def numbered (s : Session) (seq : UInt64) : Session := { s with sendSeq := seq }

/-- The number that a token's header carries, if the token is long enough. -/
def numberOf? (token : Bytes) : Option Nat :=
  (MessageHeader.split? token).map fun cut => cut.1.seq.toNat

/-- The number is read off the header, whatever follows it. -/
theorem numberOf?_append (kind : TokenKind) (direction : Direction) (seq : UInt64)
    (body : Bytes) :
    numberOf? ((MessageHeader.of kind direction seq).toBytes ++ body) = some seq.toNat := by
  rw [numberOf?, MessageHeader.split?_toBytes_append, Option.map_some, MessageHeader.of]

/-- So each of the three kinds carries the number that it was made with. -/
theorem numberOf?_wrapToken (key : Bytes) (direction : Direction) (seq : UInt64)
    (message : Bytes) : numberOf? (wrapToken key direction seq message) = some seq.toNat := by
  rw [wrapToken, List.append_assoc]
  exact numberOf?_append ..

theorem numberOf?_of_sealedToken? {key nonce : Bytes} {direction : Direction} {seq : UInt64}
    (h : sealedToken? key direction seq nonce message = some token) :
    numberOf? token = some seq.toNat := by
  obtain ⟨text, -, rfl⟩ := Option.map_eq_some_iff.mp h
  rw [List.append_assoc]
  exact numberOf?_append ..

theorem numberOf?_micToken (key : Bytes) (direction : Direction) (seq : UInt64)
    (message : Bytes) : numberOf? (micToken key direction seq message) = some seq.toNat :=
  numberOf?_append ..

/-- Every number but the last one can be used by a sender. -/
theorem hasNumber_of_numberOf? (s : Session) {seq : UInt64}
    (hseq : numberOf? token = some seq.toNat) (hnumber : numberOf? token ≠ some (2 ^ 64 - 1)) :
    (s.numbered seq).HasNumber := by
  have hne : seq.toNat ≠ 2 ^ 64 - 1 := by
    intro heq
    rw [hseq, heq] at hnumber
    exact hnumber rfl
  have hlt := seq.toNat_lt
  change seq.toNat + 1 < 2 ^ 64
  omega

/-- What is refused without a number is made exactly if there is one. -/
theorem ite_hasNumber_eq_ok_iff {α : Type} {made result : α} {e : Refusal} :
    (if s.HasNumber then Except.ok made else .error e) = .ok result ↔
      s.HasNumber ∧ result = made := by
  by_cases hnumber : s.HasNumber
  · rw [if_pos hnumber, Except.ok.injEq, and_iff_right hnumber, eq_comm]
  · rw [if_neg hnumber]
    exact iff_of_false (fun h => by cases h) (fun h => hnumber h.1)

/-- What a session makes of a message in the open is the token of its next number. -/
theorem wrapOpen_eq_ok_iff :
    s.wrapOpen message = .ok (⟨token, false⟩, s.advanced) ↔
      s.HasNumber ∧ token = wrapToken s.sendMac s.outbound s.sendSeq message := by
  rw [wrapOpen_eq, ite_hasNumber_eq_ok_iff]
  simp only [Prod.mk.injEq, Wrapped.mk.injEq, and_true]

/-- What it seals is a sealed token of that number, for a message that fits. -/
theorem wrapSealed_eq_ok_iff {nonce : Bytes} :
    s.wrapSealed nonce message = (.ok ⟨token, true⟩, s.advanced) ↔
      s.HasNumber ∧ sealedToken? s.sendEnc s.outbound s.sendSeq nonce message = some token := by
  -- a number is used up here even if the message is too long, so there are three results
  rw [wrapSealed_eq]
  by_cases hnumber : s.HasNumber
  · rw [if_pos hnumber]
    cases sealedToken? s.sendEnc s.outbound s.sendSeq nonce message with
    | some token' =>
      constructor
      · intro h
        cases h
        exact ⟨hnumber, rfl⟩
      · rintro ⟨-, h⟩
        cases h
        rfl
    | none => exact iff_of_false (fun h => by cases h) (fun h => by cases h.2)
  · rw [if_neg hnumber]
    exact iff_of_false (fun h => by cases h) (fun h => hnumber h.1)

/-- And the code it gives is that of the message under that number. -/
theorem getMic_eq_ok_iff (hlive : s.checkExpiry now = .ok ()) :
    s.getMic now message = .ok (token, s.advanced) ↔
      s.HasNumber ∧ token = micToken s.sendMac s.outbound s.sendSeq message := by
  rw [getMic_eq s now message hlive, ite_hasNumber_eq_ok_iff]
  simp only [Prod.mk.injEq, and_true]

/-! With the keys and the direction of the receiver, a token that the other side
makes is the token that the receiver takes. -/

section

variable {r : Session}

/-- A token in the open, made at some number and taken at the other side. -/
theorem Mirrors.wrapOpen_iff (h : s.Mirrors r) (hnumber : numberOf? token ≠ some (2 ^ 64 - 1))
    (seq : UInt64) :
    (s.numbered seq).wrapOpen message = .ok (⟨token, false⟩, (s.numbered seq).advanced) ↔
      token = wrapToken r.receiveMac r.inbound seq message := by
  rw [wrapOpen_eq_ok_iff, ← h.mac, ← h.direction]
  refine and_iff_right_of_imp ?_
  intro htoken
  refine hasNumber_of_numberOf? s ?_ hnumber
  rw [htoken]
  exact numberOf?_wrapToken ..

/-- A sealed token, made under some nonce and taken at the other side. -/
theorem Mirrors.wrapSealed_iff (h : s.Mirrors r) (hnumber : numberOf? token ≠ some (2 ^ 64 - 1))
    (seq : UInt64) (nonce : Bytes) :
    (s.numbered seq).wrapSealed nonce message = (.ok ⟨token, true⟩, (s.numbered seq).advanced) ↔
      sealedToken? r.receiveEnc r.inbound seq nonce message = some token := by
  rw [wrapSealed_eq_ok_iff, ← h.enc, ← h.direction]
  refine and_iff_right_of_imp ?_
  intro htoken
  exact hasNumber_of_numberOf? s (numberOf?_of_sealedToken? htoken) hnumber

/-- A code, made while the maker's time is not over and taken at the other side. -/
theorem Mirrors.getMic_iff (h : s.Mirrors r) (hnumber : numberOf? token ≠ some (2 ^ 64 - 1))
    (seq : UInt64) (hlive : s.checkExpiry now = .ok ()) :
    (s.numbered seq).getMic now message = .ok (token, (s.numbered seq).advanced) ↔
      token = micToken r.receiveMac r.inbound seq message := by
  have hlive' : (s.numbered seq).checkExpiry now = .ok () := hlive
  rw [getMic_eq_ok_iff hlive', ← h.mac, ← h.direction]
  refine and_iff_right_of_imp ?_
  intro htoken
  refine hasNumber_of_numberOf? s ?_ hnumber
  rw [htoken]
  exact numberOf?_micToken ..

end

end Session

/-! ## Calls on an established context

A call asks the clock and passes the rest to the session, and of its answer only whether
it is a refusal depends on what became of the session. So the equivalences for sessions
are those for calls. -/

section

variable {ε σ : Type} {env : Environment (Action ε σ)} {c : Context} {r : Session}

/-- Taking a message by a call is taking it by the session, at the moment that the clock
shows. -/
theorem Context.unwrap_answer_iff (env : Environment (Action ε σ))
    (hc : c.phase = .established r) (w : σ) (token : Bytes) (u : Unwrapped) :
    ((c.call env (.unwrap token)).run w).1.1 = .unwrapped u ↔
      ∃ r', r.unwrap (env.now.run w).1 token = .ok (u, r') := by
  rw [Context.call, run_answer]
  simp only [unwrap_eq hc]
  cases r.unwrap (env.now.run w).1 token with
  | ok taken => simp [Prod.ext_iff]
  | error e => simp

/-- The same for a code. -/
theorem Context.verifyMic_answer_iff (env : Environment (Action ε σ))
    (hc : c.phase = .established r) (w : σ) (message token : Bytes) :
    ((c.call env (.verifyMic message token)).run w).1.1 = .verified ↔
      ∃ r', r.verifyMic (env.now.run w).1 message token = .ok r' := by
  rw [Context.call, run_answer]
  simp only [verifyMic_eq hc]
  cases r.verifyMic (env.now.run w).1 message token with
  | ok taken => simp
  | error e => simp

open Session in
/-- **Tokens are taken exactly if they are the other side's own.** A call on an
established context whose time is not over takes a message in the open, takes a
sealed one, or verifies a code exactly if the token is the other side's for that
message, under some number above the last accepted one. Of every session that
mirrors this one it is then the token that it makes at that number: the last
number apart, which no session uses. -/
theorem Context.takes_iff_written (hc : c.phase = .established r) (w : σ)
    (hlive : r.checkExpiry (env.now.run w).1 = .ok ()) (message token : Bytes) :
    let answer := fun call => ((c.call env call).run w).1.1
    (answer (.unwrap token) = .unwrapped ⟨message, false⟩ ↔
        ∃ seq, r.Above seq ∧ token = wrapToken r.receiveMac r.inbound seq message) ∧
      (answer (.unwrap token) = .unwrapped ⟨message, true⟩ ↔
        ∃ seq nonce, r.Above seq ∧ nonce.length = Sealed.nonceSize ∧
          sealedToken? r.receiveEnc r.inbound seq nonce message = some token) ∧
      (answer (.verifyMic message token) = .verified ↔
        ∃ seq, r.Above seq ∧ token = micToken r.receiveMac r.inbound seq message) ∧
      ∀ (s : Session) (now' : Instant), s.Mirrors r → s.checkExpiry now' = .ok () →
        numberOf? token ≠ some (2 ^ 64 - 1) →
        (answer (.unwrap token) = .unwrapped ⟨message, false⟩ ↔
            ∃ seq, r.Above seq ∧ (s.numbered seq).wrapOpen message =
              .ok (⟨token, false⟩, (s.numbered seq).advanced)) ∧
          (answer (.unwrap token) = .unwrapped ⟨message, true⟩ ↔
            ∃ (seq : UInt64) (nonce : Bytes), r.Above seq ∧ nonce.length = Sealed.nonceSize ∧
              (s.numbered seq).wrapSealed nonce message =
                (.ok ⟨token, true⟩, (s.numbered seq).advanced)) ∧
          (answer (.verifyMic message token) = .verified ↔
            ∃ seq, r.Above seq ∧ (s.numbered seq).getMic now' message =
              .ok (token, (s.numbered seq).advanced)) := by
  intro answer
  have hopen := (unwrap_answer_iff env hc w token ⟨message, false⟩).trans
    (unwrap_open_iff hlive)
  have hsealed := (unwrap_answer_iff env hc w token ⟨message, true⟩).trans
    (unwrap_sealed_iff hlive)
  have hmic := (verifyMic_answer_iff env hc w message token).trans (verifyMic_iff hlive)
  refine ⟨hopen, hsealed, hmic, ?_⟩
  -- the other side has the same keys, so for it the same bytes are what it makes
  intro s now' hmirrors hlive' hnumber
  refine ⟨hopen.trans ?_, hsealed.trans ?_, hmic.trans ?_⟩
  · refine exists_congr fun seq => and_congr_right fun _ => ?_
    exact (hmirrors.wrapOpen_iff hnumber seq).symm
  · refine exists_congr fun seq => exists_congr fun nonce => and_congr_right fun _ =>
      and_congr_right fun _ => ?_
    exact (hmirrors.wrapSealed_iff hnumber seq nonce).symm
  · refine exists_congr fun seq => and_congr_right fun _ => ?_
    exact (hmirrors.getMic_iff hnumber seq hlive').symm

open Session in
/-- After number four was accepted, the sealed token with number nine is taken,
and it is what the other side makes with nine as its next number. -/
theorem Context.takes_of_ninth :
    let keys : SessionKeys := ⟨[1], [2], [3], [4]⟩
    let flags := Flags.of [.confidentiality]
    let s := Session.start keys true flags none
    let r := (Session.start keys false flags none).accepted 4
    let c : Context := ⟨"here", "there", false, flags, .established r⟩
    let env : Environment (Action Empty Simulated) := Simulated.environment
    let nonce := List.replicate 24 7
    let made := (s.numbered 9).wrapSealed nonce [10]
    ∃ token, made = (.ok ⟨token, true⟩, (s.numbered 9).advanced) ∧
      ((c.call env (.unwrap token)).run (Simulated.ofSeed 7)).1.1 = .unwrapped ⟨[10], true⟩ := by
  intro keys flags s r c env nonce made
  -- the receiver has accepted the number 4, so a token with the number 9 is ahead of it
  let token := (sealedToken? s.sendEnc s.outbound 9 nonce [10]).getD []
  have htoken : sealedToken? s.sendEnc s.outbound 9 nonce [10] = some token := by decide +kernel
  have hmade : made = (.ok ⟨token, true⟩, (s.numbered 9).advanced) :=
    wrapSealed_eq_ok_iff.mpr ⟨by decide, htoken⟩
  have hmirrors : s.Mirrors r := ⟨rfl, rfl, rfl, rfl, rfl⟩
  have h := @Context.takes_iff_written _ _ env c r rfl (Simulated.ofSeed 7) rfl [10] token
  refine ⟨token, hmade, ((h.2.2.2 s ⟨.zero⟩ hmirrors rfl ?_).2.1).mpr ?_⟩
  · decide +kernel
  · refine ⟨9, nonce, ?_, rfl, hmade⟩
    intro last hlast
    cases hlast
    decide

end

end GssContext.Psk
