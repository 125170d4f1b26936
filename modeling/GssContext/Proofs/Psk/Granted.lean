/-
What an initiator may come to be granted, whoever answers it.

The mechanism says of a completed context that it detects replay and reordering
and has integrity, that it never delegates, and that mutual authentication is
there only where it was asked for. An acceptor of this mechanism grants exactly
that. But the initiator does not grant anything itself: it takes the word of the
reply, cut down to what it would let itself be granted, and the proof in a reply
says only that its sender holds the key.

So part of the law holds whoever answers (`Bounded`), and the rest holds exactly
where the reply was `Upright`. Both follow from one equation for each capability
of the granted word, `has_granted`.
-/
import GssContext.Proofs.Psk.Agreement
import GssContext.Proofs.Psk.Completion

set_option autoImplicit false

namespace GssContext

namespace Psk

/-! ## The law

What the mechanism says of granted flags is split in two. One part can be guaranteed by
the initiator alone, since it does not let itself be granted anything else. The other
part is for the acceptor to keep, and the initiator does not check it. The condition on
the reply under which it is kept is stated in the reply's own flags. -/

/-- What granted flags keep to, whoever granted them. -/
structure Bounded (requested granted : Flags) : Prop where
  /-- An established context protects messages and can be transferred. -/
  opened : ∀ c ∈ [Capability.protReady, .transfer], granted.has c = true
  mutuality : granted.has .mutuality = true → requested.has .mutuality = true
  /-- No bit is new, whether it has a meaning or not. -/
  inside : (requested ||| .of [.confidentiality] ||| alwaysGranted ||| onceOpen).contains
    granted = true

/-- What the mechanism says of granted flags. -/
structure Lawful (requested granted : Flags) : Prop extends Bounded requested granted where
  detecting : ∀ c ∈ [Capability.replay, .sequence, .integrity], granted.has c = true
  undelegated : granted.has .delegation = false

/-- The reply grants what is always granted, and no delegation that was asked
for. -/
structure Upright (requested offered : Flags) : Prop where
  detecting : ∀ c ∈ [Capability.replay, .sequence, .integrity], offered.has c = true
  undelegated : requested.has .delegation = true → offered.has .delegation = false

/-! ## What the initiator computes

Which capabilities are granted is an equation for each of them, in what was requested
and what was offered. The capabilities fall into groups by what the equation becomes for
them: granted if offered, granted if offered and requested, and granted in any case.
Everything about the law is read off that. -/

/-- The three that detect are always granted by an acceptor, and do not come with being
established. -/
theorem has_alwaysGranted : ∀ c ∈ [Capability.replay, .sequence, .integrity],
    alwaysGranted.has c = true ∧ onceOpen.has c = false := by
  decide

theorem has_onceOpen : ∀ c ∈ [Capability.protReady, .transfer], onceOpen.has c = true := by
  decide

/-- Each capability on its own: it is there if it was offered and can be granted,
or comes with being established. -/
theorem has_granted (requested offered : Flags) (c : Capability) :
    (Initiator.granted requested offered).has c =
      (offered.has c && (requested.has c || alwaysGranted.has c ||
        (Flags.of [.confidentiality]).has c) || onceOpen.has c) := by
  unfold Initiator.granted grantable
  simp only [Flags.has_union, Flags.has_inter]

/-- What is always granted is granted where it was offered. -/
theorem has_granted_of_always {c : Capability} (hc : alwaysGranted.has c = true)
    (hopen : onceOpen.has c = false) (requested offered : Flags) :
    (Initiator.granted requested offered).has c = offered.has c := by
  rw [has_granted, hc, hopen, Bool.or_true, Bool.true_or, Bool.and_true, Bool.or_false]

/-- What is granted on request only takes a request and an offer. -/
theorem has_granted_of_requested {c : Capability} (hc : alwaysGranted.has c = false)
    (hconf : (Flags.of [.confidentiality]).has c = false) (hopen : onceOpen.has c = false)
    (requested offered : Flags) :
    (Initiator.granted requested offered).has c = (offered.has c && requested.has c) := by
  rw [has_granted, hc, hconf, hopen, Bool.or_false, Bool.or_false, Bool.or_false]

/-- **Part of the law holds whatever was offered.** That nothing is new is about bits,
not capabilities, since a word may have bits without a meaning; so it is proved for each
bit. -/
theorem bounded_granted (requested offered : Flags) :
    Bounded requested (Initiator.granted requested offered) where
  opened := by
    intro c hc
    rw [has_granted, has_onceOpen c hc, Bool.or_true]
  mutuality := by
    intro hgranted
    rw [has_granted_of_requested (by decide) (by decide) (by decide), Bool.and_eq_true] at hgranted
    exact hgranted.2
  inside := by
    refine Flags.contains_of_getLsbD fun i hgranted => ?_
    unfold Initiator.granted grantable at hgranted
    simp only [Flags.getLsbD_union, Flags.getLsbD_inter, Bool.or_eq_true, Bool.and_eq_true]
      at hgranted ⊢
    obtain ⟨-, (hrequested | halways) | hconf⟩ | hopen := hgranted
    · exact .inl (.inl (.inl hrequested))
    · exact .inl (.inr halways)
    · exact .inl (.inl (.inr hconf))
    · exact .inr hopen

/-- The rest of it holds exactly for an upright reply: what must be detected is granted
just if it was offered, and delegation just if it was offered and requested. -/
theorem lawful_granted_iff (requested offered : Flags) :
    Lawful requested (Initiator.granted requested offered) ↔ Upright requested offered := by
  have hdetecting : ∀ c ∈ [Capability.replay, .sequence, .integrity],
      (Initiator.granted requested offered).has c = offered.has c := by
    intro c hc
    obtain ⟨halways, hopen⟩ := has_alwaysGranted c hc
    exact has_granted_of_always halways hopen requested offered
  have hdelegation : (Initiator.granted requested offered).has .delegation =
      (offered.has .delegation && requested.has .delegation) :=
    has_granted_of_requested (by decide) (by decide) (by decide) requested offered
  constructor
  · intro h
    refine ⟨fun c hc => ?_, fun hrequested => ?_⟩
    · rw [← hdetecting c hc]
      exact h.detecting c hc
    · have hundelegated := h.undelegated
      rw [hdelegation, hrequested, Bool.and_true] at hundelegated
      exact hundelegated
  · intro h
    refine ⟨bounded_granted requested offered, fun c hc => ?_, ?_⟩
    · rw [hdetecting c hc]
      exact h.detecting c hc
    · rw [hdelegation, Bool.and_eq_false_iff]
      by_cases hrequested : requested.has .delegation = true
      · exact .inl (h.undelegated hrequested)
      · exact .inr (Bool.not_eq_true _ |>.mp hrequested)

/-- An acceptor of this mechanism is upright, whatever it was asked for and
whether it allows confidentiality. -/
theorem upright_grants (requested asked : Flags) (confidentiality : Bool) :
    Upright requested (grants asked confidentiality) := by
  refine ⟨fun c hc => ?_, fun _ => ?_⟩
  · rw [has_grants, (has_alwaysGranted c hc).1, Bool.or_true, Bool.true_or]
  · have hmutual : (Flags.of [.mutuality]).has .delegation = false := by decide
    have halways : alwaysGranted.has .delegation = false := by decide
    have hconf : (Flags.of [.confidentiality]).has .delegation = false := by decide
    rw [has_grants, hmutual, halways, hconf, Bool.and_false, Bool.and_false]
    rfl

/-! ## In every run

The flags of a completed context depend on two turns: on the one that said hello, which
has the request, and on the one that completes, which has the reply. That there are
exactly these two is known from the shape of a side with two steps. So the law can be
stated of a whole run, with any tokens and any refusals in between. -/

variable {ι σ ε : Type}

/-- A turn that was not refused. -/
def Turn.effective? (t : Turn ι) : Option (Turn ι) :=
  match t.step.status with
  | .failure _ => none
  | _ => some t

theorem Turn.effective?_of_completes {t : Turn ι} (h : t.Completes) :
    t.effective? = some t := by
  unfold effective?
  rw [show t.step.status = .complete from h]

namespace Initiator

variable {env : Environment (Action ε σ)} {config : Config} {calls : List (InitCall × σ)}
  {t : Turn InitCall}

/-- A run in which a turn completes has one more turn that was not refused, the
one that said hello. What was granted follows from what that one asked for and
what the reply offers. -/
theorem turns_of_completes (ht : t ∈ (side env config).turns none calls) (hdone : t.Completes) :
    ∃ greeting reply,
      ((side env config).turns none calls).filterMap Turn.effective? = [greeting, t] ∧
        greeting.step.status = .continueNeeded ∧
        t.call.input.map Reply.decode = some (.ok reply) ∧
        t.step.granted = granted greeting.call.flags reply.granted ∧
        t.after.map Context.flags = some t.step.granted := by
  have hguarded : (side env config).Guarded (Proven config) calls :=
    Side.guarded_of_exactly (fun before call => (side_took before call.1 call.2).exactly) calls
  have hopen : IsOpen ((side env config).ending none calls) :=
    hguarded.ending.mpr ⟨t, ht, (hguarded.completes t ht).mp hdone⟩
  obtain ⟨c', hending, hopen'⟩ := exists_of_isOpen hopen
  obtain ⟨call, step, c, call', step', ⟨nonce, rfl, rfl⟩,
    ⟨hello, nonce', requested, token, reply, now, hphase, hinput, hvouched, rfl, rfl⟩, hturns⟩ :=
    (side_takesTwo env config).of_none (f := Turn.effective?) (fun _ _ _ => rfl) calls hending
      hopen'
  -- what the last turn stands on is what the first one left
  cases hphase
  have hmem := List.mem_filterMap.mpr ⟨t, ht, Turn.effective?_of_completes hdone⟩
  rw [hturns] at hmem
  rcases List.mem_cons.mp hmem with rfl | hmem
  · cases hdone
  · cases List.mem_singleton.mp hmem
    refine ⟨_, reply, hturns, rfl, ?_, rfl, rfl⟩
    rw [hinput, Option.map_some, hvouched.decoded]

/-- **Granted flags, whoever answers.** In every run of an initiator, the flags
of a step that completes, which are also those of the context, are bounded by
what was asked for; and they are what the mechanism says they are if and only if
the reply was upright. The proof in the reply does not decide that. -/
theorem granted_lawful_iff_upright (env : Environment (Action ε σ)) (config : Config)
    (calls : List (InitCall × σ)) (t : Turn InitCall)
    (ht : t ∈ (side env config).turns none calls) (hdone : t.Completes) :
    ∃ greeting reply,
      ((side env config).turns none calls).filterMap Turn.effective? = [greeting, t] ∧
        greeting.step.status = .continueNeeded ∧
        t.call.input.map Reply.decode = some (.ok reply) ∧
        t.after.map Context.flags = some t.step.granted ∧
        Bounded greeting.call.flags t.step.granted ∧
        (Lawful greeting.call.flags t.step.granted ↔
          Upright greeting.call.flags reply.granted) := by
  obtain ⟨greeting, reply, hturns, hgreeting, hreply, hgranted, hflags⟩ :=
    turns_of_completes ht hdone
  refine ⟨greeting, reply, hturns, hgreeting, hreply, hflags, ?_, ?_⟩
  · rw [hgranted]
    exact bounded_granted greeting.call.flags reply.granted
  · rw [hgranted]
    exact lawful_granted_iff greeting.call.flags reply.granted

/-! ## A holder of the key offers what it likes

The proof in a reply shows that its sender holds the key, and covers what is offered. It
does not show that the sender is an acceptor of this mechanism. Whoever holds the key
can offer any word of flags, and the initiator completes on it. -/

section

variable (config : Config) (target : ServiceName) (flags offered : Flags) (nonce nonce' : Bytes)

/-- A reply in the name of the service, with a proof and with any offer. -/
def offering : Reply :=
  ⟨nonce', target.text, offered,
    Hmac.ofParts (config.key.handshakeKeys nonce nonce').acceptor
      [transcript (hello config target flags nonce).encode nonce' target.text offered]⟩

end

/-- Whatever it offers, the initiator completes on it. The reply is one that reads back
and that the initiator vouches for, so the run is computed with the offer as a variable. -/
theorem turns_offering {target : ServiceName} {flags : Flags} (offered : Flags)
    {nonce nonce' : Bytes} {world : σ} (hname : ServiceName.parse? target.text = some target)
    (hfits : (Utf8.encode target.text).length < 2 ^ 64)
    (hnonce' : nonce'.length = Handshake.nonceSize)
    (hdraw : ((env.draw Handshake.nonceSize).run world).1 = .ok nonce) :
    let reply := offering config target flags offered nonce nonce'
    let greeting : InitCall := ⟨target, none, flags, none⟩
    let last : InitCall := ⟨target, none, flags, some reply.encode⟩
    let begun := start config target flags nonce
    let done := finished config begun.2 (env.now.run world).1 nonce flags (.of begun.1.output reply)
    (side env config).turns none [(greeting, world), (last, world)] =
      [⟨none, greeting, begun.1, some begun.2⟩, ⟨some begun.2, last, done.1, some done.2⟩] := by
  intro reply greeting last begun done
  have hsized : reply.Sized := by
    refine ⟨?_, hfits, ?_⟩
    · rw [show reply.nonce = nonce' from rfl, hnonce']
      decide
    · rw [show reply.proof = Hmac.ofParts _ _ from rfl, Hmac.length_ofParts]
      decide
  have hdecode : Reply.decode reply.encode = .ok reply := by
    have hread := Reply.decode_encode_append hsized []
    rw [List.append_nil] at hread
    exact hread
  -- the reply holds a proof under the key, so the initiator believes what it offers
  have hvouched : Vouched config begun.1.output nonce target reply.encode reply :=
    ⟨hdecode, hnonce', ⟨target, hname, ServiceName.accepts_self target⟩, rfl⟩
  have hfinish : finish config begun.2 target (some reply.encode) (env.now.run world).1 =
      .ok done :=
    finish_eq_ok_iff.mpr ⟨_, nonce, flags, _, reply, rfl, rfl, hvouched, rfl⟩
  have hfirst : side env config none greeting world = (begun.1, some begun.2) := by
    rw [side_first greeting world (.inl rfl) rfl, hdraw]
  have hlast : side env config (some begun.2) last world = (done.1, some done.2) := by
    rw [side_later begun.2 last world (.inl rfl), hfinish]
  simp only [Side.turns_cons, Side.turns_nil, Side.turn, hfirst, hlast]

/-- Delegation was asked for, and a holder of the key offers that and nothing
else. The context that comes of it delegates, and detects neither replay nor
reordering. -/
theorem unlawful_of_delegating :
    let config : Config := ⟨⟨List.replicate 32 0x5a, by decide⟩, "alice", Config.defaultLifetime⟩
    let service : ServiceName := ⟨"sign", some "host"⟩
    let flags : Flags := .of [.delegation]
    let nonce : Bytes := (List.range 32).map UInt8.ofNat
    let nonce' : Bytes := (List.range' 100 32).map UInt8.ofNat
    let env : Environment (Action Empty Simulated) := Simulated.environment
    let world := Simulated.ofSupply nonce
    let reply := offering config service flags flags nonce nonce'
    let calls : List (InitCall × Simulated) :=
      [(⟨service, none, flags, none⟩, world), (⟨service, none, flags, some reply.encode⟩, world)]
    ∃ t ∈ (side env config).turns none calls, t.Completes ∧ t.step.granted = ⟨385⟩ ∧
      Bounded flags t.step.granted ∧ ¬ Lawful flags t.step.granted := by
  intro config service flags nonce nonce' env world reply calls
  have hname : ServiceName.parse? service.text = some service := by decide +kernel
  have hdraw : ((env.draw Handshake.nonceSize).run world).1 = .ok nonce := rfl
  have hturns : (side env config).turns none calls = _ :=
    turns_offering flags hname (by decide) rfl hdraw
  have hmem := hturns ▸ List.mem_cons_of_mem _ List.mem_cons_self
  obtain ⟨greeting, found, heffective, -, -, -, hbounded, -⟩ :=
    granted_lawful_iff_upright env config calls _ hmem rfl
  -- the turn that said hello asked for delegation
  rw [hturns] at heffective
  have hflags : greeting.call.flags = flags := by
    rw [← List.head_eq_of_cons_eq heffective]
  rw [hflags] at hbounded
  refine ⟨_, hmem, rfl, by decide, hbounded, fun hlawful => ?_⟩
  have hdelegates : (granted flags flags).has .delegation = true := by decide
  exact Bool.false_ne_true (hlawful.undelegated.symm.trans hdelegates)

end Initiator

end Psk

end GssContext
