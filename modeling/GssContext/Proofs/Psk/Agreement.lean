/-
Agreement, whatever happens to the tokens on their way.

An initiator and an acceptor hold one key, and both contexts became open, each
by its own run with any tokens at all. What each side hashed can be read off
its run. If the two digests are equal then either everything that was hashed
is, and with it all that the two contexts record, or the two hashed strings are
a collision of SHA-256.

A run that ends with an open context has exactly two steps that are not
refused. The first creates the context and the last opens it; this is shown
once for both sides, and what they hashed follows from these two steps.
-/
import GssContext.Proofs.Psk.Honest

set_option autoImplicit false

namespace GssContext.Psk

variable {ι σ ε α : Type}

/-! ## A side of two steps

Both sides of a handshake have the same shape. They begin with nothing, a first step
makes a context that waits, and a last step opens it; all other steps are refused and
leave what there is. The two roles differ in what the two steps are, so these are
parameters here, and the count of the steps is made only once.

A quantity that is read off single turns, and is absent from those that were refused, is
then there at most twice in a whole run: at the first step and at the last one. -/

/-- A turn is refused, or it is a first one, or it is a last one. -/
inductive Turn.Is (first : ι → Step → Context → Prop) (last : Context → ι → Step → Context → Prop) :
    Turn ι → Prop where
  | refused {before : Option Context} {call : ι} (status : Status) :
      Is first last ⟨before, call, .failure status, before⟩
  | first {call : ι} {step : Step} {c : Context} (h : first call step c) :
      Is first last ⟨none, call, step, some c⟩
  | last {call : ι} {step : Step} {c c' : Context} (h : last c call step c') :
      Is first last ⟨some c, call, step, some c'⟩

/-- Every turn of a side is one of the three; the first step leaves a context
that waits, and the last one opens such a context. -/
structure Side.TakesTwo (side : Side ι σ) (first : ι → Step → Context → Prop)
    (last : Context → ι → Step → Context → Prop) : Prop where
  turn : ∀ before call, Turn.Is first last (side.turn before call)
  first_waits : ∀ {call step c}, first call step c → c.isOpen = false
  last_waits : ∀ {c call step c'}, last c call step c' → c.isOpen = false
  last_opens : ∀ {c call step c'}, last c call step c' → c'.isOpen = true

namespace Side.TakesTwo

variable {side : Side ι σ} {first : ι → Step → Context → Prop}
  {last : Context → ι → Step → Context → Prop} {f : Turn ι → Option α}

/-- A turn on a context is refused or the last one. -/
theorem turn_some (h : side.TakesTwo first last) (c : Context) (call : ι × σ) :
    (∃ status, side.turn (some c) call = ⟨some c, call.1, .failure status, some c⟩) ∨
      ∃ step c', last c call.1 step c' ∧
        side.turn (some c) call = ⟨some c, call.1, step, some c'⟩ := by
  have hturn := h.turn (some c) call
  unfold Side.turn at hturn ⊢
  generalize (side (some c) call.1 call.2).1 = step at hturn ⊢
  generalize (side (some c) call.1 call.2).2 = after at hturn ⊢
  cases hturn with
  | refused status => exact .inl ⟨status, rfl⟩
  | last hlast => exact .inr ⟨_, _, hlast, rfl⟩

/-- A turn without a context is refused or the first one. -/
theorem turn_none (h : side.TakesTwo first last) (call : ι × σ) :
    (∃ status, side.turn none call = ⟨none, call.1, .failure status, none⟩) ∨
      ∃ step c, first call.1 step c ∧ side.turn none call = ⟨none, call.1, step, some c⟩ := by
  have hturn := h.turn none call
  unfold Side.turn at hturn ⊢
  generalize (side none call.1 call.2).1 = step at hturn ⊢
  generalize (side none call.1 call.2).2 = after at hturn ⊢
  cases hturn with
  | refused status => exact .inl ⟨status, rfl⟩
  | first hfirst => exact .inr ⟨_, _, hfirst, rfl⟩

/-- On an open context every turn is refused. A last step needs a context that is not
open, and a first one needs none at all; so nothing is left but refusals, and by
induction this remains so. -/
theorem of_open (h : side.TakesTwo first last)
    (hf : ∀ before call status, f ⟨before, call, .failure status, before⟩ = none) {c : Context}
    (hopen : c.isOpen = true) (calls : List (ι × σ)) :
    side.ending (some c) calls = some c ∧ (side.turns (some c) calls).filterMap f = [] := by
  induction calls with
  | nil => exact ⟨rfl, rfl⟩
  | cons call calls ih =>
    rcases h.turn_some c call with ⟨status, hcall⟩ | ⟨step, c', hlast, -⟩
    · rw [ending_cons, turns_cons, hcall, List.filterMap_cons_none (hf _ _ _)]
      exact ih
    · rw [h.last_waits hlast] at hopen
      cases hopen

/-- A context that waits is left, or opened by one last step. The induction is on the
calls: a refused one leaves the context waiting, and after the last step the lemma above
takes over. -/
theorem of_waiting (h : side.TakesTwo first last)
    (hf : ∀ before call status, f ⟨before, call, .failure status, before⟩ = none) {c c' : Context}
    (calls : List (ι × σ)) (hending : side.ending (some c) calls = some c')
    (hopen : c.isOpen = false) (hopen' : c'.isOpen = true) :
    ∃ call step, last c call step c' ∧
      (side.turns (some c) calls).filterMap f = (f ⟨some c, call, step, some c'⟩).toList := by
  induction calls with
  | nil =>
    cases hending
    rw [hopen] at hopen'
    cases hopen'
  | cons call calls ih =>
    rw [ending_cons] at hending
    rw [turns_cons]
    rcases h.turn_some c call with ⟨status, hcall⟩ | ⟨step, c'', hlast, hcall⟩
    · rw [hcall] at hending ⊢
      rw [List.filterMap_cons_none (hf _ _ _)]
      exact ih hending
    · -- what the last step opened is never left again, so it is the end
      rw [hcall] at hending ⊢
      obtain ⟨hend, hnone⟩ := h.of_open hf (h.last_opens hlast) calls
      have heq : c'' = c' := Option.some.inj (hend.symm.trans hending)
      subst heq
      refine ⟨_, _, hlast, ?_⟩
      rw [List.filterMap_cons, hnone]
      cases f ⟨some c, _, _, some c''⟩ <;> rfl

/-- **Two steps.** A run from nothing that ends with an open context has a first step
and a last one, and all others are refused. What is read off the run is therefore what
is read off these two. -/
theorem of_none (h : side.TakesTwo first last)
    (hf : ∀ before call status, f ⟨before, call, .failure status, before⟩ = none) {c' : Context}
    (calls : List (ι × σ)) (hending : side.ending none calls = some c')
    (hopen : c'.isOpen = true) :
    ∃ call step c call' step', first call step c ∧ last c call' step' c' ∧
      (side.turns none calls).filterMap f =
        (f ⟨none, call, step, some c⟩).toList ++
          (f ⟨some c, call', step', some c'⟩).toList := by
  induction calls with
  | nil => cases hending
  | cons call calls ih =>
    rw [ending_cons] at hending
    rw [turns_cons]
    rcases h.turn_none call with ⟨status, hcall⟩ | ⟨step, c, hfirst, hcall⟩
    · rw [hcall] at hending ⊢
      rw [List.filterMap_cons_none (hf _ _ _)]
      exact ih hending
    · rw [hcall] at hending ⊢
      obtain ⟨call', step', hlast, hrest⟩ :=
        h.of_waiting hf calls hending (h.first_waits hfirst) hopen
      refine ⟨_, _, _, call', step', hfirst, hlast, ?_⟩
      rw [List.filterMap_cons, hrest]
      cases f ⟨none, _, _, some c⟩ <;> rfl

end Side.TakesTwo

/-! ## What the initiator hashed

The initiator hashes when it finishes: the hello that it stored, and what the reply
says. So that can be seen from the turn in which it completes, with nothing known about
how the context came about. -/

namespace Initiator

/-- What a step hashed: the stored hello and the reply, if it completed. -/
def said? (t : Turn InitCall) : Option Said :=
  match t.step.status, t.before.map Context.phase, t.call.input.map Reply.decode with
  | .complete, some (.awaitingReply hello _ _), some (.ok reply) => some (.of hello reply)
  | _, _, _ => none

/-- A first step of the initiator. -/
def First (config : Config) (call : InitCall) (step : Step) (c : Context) : Prop :=
  ∃ nonce, step = (start config call.target call.flags nonce).1 ∧
    c = (start config call.target call.flags nonce).2

/-- A last step of the initiator. -/
def Last (config : Config) (c : Context) (call : InitCall) (step : Step) (c' : Context) : Prop :=
  ∃ hello nonce requested token reply now,
    c.phase = .awaitingReply hello nonce requested ∧ call.input = some token ∧
      Vouched config hello nonce call.target token reply ∧
      step = (finished config c now nonce requested (.of hello reply)).1 ∧
      c' = (finished config c now nonce requested (.of hello reply)).2

/-- Of the outcomes of a step, the one that greets is a first step and the one that
finishes a last one. -/
theorem Took.is {env : Environment (Action ε σ)} {config : Config}
    {before after : Option Context} {call : InitCall} {step : Step}
    (h : Took env config before call step after) :
    Turn.Is (First config) (Last config) ⟨before, call, step, after⟩ := by
  cases h with
  | refused status hnot => exact .refused status
  | greeted world hdraw => exact .first ⟨_, rfl, rfl⟩
  | finished now hphase hwanted hinput hvouched =>
    exact .last ⟨_, _, _, _, _, now, hphase, hinput, hvouched, rfl, rfl⟩

/-- So the initiator is a side of two steps. After the first it awaits the reply, and
after the last it is established. -/
theorem side_takesTwo (env : Environment (Action ε σ)) (config : Config) :
    (side env config).TakesTwo (First config) (Last config) where
  turn before call := (side_took before call.1 call.2).is
  first_waits h := by
    obtain ⟨nonce, -, rfl⟩ := h
    rfl
  last_waits h := by
    obtain ⟨hello, nonce, requested, token, reply, now, hphase, -⟩ := h
    rw [Context.isOpen, Context.session?, hphase]
    rfl
  last_opens h := by
    obtain ⟨hello, nonce, requested, token, reply, now, -, -, -, -, rfl⟩ := h
    rfl

/-- An open context of the initiator, with what was hashed. -/
structure Ended (config : Config) (said : Said) (c : Context) : Prop where
  /-- The hello is the initiator's own, and the flags are those it asked for. -/
  greeted : ∃ target flags nonce, said.hello = (hello config target flags nonce).encode ∧
    c.flags = granted flags said.granted
  initiator : c.initiator = config.name
  service : c.acceptor = said.acceptor
  session : ∃ expires,
    c.phase = .established (Session.start (config.key.sessionKeys said.digest) true c.flags expires)

/-- A run that opens the context hashed once, in its last step. What the context records
is determined by the two steps: the first put the name and the requested flags there,
and the last everything that depends on the reply. -/
theorem ended_of_isOpen (env : Environment (Action ε σ)) (config : Config)
    (calls : List (InitCall × σ)) (hopen : IsOpen ((side env config).ending none calls)) :
    ∃ said c, ((side env config).turns none calls).filterMap said? = [said] ∧
      (side env config).ending none calls = some c ∧ Ended config said c := by
  obtain ⟨c', hending, hopen'⟩ := exists_of_isOpen hopen
  obtain ⟨call, step, c, call', step', ⟨nonce, rfl, rfl⟩,
    ⟨hello, nonce', requested, token, reply, now, hphase, hinput, hvouched, rfl, rfl⟩, hsaid⟩ :=
    (side_takesTwo env config).of_none (f := said?) (fun _ _ _ => rfl) calls hending hopen'
  -- the first step left the hello that the last one hashed
  cases hphase
  refine ⟨.of _ reply, _, ?_, hending, ⟨_, _, _, rfl, rfl⟩, rfl, rfl, _, rfl⟩
  rw [hsaid]
  simp only [said?, start, finished, hinput, Option.map_some, hvouched.decoded]
  rfl

end Initiator

/-! ## What the acceptor hashed

The acceptor hashes when it answers: the hello as it came, and the reply that it sends.
The context keeps only the digest of that. What was hashed can still be seen from the
turn, since the reply that was sent reads back. -/

namespace Acceptor

/-- What a step hashed: the hello as it came and the reply as it was sent, if
there was one. -/
def said? (t : Turn Bytes) : Option Said :=
  match t.step.status, Reply.decode t.step.output with
  | .continueNeeded, .ok reply => some (.of t.call reply)
  | _, _ => none

/-- A first step of the acceptor. -/
def First (acceptor : Acceptor) (input : Bytes) (step : Step) (c : Context) : Prop :=
  ∃ hello nonce, acceptor.readHello input = .ok hello ∧ nonce.length = Handshake.nonceSize ∧
    step = (acceptor.reply hello input nonce).1 ∧ c = (acceptor.reply hello input nonce).2

/-- A last step of the acceptor. -/
def Last (acceptor : Acceptor) (c : Context) (_ : Bytes) (step : Step) (c' : Context) : Prop :=
  ∃ digest proofKey now, c.phase = .awaitingFinish digest proofKey ∧
    step = (acceptor.confirmed c digest now).1 ∧ c' = (acceptor.confirmed c digest now).2

/-- Here the first step is an answered hello, and the last one a finish that was
confirmed. -/
theorem Took.is {env : Environment (Action ε σ)} (hexact : env.Exact) {acceptor : Acceptor}
    {before after : Option Context} {input : Bytes} {step : Step}
    (h : Took env acceptor before input step after) :
    Turn.Is acceptor.First acceptor.Last ⟨before, input, step, after⟩ := by
  cases h with
  | refused status hnot => exact .refused status
  | replied world hhello hdraw =>
    exact .first ⟨_, _, hhello, hexact _ _ _ hdraw, rfl, rfl⟩
  | confirmed now hphase hdecode hproof => exact .last ⟨_, _, now, hphase, rfl, rfl⟩

/-- So the acceptor is a side of two steps as well. That the nonce has its size, which
is needed to read the reply back, is promised by the environment. -/
theorem side_takesTwo {env : Environment (Action ε σ)} (hexact : env.Exact)
    (acceptor : Acceptor) : (acceptor.side env).TakesTwo acceptor.First acceptor.Last where
  turn before call := (side_took before call.1 call.2).is hexact
  first_waits h := by
    obtain ⟨hello, nonce, -, -, -, rfl⟩ := h
    rfl
  last_waits h := by
    obtain ⟨digest, proofKey, now, hphase, -⟩ := h
    rw [Context.isOpen, Context.session?, hphase]
    rfl
  last_opens h := by
    obtain ⟨digest, proofKey, now, -, -, rfl⟩ := h
    rfl

/-- An open context of the acceptor, with what was hashed. -/
structure Ended (acceptor : Acceptor) (said : Said) (c : Context) : Prop where
  /-- The initiator's name and the grant are those of the hello. -/
  greeted : ∃ hello, Hello.decode said.hello = .ok hello ∧ c.initiator = hello.initiator ∧
    said.granted = grants hello.flags acceptor.confidentiality
  service : c.acceptor = said.acceptor
  flags : c.flags = said.granted ||| onceOpen
  session : ∃ expires, c.phase = .established
    (Session.start (acceptor.config.key.sessionKeys said.digest) false c.flags expires)

/-- The reply that a first step sends says what the step hashed. -/
theorem said?_reply (acceptor : Acceptor) (hello : Hello) (input : Bytes) {nonce : Bytes}
    (hnonce : nonce.length = Handshake.nonceSize)
    (hname : (Utf8.encode acceptor.name.text).length < 2 ^ 64) (before after : Option Context) :
    said? ⟨before, input, (acceptor.reply hello input nonce).1, after⟩ =
      some ⟨input, nonce, acceptor.name.text, grants hello.flags acceptor.confidentiality⟩ := by
  rw [said?, decode_reply_output acceptor hello input hnonce hname]
  rfl

/-- A run that opens the context hashed once, in its first step. The last step takes
over the digest that the first one stored, so the keys of the session are those of what
was hashed then. -/
theorem ended_of_isOpen {env : Environment (Action ε σ)} (hexact : env.Exact)
    (acceptor : Acceptor) (hname : (Utf8.encode acceptor.name.text).length < 2 ^ 64)
    (calls : List (Bytes × σ)) (hopen : IsOpen ((acceptor.side env).ending none calls)) :
    ∃ said c, ((acceptor.side env).turns none calls).filterMap said? = [said] ∧
      (acceptor.side env).ending none calls = some c ∧ acceptor.Ended said c := by
  obtain ⟨c', hending, hopen'⟩ := exists_of_isOpen hopen
  obtain ⟨call, step, c, call', step', ⟨hello, nonce, hhello, hnonce, rfl, rfl⟩,
    ⟨digest, proofKey, now, hphase, rfl, rfl⟩, hsaid⟩ :=
    (side_takesTwo hexact acceptor).of_none (f := said?) (fun _ _ _ => rfl) calls hending hopen'
  cases hphase
  rw [said?_reply acceptor hello call hnonce hname] at hsaid
  refine ⟨_, _, hsaid, hending, ⟨hello, decode_of_readHello hhello, rfl, rfl⟩, rfl, rfl, _, rfl⟩

end Acceptor

/-! ## Both together

Equal digests mean equal inputs, or a collision. With equal inputs the two sides hashed
one and the same thing, and it remains to compare what each of them made of it. The
tokens themselves need not be compared for that. -/

/-- Two sides that hashed the same agree. The hello is the initiator's own and the
acceptor decoded it, so its name and its flags are known to both. Each side then
computed the flags from the same request and the same grant, and the keys from the same
digest. -/
theorem agrees_of_ended {config : Config} {acceptor : Acceptor}
    (hkey : config.key = acceptor.config.key) {said : Said} (hshort : said.Short) {c c' : Context}
    (h : Initiator.Ended config said c) (h' : acceptor.Ended said c') : c.Agrees c' := by
  obtain ⟨target, flags, nonce, hhello, hflags⟩ := h.greeted
  obtain ⟨hello, hdecode, hinitiator, hgranted⟩ := h'.greeted
  have hlength : said.hello.length < 2 ^ 64 := by
    have hle := hshort said.hello (by simp [Said.parts, transcriptParts])
    simp only [Transcript.Short, Transcript.maxPart] at hle
    omega
  -- the acceptor decoded the initiator's own hello, and that reads back
  rw [hhello] at hdecode hlength
  have hread := Hello.decode_encode_append (Hello.sized_of_length_encode hlength) []
  rw [List.append_nil, hdecode] at hread
  cases hread
  refine ⟨?_, ?_, ?_, ?_⟩
  · rw [h.initiator, hinitiator]
    rfl
  · rw [h.service, h'.service]
  · rw [hflags, h'.flags, hgranted]
    exact granted_grants flags acceptor.confidentiality
  · obtain ⟨expires, hsession⟩ := h.session
    obtain ⟨expires', hsession'⟩ := h'.session
    refine ⟨_, _, hsession, hsession', ?_⟩
    rw [hkey]
    exact Session.start_mirrors _ _ _ _ _

/-- **Agreement or a collision.** An initiator and an acceptor with one key
both became open, whatever tokens reached them. Each hashed once. If the two
digests are equal then what was hashed is equal part by part and the two
contexts agree, or two different strings have one digest under SHA-256. -/
theorem agrees_or_collides {ε' σ' : Type} (env : Environment (Action ε σ))
    (env' : Environment (Action ε' σ')) (hexact : env'.Exact) (config : Config)
    (acceptor : Acceptor) (hkey : config.key = acceptor.config.key)
    (initCalls : List (InitCall × σ)) (acceptCalls : List (Bytes × σ'))
    (hopen : IsOpen ((Initiator.side env config).ending none initCalls))
    (hopen' : IsOpen ((acceptor.side env').ending none acceptCalls))
    (hname : Transcript.Short (Utf8.encode acceptor.name.text))
    (hshort : ∀ p ∈ ((Initiator.side env config).turns none initCalls).filterMap Initiator.said?,
      p.Short)
    (hshort' : ∀ q ∈ ((acceptor.side env').turns none acceptCalls).filterMap Acceptor.said?,
      q.Short) :
    ∃ p q c c',
      ((Initiator.side env config).turns none initCalls).filterMap Initiator.said? = [p] ∧
      ((acceptor.side env').turns none acceptCalls).filterMap Acceptor.said? = [q] ∧
      (Initiator.side env config).ending none initCalls = some c ∧ Initiator.Ended config p c ∧
      (acceptor.side env').ending none acceptCalls = some c' ∧ acceptor.Ended q c' ∧
      (p.digest = q.digest →
        (p = q ∧ c.Agrees c') ∨ (p.stream ≠ q.stream ∧ sha256 p.stream = sha256 q.stream)) := by
  have hname64 : (Utf8.encode acceptor.name.text).length < 2 ^ 64 := by
    simp only [Transcript.Short, Transcript.maxPart] at hname
    omega
  obtain ⟨p, c, hp, hending, hended⟩ := Initiator.ended_of_isOpen env config initCalls hopen
  obtain ⟨q, c', hq, hending', hended'⟩ :=
    Acceptor.ended_of_isOpen hexact acceptor hname64 acceptCalls hopen'
  refine ⟨p, q, c, c', hp, hq, hending, hended, hending', hended', ?_⟩
  rw [hp] at hshort
  rw [hq] at hshort'
  intro hdigest
  -- if the hashed strings are equal so are their parts; if not, they collide
  by_cases hstream : p.stream = q.stream
  · have hpq : p = q := Said.eq_of_stream_eq (hshort p List.mem_cons_self)
      (hshort' q List.mem_cons_self) hstream
    subst hpq
    exact .inl ⟨rfl, agrees_of_ended hkey (hshort p List.mem_cons_self) hended hended'⟩
  · rw [Said.digest_eq, Said.digest_eq] at hdigest
    exact .inr ⟨hstream, hdigest⟩

/-- Where the hello arrives as it was sent, the acceptor hashes what is said. -/
theorem said?_answered {config : Config} {acceptor : Acceptor} {target : ServiceName}
    {flags : Flags} {nonce nonce' : Bytes} (h : Meeting config acceptor target)
    (hnonce' : nonce'.length = Handshake.nonceSize) (before after : Option Context) :
    Acceptor.said? ⟨before, (greeted config target flags nonce).1.output,
      (answered config acceptor target flags nonce nonce').1, after⟩ =
      some (heard config acceptor target flags nonce nonce') :=
  acceptor.said?_reply _ _ hnonce' h.ownFits before after

/-- Where the reply arrives as it was sent, the initiator hashes the same. -/
theorem said?_concluded {config : Config} {acceptor : Acceptor} {target : ServiceName}
    {flags : Flags} {nonce nonce' : Bytes} {now : Instant} (h : Meeting config acceptor target)
    (hnonce' : nonce'.length = Handshake.nonceSize) (call : InitCall)
    (hinput : call.input = some (answered config acceptor target flags nonce nonce').1.output)
    (after : Option Context) :
    Initiator.said? ⟨some (greeted config target flags nonce).2, call,
      (concluded config acceptor target flags nonce nonce' now).1, after⟩ =
      some (heard config acceptor target flags nonce nonce') := by
  rw [Initiator.said?, hinput, Option.map_some, Option.map_some, answered,
    acceptor.decode_reply_output _ _ hnonce' h.ownFits]
  rfl

/-- A handshake in which every token arrives ends in two open contexts that
agree. -/
theorem agrees_of_relayed :
    let key : PreSharedKey := ⟨List.replicate 16 7, Nat.le_refl 16⟩
    let config : Config := ⟨key, "alice", Config.defaultLifetime⟩
    let service : ServiceName := ⟨"echo", some "host"⟩
    let acceptor : Acceptor := ⟨⟨key, "echo@host", Config.defaultLifetime⟩, service, true⟩
    let env : Environment (Action Empty Simulated) := Simulated.environment
    let world := Simulated.ofSupply (List.replicate 32 5)
    let initiator := Initiator.side env config
    let calls := relayed initiator (acceptor.side env) service .empty world world
    ∃ p q c c', (initiator.turns none calls.1).filterMap Initiator.said? = [p] ∧
      ((acceptor.side env).turns none calls.2).filterMap Acceptor.said? = [q] ∧
      initiator.ending none calls.1 = some c ∧ (acceptor.side env).ending none calls.2 = some c' ∧
      p.digest = q.digest ∧
      ((p = q ∧ c.Agrees c') ∨ (p.stream ≠ q.stream ∧ sha256 p.stream = sha256 q.stream)) := by
  intro key config service acceptor env world initiator calls
  have hmeeting : Meeting config acceptor service :=
    ⟨rfl, by decide +kernel, by decide +kernel, by decide, by decide, by decide⟩
  have hdraw : ((env.draw Handshake.nonceSize).run world).1 = .ok (List.replicate 32 5) := rfl
  obtain ⟨hturns, hending, hturns', hending'⟩ :=
    hmeeting.turns_relayed (ServiceName.accepts_self service) rfl rfl hdraw hdraw
  -- both sides hashed what the four steps say
  let said := heard config acceptor service .empty (List.replicate 32 5) (List.replicate 32 5)
  have hsaid : (initiator.turns none calls.1).filterMap Initiator.said? = [said] := by
    rw [hturns, List.filterMap_cons_none rfl,
      List.filterMap_cons_some (said?_concluded hmeeting rfl _ rfl _)]
    rfl
  have hsaid' : ((acceptor.side env).turns none calls.2).filterMap Acceptor.said? = [said] := by
    rw [hturns', List.filterMap_cons_some (said?_answered hmeeting rfl _ _),
      List.filterMap_cons_none rfl]
    rfl
  have hshort : said.Short := by decide +kernel
  obtain ⟨p, q, c, c', hp, hq, hc, -, hc', -, hagrees⟩ :=
    agrees_or_collides env env Simulated.environment_exact config acceptor rfl calls.1 calls.2
      (by rw [hending]; rfl) (by rw [hending']; rfl) (by decide)
      (by rw [hsaid]; intro p hp; rw [List.mem_singleton.mp hp]; exact hshort)
      (by rw [hsaid']; intro q hq; rw [List.mem_singleton.mp hq]; exact hshort)
  have hpq : p = q := List.head_eq_of_cons_eq (hp.symm.trans (hsaid.trans (hsaid'.symm.trans hq)))
  have hdigest : p.digest = q.digest := congrArg Said.digest hpq
  exact ⟨p, q, c, c', hp, hq, hc, hc', hdigest, hagrees hdigest⟩

end GssContext.Psk
