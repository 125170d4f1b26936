/-
The numbers of the tokens that a context makes.

One counter serves all three kinds of token, and it is moved by the call that
makes one. So the tokens of a run of calls are numbered by their index, however
the calls are mixed, whatever the clock shows in between and wherever the
randomness fails. A refused call leaves the context, and that includes the call
that finds the counter at its end: it stays there, and no number comes again.

The induction is on the calls, with the number of tokens made so far as the
counter's value. A single call is looked at once, as one of the steps.
-/
import GssContext.Proofs.Psk.Acceptance
import GssContext.Proofs.Psk.Delivery

set_option autoImplicit false

namespace GssContext.Psk

/-! ## Runs of calls

A run is recorded call by call, with the context before and after, so that every claim
about a call can be made at its place in the run. The tokens are read off the answers.
How many there were before some call is what the counter will be compared with. -/

/-- The token in an answer, if one was made. -/
def Answer.token? : Answer → Option Bytes
  | wrapped w => some w.token
  | signed token => some token
  | unwrapped _ | verified | refused _ => none

/-- A call that was made, what the clock showed, and what came of it. -/
structure Served where
  before : Context
  call : Call
  now : Instant
  answer : Answer
  after : Context
  deriving DecidableEq

variable {ε σ : Type}

/-- A run of calls, each with the world in which it is made: nothing is assumed
about the clock and the randomness between two of them. -/
def Context.serve (env : Environment (Action ε σ)) : Context → List (Call × σ) → List Served
  | _, [] => []
  | c, (call, w) :: calls =>
    let done := ((c.call env call).run w).1
    ⟨c, call, (env.now.run w).1, done.1, done.2⟩ :: serve env done.2 calls

/-- The tokens of a run, in the order in which they were made. -/
def made (served : List Served) : List Bytes := served.filterMap fun x => x.answer.token?

/-- The first call of a run adds its own token, if it made one. -/
theorem made_cons (x : Served) (served : List Served) :
    made (x :: served) = x.answer.token?.toList ++ made served := by
  rw [made, List.filterMap_cons]
  cases x.answer.token? <;> rfl

/-! ## One call

What a call has to do with numbers is collected in one structure, with the number of
tokens made before it as a parameter. That the number in a token is the counter, that
the counter moves by one, and that it stops in front of its last value are facts about a
single step; the context in which the step is made does not matter. -/

/-- What is sent is told from the answer. -/
theorem Delivery.of?_eq_none {call : Call} {answer : Answer} (h : answer.token? = none) :
    Delivery.of? call answer = none := by
  cases answer with
  | wrapped | signed => cases h
  | unwrapped | verified | refused => cases call <;> rfl

/-- A token is made only while a number is left; it carries the next one and uses it up.
Only three of the constructors make a token, and each of them has the number as a
premise. -/
theorem Session.Step.number_of_token {s s' : Session} {now : Instant} {call : Call}
    {answer : Answer} {token : Bytes} (h : s.Step now call answer s')
    (htoken : answer.token? = some token) :
    s.HasNumber ∧ numberOf? token = some s.sendSeq.toNat ∧
      s'.sendSeq.toNat = s.sendSeq.toNat + 1 := by
  cases h with
  | wrapOpen _ hnumber =>
    cases htoken
    exact ⟨hnumber, numberOf?_wrapToken .., s.sendSeq_advanced hnumber⟩
  | wrapSealed _ hnumber _ _ hsealed =>
    cases htoken
    exact ⟨hnumber, numberOf?_of_sealedToken? hsealed, s.sendSeq_advanced hnumber⟩
  | getMic _ hnumber =>
    cases htoken
    exact ⟨hnumber, numberOf?_micToken .., s.sendSeq_advanced hnumber⟩
  | expired | exhausted | noEntropy | tooLong | unwrapped | notUnwrapped | verified
  | notVerified => cases htoken

/-- A refused call leaves the session, unless it asked for something too long to
be sealed. -/
theorem Session.Step.eq_of_refused_of_fits {s s' : Session} {now : Instant} {call : Call}
    {refusal : Refusal} (h : s.Step now call (.refused refusal) s')
    (hfits : ∀ message, call = .wrap message true → message.length ≤ Sealed.maxLength) :
    s' = s := by
  cases h with
  | tooLong hlong => exact absurd (hfits _ rfl) (Nat.not_le_of_lt hlong)
  | expired | exhausted | noEntropy | notUnwrapped | notVerified => rfl

/-- What holds of a call before which `n` tokens were made. -/
structure Served.Numbered (x : Served) (n : Nat) : Prop where
  /-- The counter shows how many there were. -/
  counter : ∃ t, x.before.phase = .established t ∧ t.sendSeq.toNat = n
  carries : ∀ token, x.answer.token? = some token → Session.numberOf? token = some n
  /-- The last number is never given out, so the counter cannot go past it. -/
  stops : x.call.sends = true → 2 ^ 64 - 1 ≤ n → ∃ refusal, x.answer = .refused refusal
  leaves : ∀ refusal, x.answer = .refused refusal → x.after = x.before
  /-- Before that a token is made while there is time, unless no nonce can be drawn. -/
  makes : x.call.sends = true → n < 2 ^ 64 - 1 →
    (∀ t, x.before.phase = .established t → t.checkExpiry x.now = .ok ()) →
    x.answer.token?.isSome = true ∨ ∃ message e, x.call = .wrap message true ∧
      x.answer = .refused (.noEntropy e)

/-- A call that sends and makes no token is refused. -/
theorem Session.Step.refused_of_sends {s s' : Session} {now : Instant} {call : Call}
    {answer : Answer} (h : s.Step now call answer s') (hsends : call.sends = true)
    (hnone : answer.token? = none) : ∃ refusal, answer = .refused refusal := by
  cases h with
  | expired | exhausted | noEntropy | tooLong => exact ⟨_, rfl⟩
  | wrapOpen | wrapSealed | getMic => cases hnone
  | unwrapped | notUnwrapped | verified | notVerified => cases hsends

/-- A step that begins with the counter at some value is numbered by that value. -/
theorem Session.Step.numbered {s s' : Session} {now : Instant} {call : Call} {answer : Answer}
    {c : Context} (hc : c.phase = .established s) (h : s.Step now call answer s')
    (hfits : ∀ message, call = .wrap message true → message.length ≤ Sealed.maxLength) :
    Served.Numbered ⟨c, call, now, answer, c.withSession s'⟩ s.sendSeq.toNat where
  counter := ⟨s, hc, rfl⟩
  carries _ htoken := (h.number_of_token htoken).2.1
  stops hsends hend := by
    cases htoken : answer.token? with
    | none => exact h.refused_of_sends hsends htoken
    | some token =>
      -- there is no token under the last number
      have hnumber : s.sendSeq.toNat + 1 < 2 ^ 64 := (h.number_of_token htoken).1
      omega
  leaves := by
    rintro refusal rfl
    rw [h.eq_of_refused_of_fits hfits, Context.withSession_self hc]
  makes hsends hleft hlive := by
    have hnumber : s.HasNumber := by
      change s.sendSeq.toNat + 1 < 2 ^ 64
      omega
    refine (h.delivery_of_sends hsends (hlive s hc) hnumber hfits).imp ?_ id
    rintro ⟨d, hd⟩
    cases htoken : answer.token? with
    | some token => rfl
    | none =>
      rw [Delivery.of?_eq_none htoken] at hd
      cases hd

/-! ## A run

The counter stands for the number of tokens made, so the induction on the calls is with
the counter in any place: the calls after the first one begin where the first one left
it. A token takes it on by one and nothing else moves it, as long as no message is too
long to be sealed. -/

section

variable {env : Environment (Action ε σ)}

/-- The first call of a run is a step of the session, and the others follow on
what it leaves. -/
theorem Context.serve_cons (hexact : env.Exact) {c : Context} {s : Session}
    (hc : c.phase = .established s) (call : Call) (w : σ) (calls : List (Call × σ)) :
    ∃ now answer s', s.Step now call answer s' ∧
      c.serve env ((call, w) :: calls) =
        ⟨c, call, now, answer, c.withSession s'⟩ :: (c.withSession s').serve env calls := by
  obtain ⟨answer, s', hrun, hstep⟩ := Context.call_run hexact hc call w
  refine ⟨_, answer, s', hstep, ?_⟩
  rw [serve, hrun]

/-- A call takes the counter on by the tokens that it made. -/
theorem Session.Step.sendSeq_add {s s' : Session} {now : Instant} {call : Call} {answer : Answer}
    (h : s.Step now call answer s')
    (hfits : ∀ message, call = .wrap message true → message.length ≤ Sealed.maxLength) :
    s'.sendSeq.toNat = s.sendSeq.toNat + answer.token?.toList.length := by
  cases htoken : answer.token? with
  | some token => exact (h.number_of_token htoken).2.2
  | none => rw [h.sendSeq_eq hfits (Delivery.of?_eq_none htoken)]; rfl

variable (hexact : env.Exact) {c : Context} {s : Session} (hc : c.phase = .established s)
  {calls : List (Call × σ)}
  (hfits : ∀ call ∈ calls, ∀ message, call.1 = .wrap message true →
    message.length ≤ Sealed.maxLength)
include hexact hc hfits

/-- The tokens of a run are numbered on from the counter, which does not reach its end.
Both are one induction, since the bound on what is to come is needed at each token. -/
theorem Context.numbers_made :
    (made (c.serve env calls)).map Session.numberOf? =
        (List.range' s.sendSeq.toNat (made (c.serve env calls)).length).map some ∧
      s.sendSeq.toNat + (made (c.serve env calls)).length ≤ 2 ^ 64 - 1 := by
  induction calls generalizing c s with
  | nil => exact ⟨rfl, Nat.le_pred_of_lt s.sendSeq.toNat_lt⟩
  | cons call calls ih =>
    obtain ⟨now, answer, s', hstep, hserve⟩ := serve_cons hexact hc call.1 call.2 calls
    have hrest := ih (c := c.withSession s') (s := s') rfl
      fun call hcall => hfits call (List.mem_cons_of_mem _ hcall)
    have hseq := hstep.sendSeq_add (hfits call List.mem_cons_self)
    rw [hserve, made_cons]
    dsimp only
    -- a call without a token leaves the counter, and one with a token takes one number
    cases htoken : answer.token? with
    | none =>
      rw [htoken] at hseq
      rw [Option.toList_none, List.nil_append, ← show s'.sendSeq.toNat = s.sendSeq.toNat from hseq]
      exact hrest
    | some token =>
      obtain ⟨-, hcarries, hnext⟩ := hstep.number_of_token htoken
      rw [Option.toList_some, List.singleton_append, List.map_cons, List.length_cons,
        List.range'_succ, List.map_cons, hcarries, ← hnext, hrest.1]
      refine ⟨rfl, ?_⟩
      omega

/-- Every call of a run finds the counter where the tokens before it left it. The
induction is on what was served before the call. -/
theorem Context.numbered_served {before after : List Served} {x : Served}
    (hsplit : c.serve env calls = before ++ x :: after) :
    x.Numbered (s.sendSeq.toNat + (made before).length) := by
  induction calls generalizing c s before with
  | nil => simp [serve] at hsplit
  | cons call calls ih =>
    obtain ⟨now, answer, s', hstep, hserve⟩ := serve_cons hexact hc call.1 call.2 calls
    have hfits' := hfits call List.mem_cons_self
    rw [hserve] at hsplit
    cases before with
    | nil =>
      obtain ⟨rfl, -⟩ := List.cons.inj hsplit
      exact hstep.numbered hc hfits'
    | cons first before =>
      obtain ⟨rfl, hrest⟩ := List.cons.inj hsplit
      have hnumbered := ih (c := c.withSession s') (s := s') rfl
        (fun call hcall => hfits call (List.mem_cons_of_mem _ hcall)) hrest
      rw [hstep.sendSeq_add hfits'] at hnumbered
      rw [made_cons, List.length_append, ← Nat.add_assoc]
      exact hnumbered

end

/-- **Numbers are never used again.** On an open context that made no token yet,
the tokens of any run of calls carry the numbers zero, one, two and so on, and
the last number is never reached. Each call finds the counter at the number of
tokens made before it; if it is refused it leaves the context as it was, and
once all numbers but the last are used every call that is to make a token is. -/
theorem Context.numbers_never_reused {env : Environment (Action ε σ)} (hexact : env.Exact)
    {c : Context} {s : Session} (hc : c.phase = .established s) (hfresh : s.sendSeq = 0)
    (calls : List (Call × σ))
    (hfits : ∀ call ∈ calls, ∀ message, call.1 = .wrap message true →
      message.length ≤ Sealed.maxLength) :
    let served := c.serve env calls
    (made served).map Session.numberOf? = (List.range (made served).length).map some ∧
      (made served).length ≤ 2 ^ 64 - 1 ∧
      ∀ before x after, served = before ++ x :: after → x.Numbered (made before).length := by
  intro served
  have hzero : s.sendSeq.toNat = 0 := by
    rw [hfresh]
    rfl
  obtain ⟨hnumbers, hbound⟩ := numbers_made hexact hc hfits
  rw [hzero] at hnumbers hbound
  refine ⟨?_, ?_, ?_⟩
  · rw [List.range_eq_range']
    exact hnumbers
  · rwa [Nat.zero_add] at hbound
  · intro before x after hsplit
    have hnumbered := numbered_served hexact hc hfits hsplit
    rwa [hzero, Nat.zero_add] at hnumbered

/-- Five calls of all kinds. No nonce can be drawn for the second, and the
context's time is over at the last; the three tokens have the first three
numbers. -/
theorem Context.numbered_of_interrupted :
    let session := Session.start ⟨[1], [2], [3], [4]⟩ true (.of [.confidentiality])
      (some ⟨.ofSeconds 10⟩)
    let c : Context := ⟨"here", "there", true, .of [.confidentiality], .established session⟩
    let env : Environment (Action Empty Simulated) := Simulated.environment
    let supplied := Simulated.ofSupply (List.replicate 24 7)
    let calls : List (Call × Simulated) :=
      [(.wrap [10] false, supplied), (.wrap [20] true, Simulated.ofSupply []),
        (.getMic [30], supplied), (.wrap [40] true, supplied.advance (.ofSeconds 9)),
        (.wrap [50] false, supplied.advance (.ofSeconds 10))]
    let served := c.serve env calls
    (served.map fun x => (x.answer.token?.isSome, decide (x.after = x.before))) =
        [(true, false), (false, true), (true, false), (true, false), (false, true)] ∧
      (made served).map Session.numberOf? = [some 0, some 1, some 2] ∧
      ∀ before x after, served = before ++ x :: after → x.Numbered (made before).length := by
  intro session c env supplied calls served
  have hfits : ∀ call ∈ calls, ∀ message, call.1 = .wrap message true →
      message.length ≤ Sealed.maxLength := by
    intro call hcall message hmessage
    simp only [calls, List.mem_cons, List.not_mem_nil, or_false] at hcall
    rcases hcall with rfl | rfl | rfl | rfl | rfl <;> cases hmessage <;> decide
  have hcount : (made served).length = 3 := by decide +kernel
  obtain ⟨hnumbers, -, hserved⟩ := @numbers_never_reused _ _ env Simulated.environment_exact c
    session rfl rfl calls hfits
  refine ⟨by decide +kernel, ?_, hserved⟩
  rw [hcount] at hnumbers
  exact hnumbers

end GssContext.Psk
