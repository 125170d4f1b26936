/-
One call on an established context, and everything it can do.

There are four calls: two make a token, two take one. `Context.call` is the
four as one function, so that a run of calls is a fold over a list.

`Session.Step` says what a call can end with, one constructor for each way,
and `call_run` that nothing else happens. Every statement about a run of calls
is a case analysis on it: the guard that made the call go this way is a
premise of the constructor, and the session afterwards is its last index.
-/
import GssContext.Proofs.Action
import GssContext.Proofs.Psk.Token
import GssContext.Psk.Context

set_option autoImplicit false

namespace GssContext.Psk

/-! ## Calls and answers

The four operations differ in what they take and give, and in where they get the time
and a nonce from. As one type of calls and one type of answers they can be put in a
list, recorded, and compared. What is lost of a refusal by taking its status is not lost
here: an answer holds the refusal itself. -/

/-- A call on an established context. -/
inductive Call where
  | wrap (message : Bytes) (confidential : Bool)
  | getMic (message : Bytes)
  | unwrap (token : Bytes)
  | verifyMic (message token : Bytes)
  deriving DecidableEq

/-- Does a call make a token? -/
def Call.sends : Call → Bool
  | wrap .. | getMic _ => true
  | unwrap _ | verifyMic .. => false

/-- What a call ends with. -/
inductive Answer where
  | wrapped (wrapped : Wrapped)
  | signed (token : Bytes)
  | unwrapped (unwrapped : Unwrapped)
  | verified
  | refused (refusal : Refusal)
  deriving DecidableEq

/-- The answer of an operation that can be refused. -/
def Answer.of {α : Type} (done : α → Answer) : Except Refusal α → Answer
  | .ok a => done a
  | .error e => .refused e

/-- Make a call. -/
def Context.call {m : Type → Type} [Monad m] [Journal m] (env : Environment m) (c : Context) :
    Call → m (Answer × Context)
  | .wrap message confidential => do
    let (result, c) ← c.wrap env message confidential
    return (.of .wrapped result, c)
  | .getMic message => do
    let (result, c) ← c.timed env fun now => c.getMic now message
    return (.of .signed result, c)
  | .unwrap token => do
    let (result, c) ← c.timed env fun now => c.unwrap now token
    return (.of .unwrapped result, c)
  | .verifyMic message token => do
    let (result, c) ← c.timed env fun now => c.verifyMic now message token
    return (.of (fun _ => .verified) result, c)

/-! ## What a call can do to the session

The relation has one constructor for each way in which a call can end, and not one for
each call: that the time is over or that the numbers are used up looks the same for all
of them. A constructor holds the facts that its way depends on, as far as anybody needs
them later. For the calls that take a token these are left in one piece, as an equation
for the session's own function; what that says is for `Proofs.Psk.Acceptance`. -/

/-- A call at the moment `now` takes the session `s` to an answer and a session. -/
inductive Session.Step (s : Session) (now : Instant) : Call → Answer → Session → Prop where
  /-- The context's time is over. -/
  | expired {call : Call} {e : Refusal} (hover : s.checkExpiry now = .error e) :
      Step s now call (.refused e) s
  /-- No number is left for a token. -/
  | exhausted {call : Call} (hsends : call.sends = true) (hnumber : ¬ s.HasNumber) :
      Step s now call (.refused .numbersUsedUp) s
  /-- No nonce could be drawn. -/
  | noEntropy {message : Bytes} (hseals : s.confidentiality = true) (e : EntropyError) :
      Step s now (.wrap message true) (.refused (.noEntropy e)) s
  /-- The message is too long to be sealed; its number is lost. -/
  | tooLong {message : Bytes} (hlong : Sealed.maxLength < message.length)
      (hnumber : s.HasNumber) : Step s now (.wrap message true) (.refused .tooLong) s.advanced
  | wrapOpen {message : Bytes} {confidential : Bool} (hlive : s.checkExpiry now = .ok ())
      (hnumber : s.HasNumber) (hopen : s.seals confidential = false) :
      Step s now (.wrap message confidential)
        (.wrapped ⟨wrapToken s.sendMac s.outbound s.sendSeq message, false⟩) s.advanced
  | wrapSealed {message nonce token : Bytes} (hlive : s.checkExpiry now = .ok ())
      (hnumber : s.HasNumber) (hseals : s.confidentiality = true)
      (hnonce : nonce.length = Sealed.nonceSize)
      (htoken : sealedToken? s.sendEnc s.outbound s.sendSeq nonce message = some token) :
      Step s now (.wrap message true) (.wrapped ⟨token, true⟩) s.advanced
  | getMic {message : Bytes} (hlive : s.checkExpiry now = .ok ()) (hnumber : s.HasNumber) :
      Step s now (.getMic message)
        (.signed (micToken s.sendMac s.outbound s.sendSeq message)) s.advanced
  | unwrapped {token : Bytes} {u : Unwrapped} {s' : Session}
      (h : s.unwrap now token = .ok (u, s')) : Step s now (.unwrap token) (.unwrapped u) s'
  | notUnwrapped {token : Bytes} {e : Refusal} (h : s.unwrap now token = .error e) :
      Step s now (.unwrap token) (.refused e) s
  | verified {message token : Bytes} {s' : Session}
      (h : s.verifyMic now message token = .ok s') :
      Step s now (.verifyMic message token) .verified s'
  | notVerified {message token : Bytes} {e : Refusal}
      (h : s.verifyMic now message token = .error e) :
      Step s now (.verifyMic message token) (.refused e) s

/-! ## Nothing else happens

The relation would be worth little if a call could do something else. So each operation
is first brought into the form of one equation, and the cases of that are then the
constructors. Only the value and the context matter here; what is drawn from the world
is left to the environment, of which nothing is asked but that a nonce it draws has the
size that was asked for. -/

section

variable {ε σ : Type} {env : Environment (Action ε σ)} {c : Context} {s : Session}

/-- A context has a session exactly if it is established. -/
theorem Context.session?_eq_some_iff : c.session? = some s ↔ c.phase = .established s := by
  unfold session?
  cases c.phase <;> simp

theorem Context.session_of_established (hc : c.phase = .established s) : c.session = .ok s := by
  simp only [Context.session, Context.session?, hc]

/-- Putting back the session that is there changes nothing, so a refused call can be
said to leave the context with its own session like any other. -/
theorem Context.withSession_self (hc : c.phase = .established s) : c.withSession s = c := by
  rw [Context.withSession, ← hc]

/-! On an established context an operation is its session's, and only a
successful one puts the new session back. -/

theorem Context.getMic_eq (hc : c.phase = .established s) (now : Instant) (message : Bytes) :
    c.getMic now message =
      match s.getMic now message with
      | .ok (token, s') => .ok (token, c.withSession s')
      | .error e => .error e := by
  simp only [Context.getMic, session_of_established hc, bind, Except.bind]
  cases s.getMic now message <;> rfl

theorem Context.unwrap_eq (hc : c.phase = .established s) (now : Instant) (token : Bytes) :
    c.unwrap now token =
      match s.unwrap now token with
      | .ok (unwrapped, s') => .ok (unwrapped, c.withSession s')
      | .error e => .error e := by
  simp only [Context.unwrap, session_of_established hc, bind, Except.bind]
  cases s.unwrap now token <;> rfl

theorem Context.verifyMic_eq (hc : c.phase = .established s) (now : Instant)
    (message token : Bytes) :
    c.verifyMic now message token =
      match s.verifyMic now message token with
      | .ok s' => .ok ((), c.withSession s')
      | .error e => .error e := by
  simp only [Context.verifyMic, session_of_established hc, bind, Except.bind]
  cases s.verifyMic now message token <;> rfl

/-- An operation that depends on the time is run at the moment the clock shows. -/
theorem Context.run_timed {α : Type} (operation : Instant → Except Refusal (α × Context))
    (w : σ) : ((c.timed env operation).run w).1 =
      match operation (env.now.run w).1 with
      | .ok (value, c') => (.ok value, c')
      | .error e => (.error e, c) := by
  rw [Context.timed, Action.run_bind]
  cases operation (env.now.run w).1 <;> rfl

/-- The answer of such an operation, as a call gives it. -/
theorem Context.run_answer {α : Type} (done : α → Answer)
    (operation : Instant → Except Refusal (α × Context)) (w : σ) :
    ((do
      let (result, c) ← c.timed env operation
      return (Answer.of done result, c) : Action ε σ (Answer × Context)).run w).1 =
      match operation (env.now.run w).1 with
      | .ok (value, c') => (done value, c')
      | .error e => (.refused e, c) := by
  change (Answer.of done ((c.timed env operation).run w).1.1,
    ((c.timed env operation).run w).1.2) = _
  rw [run_timed]
  cases operation (env.now.run w).1 <;> rfl

theorem Context.run_drawNonce (size : Nat) (w : σ) :
    ((Context.drawNonce env size).run w).1 =
      match ((env.draw size).run w).1 with
      | .ok nonce => .ok nonce
      | .error e => .error (.noEntropy e) := by
  rw [Context.drawNonce, Action.run_bind]
  cases ((env.draw size).run w).1 <;> rfl

/-- Wrapping, once the session is there and its time is not over. A sealed message
leaves a session in any case, and one in the open only if a token was made: that is the
difference between a number that is lost and one that was not taken. -/
theorem Context.run_wrap (hc : c.phase = .established s) (w : σ) (message : Bytes)
    (confidential : Bool) (hlive : s.checkExpiry (env.now.run w).1 = .ok ()) :
    ((c.wrap env message confidential).run w).1 =
      if s.seals confidential then
        match ((env.draw Sealed.nonceSize).run (env.now.run w).2).1 with
        | .error e => (.error (.noEntropy e), c)
        | .ok nonce =>
          ((s.wrapSealed nonce message).1, c.withSession (s.wrapSealed nonce message).2)
      else
        match s.wrapOpen message with
        | .error e => (.error e, c)
        | .ok (wrapped, s') => (.ok wrapped, c.withSession s') := by
  simp only [Context.wrap, session_of_established hc, Action.run_bind, hlive]
  by_cases hseals : s.seals confidential = true
  · rw [if_pos hseals, if_pos hseals, Action.run_bind, Context.run_drawNonce]
    cases ((env.draw Sealed.nonceSize).run (env.now.run w).2).1 <;> rfl
  · rw [if_neg hseals, if_neg hseals]
    cases s.wrapOpen message <;> rfl

theorem Context.run_wrap_expired (hc : c.phase = .established s) (w : σ) (message : Bytes)
    (confidential : Bool) {e : Refusal} (hover : s.checkExpiry (env.now.run w).1 = .error e) :
    (c.wrap env message confidential).run w = ((.error e, c), (env.now.run w).2) := by
  simp only [Context.wrap, session_of_established hc, Action.run_bind, hover, Action.run_pure]

/-- A wrap is one of the steps. The cases are the order of its checks: time,
then the nonce if the message is to be sealed, then the number. -/
theorem Context.wrap_step (hexact : env.Exact) (hc : c.phase = .established s) (w : σ)
    (message : Bytes) (confidential : Bool) :
    ∃ result s', ((c.wrap env message confidential).run w).1 = (result, c.withSession s') ∧
      s.Step (env.now.run w).1 (.wrap message confidential) (.of .wrapped result) s' := by
  cases hlive : s.checkExpiry (env.now.run w).1 with
  | error e =>
    refine ⟨.error e, s, ?_, .expired hlive⟩
    rw [run_wrap_expired hc w message confidential hlive, withSession_self hc]
  | ok =>
    rw [run_wrap hc w message confidential hlive]
    by_cases hseals : s.seals confidential = true
    · obtain ⟨rfl, hconf⟩ : confidential = true ∧ s.confidentiality = true := by
        simpa [Session.seals] using hseals
      rw [if_pos hseals]
      cases hdraw : ((env.draw Sealed.nonceSize).run (env.now.run w).2).1 with
      | error e =>
        refine ⟨.error (.noEntropy e), s, ?_, .noEntropy hconf e⟩
        rw [withSession_self hc]
      | ok nonce =>
        refine ⟨_, _, rfl, ?_⟩
        rw [Session.wrapSealed_eq]
        by_cases hnumber : s.HasNumber
        · rw [if_pos hnumber]
          cases htoken : Session.sealedToken? s.sendEnc s.outbound s.sendSeq nonce message with
          | some token =>
            exact .wrapSealed hlive hnumber hconf (hexact _ _ _ hdraw) htoken
          -- sealing gives nothing, which it does only for a message that is too long
          | none =>
            refine .tooLong (Nat.lt_of_not_le fun hfits => ?_) hnumber
            have hsome := Session.sealedToken?_isSome s.sendEnc s.outbound s.sendSeq nonce
              message hfits
            rw [htoken] at hsome
            cases hsome
        · rw [if_neg hnumber]
          exact .exhausted rfl hnumber
    · rw [if_neg hseals, Session.wrapOpen_eq]
      by_cases hnumber : s.HasNumber
      · rw [if_pos hnumber]
        exact ⟨_, _, rfl, .wrapOpen hlive hnumber (Bool.eq_false_iff.mpr hseals)⟩
      · rw [if_neg hnumber]
        refine ⟨.error .numbersUsedUp, s, ?_, .exhausted rfl hnumber⟩
        rw [withSession_self hc]

/-- The same for a code. It draws nothing, so its checks are the time and the number. -/
theorem Session.getMic_step (s : Session) (now : Instant) (message : Bytes) :
    match s.getMic now message with
    | .ok (token, s') => s.Step now (.getMic message) (.signed token) s'
    | .error e => s.Step now (.getMic message) (.refused e) s := by
  cases hlive : s.checkExpiry now with
  | error e =>
    simp only [getMic, hlive, bind, Except.bind]
    exact .expired hlive
  | ok =>
    rw [getMic_eq s now message hlive]
    by_cases hnumber : s.HasNumber
    · rw [if_pos hnumber]
      exact .getMic hlive hnumber
    · rw [if_neg hnumber]
      exact .exhausted rfl hnumber

/-- **Everything a call can do.** A call on an established context leaves it
established, and the answer and the new session are one of the steps. Two calls make a
token and go by the lemmas above; for the two that take one, the constructor is the
result itself. -/
theorem Context.call_run (hexact : env.Exact) (hc : c.phase = .established s) (call : Call)
    (w : σ) :
    ∃ answer s', ((c.call env call).run w).1 = (answer, c.withSession s') ∧
      s.Step (env.now.run w).1 call answer s' := by
  cases call with
  | wrap message confidential =>
    obtain ⟨result, s', hrun, hstep⟩ := wrap_step hexact hc w message confidential
    refine ⟨_, s', ?_, hstep⟩
    change (Answer.of .wrapped ((c.wrap env message confidential).run w).1.1,
      ((c.wrap env message confidential).run w).1.2) = _
    rw [hrun]
  | getMic message =>
    have hstep := s.getMic_step (env.now.run w).1 message
    rw [Context.call, run_answer]
    simp only [Context.getMic_eq hc]
    cases hmic : s.getMic (env.now.run w).1 message with
    | ok made =>
      rw [hmic] at hstep
      exact ⟨_, _, rfl, hstep⟩
    | error e =>
      rw [hmic] at hstep
      exact ⟨_, s, by rw [withSession_self hc], hstep⟩
  | unwrap token =>
    rw [Context.call, run_answer]
    simp only [Context.unwrap_eq hc]
    cases htaken : s.unwrap (env.now.run w).1 token with
    | ok taken => exact ⟨_, _, rfl, .unwrapped htaken⟩
    | error e => exact ⟨_, s, by rw [withSession_self hc], .notUnwrapped htaken⟩
  | verifyMic message token =>
    rw [Context.call, run_answer]
    simp only [Context.verifyMic_eq hc]
    cases htaken : s.verifyMic (env.now.run w).1 message token with
    | ok taken => exact ⟨_, _, rfl, .verified htaken⟩
    | error e => exact ⟨_, s, by rw [withSession_self hc], .notVerified htaken⟩

end

end GssContext.Psk
