/-
Why the pre-shared-key mechanism refuses an input.

Each cause has one status, and several share the same. The detail in the minor
part tells apart what the major part does not.
-/
import GssContext.Environment
import GssContext.ServiceName

set_option autoImplicit false

namespace GssContext.Psk

/-! ## Details

The number beside a status tells apart what the status alone does not. These are
this mechanism's own numbers. -/

namespace Minor

def badProof : UInt32 := 1
def malformed : UInt32 := 2
def wrongDirection : UInt32 := 3
def version : UInt32 := 4
def unexpectedToken : UInt32 := 5
def missingToken : UInt32 := 6
def acceptorMismatch : UInt32 := 7
def unknownTarget : UInt32 := 8
def noEntropy : UInt32 := 9

end Minor

/-! ## Causes

One constructor for each way in which an input is refused, over both roles and all
operations. What is seen from outside is the status, and that is coarser: a context
whose time is over and one whose numbers are used up answer alike. -/

inductive Refusal where
  | otherMechanism
  /-- A token came before the first step. -/
  | earlyToken
  /-- The handshake is in a phase that takes no such step. -/
  | outOfTurn
  /-- The step needs a token and has none. -/
  | missingToken
  /-- The bytes are not what is expected here. -/
  | malformed
  | otherVersion
  | badName
  /-- The acceptor answers for another service than the one that was called. -/
  | otherAcceptor (acceptor : ServiceName)
  /-- The service that is called is not this acceptor. -/
  | unknownTarget (target : ServiceName)
  /-- The proof that the other side holds the key is wrong. -/
  | badProof
  | noEntropy (error : EntropyError)
  | noContext
  | expired
  /-- All numbers for tokens are used up. -/
  | numbersUsedUp
  /-- A token of this side's own direction, or of none. -/
  | wrongDirection
  /-- A token whose number is not above the last accepted one. -/
  | replayed
  | forged
  /-- A message that is too long to be sealed. -/
  | tooLong
  deriving DecidableEq

/-- The status that answers a cause. -/
def Refusal.status : Refusal → Status
  | otherMechanism => ⟨.badMech, 0⟩
  | earlyToken => ⟨.defectiveToken, Minor.unexpectedToken⟩
  | outOfTurn => ⟨.failure, Minor.unexpectedToken⟩
  | missingToken => ⟨.defectiveToken, Minor.missingToken⟩
  | malformed => ⟨.defectiveToken, Minor.malformed⟩
  | otherVersion => ⟨.defectiveToken, Minor.version⟩
  | badName => ⟨.badName, 0⟩
  | otherAcceptor _ => ⟨.failure, Minor.acceptorMismatch⟩
  | unknownTarget _ => ⟨.noCred, Minor.unknownTarget⟩
  | badProof => ⟨.badMic, Minor.badProof⟩
  | noEntropy _ => ⟨.failure, Minor.noEntropy⟩
  | noContext => ⟨.noContext, 0⟩
  | expired => ⟨.contextExpired, 0⟩
  | numbersUsedUp => ⟨.contextExpired, 0⟩
  | wrongDirection => ⟨.defectiveToken, Minor.wrongDirection⟩
  | replayed => ⟨.duplicateToken, 0⟩
  | forged => ⟨.badMic, 0⟩
  | tooLong => ⟨.failure, 0⟩

end GssContext.Psk
