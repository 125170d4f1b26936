/-
What a mechanism reports about an operation that failed.

A status has a major part, which every mechanism shares and callers act on,
and a minor part with the mechanism's own detail. The numbers of the major
part put the causes of failure in one field of a word and the supplementary
information about a single token in another.
-/
import GssContext.Bytes.Hex

set_option autoImplicit false

namespace GssContext

/-- The part of a status that every mechanism shares. -/
inductive Major where
  | badMech
  | badName
  | badNameType
  | badBindings
  | badStatus
  | badMic
  | noCred
  | noContext
  | defectiveToken
  | defectiveCredential
  | credentialsExpired
  | contextExpired
  | failure
  | badQop
  | unauthorized
  | unavailable
  | duplicateElement
  | nameNotMn
  | duplicateToken
  | oldToken
  | unseqToken
  | gapToken
  deriving DecidableEq

namespace Major

/-- Every major status, in the order of their numbers. -/
def all : List Major :=
  [badMech, badName, badNameType, badBindings, badStatus, badMic, noCred, noContext,
    defectiveToken, defectiveCredential, credentialsExpired, contextExpired, failure, badQop,
    unauthorized, unavailable, duplicateElement, nameNotMn, duplicateToken, oldToken, unseqToken,
    gapToken]

/-- The number of a major status. Causes of failure count from one in the
third byte; information about a token is a bit of the first. -/
def code : Major → Nat
  | badMech => 1 * 65536
  | badName => 2 * 65536
  | badNameType => 3 * 65536
  | badBindings => 4 * 65536
  | badStatus => 5 * 65536
  | badMic => 6 * 65536
  | noCred => 7 * 65536
  | noContext => 8 * 65536
  | defectiveToken => 9 * 65536
  | defectiveCredential => 10 * 65536
  | credentialsExpired => 11 * 65536
  | contextExpired => 12 * 65536
  | failure => 13 * 65536
  | badQop => 14 * 65536
  | unauthorized => 15 * 65536
  | unavailable => 16 * 65536
  | duplicateElement => 17 * 65536
  | nameNotMn => 18 * 65536
  | duplicateToken => 2
  | oldToken => 4
  | unseqToken => 8
  | gapToken => 16

def name : Major → String
  | badMech => "BadMech"
  | badName => "BadName"
  | badNameType => "BadNameType"
  | badBindings => "BadBindings"
  | badStatus => "BadStatus"
  | badMic => "BadMic"
  | noCred => "NoCred"
  | noContext => "NoContext"
  | defectiveToken => "DefectiveToken"
  | defectiveCredential => "DefectiveCredential"
  | credentialsExpired => "CredentialsExpired"
  | contextExpired => "ContextExpired"
  | failure => "Failure"
  | badQop => "BadQop"
  | unauthorized => "Unauthorized"
  | unavailable => "Unavailable"
  | duplicateElement => "DuplicateElement"
  | nameNotMn => "NameNotMn"
  | duplicateToken => "DuplicateToken"
  | oldToken => "OldToken"
  | unseqToken => "UnseqToken"
  | gapToken => "GapToken"

def text : Major → String
  | badMech => "an unsupported mechanism was requested"
  | badName => "an invalid name was supplied"
  | badNameType => "a supplied name was of an unsupported type"
  | badBindings => "incorrect channel bindings were supplied"
  | badStatus => "an invalid status code was supplied"
  | badMic => "a token had an invalid signature"
  | noCred => "no credentials were supplied, or the credentials were unavailable"
  | noContext => "no context has been established"
  | defectiveToken => "invalid token was supplied"
  | defectiveCredential => "invalid credential was supplied"
  | credentialsExpired => "the referenced credentials have expired"
  | contextExpired => "the context has expired"
  | failure => "unspecified failure"
  | badQop => "the quality-of-protection requested could not be provided"
  | unauthorized => "the operation is forbidden by local security policy"
  | unavailable => "the operation or option is not available or supported"
  | duplicateElement => "the requested credential element already exists"
  | nameNotMn => "the provided name was not mechanism specific"
  | duplicateToken => "the token was a duplicate of an earlier token"
  | oldToken => "the token's validity period has expired"
  | unseqToken => "a later token has already been processed"
  | gapToken => "an expected per-message token was not received"

/-- Does the status say that a message's token failed validation: forged,
corrupted, replayed or out of order? -/
def isIntegrityFailure : Major → Bool
  | badMic | defectiveToken | duplicateToken | oldToken | unseqToken | gapToken => true
  | _ => false

end Major

/-- A major status with the mechanism's detail. -/
structure Status where
  major : Major
  minor : UInt32 := 0
  deriving DecidableEq

namespace Status

def text (s : Status) : String :=
  s!"{s.major.text} (major 0x{Hex.ofNatPadded 8 s.major.code}, minor {s.minor.toNat})"

def debug (s : Status) : String :=
  "StatusCode \x7b major: " ++ s.major.name ++ ", minor: " ++ toString s.minor.toNat ++ " \x7d"

end Status

end GssContext
