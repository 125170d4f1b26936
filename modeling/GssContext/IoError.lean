/-
Failures of input and output.

A failure has a kind, on which programs decide, and a text, which people read.
The text tells more than the kind where the failing step knew more: that a
buffer could not be filled, which number the system gave, or that a host has
no address.
-/

set_option autoImplicit false

namespace GssContext

/-- What programs distinguish about a failure. -/
inductive IoKind where
  | notFound
  | permissionDenied
  | connectionRefused
  | connectionReset
  | connectionAborted
  | notConnected
  | brokenPipe
  | wouldBlock
  | timedOut
  | interrupted
  | unexpectedEof
  | writeZero
  | invalidInput
  | invalidData
  | notADirectory
  | isADirectory
  | invalidFilename
  | filesystemLoop
  | other
  deriving DecidableEq

namespace IoKind

def all : List IoKind :=
  [notFound, permissionDenied, connectionRefused, connectionReset, connectionAborted,
    notConnected, brokenPipe, wouldBlock, timedOut, interrupted, unexpectedEof, writeZero,
    invalidInput, invalidData, notADirectory, isADirectory, invalidFilename, filesystemLoop, other]

def name : IoKind → String
  | notFound => "NotFound"
  | permissionDenied => "PermissionDenied"
  | connectionRefused => "ConnectionRefused"
  | connectionReset => "ConnectionReset"
  | connectionAborted => "ConnectionAborted"
  | notConnected => "NotConnected"
  | brokenPipe => "BrokenPipe"
  | wouldBlock => "WouldBlock"
  | timedOut => "TimedOut"
  | interrupted => "Interrupted"
  | unexpectedEof => "UnexpectedEof"
  | writeZero => "WriteZero"
  | invalidInput => "InvalidInput"
  | invalidData => "InvalidData"
  | notADirectory => "NotADirectory"
  | isADirectory => "IsADirectory"
  | invalidFilename => "InvalidFilename"
  | filesystemLoop => "FilesystemLoop"
  | other => "Other"

def text : IoKind → String
  | notFound => "entity not found"
  | permissionDenied => "permission denied"
  | connectionRefused => "connection refused"
  | connectionReset => "connection reset"
  | connectionAborted => "connection aborted"
  | notConnected => "not connected"
  | brokenPipe => "broken pipe"
  | wouldBlock => "operation would block"
  | timedOut => "timed out"
  | interrupted => "operation interrupted"
  | unexpectedEof => "unexpected end of file"
  | writeZero => "write zero"
  | invalidInput => "invalid input parameter"
  | invalidData => "invalid data"
  | notADirectory => "not a directory"
  | isADirectory => "is a directory"
  | invalidFilename => "invalid filename"
  | filesystemLoop => "filesystem loop or indirection limit (e.g. symlink loop)"
  | other => "other error"

end IoKind

/-- A failure of input or output, by its cause. -/
inductive IoError where
  /-- Nothing more is known than the kind. -/
  | ofKind (kind : IoKind)
  /-- The input ended before everything asked for was read. -/
  | endOfInput
  /-- The output takes no more before everything was written. -/
  | outputFull
  | noSuchFile
  | notDirectory
  | isDirectory
  | nameTooLong
  | tooManyLinks
  /-- A name holds the character that ends names. -/
  | embeddedNul
  | nobodyListens
  /-- The other side stayed silent for as long as it is waited for. -/
  | silence
  | noAddress
  | unknownHost
  /-- A wait of no time was asked for. -/
  | zeroTimeout
  /-- A file that should hold text does not. -/
  | notText
  /-- What the system says about a failure that it alone knows. -/
  | reported (kind : IoKind) (text : String)
  deriving DecidableEq

namespace IoError

def kind : IoError → IoKind
  | ofKind kind => kind
  | endOfInput => .unexpectedEof
  | outputFull => .writeZero
  | noSuchFile => .notFound
  | notDirectory => .notADirectory
  | isDirectory => .isADirectory
  | nameTooLong => .invalidFilename
  | tooManyLinks => .filesystemLoop
  | embeddedNul => .invalidInput
  | nobodyListens => .connectionRefused
  | silence => .wouldBlock
  | noAddress => .notFound
  | unknownHost => .other
  | zeroTimeout => .invalidInput
  | notText => .invalidData
  | reported kind _ => kind

def message : IoError → String
  | ofKind kind => kind.text
  | endOfInput => "failed to fill whole buffer"
  | outputFull => "failed to write whole buffer"
  | noSuchFile => "No such file or directory (os error 2)"
  | notDirectory => "Not a directory (os error 20)"
  | isDirectory => "Is a directory (os error 21)"
  | nameTooLong => "File name too long (os error 36)"
  | tooManyLinks => "Too many levels of symbolic links (os error 40)"
  | embeddedNul => "file name contained an unexpected NUL byte"
  | nobodyListens => "Connection refused (os error 111)"
  | silence => "Resource temporarily unavailable (os error 11)"
  | noAddress => "host resolved to no addresses"
  | unknownHost => "failed to lookup address information: Name or service not known"
  | zeroTimeout => "cannot set a 0 duration timeout"
  | notText => "stream did not contain valid UTF-8"
  | reported _ text => text

end IoError

end GssContext
