/-
Files that hold a pre-shared key.

The key is written in hexadecimal, and blanks around it do not count. Four
things can be wrong with such a file, and they are found in this order: it
cannot be read, it is no text, its text is not hexadecimal, and the key in it
is too short.
-/
import GssContext.Bytes.Hex
import GssContext.IoError
import GssContext.Psk.Config
import GssContext.Text.Blank

set_option autoImplicit false

namespace GssContext.Client

/-- What is wrong with a key file. -/
inductive KeyFileError where
  | unreadable (path : String) (error : IoError)
  | notHex (path : String) (error : Hex.Error)
  | badKey (error : CryptoError)
  deriving DecidableEq

/-- The wording of a fault in hexadecimal text. A byte is shown as the
character with its number. -/
def hexMessage : Hex.Error → String
  | .oddLength => "Odd number of digits"
  | .invalidDigit byte position =>
    s!"Invalid character {Text.quotedChar (Char.ofNat byte.toNat)} at position {position}"

def KeyFileError.message : KeyFileError → String
  | unreadable path error => s!"reading key file {path}: {error.message}"
  | notHex path error => s!"key file {path} is not hex: {hexMessage error}"
  | badKey error => "pre-shared key rejected: " ++ error.message

def textOfFile (content : Except IoError Bytes) : Except IoError String := do
  match Utf8.decode? (← content) with
  | some text => return text
  | none => throw .notText

/-- One side of the mechanism, from its key file and its name. -/
def configOfKeyFile (path : String) (content : Except IoError Bytes) (name : String) :
    Except KeyFileError Psk.Config := do
  let text ← (textOfFile content).mapError (.unreadable path)
  let digits := Utf8.encode (String.ofList (Text.trim text.toList))
  let key ← (Hex.decode digits).mapError (.notHex path)
  (Psk.Config.of key name).mapError .badKey

end GssContext.Client
