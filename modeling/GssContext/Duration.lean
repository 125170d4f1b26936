/-
Spans of time and moments on a clock.

A span is a whole number of nanoseconds. A moment is the span since the clock
was started, and a clock that only moves forward has later moments with larger
spans. The clock does not reach arbitrarily far: adding a span to a moment can
leave its range, and then there is no such moment.
-/
import GssContext.Text.Decimal

set_option autoImplicit false

namespace GssContext

structure Duration where
  nanos : Nat
  deriving DecidableEq

namespace Duration

def zero : Duration := ⟨0⟩

def ofSeconds (n : Nat) : Duration := ⟨n * 1000000000⟩

def ofMillis (n : Nat) : Duration := ⟨n * 1000000⟩

def millis (d : Duration) : Nat := d.nanos / 1000000

def seconds (d : Duration) : Nat := d.nanos / 1000000000

/-- A number with its decimal part, the latter being `part` of `unit`, and
without zeros at its end. -/
def decimalText (whole part unit : Nat) : String :=
  let width := (Decimal.ofNat unit).length - 1
  let digits := Decimal.ofNat part
  let digits := List.replicate (width - digits.length) '0' ++ digits
  let digits := (digits.reverse.dropWhile (· == '0')).reverse
  String.ofList (Decimal.ofNat whole ++ if digits.isEmpty then [] else '.' :: digits)

/-- The span in its largest unit that has a whole part, down to nanoseconds. -/
def debug (d : Duration) : String :=
  let n := d.nanos
  if n ≥ 1000000000 then decimalText (n / 1000000000) (n % 1000000000) 1000000000 ++ "s"
  else if n ≥ 1000000 then decimalText (n / 1000000) (n % 1000000) 1000000 ++ "ms"
  else if n ≥ 1000 then decimalText (n / 1000) (n % 1000) 1000 ++ "µs"
  else decimalText n 0 1 ++ "ns"

end Duration

/-- A moment, as the span since the clock was started. -/
structure Instant where
  since : Duration
  deriving DecidableEq

namespace Instant

/-- Seconds at which the clock's range ends. -/
def endOfRange : Nat := 1 <<< 63

def reached (now deadline : Instant) : Bool := deadline.since.nanos ≤ now.since.nanos

/-- The moment a span later, if the clock reaches it. -/
def plus? (t : Instant) (d : Duration) : Option Instant :=
  let later : Duration := ⟨t.since.nanos + d.nanos⟩
  if later.seconds < endOfRange then some ⟨later⟩ else none

/-- The span from `earlier` to `t`, nothing if `t` is not later. -/
def sinceOrZero (t earlier : Instant) : Duration := ⟨t.since.nanos - earlier.since.nanos⟩

end Instant

end GssContext
