/-
StripeTransfer/Measure/Bandwidth.lean

Bandwidths in GiB per second.  A duration is a count of seconds and nanoseconds;
a transfer that took no measurable time has bandwidth zero.
-/
import StripeTransfer.Number.Decimal

namespace StripeTransfer

/-- A length of time. -/
structure Duration where
  seconds : Nat
  nanos : Nat
  deriving Repr, DecidableEq, Inhabited

/-- The duration as a number of seconds. -/
def Duration.inSeconds (d : Duration) : Binary64 :=
  Binary64.ofNat d.seconds + Binary64.ofNat d.nanos / Binary64.ofNat 1000000000

namespace Bandwidth

/-- The bandwidth of `bytes` bytes in a duration. -/
def of (bytes : Nat) (elapsed : Duration) : Binary64 :=
  let seconds := elapsed.inSeconds
  if seconds.isNaN || seconds.isNegative || seconds.significand = 0 then Binary64.zero
  else Binary64.ofNat bytes / seconds / Binary64.ofNat 0x40000000

/-- The line that reports a bandwidth: the bare number in brief form, with its unit and on demand
the elapsed time otherwise. -/
def text (bandwidth : Binary64) (elapsed : Duration) (brief withElapsed : Bool) : String :=
  if bandwidth.numEq Binary64.zero then "Elapsed time < 1ms\n"
  else if brief then bandwidth.text ++ "\n"
  else
    s!"Bandwidth: {bandwidth.text} GiB/s\n" ++
      (if withElapsed then s!"Elapsed time: {elapsed.inSeconds.fixedText 3} s\n" else "") ++ "\n"

end Bandwidth

end StripeTransfer
