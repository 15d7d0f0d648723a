/-
StripeTransfer/Extent/Span.lean

A span is a contiguous run of bytes of a file or a buffer, given by the offset
of its first byte and its length.

Where a span stops is its offset plus its length, whatever that comes to.  For
words of 64 bits this is so as long as the sum is such a word; what is said of a
span that is moved or that has to stop somewhere says so.
-/

namespace StripeTransfer

/-- A contiguous run of bytes. -/
structure Span where
  /-- Offset of the first byte. -/
  offset : Nat
  /-- Number of bytes. -/
  length : Nat
  deriving Repr, DecidableEq, Inhabited

namespace Span

/-- The offset one past the last byte. -/
def stop (s : Span) : Nat := s.offset + s.length

/-- The span moved forward by `by_` bytes. -/
def shift (s : Span) (by_ : Nat) : Span := ⟨s.offset + by_, s.length⟩

/-- The leading part of the span that holds one byte in `divisor`. -/
def sample (s : Span) (divisor : Nat) : Span := ⟨s.offset, s.length / divisor⟩

/-- `sample`, refusing the divisor zero. -/
def sample? (s : Span) (divisor : Nat) : Option Span :=
  if divisor = 0 then none else some (s.sample divisor)

/-- The span in half-open interval notation. -/
def text (s : Span) : String := s!"[{s.offset}, {s.stop})"

/-- The bytes of a buffer that the span covers. -/
def slice (s : Span) (buffer : ByteArray) : ByteArray := buffer.extract s.offset s.stop

/-- `slice`, refusing spans that leave the buffer. -/
def slice? (s : Span) (buffer : ByteArray) : Option ByteArray :=
  if s.stop ≤ buffer.size then some (s.slice buffer) else none

end Span

/-- Adjacent spans: each starts where the one before stopped, from `start` to `stop`. -/
inductive Contiguous : (start : Nat) → List Span → (stop : Nat) → Prop
  | nil (start : Nat) : Contiguous start [] start
  | cons {s : Span} {rest : List Span} {stop : Nat} :
      Contiguous s.stop rest stop → Contiguous s.offset (s :: rest) stop

end StripeTransfer
