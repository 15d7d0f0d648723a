/-
StripeTransfer/Number/Word.lean

Words of a machine.  Offsets, lengths and sizes are words of 64 bits; counts of
workers and of attempts are words of 32 bits.  The result of a calculation on
words is cut to a word again: what is above it is lost, and what is below zero
comes back from the top.
-/

namespace StripeTransfer.Word

/-- What a word of 64 bits keeps of a number. -/
def wrap (n : Nat) : Nat := n % 0x10000000000000000

/-- The difference of two words of 64 bits. -/
def sub (m n : Nat) : Nat := wrap (m + 0x10000000000000000 - n)

/-- What a word of 32 bits keeps of a number. -/
def wrap32 (n : Nat) : Nat := n % 0x100000000

end StripeTransfer.Word
