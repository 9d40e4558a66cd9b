/-!
# Powers and sums of numbers

Mathlib has powers and sums of its own for numbers, which are equal to those of the core
library. So that one text always means one thing, those of the core library come first.
-/

attribute [instance (high)] instPowNat Zero.ofOfNat0

attribute [default_instance 20000] instPowNat
