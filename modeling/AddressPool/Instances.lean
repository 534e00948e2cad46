/-!
# Instances that are meant

Powers of numbers, sums of lists and comparisons of bytes are those of the core
language here.  The algebra that some modules import brings more general ones along,
which would be taken in their place; the priorities below keep one meaning for all.
-/

set_option autoImplicit false

attribute [instance(20000)] instPowNat Zero.ofOfNat0 ByteArray.instDecidableEq

attribute [default_instance(20000)] instPowNat
