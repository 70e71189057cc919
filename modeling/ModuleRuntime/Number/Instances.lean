/-!
# Powers and sums

Powers and sums of natural numbers are those of the core library in every module, also where one
that is imported besides has others.
-/

attribute [instance (2000), default_instance (20000)] instPowNat
attribute [instance (2000)] Zero.ofOfNat0
