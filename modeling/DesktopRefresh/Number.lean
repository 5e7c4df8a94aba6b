/-!
# Numbers

The power of two numbers and the zero of a sum are found through instances of the core library. A module that
also sees an algebra library would find them through a monoid and an additive one instead, and a definition
that is read in both places would be two different terms. So the core instances come first everywhere.
-/

attribute [instance (high), default_instance (high + 1)] instPowNat
attribute [instance (high)] Zero.ofOfNat0
