/-! Powers of natural numbers. Where a theory of monoids is in scope, a power could be read as
one in the monoid of the numbers; here it is always the power of the number itself. -/

attribute [instance (2000), default_instance 20000] instPowNat
