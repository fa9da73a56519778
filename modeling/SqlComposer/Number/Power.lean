/-!
Powers are those of the core library wherever they are written, whatever else is imported there.
-/

attribute [instance (2000), default_instance (20000)] instPowNat
