/-!
# Generation options

Which annotation families and members a generated class has.
-/

namespace EntityMapper.Java

/-- What is generated besides the fields. -/
structure Options where
  /-- The annotations that map the class and its fields to the table. -/
  jpa : Bool := true
  /-- The annotations that stand for accessors and constructors. -/
  lombok : Bool := true
  /-- The annotations that name the fields in JSON. -/
  jackson : Bool := true
  /-- Getters and setters. -/
  accessors : Bool := true
  deriving DecidableEq, Repr

/-- Whether getters and setters are written: the annotations that stand for them make them
superfluous. -/
def Options.writesAccessors (o : Options) : Bool :=
  o.accessors && !o.lombok

end EntityMapper.Java
