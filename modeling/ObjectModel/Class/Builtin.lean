import ObjectModel.Class.Load

/-!
# Builtin classes

The classes that a table for strings and primitive arrays starts with: the root class, the string class and the
eight array classes. The string class has the most interfaces, so a smaller walk bound leaves no such table.
-/

namespace ObjectModel

/-- The name of the root class. -/
def objectClassName : String :=
  "java.lang.Object"

/-- The name of the string class. -/
def stringClassName : String :=
  "java.lang.String"

/-- The definitions of the builtin classes, in load order. -/
def builtinDefinitions : List ClassDefinition :=
  [ClassDefinition.object objectClassName,
    (ClassDefinition.string stringClassName).implementsAll
      ["java.lang.CharSequence", "java.lang.Comparable", "java.io.Serializable"]] ++
  ElementType.all.map fun element =>
    (ClassDefinition.primitiveArray element).implementsAll ["java.lang.Cloneable", "java.io.Serializable"]

/-- A table of the builtin classes, when at most `limit` interfaces are allowed. -/
def ClassTable.withBuiltins (limit : Nat) (heap : Heap) : Outcome (Heap × ClassTable) :=
  empty.loadAll limit heap builtinDefinitions

end ObjectModel
