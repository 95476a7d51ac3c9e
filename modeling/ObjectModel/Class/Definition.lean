import ObjectModel.Kind

/-!
# Class definitions

What a client asks a class table to load: a name, the kind of instances, and the names of the interfaces in the
order they were added.
-/

namespace ObjectModel

/-- A class to be loaded. -/
structure ClassDefinition where
  name : String
  kind : TypeKind
  interfaces : List String
  deriving DecidableEq, Repr

namespace ClassDefinition

/-- A class of plain objects. -/
def object (name : String) : ClassDefinition :=
  ⟨name, .object, []⟩

/-- A class of arrays. -/
def array (name : String) (element : ElementType) : ClassDefinition :=
  ⟨name, .array element, []⟩

/-- A class of arrays named by its descriptor. -/
def primitiveArray (element : ElementType) : ClassDefinition :=
  array element.arrayDescriptor element

/-- A class of strings. -/
def string (name : String) : ClassDefinition :=
  ⟨name, .string, []⟩

/-- Adds interfaces behind those already there. -/
def implementsAll (definition : ClassDefinition) (names : List String) : ClassDefinition :=
  { definition with interfaces := definition.interfaces ++ names }

/-- Adds one interface behind those already there. -/
def implements (definition : ClassDefinition) (name : String) : ClassDefinition :=
  definition.implementsAll [name]

/-- The definition in descriptions. -/
def describe (definition : ClassDefinition) : String :=
  Text.describeRecord "ClassDefinition"
    [("name", Text.quoted definition.name), ("kind", definition.kind.describe),
      ("interfaces", Text.describeList (definition.interfaces.map Text.quoted))]

/-- Adding names one by one is adding them all. -/
theorem foldl_implements (definition : ClassDefinition) (names : List String) :
    names.foldl implements definition = definition.implementsAll names := by
  induction names generalizing definition with
  | nil => simp [implementsAll]
  | cons name rest ih => simp [ih, implements, implementsAll]

end ClassDefinition

end ObjectModel
