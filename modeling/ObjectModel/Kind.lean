import ObjectModel.Element.Basic
import ObjectModel.Text.CString

/-!
# Type information

What a class says about its instances: their kind, and the name and number of the class itself.
-/

namespace ObjectModel

/-- The kind of instances a class describes. -/
inductive TypeKind where
  | object
  | array (element : ElementType)
  | string
  deriving DecidableEq, Repr

/-- The kind in descriptions. -/
def TypeKind.describe : TypeKind → String
  | .object => "Object"
  | .array element => Text.describeApplied "Array" element.describe
  | .string => "String"

/-- The position of a class in the load order of its table. -/
structure ClassId where
  index : Nat
  deriving DecidableEq, Repr

/-- The number sign and the position. -/
def ClassId.display (id : ClassId) : String :=
  "#" ++ Text.describeNat id.index

/-- The id in descriptions. -/
def ClassId.describe (id : ClassId) : String :=
  Text.describeApplied "ClassId" (Text.describeNat id.index)

/-- The type information of a loaded class. -/
structure TypeInfo where
  name : CString
  id : ClassId
  kind : TypeKind
  deriving DecidableEq

/-- The type information in descriptions. -/
def TypeInfo.describe (info : TypeInfo) : String :=
  Text.describeRecord "TypeInfo"
    [("name", info.name.quoted), ("id", info.id.describe), ("kind", info.kind.describe)]

end ObjectModel
