import ObjectModel.Encoding.Codec
import ObjectModel.Event
import ObjectModel.Heap.Basic

/-!
# Stored strings

Reading a string decodes the elements of its character array that the stored length admits. The encoding is the
reader's choice: nothing in a header tells which one the elements were written with.
-/

namespace ObjectModel

/-- The text of the elements of a character array, whose header stores the given length. -/
def Encoding.decodeArray (e : Encoding) (length : Int32) (elements : List e.elementType.Value) : Outcome String :=
  if length < 0 then .failWith (.negativeCharacterLength length) (.negativeCharacterLength length)
  else
    match e.decode elements with
    | .ok cs => .ok (String.ofList cs)
    | .error fault => .fail fault

/-- The text of a character array. There is none, not even a fault, when its elements are not of the type of the
encoding. -/
def ArrayHeader.decode? (header : ArrayHeader) (e : Encoding) : Option (Outcome String) :=
  (header.elementsAs? e.elementType).map fun elements => e.decodeArray header.length elements

/-- The text of the character array of a string. -/
def StringHeader.decode? (heap : Heap) (header : StringHeader) (e : Encoding) : Option (Outcome String) :=
  match header.characters with
  | none => some (.fail .noCharacters)
  | some id => (heap.array id).decode? e

end ObjectModel
