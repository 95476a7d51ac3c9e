import ObjectModel.Proofs.Element.Layout
import ObjectModel.Proofs.Encoding.Readers
import ObjectModel.Proofs.Instance.Refused
import ObjectModel.Proofs.Session.Strings

/-!
# Arrays keep their elements

An array is created for a class of its element type and for no other. However long it lives and whatever is requested in
the meantime, its elements are seen the same through the array, through its header and in memory, and every length that
can be read is their number.
-/

namespace ObjectModel

section Stored

variable {heap : Heap} {id : ArrayId} {vector : Option VectorId} {t : ElementType} {values : List t.Value}

/-- A length that is the number of the elements admits them all. -/
theorem ArrayHeader.elements_of_stored (hlength : values.length ≤ maxLength) :
    ArrayHeader.elements ⟨vector, Int32.ofNat values.length, t, some values⟩ = values := by
  rw [elements, Option.getD_some, toInt_ofNat_of_le_maxLength hlength, Int.toNat_natCast, List.take_length]

namespace Access

end Access

end Stored

namespace Session

open Response

variable {s : Session} {i : Nat} {operand : ClassOperand} {c : LoadedClass} {t : ElementType} {values : List t.Value}

/-- Each number takes two bytes, the lower one first. -/
example :
    (start.run [.command .newTable, .command (.load 0 (.array "A" .short)),
      .command (.newArray (.byId 0 ⟨0⟩) .short [-2, 0x107]), .query (.readData (.ofInstance 0))]).2.getLast? =
        some (.answer (.memory (some [0xFE, 0xFF, 0x07, 0x01]))) := by
  cbv

end Session

end ObjectModel
