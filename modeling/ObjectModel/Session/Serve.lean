import ObjectModel.Session.Run

/-!
# Serving

How the requests of a client are served. In the encodings with one-byte elements a string knows how many elements its text
needs, so what is too long for an array is refused before any element is written.
-/

namespace ObjectModel

/-- The fault of a string whose text is known to need more elements than an array can have, if nothing else is wrong with
it. -/
def Instance.tooLong? (c charsClass : LoadedClass) (text : String) (e : Encoding) : Option Fault :=
  match e.knownLength? text with
  | none => none
  | some count =>
    if maxLength < count then
      if c.info.kind = .string ∧ charsClass.info.kind = .array e.elementType ∧ e.hasAll text = true then
        some (.tooManyElements count)
      else none
    else none

namespace Session

/-- The fault of a command for a string whose text is known to be too long, if nothing else is wrong with it. -/
def tooLong? (s : Session) : Command → Option Fault
  | .newString operand charactersOperand text e =>
    match s.classOf operand, s.classOf charactersOperand with
    | .ok c, .ok charsClass => Instance.tooLong? c charsClass text e
    | _, _ => none
  | .newStringIn handle text =>
    match s.table handle with
    | .error _ => none
    | .ok table =>
      match table.byString? stringClassName, table.byString? s.config.encoding.elementType.arrayDescriptor with
      | some c, some charsClass => Instance.tooLong? c charsClass text s.config.encoding
      | _, _ => none
  | _ => none

/-- The session after a request of a client, and the response to it. -/
def serve (s : Session) : Request → Session × Response Answer
  | .query q => s.perform (.query q)
  | .command c =>
    match s.tooLong? c with
    | some fault => (s, ⟨.error (.faulted fault), []⟩)
    | none => s.perform (.command c)

end Session

end ObjectModel
