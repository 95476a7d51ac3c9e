import ObjectModel.Config.Options
import ObjectModel.Native
import ObjectModel.Session.Response

/-!
# Queries

The requests that only read: a query has an answer and events but no effect on the session. The checked reads
come twice, as they are and through the entry points for native code.
-/

namespace ObjectModel

/-- A request that reads. -/
inductive Query where
  | currentConfig
  | parseOptions (text : String)
  | parseEnvironment (value : Option (List UInt8))
  | tableSize (handle : Nat)
  | tableClasses (handle : Nat)
  | describeTable (handle : Nat)
  | findClass (operand : ClassOperand)
  | describeClass (operand : ClassOperand)
  | describeTypeInfo (operand : ClassOperand)
  | classOfVector (handle : Nat) (vector : VectorOperand)
  | classImplements (operand : ClassOperand) (name : CString)
  | viewStandalone (i : Nat)
  | viewVector (vector : VectorOperand)
  | sameVector (a b : VectorOperand)
  | walk (vector : VectorOperand) (limit : Nat)
  | iterate (vector : VectorOperand) (count : Nat)
  | vectorImplements (vector : VectorOperand) (name : CString)
  | vectorImplementsWithin (vector : VectorOperand) (name : CString) (limit : Nat)
  | viewNode (i : Option Nat)
  | readVector (header : ObjectOperand)
  | readImplements (vector : VectorOperand) (name : CString)
  | readLength (array : ArrayOperand)
  | readData (array : ArrayOperand)
  | readCharacters (string : StringOperand)
  | nativeVector (header : ObjectOperand)
  | nativeImplements (vector : VectorOperand) (name : Option CString)
  | nativeLength (array : ArrayOperand)
  | nativeData (array : ArrayOperand)
  | nativeCharacters (string : StringOperand)
  | viewObject (header : ObjectOperand)
  | viewArray (array : ArrayOperand)
  | viewString (string : StringOperand)
  | viewInstance (i : Nat)
  | describeInstance (i : Nat)
  | instanceImplements (i : Nat) (name : CString)
  | reportArray (i : Nat)
  | reportString (i : Nat)
  | decode (string : StringOperand) (e : Encoding)
  | decodeAsConfigured (string : StringOperand)
  deriving DecidableEq

/-- The lookup of an interface through a class, which is reported. -/
def LoadedClass.lookupInterface (heap : Heap) (c : LoadedClass) (name : CString) : Logged Bool :=
  let found := c.implements heap name
  ⟨found, [.classLookup c.info.name name found]⟩

namespace Session

open Response

/-- The text of a string that is not null and whose elements fit the encoding. -/
def decodeString (s : Session) (operand : StringOperand) (e : Encoding) : Response Answer :=
  given ((s.string operand).bind (orRefuse .badOperand)) fun header =>
    given (orRefuse .badOperand (header.decode? s.heap e)) fun outcome => ofOutcome outcome .text

/-- The view of an array header. -/
def arrayView (s : Session) (id : ArrayId) : ArrayView :=
  let header := s.heap.array id
  { description := header.describe
    vector := s.vectorName header.vector
    length := header.length
    elements := ⟨header.element, header.elements⟩
    hasData := header.data.isSome }

/-- What is told about a string instance. -/
def stringReport (s : Session) (value : Instance) (e : Encoding) (id : ArrayId) : StringReport :=
  let characters := s.heap.array id
  { encoding := e
    length := characters.length
    units := ⟨characters.element, characters.elements⟩
    text := (value.text? s.heap).bind (·.value.toOption)
    charactersVector := s.vectorName characters.vector }

/-- The response to a query. -/
def ask (s : Session) : Query → Response Answer
  | .currentConfig => answer (.config s.config)
  | .parseOptions text => ofLogged (Config.ofOptions text.toList) .config
  | .parseEnvironment value => ofLogged (Config.ofEnvironment value) .config
  | .tableSize handle => given (s.table handle) fun table => answer (.size table.size)
  | .tableClasses handle => given (s.table handle) fun table => answer (.classes (table.classes.map (·.info)))
  | .describeTable handle => given (s.table handle) fun table => answer (.text (table.describe s.heap))
  | .findClass operand =>
    given (s.findClass operand) fun found => answer (.foundClass (found.map (·.view s.heap)))
  | .describeClass operand => given (s.classOf operand) fun c => answer (.text (c.describe s.heap))
  | .describeTypeInfo operand => given (s.classOf operand) fun c => answer (.text c.info.describe)
  | .classOfVector handle vector =>
    given (s.table handle) fun table =>
      given (s.vector vector) fun vector =>
        answer (.foundClass ((vector.bind table.byVector?).map (·.view s.heap)))
  | .classImplements operand name =>
    given (s.classOf operand) fun c => ofLogged (c.lookupInterface s.heap name) .flag
  | .viewStandalone i =>
    given (orRefuse .badOperand s.standalone[i]?) fun c =>
      answer (.standalone ⟨c.interfaceCount, c.describe, c.interfaces s.heap, c.payload⟩)
  | .viewVector vector =>
    given (s.vector vector) fun vector =>
      answer (.vector (vector.map fun id =>
        ⟨id.describe, (s.heap.vector id).head.isSome, s.vectorName id, (s.heap.vector id).metadata ≠ .absent⟩))
  | .sameVector a b =>
    given (s.vectorNotNull a) fun a => given (s.vectorNotNull b) fun b => answer (.flag (a = b))
  | .walk vector limit =>
    given (s.vectorNotNull vector) fun id =>
      let head := (s.heap.vector id).head
      let rest := s.heap.nodeAt (s.heap.advanceBy limit head)
      answer (.walked (s.heap.names limit head) (rest.map (·.describe)))
  | .iterate vector count =>
    given (s.vectorNotNull vector) fun id =>
      let taken := (Interfaces.ofVector s.heap id).take s.heap count
      answer (.iterated taken.1 (taken.2.describe s.heap) (taken.2.next s.heap).1)
  | .vectorImplements vector name =>
    given (s.vectorNotNull vector) fun id =>
      answer (.flagIfKnown (s.heap.find name (s.heap.vector id).head))
  | .vectorImplementsWithin vector name limit =>
    given (s.vectorNotNull vector) fun id =>
      answer (.flagIfKnown (s.heap.findWithin name limit (s.heap.vector id).head))
  | .viewNode none => answer (.node none)
  | .viewNode (some i) =>
    given (orRefuse .badOperand (s.nodes[i]?.bind s.heap.node?)) fun node =>
      let next := node.next.bind fun next => s.nodes.findIdx? (· = next)
      answer (.node (some ⟨node.describe, node.name, next⟩))
  | .readVector header =>
    given (s.object header) fun header =>
      ofOutcome (Access.dispatchVector header) fun id => .vectorName (s.vectorName (some id))
  | .readImplements vector name =>
    given (s.vector vector) fun vector =>
      ofOutcome (Access.implementsInterface s.heap s.config.walkBound vector name) .flag
  | .readLength array => given (s.array array) fun id => ofOutcome (Access.arrayLength s.heap id) .length
  | .readData array => given (s.array array) fun id => ofOutcome (Access.arrayData s.heap id) .memory
  | .readCharacters string =>
    given (s.string string) fun header =>
      ofOutcome (Access.stringCharacters header) fun id => .arrayName (s.arrayName (some id))
  | .nativeVector header =>
    given (s.object header) fun header =>
      ofLogged (Native.dispatchVector header) fun id => .vectorName (s.vectorName id)
  | .nativeImplements vector name =>
    given (s.vector vector) fun vector =>
      ofLogged (Native.implementsInterface s.heap s.config.walkBound vector name) .flag
  | .nativeLength array => given (s.array array) fun id => ofLogged (Native.arrayLength s.heap id) .length
  | .nativeData array => given (s.array array) fun id => ofLogged (Native.arrayData s.heap id) .memory
  | .nativeCharacters string =>
    given (s.string string) fun header =>
      ofLogged (Native.stringCharacters header) fun id => .arrayName (s.arrayName id)
  | .viewObject header =>
    given (s.object header) fun header =>
      answer (.object (header.map fun header => ⟨header.describe, s.vectorName header.vector⟩))
  | .viewArray array => given (s.array array) fun id => answer (.array (id.map s.arrayView))
  | .viewString string =>
    given (s.string string) fun header =>
      answer (.string (header.map fun header =>
        ⟨header.describe s.heap, s.vectorName header.vector, s.arrayName header.characters⟩))
  | .viewInstance i =>
    given (s.liveInstance i) fun value =>
      let c := value.ofClass
      answer (.ofInstance
        ⟨c.view s.heap, s.vectorName (some c.vector), s.vectorName (value.header s.heap).vector⟩)
  | .describeInstance i => given (s.liveInstance i) fun value => answer (.text (value.describe s.heap))
  | .instanceImplements i name =>
    given (s.liveInstance i) fun value => ofLogged (value.ofClass.lookupInterface s.heap name) .flag
  | .reportArray i =>
    given (s.arrayInstance i) fun id =>
      let header := s.heap.array id
      answer (.ofArray ⟨header.length, ⟨header.element, header.data.getD []⟩⟩)
  | .reportString i =>
    given (s.liveInstance i) fun value =>
      given (s.stringInstance i) fun (e, _, id) => answer (.ofString (s.stringReport value e id))
  | .decode string e => s.decodeString string e
  | .decodeAsConfigured string => s.decodeString string s.config.encoding

end Session

end ObjectModel
