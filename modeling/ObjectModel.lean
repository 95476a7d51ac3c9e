import ObjectModel.Record
import ObjectModel.Session.Run
import ObjectModel.Proofs.Text.Utf8
import ObjectModel.Proofs.Text.Utf16
import ObjectModel.Proofs.Encoding.Codec
import ObjectModel.Proofs.Encoding.Stored
import ObjectModel.Proofs.Instance
import ObjectModel.Proofs.Heap.Search
import ObjectModel.Proofs.Heap.Growth
import ObjectModel.Proofs.Heap.Link
import ObjectModel.Proofs.Class.Load
import ObjectModel.Proofs.Class.Table
import ObjectModel.Proofs.Session.Growth
import ObjectModel.Proofs.Session.Table
import ObjectModel.Proofs.Class.LoadAll
import ObjectModel.Proofs.Heap.Listed
import ObjectModel.Proofs.Class.Interfaces
import ObjectModel.Proofs.Instance.Created
import ObjectModel.Proofs.Session.Effect
import ObjectModel.Proofs.Session.History
import ObjectModel.Proofs.Session.Anchored
import ObjectModel.Proofs.Session.Intact
import ObjectModel.Proofs.Session.Bound
import ObjectModel.Proofs.Class.Stays
import ObjectModel.Proofs.Session.Creations
import ObjectModel.Proofs.Session.Preserved
import ObjectModel.Proofs.Session.Headers
import ObjectModel.Proofs.Text.Fields
import ObjectModel.Proofs.Config.Options
import ObjectModel.Proofs.Text.Lossy
import ObjectModel.Proofs.Config.Environment
import ObjectModel.Proofs.Config.Written
import ObjectModel.Proofs.Native
import ObjectModel.Proofs.Response
import ObjectModel.Proofs.Work
import ObjectModel.Proofs.InPlace
import ObjectModel.Proofs.Session.InPlace
import ObjectModel.Proofs.Session.Erasure
import ObjectModel.Proofs.Session.Slot
import ObjectModel.Proofs.Session.Strings
import ObjectModel.Proofs.Session.Apart
import ObjectModel.Proofs.Class.Decision
import ObjectModel.Proofs.Class.Order
import ObjectModel.Proofs.Session.Decision
import ObjectModel.Proofs.Session.Order
import ObjectModel.Proofs.Session.Accounts
import ObjectModel.Proofs.Session.Warnings
import ObjectModel.Proofs.Session.Log
import ObjectModel.Proofs.Heap.Bounded
import ObjectModel.Proofs.Heap.Iterator
import ObjectModel.Proofs.Heap.Slots
import ObjectModel.Proofs.Class.Linked
import ObjectModel.Proofs.Class.Permuted
import ObjectModel.Proofs.Session.Permuted
import ObjectModel.Proofs.Instance.Refused
import ObjectModel.Proofs.Encoding.Refusal
import ObjectModel.Proofs.Encoding.Readers
import ObjectModel.Proofs.Element.Layout
import ObjectModel.Proofs.Session.Arrays
import ObjectModel.Proofs.Session.Precedence
import ObjectModel.Proofs.Encoding.Ascii
import ObjectModel.Proofs.Session.Misread
import ObjectModel.Proofs.Text.FirstNul
import ObjectModel.Proofs.Class.Names
import ObjectModel.Proofs.Session.Names
import ObjectModel.Proofs.Session.Serve
