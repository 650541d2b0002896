import Std.Data.TreeMap
import Debugger.Debuggee.Class
/-!
# The heap

The debuggee's objects and the static fields of its classes. An object keeps the class it was made
from: replacing a class later changes neither the fields nor the methods of the objects that
exist. Objects are numbered in the order in which they are made; dropping them all, at the end of a
launch, does not rewind the count, so a reference that outlived its object never names another.
-/

namespace Debugger

open Std (TreeMap)

/-- An object: its class, its instance fields in order of declaration, its text if it is a
string. -/
structure HeapObject where
  classDef : ClassDef
  fields : List (String × Value)
  text : Option String

/-- A reference to the object under a number. -/
def HeapObject.ref (o : HeapObject) (id : ObjectId) : ObjectRef := ⟨id, o.classDef.name⟩

/-- Stores into the first field of a name. -/
def storeField (name : String) (value : Value) : List (String × Value) → List (String × Value)
  | [] => []
  | f :: fs => if f.1 = name then (name, value) :: fs else f :: storeField name value fs

/-- The debuggee's objects and static fields. -/
structure Heap where
  objects : TreeMap ObjectId HeapObject := ∅
  statics : TreeMap String (TreeMap String Value) := ∅
  /-- The number given to an object last. -/
  lastId : ObjectId := 0

namespace Heap

def size (h : Heap) : Nat := h.objects.size

def object? (h : Heap) (id : ObjectId) : Option HeapObject := h.objects[id]?

/-- Adds an object under a fresh number. -/
def insert (h : Heap) (o : HeapObject) : ObjectRef × Heap :=
  let id := h.lastId + 1
  (o.ref id, { h with objects := h.objects.insert id o, lastId := id })

/-- Makes an instance of a class with every field at the default of its type. -/
def allocate (h : Heap) (c : ClassDef) : ObjectRef × Heap :=
  h.insert ⟨c, c.instanceFields.map fun f => (f.name, Value.defaultOf f.typeName), none⟩

/-- Makes a string. -/
def allocateString (h : Heap) (c : ClassDef) (text : String) : ObjectRef × Heap :=
  h.insert ⟨c, [], some text⟩

/-- The value of the first field of a name. -/
def field? (h : Heap) (id : ObjectId) (name : String) : Option Value := do
  let o ← h.object? id
  o.fields.lookup name

/-- Stores into a field; nothing happens if the object or the field is not there. -/
def setField? (h : Heap) (id : ObjectId) (name : String) (value : Value) : Option Heap := do
  let o ← h.object? id
  let _ ← o.fields.lookup name
  return { h with
    objects := h.objects.insert id { o with fields := storeField name value o.fields } }

/-- Gives a class its static fields, each at the default of its type. -/
def initStatics (h : Heap) (c : ClassDef) : Heap :=
  let fields := c.staticFields.foldl (fun m f => m.insert f.name (Value.defaultOf f.typeName)) ∅
  { h with statics := h.statics.insert c.name fields }

def static? (h : Heap) (className field : String) : Option Value := do
  let fields ← h.statics[className]?
  fields[field]?

/-- Stores into a static field; nothing happens if it is not there. -/
def setStatic? (h : Heap) (className field : String) (value : Value) : Option Heap := do
  let fields ← h.statics[className]?
  let _ ← fields[field]?
  return { h with statics := h.statics.insert className (fields.insert field value) }

/-- Drops all objects and all static fields, and keeps the count. -/
def reset (h : Heap) : Heap := { h with objects := ∅, statics := ∅ }

end Heap

end Debugger
