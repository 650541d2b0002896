import Debugger.Environment
/-!
# An object store

An environment that knows classes and objects and has a transport slot, and runs no code. It is
where the bookkeeping of handles can be watched: it counts the registrations, lists what was
released, and its counter can be set to give out a handle that is in use.
-/

namespace Debugger

open Std (TreeMap)

/-- An object of a store. -/
structure StoredObject where
  className : String
  category : ObjectCategory
  deriving DecidableEq, Repr

/-- Classes, objects and the holds on them. -/
structure ObjectStore where
  classes : TreeMap String ClassInfo := ∅
  objects : TreeMap ObjectId StoredObject := ∅
  slot : Option ObjectId := none
  holds : TreeMap Handle ObjectId := ∅
  /-- The next registration is given the number after this one. -/
  lastHandle : UInt64 := 0
  /-- How often the slot was picked up. -/
  registrations : Nat := 0
  /-- The handles that were released, in that order. -/
  released : List Handle := []

namespace ObjectStore

def insertClass (s : ObjectStore) (c : ClassInfo) : ObjectStore :=
  { s with classes := s.classes.insert c.name c }

/-- Adds an object; its class comes into being with it. -/
def insertObject (s : ObjectStore) (id : ObjectId) (className : String)
    (category : ObjectCategory) : ObjectStore :=
  { s with
    classes := s.classes.insertIfNew className (.empty className)
    objects := s.objects.insert id ⟨className, category⟩ }

def requireObject (id : ObjectId) : Action ObjectStore RuntimeError StoredObject := do
  match (← get).objects[id]? with
  | some o => return o
  | none => throw (.invalidObjectId id)

def classInfo (name : String) : Action ObjectStore RuntimeError ClassInfo := do
  match (← get).classes[name]? with
  | some c => return c
  | none => throw (.classNotFound name)

def installTransport (id : ObjectId) : Action ObjectStore RuntimeError Unit := do
  let _ ← requireObject id
  modify fun s => { s with slot := some id }

def takeTransport : Action ObjectStore RuntimeError Handle := do
  match (← get).slot with
  | none => throw .transportEmpty
  | some id => modifyGet fun s =>
    let handle : Handle := ⟨s.lastHandle + 1⟩
    (handle, { s with
      slot := none
      lastHandle := handle.raw
      holds := s.holds.insert handle id
      registrations := s.registrations + 1 })

def release (handle : Handle) : Action ObjectStore RuntimeError Unit := do
  if (← get).holds.contains handle then
    modify fun s => { s with holds := s.holds.erase handle, released := s.released ++ [handle] }
  else throw (.invalidHandle handle)

/-- The store as an execution environment. -/
def environment : Environment ObjectStore where
  capabilities := { objectTransport := true }
  classInfo := classInfo
  objectClass id := do return (← requireObject id).className
  objectCategory id := do return (← requireObject id).category
  installTransport := installTransport
  takeTransport := takeTransport
  release := release

end ObjectStore

end Debugger
