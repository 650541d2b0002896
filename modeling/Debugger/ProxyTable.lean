import Std.Data.TreeMap
import Debugger.Error
/-!
# The table of proxies

Which objects a controller has proxies for, and the names it has given them. An object has at most
one proxy at a time: it is made when the object is first asked for, by passing the object through
the debuggee's transport slot, and it is the same on every later request until it is forgotten.
Forgetting drops the names of the object and lets the debuggee release its hold.

The two maps between objects and handles are inverse to each other, and a name is bound only to a
proxy whose handle is known. Both hold whatever the environment does, because nothing is entered
before the last thing that can fail.

## 1. The table

## 2. Names

A name is bound in a scope. Scopes shadow each other: a name stands for its binding in the greatest
scope that has one. A scope without bindings does not exist.

## 3. Getting and forgetting proxies
-/

namespace Debugger

open Std (TreeMap)

/-! ## 1. The table -/

/-- Objects, handles, classes that were looked at, and names. -/
structure ProxyTable where
  byObject : TreeMap ObjectId Proxy := ∅
  byHandle : TreeMap Handle ObjectRef := ∅
  /-- Classes as they were when they were first looked at. -/
  classes : TreeMap String ClassInfo := ∅
  names : TreeMap String (TreeMap String Proxy) := ∅

namespace ProxyTable

def size (t : ProxyTable) : Nat := t.byObject.size

/-- The object a handle stands for. -/
def objectFor? (t : ProxyTable) (h : Handle) : Option ObjectRef := t.byHandle[h]?

/-- Enters a proxy for an object. -/
def enter (t : ProxyTable) (id : ObjectId) (p : Proxy) : ProxyTable :=
  { t with
    byObject := t.byObject.insert id p
    byHandle := t.byHandle.insert p.handle ⟨id, p.className⟩ }

/-- The names without those of one proxy, and without the scopes this leaves empty. -/
def dropNamesOf (p : Proxy) (names : TreeMap String (TreeMap String Proxy)) :
    TreeMap String (TreeMap String Proxy) :=
  (names.map fun _ scope => scope.filter fun _ q => !q.same p).filter fun _ scope => !scope.isEmpty

/-- Removes an object with its proxy and its names. -/
def remove? (t : ProxyTable) (id : ObjectId) : Option (Proxy × ProxyTable) := do
  let p ← t.byObject[id]?
  return (p, { t with
    byObject := t.byObject.erase id
    byHandle := t.byHandle.erase p.handle
    names := dropNamesOf p t.names })

/-! ## 2. Names -/

/-- Binds a name in a scope, if the proxy is known. -/
def bind? (t : ProxyTable) (scope name : String) (p : Proxy) : Option ProxyTable :=
  if t.byHandle.contains p.handle then
    some { t with names := t.names.insert scope ((t.names.getD scope ∅).insert name p) }
  else none

/-- Removes the binding of a name in a scope, and gives what was bound. -/
def unbind (t : ProxyTable) (scope name : String) : Option Proxy × ProxyTable :=
  match t.names[scope]? with
  | none => (none, t)
  | some bindings =>
    let rest := bindings.erase name
    (bindings[name]?, { t with
      names := if rest.isEmpty then t.names.erase scope else t.names.insert scope rest })

/-- Whether a name is bound in any scope. -/
def isTaken (t : ProxyTable) (name : String) : Bool :=
  t.names.any fun _ bindings => bindings.contains name

/-- What each name stands for. -/
def bindings (t : ProxyTable) : TreeMap String Proxy :=
  t.names.foldl (fun all _ bindings => bindings.foldl (fun all name p => all.insert name p) all) ∅

/-! ## 3. Getting and forgetting proxies -/

variable {σ α : Type}

/-- Work on a table and on the environment's state. -/
abbrev Op (σ α : Type) := Action (ProxyTable × σ) DebugError α

def getTable : Op σ ProxyTable := do return (← get).1

def setTable (t : ProxyTable) : Op σ Unit := modify fun (_, world) => (t, world)

/-- Does something in the environment and gives its answer, refusal or not. -/
def attempt (a : Action σ RuntimeError α) : Op σ (Except RuntimeError α) :=
  modifyGet fun (t, world) =>
    let (answer, world) := a.run world
    (answer, (t, world))

/-- Does something in the environment that must not be refused. -/
def ask (a : Action σ RuntimeError α) : Op σ α := do
  match ← attempt a with
  | .ok v => return v
  | .error e => throw (.ofRuntime e)

/-- A class as it was when it was first looked at. -/
def classInfo (env : Environment σ) (name : String) : Op σ ClassInfo := do
  match (← getTable).classes[name]? with
  | some c => return c
  | none =>
    let c ← ask (env.classInfo name)
    let t ← getTable
    setTable { t with classes := t.classes.insert name c }
    return c

/-- The proxy of an object, made if there is none. An object that does not exist, or that is not
to be shown, has none. -/
def obtainFor (env : Environment σ) (object : ObjectRef) : Op σ (Option Proxy) := do
  if let some p := (← getTable).byObject[object.id]? then return some p
  match ← attempt (env.objectCategory object.id) with
  | .error (.invalidObjectId _) => return none
  | .error e => throw (.ofRuntime e)
  | .ok category =>
    if !category.isExposable then return none
    let className ← ask (env.objectClass object.id)
    let _ ← classInfo env className
    ask (env.installTransport object.id)
    let handle ← ask env.takeTransport
    let t ← getTable
    if let some existing := t.byHandle[handle]? then
      if existing.id ≠ object.id then
        -- The hold is given back whether or not the environment wants it.
        let _ ← attempt (env.release handle)
        throw (.cacheCorrupted handle existing.id object.id)
    let p : Proxy := ⟨handle, className⟩
    setTable (t.enter object.id p)
    return some p

/-- Lets go of a hold; one that is gone already is no failure. -/
def letGo (env : Environment σ) (handle : Handle) : Op σ Unit := do
  match ← attempt (env.release handle) with
  | .ok () => return ()
  | .error (.invalidHandle _) => return ()
  | .error e => throw (.ofRuntime e)

/-- Forgets an object, its proxy and its names. -/
def forget (env : Environment σ) (id : ObjectId) : Op σ Unit := do
  match (← getTable).remove? id with
  | none => return ()
  | some (p, t) =>
    setTable t
    letGo env p.handle

/-- Forgets the object of a proxy. -/
def forgetProxy (env : Environment σ) (p : Proxy) : Op σ Unit := do
  match (← getTable).objectFor? p.handle with
  | none => return ()
  | some o => forget env o.id

/-- The object a proxy stands for. -/
def resolve (p : Proxy) : Op σ ObjectRef := do
  match (← getTable).objectFor? p.handle with
  | some o => return o
  | none => throw (.unknownHandle p.handle)

/-- Binds a name in a scope. -/
def bindName (scope name : String) (p : Proxy) : Op σ Unit := do
  match (← getTable).bind? scope name p with
  | some t => setTable t
  | none => throw (.unknownHandle p.handle)

/-- Removes the binding of a name in a scope, and gives what was bound. -/
def unbindName (scope name : String) : Op σ (Option Proxy) := do
  let (bound, t) := (← getTable).unbind scope name
  setTable t
  return bound

end ProxyTable

end Debugger
