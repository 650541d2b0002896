import Debugger.Literal
import Debugger.Naming
import Debugger.Session
/-!
# Inspection

What a controller sees of classes and objects, and the names it gives to objects. All of it goes by
proxies; a debuggee object that turns up on the way is tracked, so that it too is seen as one.
-/

namespace Debugger.Session

open Std (TreeMap)

variable {σ : Type}

/-! ## 1. Classes and objects -/

/-- A class as it was when the session first looked at it. -/
def classInfo (env : Environment σ) (className : String) : Op σ ClassInfo := do
  ensureUsable
  onProxies (ProxyTable.classInfo env className)

/-- The proxy of an object that the environment gave directly. -/
def proxyFor (env : Environment σ) (object : ObjectRef) : Op σ (Option Proxy) := do
  ensureUsable
  track env object

/-- The value of a static field as an object: a primitive is put into a holder. -/
def staticValue (env : Environment σ) (className field : String) : Op σ (Option Proxy) := do
  ensureUsable
  match ← ask (env.getStatic className field) with
  | .null | .void => return none
  | .primitive p => track env (← ask (env.boxValue p))
  | .object o => track env o

/-- The instance fields of an object. -/
def objectFields (env : Environment σ) (p : Proxy) : Op σ (List FieldEntry) := do
  ensureUsable
  let object ← resolve p
  let fields ← ask (env.objectFields object.id)
  (fields.filter (!·.1.isStatic)).mapM fun (info, value) => do
    return ⟨info.name, info.typeName, ← toProxyValue env value⟩

/-- The value of one field. All fields are looked at on the way. -/
def fieldValue (env : Environment σ) (p : Proxy) (field : String) : Op σ ProxyValue := do
  let fields ← objectFields env p
  match fields.find? (·.name == field) with
  | some entry => return entry.value
  | none => throw (.noSuchField p.className field)

/-- The text of a string object. -/
def stringValue (env : Environment σ) (p : Proxy) : Op σ (Option String) := do
  ensureUsable
  let object ← resolve p
  ask (env.stringValue object.id)

/-- Lets go of an object. -/
def forget (env : Environment σ) (p : Proxy) : Op σ Unit := do
  ensureUsable
  onProxies (ProxyTable.forgetProxy env p)

/-! ## 2. Names -/

/-- Names an object in a scope. -/
def addObject (scope name : String) (p : Proxy) : Op σ Unit := do
  ensureUsable
  onProxies (ProxyTable.bindName scope name p)

/-- Takes a name out of a scope. Says whether it was bound there. -/
def removeObject (scope name : String) : Op σ Bool := do
  ensureUsable
  return (← onProxies (ProxyTable.unbindName scope name)).isSome

/-- The named objects. -/
def objects : Op σ (TreeMap String Proxy) := do
  ensureUsable
  return (← get).proxies.bindings

/-- A name for a new object of a class that no scope has. -/
def freshName (className : String) : Op σ String := do
  ensureUsable
  let proxies := (← get).proxies
  return Naming.freshName className proxies.isTaken

/-! ## 3. Literals -/

/-- The object that a literal names or makes. A text becomes a string and a primitive is put into a
holder; a handle has to be known. -/
def proxyOfLiteral (env : Environment σ) : Literal → Op σ Proxy
  | .null => throw .notAnObject
  | .string text => do made (← ask (env.newString text))
  | .primitive p => do made (← ask (env.boxValue p))
  | .handle h => do
    match (← get).proxies.objectFor? h with
    | none => throw (.unknownHandle h)
    | some object =>
      match ← track env object with
      | some p => return p
      | none => throw (.unknownHandle h)
  | .name text => do
    match (← get).proxies.bindings[text]? with
    | some p => return p
    | none => throw (.invalidLiteral text)
where
  /-- The proxy of an object that was just made. -/
  made (object : ObjectRef) : Op σ Proxy := do
    match ← track env object with
    | some p => return p
    | none => throw .notAnObject

/-- The object that the text of a literal names or makes. -/
def proxyOfText (env : Environment σ) (text : String) : Op σ Proxy := do
  ensureUsable
  match Literal.parse text with
  | .ok literal => proxyOfLiteral env literal
  | .error e => throw e

end Debugger.Session
