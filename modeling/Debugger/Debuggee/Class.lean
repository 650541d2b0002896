import Debugger.Debuggee.Routine
/-!
# Classes of the debuggee

A loaded class lists its fields and its methods, and every method lists the lines its body may
report. Methods of one name are overloads: which one a call means is decided either by the
declared parameter types, when a controller names them, or by the values at hand, when a body
makes the call. Both searches take the first method that will do, so the order of declaration is
part of a class.
-/

namespace Debugger

/-- What the instances of a class are to the debugger. -/
inductive ObjectCategory
  | plain
  | string
  /-- Holds the primitive result of a call. -/
  | resultHolder
  /-- Belongs to the debuggee's own machinery and is never shown. -/
  | internal
  deriving DecidableEq, Repr

/-- The word for a category. -/
def ObjectCategory.name : ObjectCategory → String
  | plain => "Instance"
  | string => "String"
  | resultHolder => "ResultHolder"
  | internal => "Internal"

/-- The category that a word stands for. -/
def ObjectCategory.named? (name : String) : Option ObjectCategory :=
  [plain, string, resultHolder, internal].find? (·.name == name)

/-- Whether objects of a category may be handed to a controller. -/
def ObjectCategory.isExposable : ObjectCategory → Bool
  | internal => false
  | _ => true

/-- A declared field. -/
structure FieldInfo where
  name : String
  typeName : String
  isStatic : Bool
  deriving DecidableEq, Repr

/-- A declared method as a controller sees it. -/
structure MethodInfo where
  name : String
  paramTypes : List String
  returnType : String
  isStatic : Bool
  isConstructor : Bool
  deriving DecidableEq, Repr

/-- A loaded class as a controller sees it. -/
structure ClassInfo where
  name : String
  sourceFile : Option String
  fields : List FieldInfo
  methods : List MethodInfo
  /-- The lines that carry code, ascending. -/
  lines : List Line
  deriving DecidableEq, Repr

/-- How a method is reached: through its class, through an object, or by making an object. -/
inductive MethodKind
  | static
  | virtual
  | constructor
  deriving DecidableEq, Repr

/-- Puts a line in its place among ascending lines; each line stands once. -/
def insertLine (n : Line) : List Line → List Line
  | [] => [n]
  | m :: ms => if n < m then n :: m :: ms else if n = m then m :: ms else m :: insertLine n ms

/-- The given lines, ascending and each once. -/
def sortLines (lines : List Line) : List Line := lines.foldr insertLine []

/-- A parameter of a method: the first variables of its frames. -/
structure Parameter where
  name : String
  typeName : String
  deriving DecidableEq, Repr

/-- A method of a loaded class. -/
structure Method where
  name : String
  params : List Parameter
  returnType : String
  kind : MethodKind
  /-- The lines of the method, ascending. -/
  lines : List Line
  body : List Value → Body

namespace Method

/-- The line a frame stands on before its body has reported one. -/
def firstLine (m : Method) : Line := m.lines.head?.getD 0

/-- Whether the declared parameter types are exactly the given ones. -/
def acceptsTypes (m : Method) (types : List String) : Bool :=
  m.params.map (·.typeName) == types

/-- Whether there is one argument for each parameter, and each fits its declared type. -/
def acceptsArgs (m : Method) (args : List Value) : Bool :=
  m.params.length == args.length && (m.params.zip args).all fun (p, v) => v.fits p.typeName

def info (m : Method) : MethodInfo where
  name := m.name
  paramTypes := m.params.map (·.typeName)
  returnType := m.returnType
  isStatic := m.kind == .static
  isConstructor := m.kind == .constructor

end Method

/-- How an overload is chosen. -/
inductive Overload
  | types (names : List String)
  | args (values : List Value)

/-- Whether a method is the overload that is asked for. -/
def Overload.admits (o : Overload) (m : Method) : Bool :=
  match o with
  | types names => m.acceptsTypes names
  | args values => m.acceptsArgs values

/-- A loaded class. -/
structure ClassDef where
  name : String
  sourceFile : Option String
  fields : List FieldInfo
  methods : List Method
  category : ObjectCategory

namespace ClassDef

/-- A class without members. -/
def empty (name : String) (category : ObjectCategory) : ClassDef := ⟨name, none, [], [], category⟩

def instanceFields (c : ClassDef) : List FieldInfo := c.fields.filter (!·.isStatic)

def staticFields (c : ClassDef) : List FieldInfo := c.fields.filter (·.isStatic)

def hasConstructors (c : ClassDef) : Bool := c.methods.any (·.kind == .constructor)

/-- The first overload of a method. All constructors of a class go by one name, so for them the
name does not count. -/
def findMethod? (c : ClassDef) (name : String) (kind : MethodKind) (overload : Overload) :
    Option Method :=
  c.methods.find? fun m =>
    m.kind == kind && (kind == .constructor || m.name == name) && overload.admits m

/-- The constructor that an instance is made with: none if the class declares none and nothing
is passed. `none` outside means that the class cannot be constructed that way. -/
def findConstructor? (c : ClassDef) (overload : Overload) (nothingPassed : Bool) :
    Option (Option Method) :=
  if c.hasConstructors then (c.findMethod? "" .constructor overload).map some
  else if nothingPassed then some none
  else none

/-- Whether any method goes by a name; constructors go by the name of the class. -/
def hasMethodNamed (c : ClassDef) (name : String) : Bool := c.methods.any (·.name == name)

/-- The lines that carry code, ascending. -/
def executableLines (c : ClassDef) : List Line := sortLines (c.methods.flatMap (·.lines))

def info (c : ClassDef) : ClassInfo where
  name := c.name
  sourceFile := c.sourceFile
  fields := c.fields
  methods := c.methods.map Method.info
  lines := c.executableLines

end ClassDef

namespace ClassInfo

/-- A class of which nothing is known but its name. -/
def empty (name : String) : ClassInfo := ⟨name, none, [], [], []⟩

/-- The name without the package in front. -/
def simpleName (c : ClassInfo) : String :=
  String.ofList (c.name.toList.reverse.takeWhile (· ≠ '.')).reverse

def constructors (c : ClassInfo) : List MethodInfo := c.methods.filter (·.isConstructor)

/-- The first static method of a name with exactly the given parameter types. -/
def staticMethod? (c : ClassInfo) (name : String) (types : List String) : Option MethodInfo :=
  c.methods.find? fun m => m.isStatic && m.name == name && m.paramTypes == types

end ClassInfo

/-- A method's name and parameter types. -/
def MethodInfo.signature (m : MethodInfo) : String :=
  m.name ++ "(" ++ ", ".intercalate m.paramTypes ++ ")"

end Debugger
