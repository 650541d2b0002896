import Debugger.Proxy
import Debugger.Text.Blank
/-!
# Rendering

The texts in which results, fields, classes and stacks are shown. A list is shown one entry to a
line, every line ended, so that texts can be put one after the other.
-/

namespace Debugger

/-- The given lines, each ended. -/
def unlines (lines : List String) : String := String.join (lines.map (· ++ "\n"))

/-- The lines of a text. A line ends at a line feed, and a carriage return right before that belongs
to the end. The last line need not be ended. -/
def lines (text : String) : List String :=
  let all := text.splitOn "\n"
  let ended := all.dropLast.map fun line =>
    String.ofList ((Text.dropTail? ['\r'] line.toList).getD line.toList)
  ended ++ all.getLast?.toList.filter (· ≠ "")

/-- How a call ended: the proxy, the word for no object, or what cut the call short. -/
def CallResult.render : CallResult → String
  | .success (some p) => p.display
  | .success none => "null"
  | .exception d => d.render
  | .terminated => "<terminated>"

/-- A field with its declared type and its value. -/
def FieldEntry.render (f : FieldEntry) : String :=
  f.typeName ++ " " ++ f.name ++ " = " ++ f.value.display

/-- The fields of an object. -/
def renderFields (fields : List FieldEntry) : String := unlines (fields.map FieldEntry.render)

/-- A method in the summary of its class. -/
def MethodInfo.render (m : MethodInfo) : String :=
  if m.isConstructor then "  new " ++ m.signature
  else "  " ++ (if m.isStatic then "static " else "") ++ m.returnType ++ " " ++ m.signature

/-- The summary of a class: its constructors first, then its methods, both as declared. -/
def ClassInfo.render (c : ClassInfo) : String :=
  let file := match c.sourceFile with
    | some file => " (" ++ file ++ ")"
    | none => ""
  unlines <| ("class " ++ c.name ++ file)
    :: (c.constructors ++ c.methods.filter (!·.isConstructor)).map MethodInfo.render

/-- A variable of a frame, indented. -/
def LocalVariable.render (v : LocalVariable) : String :=
  "    " ++ v.typeName ++ " " ++ v.name ++ " = " ++ v.value.describe

/-- A numbered frame, and its variables below it. -/
def Frame.render (index : Nat) (f : Frame) : List String :=
  ("#" ++ toString index ++ " " ++ f.location.display) :: f.locals.map LocalVariable.render

/-- The frames of a stack, the innermost first. -/
def renderStack (frames : List Frame) : String :=
  unlines (frames.zipIdx.flatMap fun (f, i) => f.render i)

end Debugger
