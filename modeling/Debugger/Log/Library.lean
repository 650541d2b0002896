import Debugger.Log.Level
import Debugger.Text.Blank
/-!
# The filter in effect

Which records are logged is decided by a filter, and filters come from a library. It makes a filter
of a text, or refuses the text, and it can add a directive to a filter that is there. What a
directive is and what a filter lets through is the library's business; the debugger chooses the
texts, and what to do when one is refused. So here the library is a parameter.

Two texts have a say: the configured one, and one from the surroundings that is laid on top. A text
that is refused is worth nothing as a whole; then the other alone counts.

## 1. What is asked of the library

## 2. Texts

## 3. The filter in effect
-/

namespace Debugger.Log

/-! ## 1. What is asked of the library -/

/-- A library of filters, as far as the debugger uses it. -/
structure Library where
  Directive : Type
  Filter : Type
  /-- The filter that a text describes, if the text is accepted. -/
  tryNew : String → Option Filter
  /-- The filter that is there before anything was said. -/
  default : Filter
  addDirective : Filter → Directive → Filter
  /-- A level for everything. -/
  ofLevel : Level → Directive

/-! ## 2. Texts -/

/-- A configured text in a form that the library may accept. The words for levels may be written in
any case, and there is a second one for warnings. -/
def normalize (text : String) : String :=
  let cs := Text.trim text.toList
  let lower := String.ofList (cs.map Char.toLower)
  if cs.isEmpty then Level.info.name
  else if lower = "warning" then Level.warn.name
  else if lower ∈ [Level.trace, .debug, .info, .warn, .error].map Level.name then lower
  else String.ofList cs

/-- The pieces of a text between commas. Empty ones do not count. -/
def directiveTexts (text : String) : List (List Char) :=
  (text.toList.splitOn ',').filter (!·.isEmpty)

/-- What the surroundings have to say. White space alone says nothing. -/
def fromSurroundings (onTop : Option String) : Option String :=
  (onTop.map fun t => String.ofList (Text.trim t.toList)).filter (· ≠ "")

/-! ## 3. The filter in effect -/

namespace Library

variable (lib : Library)

/-- The filter of the configured text alone; one that is refused counts as `info`. -/
def ofConfigured (configured : String) : lib.Filter :=
  (lib.tryNew (normalize configured)).getD (lib.addDirective lib.default (lib.ofLevel .info))

/-- The filter in effect: of both texts together if they are accepted, else of one of them, the one
laid on top before the configured one. -/
def effective (configured : String) (onTop : Option String) : lib.Filter :=
  match fromSurroundings onTop with
  | none => lib.ofConfigured configured
  | some t =>
    ((lib.tryNew (normalize configured ++ "," ++ t)).orElse fun _ => lib.tryNew t).getD
      (lib.ofConfigured configured)

end Library

end Debugger.Log
