import Debugger.Log.Library
import Debugger.Log.Record
import Debugger.Log.Stock.Directive
/-!
# Filters of the stock library

The library that runs are given. What the debugger makes of it is in `Library`, which knows nothing
of what is here; a run needs some library, and this is one.

A filter keeps its directives in two lists: the general ones decide about what happens outside spans,
and that is everything the debugger does; the local ones decide inside spans, and are kept and shown.
A directive for whatever has a field is in both. Either list is in order, the more specific directive
first. Of two that are equal but for the level the later replaces the earlier.

## 1. Filters

## 2. Deciding

## 3. The library of a run
-/

namespace Debugger.Log

/-! ## 1. Filters -/

/-- The directives that decide outside spans, and those that decide inside, both in order. -/
structure Filter where
  general : List Directive
  inner : List Directive
  deriving DecidableEq, Repr

namespace Filter

/-- Puts a directive into its place; an equal one is replaced. -/
def insert (d : Directive) : List Directive → List Directive
  | [] => [d]
  | e :: rest =>
    match d.order e with
    | .gt => d :: e :: rest
    | .eq => d :: rest
    | .lt => e :: insert d rest

/-- Adds a directive to those that decide where it may. -/
def add (f : Filter) (d : Directive) : Filter where
  general := if d.isGeneral then insert d f.general else f.general
  inner := if d.isLocal then insert d f.inner else f.inner

/-- The filter of some directives. Without any nothing is let through. -/
def ofDirectives (ds : List Directive) : Filter := ds.foldl add ⟨[], []⟩

/-- The filter that a text describes. A piece that is no directive spoils the text. -/
def read? (text : String) : Option Filter :=
  ((directiveTexts text).mapM Directive.read?).map ofDirectives

/-- Whether the first piece of a text that is no directive is none because it splits a character. -/
def splits (text : String) : Bool :=
  match (directiveTexts text).mapM Directive.parse with
  | .error .splitCharacter => true
  | _ => false

/-- A filter as it is written. -/
def display (f : Filter) : String :=
  ",".intercalate ((f.general ++ f.inner).map Directive.display)

/-! ## 2. Deciding -/

/-- Whether a directive is about a record, its place apart: it comes from the target, which may be
named by its beginning, and has the field. -/
def concerns (d : Directive) (r : Record) : Bool :=
  (d.target.getD "").toList.isPrefixOf r.target.toList && d.field.all fun c => r.hasField c.name

/-- Whether a record is let through. The first general directive about it decides. -/
def lets (f : Filter) (r : Record) : Bool :=
  match f.general.find? (concerns · r) with
  | some d => r.level.rank ≤ d.level.rank
  | none => false

/-- What a filter lets through of some records, written as texts or as JSON objects. -/
def write (f : Filter) (asJson : Bool) (records : List Record) : List String :=
  (records.filter f.lets).map (if asJson then Record.json else Record.text)

/-! ## 3. The library of a run -/

/-- The library that runs are given. -/
def stock : Library where
  Directive := Directive
  Filter := Filter
  tryNew := read?
  default := ofDirectives []
  addDirective := add
  ofLevel := .ofLevel

/-- The filter in effect in a run. -/
def effective (configured : String) (onTop : Option String) : Filter :=
  stock.effective configured onTop

/-- Whether a run gives up over a text: one that splits a character is met before one that is
accepted. A text with another fault would only be passed over. -/
def givesUp (configured : String) (onTop : Option String) : Bool :=
  let attempts := match fromSurroundings onTop with
    | none => [normalize configured]
    | some t => [normalize configured ++ "," ++ t, t, normalize configured]
  match attempts.find? fun t => splits t || (read? t).isSome with
  | some t => splits t
  | none => false

end Filter

end Debugger.Log
