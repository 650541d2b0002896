import Debugger.Debuggee.Breakpoint
import Debugger.Text.Number
import Debugger.Text.Terminal
/-!
# Arguments

What a user asks for on the command line: options with a value, and switches. The value of an option
follows it, as the next word or after an equals sign.

An option's value is not looked at before the next option, or the end, is reached. So when one word
is wrong and another is not even expected, the latter is complained about.

## 1. Options and words

## 2. Complaints

## 3. Values

## 4. Reading
-/

namespace Debugger.CommandLine

/-! ## 1. Options and words -/

/-- An option with a value. -/
inductive Parameter
  | settings
  | breakpoint
  | hitCount
  deriving DecidableEq, Repr

/-- An option without a value. -/
inductive Switch
  | breakOnUncaught
  | help
  | version
  deriving DecidableEq, Repr

/-- An option, of either kind. -/
inductive Known
  | parameter (p : Parameter)
  | switch (s : Switch)
  deriving DecidableEq, Repr

/-- The word for an option. -/
def Parameter.word : Parameter → String
  | settings => "--config"
  | breakpoint => "--break"
  | hitCount => "--hit-count"

/-- An option with a word for its value. -/
def Parameter.display (p : Parameter) : String :=
  let value := match p with
    | settings => "<CONFIG>"
    | breakpoint => "<CLASS:LINE>"
    | hitCount => "<N>"
  p.word ++ " " ++ value

/-- The word for a switch. -/
def Switch.word : Switch → String
  | breakOnUncaught => "--break-on-uncaught"
  | help => "--help"
  | version => "--version"

/-- The option that a word, without its dashes, is for. -/
def Known.named? : String → Option Known
  | "config" => some (.parameter .settings)
  | "break" => some (.parameter .breakpoint)
  | "hit-count" => some (.parameter .hitCount)
  | "break-on-uncaught" => some (.switch .breakOnUncaught)
  | "help" => some (.switch .help)
  | "version" => some (.switch .version)
  | _ => none

/-- The switch of one letter. -/
def Switch.ofLetter? : Char → Option Switch
  | 'h' => some .help
  | 'V' => some .version
  | _ => none

/-- A word of the command line by its form. -/
inductive Word
  /-- Two dashes: no option follows. -/
  | separator
  /-- Two dashes and a name, with what follows the first equals sign. -/
  | long (name : String) (value : Option String)
  /-- One dash and a letter; what follows the letter counts only if the letter leads on. -/
  | short (letter : Char)
  | plain (text : String)
  deriving DecidableEq, Repr

/-- The form of a word. A dash alone is plain. -/
def Word.of (text : String) : Word :=
  match text.toList with
  | ['-', '-'] => .separator
  | '-' :: '-' :: cs =>
    let name := String.ofList (cs.takeWhile (· ≠ '='))
    match cs.dropWhile (· ≠ '=') with
    | _ :: value => .long name (some (String.ofList value))
    | [] => .long name none
  | '-' :: c :: _ => .short c
  | _ => .plain text

/-! ## 2. Complaints -/

/-- What is wrong with the arguments. -/
inductive UsageError
  | unexpected (argument : String)
  /-- A switch was given a value. -/
  | unexpectedValue (value : String) (s : Switch)
  | missingValue (p : Parameter)
  | repeated (display : String)
  | invalidValue (value : String) (p : Parameter) (reason : String)
  deriving DecidableEq, Repr

/-- A text between single quotes, marked in some way. -/
def quoteMarked (mark : String → String) (text : String) : String := "'" ++ mark text ++ "'"

/-- The text of a complaint. What is wrong is marked in yellow. -/
def UsageError.message : UsageError → String
  | unexpected argument => "unexpected argument " ++ quoteMarked Text.yellow argument ++ " found"
  | unexpectedValue value s =>
    "unexpected value " ++ quoteMarked Text.yellow value ++ " for " ++ quoteMarked Text.bold s.word
      ++ " found; no more were expected"
  | missingValue p =>
    "a value is required for " ++ quoteMarked Text.yellow p.display ++ " but none was supplied"
  | repeated display =>
    "the argument " ++ quoteMarked Text.yellow display ++ " cannot be used multiple times"
  | invalidValue value p reason =>
    "invalid value " ++ quoteMarked Text.yellow value ++ " for " ++ quoteMarked Text.bold p.display
      ++ ": " ++ reason

/-- Whether a complaint reminds of how the program is used. A word that is wrong by itself says
enough. -/
def UsageError.showsUsage : UsageError → Bool
  | unexpected _ | unexpectedValue .. | repeated _ => true
  | missingValue _ | invalidValue .. => false

/-- A complaint in full, marked for a terminal. -/
def UsageError.display (e : UsageError) : String :=
  Text.bold "error:" ++ " " ++ e.message ++ "\n\n"
    ++ (if e.showsUsage then
        Text.bold "Usage:" ++ " " ++ Text.bold "tether" ++ " [OPTIONS]\n\n" else "")
    ++ "For more information, try " ++ quoteMarked Text.bold "--help" ++ ".\n"

/-! ## 3. Values -/

/-- A line of a class, the two with a colon between them. The class may hold colons itself. -/
def breakpoint? (text : String) : Except String BreakpointLocation :=
  let reversed := text.toList.reverse
  match reversed.dropWhile (· ≠ ':') with
  | [] => .error ("expected CLASS:LINE, got `" ++ text ++ "`")
  | _ :: className =>
    let line := (reversed.takeWhile (· ≠ ':')).reverse
    match Text.readUnsigned? 32 line with
    | some n => .ok (.line (String.ofList className.reverse) (.ofNat n))
    | none => .error ("`" ++ String.ofList line ++ "` is not a line number")

/-- A whole number of sixty-four bits, its digits taken one by one after its sign. What is wrong
with the first digits is complained about, whatever follows them. -/
def wholeDigits (negative : Bool) : Int → List Char → Except String Int
  | n, [] => .ok n
  | n, c :: cs =>
    if !c.isDigit then .error "invalid digit found in string"
    else
      let digit : Int := c.toNat - '0'.toNat
      let n := if negative then 10 * n - digit else 10 * n + digit
      if n < -0x8000000000000000 then .error "number too small to fit in target type"
      else if 0x8000000000000000 ≤ n then .error "number too large to fit in target type"
      else wholeDigits negative n cs

/-- A whole number of sixty-four bits. -/
def whole? (text : String) : Except String Int :=
  match text.toList with
  | [] => .error "cannot parse integer from empty string"
  | [c] => wholeDigits false 0 [c]
  | '-' :: cs => wholeDigits true 0 cs
  | '+' :: cs => wholeDigits false 0 cs
  | cs => wholeDigits false 0 cs

/-- How many hits a breakpoint waits for. -/
def hitCount? (text : String) : Except String UInt32 := do
  let n ← whole? text
  if 0 ≤ n ∧ n < 0x100000000 then return .ofNat n.toNat
  else throw (toString n ++ " is not in 0..=4294967295")

/-! ## 4. Reading -/

/-- What is asked for. -/
structure Arguments where
  /-- The settings file. -/
  settings : Option String := none
  breakpoints : List BreakpointLocation := []
  hitCount : Option UInt32 := none
  breakOnUncaught : Bool := false
  deriving DecidableEq, Repr

/-- What to do. -/
inductive Command
  | run (a : Arguments)
  | help
  | version
  deriving DecidableEq, Repr

namespace Arguments

/-- The value that a text is for an option. -/
def check {α : Type} (p : Parameter) (text : String) : Except String α → Except UsageError α
  | .ok v => .ok v
  | .error reason => .error (.invalidValue text p reason)

/-- Takes the value of an option. Only breakpoints may be given more than once. -/
def take (a : Arguments) (p : Parameter) (text : String) : Except UsageError Arguments := do
  match p with
  | .settings =>
    if a.settings.isSome then throw (.repeated p.display)
    if text.isEmpty then throw (.missingValue p)
    return { a with settings := some text }
  | .breakpoint =>
    return { a with breakpoints := a.breakpoints ++ [← check p text (breakpoint? text)] }
  | .hitCount =>
    if a.hitCount.isSome then throw (.repeated p.display)
    return { a with hitCount := some (← check p text (hitCount? text)) }

/-- An option whose value has not been looked at, or not been reached. -/
abbrev Pending := Option (Parameter × Option String)

/-- Looks at the value that is pending. -/
def resolve (a : Arguments) : Pending → Except UsageError Arguments
  | none => .ok a
  | some (p, some text) => a.take p text
  | some (p, none) => .error (.missingValue p)

/-- What a switch does. The arguments are changed, or else it says what to do. -/
def turnOn (a : Arguments) : Switch → Except UsageError (Arguments ⊕ Command)
  | .help => .ok (.inr .help)
  | .version => .ok (.inr .version)
  | .breakOnUncaught =>
    if a.breakOnUncaught then .error (.repeated Switch.breakOnUncaught.word)
    else .ok (.inl { a with breakOnUncaught := true })

/-- Reads the words after those that were read into `a`. -/
def readWords (a : Arguments) (pending : Pending) : List String → Except UsageError Command
  | [] => do return .run (← a.resolve pending)
  | text :: rest =>
    match Word.of text with
    | .separator =>
      match rest with
      | [] => do return .run (← a.resolve pending)
      | extra :: _ => .error (.unexpected extra)
    | .plain _ =>
      match pending with
      | some (p, none) => a.readWords (some (p, some text)) rest
      | _ => .error (.unexpected text)
    | .short letter =>
      match Switch.ofLetter? letter with
      | none => .error (.unexpected (String.ofList ['-', letter]))
      | some s => do
        match ← (← a.resolve pending).turnOn s with
        | .inl a => a.readWords none rest
        | .inr command => return command
    | .long name value =>
      match Known.named? name, value with
      | none, _ => .error (.unexpected ("--" ++ name))
      | some (.switch s), some value => .error (.unexpectedValue value s)
      | some (.switch s), none => do
        match ← (← a.resolve pending).turnOn s with
        | .inl a => a.readWords none rest
        | .inr command => return command
      | some (.parameter p), none => do
        let a ← a.resolve pending
        a.readWords (some (p, none)) rest
      | some (.parameter p), some value => do
        let a ← a.resolve pending
        let a ← a.take p value
        a.readWords none rest

/-- What the words of a command line ask for. -/
def read (words : List String) : Except UsageError Command := readWords {} none words

end Arguments

end Debugger.CommandLine
