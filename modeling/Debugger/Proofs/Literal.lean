import Debugger.Literal
import Debugger.Proofs.Text
/-!
# Literals, as they are written and as they are read

The reader looks at the first character, and at the last one for a closing quote or a suffix. What
it takes for a string or for an integer is said here by a grammar, from the other end, and what the
debugger itself writes for a value is followed through the reader.

* `Literal.strings_and_integers` - the grammar of strings and the one of integers are what is read
  as such, no more and no less.
* `Literal.shown_values_are_read_back` - truth values, ints, longs, handles and the characters that
  are shown without their number.
* `Literal.numbered_character_is_refused` - a character that is shown by its number is not read.

## 1. The first character

## 2. The last character

## 3. Strings

## 4. Integers

## 5. The grammar

## 6. Shown values
-/

namespace Debugger.Literal

open Text (Numeral Spells)

variable {cs rest body : List Char} {suffixes : List Char} {text s : String} {p : Primitive}

/-! ## 1. The first character -/

theorem ofTrimmed?_quote (rest : List Char) :
    ofTrimmed? ('"' :: rest) = (quoted? '"' rest).map fun s => string (String.ofList s) := rfl

theorem ofTrimmed?_apostrophe (rest : List Char) : ofTrimmed? ('\'' :: rest) =
    ((quoted? '\'' rest).bind only?).map fun c => primitive (.char c) := rfl

theorem ofTrimmed?_at (rest : List Char) : ofTrimmed? ('@' :: rest) =
    (Text.readUnsigned? 64 rest).map fun n => handle ⟨UInt64.ofNat n⟩ := rfl

theorem ofTrimmed?_number {first : Char} (sign : first.isDigit = true ∨ first = '-')
    (rest : List Char) : ofTrimmed? (first :: rest) = (number? (first :: rest)).map primitive := by
  have other : ∀ d : Char, d.isDigit = false → d ≠ '-' → first ≠ d := by
    rintro d letter noMinus rfl
    rcases sign with digit | minus
    · rw [letter] at digit
      cases digit
    · exact noMinus minus
  have keyword : ∀ (w : List Char) (d : Char), w.head? = some d → d.isDigit = false → d ≠ '-' →
      first :: rest ≠ w := by
    rintro w d head letter noMinus rfl
    exact other d letter noMinus (Option.some.inj head)
  have number : (first.isDigit || decide (first = '-') || decide (first = '.')) = true := by
    rcases sign with digit | minus
    · simp [digit]
    · simp [minus]
  unfold ofTrimmed?
  dsimp only
  rw [if_neg (keyword _ 'n' rfl rfl (by decide)), if_neg (keyword _ 't' rfl rfl (by decide)),
    if_neg (keyword _ 'f' rfl rfl (by decide)), if_neg (other '"' rfl (by decide)),
    if_neg (other '\'' rfl (by decide)), if_neg (other '@' rfl (by decide)), if_pos number]

/-- Only what begins with a quote is read as a string. -/
theorem head?_of_string (h : ofTrimmed? cs = some (string s)) : cs.head? = some '"' := by
  have noChar : ∀ {x : Option Char}, x.map (fun c => primitive (.char c)) ≠ some (string s) := by
    intro x same
    obtain ⟨c, -, same⟩ := Option.map_eq_some_iff.mp same
    cases same
  cases cs with
  | nil => cases h
  | cons first rest =>
    unfold ofTrimmed? at h
    dsimp only at h
    split at h
    · cases h
    split at h
    · cases h
    split at h
    · cases h
    split at h
    · next quote => rw [List.head?_cons, quote]
    split at h
    · exact absurd h noChar
    repeat' split at h
    all_goals simp at h

/-- Only what is read as a number is read as an integer, and it does not begin with a plus sign. -/
theorem number?_of_integer (h : ofTrimmed? cs = some (primitive p))
    (integer : p.kind = .int ∨ p.kind = .long) : number? cs = some p ∧ cs.head? ≠ some '+' := by
  have noChar : ∀ {x : Option Char},
      x.map (fun c => primitive (.char c)) ≠ some (primitive p) := by
    intro x same
    obtain ⟨c, -, same⟩ := Option.map_eq_some_iff.mp same
    cases same
    simp [Primitive.kind] at integer
  have noBoolean : ∀ {b : Bool}, some (primitive (.boolean b)) ≠ some (primitive p) := by
    rintro b ⟨⟩
    simp [Primitive.kind] at integer
  cases cs with
  | nil => cases h
  | cons first rest =>
    unfold ofTrimmed? at h
    dsimp only at h
    split at h
    · cases h
    split at h
    · exact absurd h noBoolean
    split at h
    · exact absurd h noBoolean
    split at h
    · simp at h
    split at h
    · exact absurd h noChar
    split at h
    · simp at h
    split at h
    · next number =>
      refine ⟨by simpa using h, ?_⟩
      rintro ⟨⟩
      exact absurd number (by decide)
    split at h <;> cases h

theorem parse_eq_ok {l : Literal} :
    parse text = .ok l ↔ ofTrimmed? (Text.trim text.toList) = some l := by
  unfold parse
  dsimp only
  cases ofTrimmed? (Text.trim text.toList) with
  | none => simp
  | some l' => simp

theorem parse_refused (h : ofTrimmed? (Text.trim text.toList) = none) :
    parse text = .error (.invalidLiteral (String.ofList (Text.trim text.toList))) := by
  simp only [parse, h]

/-! ## 2. The last character -/

theorem dropSuffix?_eq_some :
    dropSuffix? suffixes cs = some rest ↔ ∃ c ∈ suffixes, cs = rest ++ [c] := by
  constructor
  · intro h
    unfold dropSuffix? at h
    split at h
    · next c last =>
      split at h
      · next member =>
        cases h
        obtain ⟨before, rfl⟩ := List.getLast?_eq_some_iff.mp last
        exact ⟨c, by simpa using member, by rw [List.dropLast_concat]⟩
      · cases h
    · cases h
  · rintro ⟨c, member, rfl⟩
    simp [dropSuffix?, member]

/-! ## 3. Strings -/

/-- **The closing quote is the last character,** and what is before it is the inside. -/
theorem quoted?_eq_some {quote : Char} {spelled : List Char} : quoted? quote cs = some spelled ↔
    ∃ body, cs = body ++ [quote] ∧ Spells body spelled := by
  unfold quoted?
  simp only [Option.bind_eq_bind, Option.bind_eq_some_iff, dropSuffix?_eq_some,
    Text.unescape?_eq_some, List.mem_singleton, exists_eq_left]

theorem ofTrimmed?_eq_string : ofTrimmed? cs = some (string s) ↔
    ∃ body, cs = '"' :: body ++ ['"'] ∧ Spells body s.toList := by
  constructor
  · intro h
    obtain ⟨rest, rfl⟩ := List.head?_eq_some_iff.mp (head?_of_string h)
    rw [ofTrimmed?_quote] at h
    obtain ⟨spelled, read, same⟩ := Option.map_eq_some_iff.mp h
    cases same
    obtain ⟨body, rfl, spells⟩ := quoted?_eq_some.mp read
    rw [String.toList_ofList]
    exact ⟨body, rfl, spells⟩
  · rintro ⟨body, rfl, spells⟩
    rw [List.cons_append, ofTrimmed?_quote, quoted?_eq_some.mpr ⟨body, rfl, spells⟩,
      Option.map_some, String.ofList_toList]

/-- **Every string has a literal.** -/
theorem exists_literal (s : String) : ∃ text, parse text = .ok (string s) := by
  obtain ⟨body, spells⟩ := Text.exists_spells s.toList
  refine ⟨String.ofList ('"' :: body ++ ['"']), ?_⟩
  rw [parse_eq_ok, String.toList_ofList, Text.trim_quoted (by decide)]
  exact ofTrimmed?_eq_string.mpr ⟨body, rfl, spells⟩

/-! ## 4. Integers -/

/-- An integer as it is written: a numeral, with the suffix of a long or without one. -/
structure Integer where
  numeral : Numeral
  suffix : Option Char
  long : ∀ c ∈ suffix, c = 'L' ∨ c = 'l'

namespace Integer

def chars (l : Integer) : List Char := l.numeral.chars ++ l.suffix.toList

/-- The integer that an int or a long is shown as. -/
def shown (i : Int) (long : Bool) : Integer where
  numeral := .ofInt i
  suffix := if long then some 'L' else none
  long := by cases long <;> simp

/-- The width in bits of the kind that the suffix asks for. -/
def width (l : Integer) : Nat :=
  match l.suffix with
  | none => 32
  | some _ => 64

/-- Whether the number is one of that kind. -/
def Fits (l : Integer) : Prop :=
  -2 ^ (l.width - 1) ≤ l.numeral.value ∧ l.numeral.value < 2 ^ (l.width - 1)

instance (l : Integer) : Decidable l.Fits := inferInstanceAs (Decidable (_ ∧ _))

/-- The primitive of the kind that the suffix asks for that a number is taken to. -/
def primitive (l : Integer) (i : Int) : Primitive :=
  match l.suffix with
  | none => .int (Int32.ofInt i)
  | some _ => .long (Int64.ofInt i)

/-- The primitive of the kind that the suffix asks for and of exactly that number. -/
inductive Denotes (l : Integer) : Primitive → Prop
  | int {i : Int32} (plain : l.suffix = none) (value : i.toInt = l.numeral.value) :
      Denotes l (.int i)
  | long {i : Int64} (marked : l.suffix ≠ none) (value : i.toInt = l.numeral.value) :
      Denotes l (.long i)

theorem Denotes.unique {l : Integer} {q : Primitive} (h : l.Denotes p) (h' : l.Denotes q) :
    p = q := by
  cases h with
  | int plain value =>
    cases h' with
    | int _ value' => rw [Int32.toInt_inj.mp (value.trans value'.symm)]
    | long marked => exact absurd plain marked
  | long marked value =>
    cases h' with
    | int plain => exact absurd plain marked
    | long _ value' => rw [Int64.toInt_inj.mp (value.trans value'.symm)]

theorem denotes_primitive {l : Integer} (fits : l.Fits) :
    l.Denotes (l.primitive l.numeral.value) := by
  unfold Fits width at fits
  unfold primitive
  cases suffix : l.suffix with
  | none =>
    rw [suffix] at fits
    exact .int suffix (Int32.toInt_ofInt_of_le fits.1 fits.2)
  | some c =>
    rw [suffix] at fits
    exact .long (by simp [suffix]) (Int64.toInt_ofInt_of_le fits.1 fits.2)

theorem Denotes.fits {l : Integer} (h : l.Denotes p) : l.Fits := by
  unfold Fits width
  cases h with
  | int plain value =>
    rw [plain, ← value]
    exact ⟨Int32.le_toInt _, Int32.toInt_lt _⟩
  | long marked value =>
    obtain ⟨c, suffix⟩ := Option.ne_none_iff_exists'.mp marked
    rw [suffix, ← value]
    exact ⟨Int64.le_toInt _, Int64.toInt_lt _⟩

end Integer

/-- A numeral has no suffix, since it ends in a digit. -/
theorem dropSuffix?_numeral (n : Numeral) (letters : suffixes.all (!·.isDigit) = true) :
    dropSuffix? suffixes n.chars = none := by
  obtain ⟨d, last, digit⟩ := n.getLast?_chars
  have apart : suffixes.contains d = false := by
    rw [Bool.eq_false_iff]
    intro member
    have letter := List.all_eq_true.mp letters d (by simpa using member)
    rw [digit] at letter
    cases letter
  simp only [dropSuffix?, last, apart, Bool.false_eq_true, if_false]

theorem number?_numeral (n : Numeral) :
    number? n.chars = (Text.readSigned? 32 n.chars).map fun i => .int (Int32.ofInt i) := by
  have whole : (n.chars.any fun c => c = '.' || c = 'e' || c = 'E') = false := by
    rw [List.any_eq_false]
    intro c hc
    rcases Numeral.mem_chars hc with digit | rfl
    · have other : ∀ d : Char, d.isDigit = false → c ≠ d := by
        rintro d letter rfl
        rw [letter] at digit
        cases digit
      simp [other '.' rfl, other 'e' rfl, other 'E' rfl]
    · decide
  unfold number?
  rw [dropSuffix?_numeral n rfl, dropSuffix?_numeral n rfl, dropSuffix?_numeral n rfl]
  dsimp only
  rw [whole, if_neg Bool.false_ne_true]

theorem number?_long (cs : List Char) {c : Char} (suffix : c = 'L' ∨ c = 'l') :
    number? (cs ++ [c]) = (Text.readSigned? 64 cs).map fun i => .long (Int64.ofInt i) := by
  have dropped : dropSuffix? ['L', 'l'] (cs ++ [c]) = some cs :=
    dropSuffix?_eq_some.mpr ⟨c, by simpa using suffix, rfl⟩
  unfold number?
  rw [dropped]

namespace Integer

theorem ofTrimmed?_chars (l : Integer) :
    ofTrimmed? l.chars = (number? l.chars).map Literal.primitive := by
  obtain ⟨first, rest, chars, sign⟩ := l.numeral.head_chars
  rw [Integer.chars, chars, List.cons_append, ofTrimmed?_number sign]

theorem number?_chars (l : Integer) :
    number? l.chars = (Text.readSigned? l.width l.numeral.chars).map l.primitive := by
  unfold chars width primitive
  cases suffix : l.suffix with
  | none => rw [Option.toList_none, List.append_nil, number?_numeral]
  | some c => rw [Option.toList_some, number?_long _ (l.long c suffix)]

/-- **An integer is read as what it denotes.** -/
theorem number?_eq_some (l : Integer) : number? l.chars = some p ↔ l.Denotes p := by
  rw [number?_chars, Text.readSigned?_numeral]
  split
  · next fits =>
    rw [Option.map_some]
    constructor
    · intro same
      rw [← Option.some.inj same]
      exact denotes_primitive fits
    · intro denotes
      rw [denotes.unique (denotes_primitive fits)]
  · next unfit =>
    rw [Option.map_none]
    exact ⟨nofun, fun denotes => absurd denotes.fits unfit⟩

end Integer

/-- **What is read as an int or a long is written as an integer.** -/
theorem exists_integer (h : number? cs = some p) (integer : p.kind = .int ∨ p.kind = .long)
    (unsigned : cs.head? ≠ some '+') : ∃ l : Integer, l.chars = cs := by
  unfold number? at h
  split at h
  · next digits dropped =>
    obtain ⟨c, suffix, rfl⟩ := dropSuffix?_eq_some.mp dropped
    obtain ⟨i, read, -⟩ := Option.map_eq_some_iff.mp h
    have unsigned : digits.head? ≠ some '+' := by
      intro plus
      obtain ⟨rest, rfl⟩ := List.head?_eq_some_iff.mp plus
      exact unsigned rfl
    obtain ⟨n, rfl⟩ := Text.exists_numeral read unsigned
    refine ⟨⟨n, some c, ?_⟩, rfl⟩
    rintro _ ⟨⟩
    simpa using suffix
  split at h
  · obtain ⟨x, -, rfl⟩ := Option.map_eq_some_iff.mp h
    simp [Primitive.kind] at integer
  split at h
  · obtain ⟨x, -, rfl⟩ := Option.map_eq_some_iff.mp h
    simp [Primitive.kind] at integer
  split at h
  · obtain ⟨x, -, rfl⟩ := Option.map_eq_some_iff.mp h
    simp [Primitive.kind] at integer
  · obtain ⟨i, read, -⟩ := Option.map_eq_some_iff.mp h
    obtain ⟨n, rfl⟩ := Text.exists_numeral read unsigned
    exact ⟨⟨n, none, nofun⟩, List.append_nil _⟩

/-! ## 5. The grammar -/

/-- **Strings and integers are read by their grammars.** -/
theorem strings_and_integers :
    -- A string stands between the first and the last character, and there it is spelled.
    (∀ text s, parse text = .ok (string s) ↔
      ∃ body, Text.trim text.toList = '"' :: body ++ ['"'] ∧ Spells body s.toList) ∧
    -- An integer is read as the number that it denotes, and refused where there is none.
    (∀ text (l : Integer), Text.trim text.toList = l.chars →
      (l.Fits → ∃ p, l.Denotes p ∧ parse text = .ok (primitive p)) ∧
      (¬ l.Fits → parse text = .error (.invalidLiteral (String.ofList l.chars)))) ∧
    -- Nothing else is read as an int or as a long.
    (∀ text p, parse text = .ok (primitive p) → p.kind = .int ∨ p.kind = .long →
      ∃ l : Integer, Text.trim text.toList = l.chars ∧ l.Denotes p) ∧
    -- No string is without a literal.
    ∀ s, ∃ text, parse text = .ok (string s) := by
  refine ⟨?_, ?_, ?_, exists_literal⟩
  · intro text s
    rw [parse_eq_ok, ofTrimmed?_eq_string]
  · intro text l trimmed
    constructor
    · intro fits
      have denotes := Integer.denotes_primitive fits
      refine ⟨_, denotes, ?_⟩
      rw [parse_eq_ok, trimmed, l.ofTrimmed?_chars, l.number?_eq_some.mpr denotes, Option.map_some]
    · intro unfit
      have none : number? l.chars = none := by
        rw [Option.eq_none_iff_forall_ne_some]
        intro p read
        exact unfit (l.number?_eq_some.mp read).fits
      rw [← trimmed]
      apply parse_refused
      rw [trimmed, l.ofTrimmed?_chars, none, Option.map_none]
  · intro text p read integer
    obtain ⟨number, unsigned⟩ := number?_of_integer (parse_eq_ok.mp read) integer
    obtain ⟨l, chars⟩ := exists_integer number integer unsigned
    rw [← chars] at number
    exact ⟨l, chars.symm, l.number?_eq_some.mp number⟩

/-- The least int and its neighbour, the one between blanks and the other with and without a suffix;
a quote and a backslash inside of quotes. -/
theorem least_int_is_read :
    parse "\t-2147483648 " = .ok (primitive (.int (-2147483648))) ∧
    parse "-2147483649" = .error (.invalidLiteral "-2147483649") ∧
    parse "-2147483649L" = .ok (primitive (.long (-2147483649))) ∧
    (∃ l : Integer, "7".toList = l.chars ∧ l.Denotes (.int 7)) ∧
    parse "\"a\"b\\\\\"" = .ok (string "a\"b\\") := by
  obtain ⟨strings, integers, nothingElse, -⟩ := strings_and_integers
  have least := (integers "\t-2147483648 " (.shown (-2147483648) false) (by decide +kernel)).1
  have below := (integers "-2147483649" (.shown (-2147483649) false) (by decide +kernel)).2
  have marked := (integers "-2147483649L" (.shown (-2147483649) true) (by decide +kernel)).1
  refine ⟨?_, ?_, ?_, ?_, ?_⟩
  · obtain ⟨p, denotes, read⟩ := least (by decide +kernel)
    have value : (-2147483648 : Int32).toInt = (Numeral.ofInt (-2147483648)).value := by
      decide +kernel
    rw [read, denotes.unique (.int rfl value)]
  · exact below (by decide +kernel)
  · obtain ⟨p, denotes, read⟩ := marked (by decide +kernel)
    have value : (-2147483649 : Int64).toInt = (Numeral.ofInt (-2147483649)).value := by
      decide +kernel
    rw [read, denotes.unique (.long nofun value)]
  · exact nothingElse "7" (.int 7) rfl (.inl rfl)
  · refine (strings _ _).mpr ⟨['a', '"', 'b', '\\', '\\'], by decide +kernel, ?_⟩
    have chars : "a\"b\\".toList = ['a', '"', 'b', '\\'] := by decide +kernel
    rw [chars]
    exact .plain (by decide) (.plain (by decide) (.plain (by decide)
      (.escape (by simp [Text.escapes]) .nil)))

/-! ## 6. Shown values -/

namespace Integer

theorem trim_chars (l : Integer) : Text.trim l.chars = l.chars := by
  apply Text.trim_eq
  · obtain ⟨first, rest, chars, sign⟩ := l.numeral.head_chars
    rw [Integer.chars, chars]
    rintro _ ⟨⟩
    rcases sign with digit | rfl
    · exact Text.isBlank_of_isDigit digit
    · decide
  · intro c last
    cases suffix : l.suffix with
    | none =>
      obtain ⟨d, ends, digit⟩ := l.numeral.getLast?_chars
      rw [chars, suffix, Option.toList_none, List.append_nil, ends] at last
      cases last
      exact Text.isBlank_of_isDigit digit
    | some d =>
      rw [chars, suffix, Option.toList_some, List.getLast?_concat] at last
      cases last
      rcases l.long c suffix with rfl | rfl <;> decide

theorem parse_chars {l : Integer} (shown : text.toList = l.chars) (denotes : l.Denotes p) :
    parse text = .ok (.primitive p) := by
  rw [parse_eq_ok, shown, l.trim_chars, l.ofTrimmed?_chars, l.number?_eq_some.mpr denotes,
    Option.map_some]

end Integer

theorem parse_display_handle (h : Handle) : parse h.display = .ok (handle h) := by
  have digits : ∀ c ∈ Nat.toDigits 10 h.raw.toNat, c.isDigit = true := fun _ hc =>
    Nat.isDigit_of_mem_toDigits (by decide) (by decide) hc
  have inhabited : Nat.toDigits 10 h.raw.toNat ≠ [] := Nat.toDigits_ne_nil
  have shown : h.display.toList = '@' :: Nat.toDigits 10 h.raw.toNat := by
    simp [Handle.display, Nat.toString_eq_repr]
  have trimmed : Text.trim h.display.toList = h.display.toList := by
    rw [shown]
    apply Text.trim_eq
    · rintro _ ⟨⟩
      decide
    · rw [List.getLast?_cons, List.getLast?_eq_some_getLast inhabited]
      rintro _ ⟨⟩
      exact Text.isBlank_of_isDigit (digits _ (List.getLast_mem inhabited))
  have read : Text.readUnsigned? 64 (Nat.toDigits 10 h.raw.toNat) = some h.raw.toNat :=
    Text.readUnsigned?_eq_some.mpr ⟨[], _, rfl, .inl rfl, ⟨inhabited, digits⟩,
      Nat.ofDigitChars_toDigits (by decide) (by decide), h.raw.toNat_lt⟩
  rw [parse_eq_ok, trimmed, shown, ofTrimmed?_at, read, Option.map_some, UInt64.ofNat_toNat]

theorem ofTrimmed?_shownChar (c : Char) :
    ofTrimmed? (Text.trim (Primitive.char c).display.toList) =
      ((Text.unescape? (Text.escapePlain c)).bind only?).map fun c => primitive (.char c) := by
  have closed : dropSuffix? ['\''] (Text.escapePlain c ++ ['\'']) = some (Text.escapePlain c) :=
    dropSuffix?_eq_some.mpr ⟨'\'', by simp, rfl⟩
  rw [Primitive.display, String.toList_ofList, Text.trim_quoted (by decide), List.cons_append,
    ofTrimmed?_apostrophe, quoted?, closed]
  rfl

theorem parse_display_plain {c : Char} (plain : Text.IsPlain c) :
    parse (Primitive.char c).display = .ok (primitive (.char c)) := by
  rw [parse_eq_ok, ofTrimmed?_shownChar,
    Text.unescape?_eq_some.mpr (Text.spells_escapePlain plain)]
  rfl

theorem parse_display_numbered {c : Char} (numbered : ¬ Text.IsPlain c) :
    parse (Primitive.char c).display = .error (.invalidLiteral (Primitive.char c).display) := by
  have refused : ofTrimmed? (Text.trim (Primitive.char c).display.toList) = none := by
    rw [ofTrimmed?_shownChar, Text.escapePlain_numbered numbered, Text.unescape?_hexEscape]
    rfl
  rw [parse_refused refused, Primitive.display, String.toList_ofList,
    Text.trim_quoted (by decide)]

theorem parse_display_int (i : Int32) :
    parse (Primitive.int i).display = .ok (primitive (.int i)) := by
  have shown : (Primitive.int i).display.toList = (Integer.shown i.toInt false).chars := by
    show (toString i.toInt).toList = (Numeral.ofInt i.toInt).chars ++ []
    rw [Numeral.toList_toString, List.append_nil]
  exact Integer.parse_chars shown (.int rfl (Numeral.value_ofInt _).symm)

theorem parse_display_long (i : Int64) :
    parse (Primitive.long i).display = .ok (primitive (.long i)) := by
  have shown : (Primitive.long i).display.toList = (Integer.shown i.toInt true).chars := by
    show (toString i.toInt ++ "L").toList = (Numeral.ofInt i.toInt).chars ++ ['L']
    rw [String.toList_append, Numeral.toList_toString]
    rfl
  exact Integer.parse_chars shown (.long nofun (Numeral.value_ofInt _).symm)

/-- **What is shown is read back,** be it a truth value, an int, a long or a handle, and of the
characters just those that are shown without their number. -/
theorem shown_values_are_read_back (p : Primitive)
    (kind : p.kind ∈ [.boolean, .int, .long, .char]) (h : Handle) :
    ((∀ c, p = .char c → Text.IsPlain c) → parse p.display = .ok (primitive p)) ∧
    (∀ c, p = .char c → ¬ Text.IsPlain c → parse p.display = .error (.invalidLiteral p.display)) ∧
    parse h.display = .ok (handle h) := by
  refine ⟨?_, ?_, parse_display_handle h⟩
  · intro plain
    cases p with
    | boolean b => cases b <;> rfl
    | int i => exact parse_display_int i
    | long i => exact parse_display_long i
    | char c => exact parse_display_plain (plain c rfl)
    | byte | short | float | double => simp [Primitive.kind] at kind
  · rintro c rfl numbered
    exact parse_display_numbered numbered

/-- A quote between quotes, the least long, and what is shown for NUL. -/
theorem quote_is_read_back :
    parse "'\\''" = .ok (primitive (.char '\'')) ∧
    parse "-9223372036854775808L" = .ok (primitive (.long (-9223372036854775808))) ∧
    parse "'\\u\x7b0\x7d'" = .error (.invalidLiteral "'\\u\x7b0\x7d'") := by
  have quote : (Primitive.char '\'').display = "'\\''" := by decide +kernel
  have least : (Primitive.long (-9223372036854775808)).display = "-9223372036854775808L" := by
    decide +kernel
  have null : (Primitive.char '\x00').display = "'\\u\x7b0\x7d'" := by decide +kernel
  rw [← quote, ← least, ← null]
  refine ⟨?_, ?_, ?_⟩
  · apply (shown_values_are_read_back (.char '\'') (by decide) ⟨0⟩).1
    rintro _ ⟨⟩
    decide
  · exact (shown_values_are_read_back (.long _) (by decide) ⟨0⟩).1 nofun
  · exact (shown_values_are_read_back (.char '\x00') (by decide) ⟨0⟩).2.1 _ rfl (by decide)

/-- **A character that is shown by its number is not read,** although it is when it is typed. -/
theorem numbered_character_is_refused :
    (Primitive.char 'é').display = "'\\u\x7be9\x7d'" ∧
    parse "'\\u\x7be9\x7d'" = .error (.invalidLiteral "'\\u\x7be9\x7d'") ∧
    parse "'é'" = .ok (primitive (.char 'é')) := by
  have shown : (Primitive.char 'é').display = "'\\u\x7be9\x7d'" := by decide +kernel
  refine ⟨shown, ?_, parse_eq_ok.mpr (by decide +kernel)⟩
  rw [← shown]
  exact parse_display_numbered (by decide)

end Debugger.Literal
