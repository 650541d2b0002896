import Mathlib.Data.Finset.Card
import Mathlib.Order.Interval.Finset.Nat
import Debugger.Literal
import Debugger.Naming
import Debugger.Proofs.Naming.Stems
import Debugger.Proofs.Text
/-!
# Names that are guessed, read as literals

A guessed name is a stem and a number. Both the stem of a class name and the reading of a literal
are decided by single characters: the one that ends the package, the one that begins the type
arguments, the first one of what is left. So the class names are given here by their parts, as the
grammar has them. These are the parts of a `Reading`, from which the stem is known, and what is left
of them is followed through the reader of literals.

The outcome is `parse_numbered`. What is made from a class whose simple name begins with a letter or
an underscore is read as a name. A simple name that begins with a digit keeps it, and what begins
with a digit is read as a number or not at all.

## 1. Characters

## 2. Class names

## 3. Stems

## 4. Numbers

## 5. Literals
-/

namespace Debugger

/-! ## 1. Characters -/

namespace Naming

/-- What identifiers consist of. -/
def isWordChar (c : Char) : Bool := c.isAlphanum || c = '_'

theorem ascii_of_isWordChar {c : Char} (h : isWordChar c) : c.val < 0x80 := by
  have ranges : (decide (c.val ≥ 'A'.val ∧ c.val ≤ 'Z'.val) ||
      (c.val ≥ 'a'.val && c.val ≤ 'z'.val) || (c.val ≥ '0'.val && c.val ≤ '9'.val) ||
      c = '_') = true := h
  simp only [Bool.or_eq_true, Bool.and_eq_true, decide_eq_true_eq] at ranges
  rcases ranges with ((⟨-, h⟩ | ⟨-, h⟩) | ⟨-, h⟩) | rfl
  · exact UInt32.lt_of_le_of_lt h (by decide)
  · exact UInt32.lt_of_le_of_lt h (by decide)
  · exact UInt32.lt_of_le_of_lt h (by decide)
  · decide

/-- The characters that class names and literals are taken apart at. -/
def marks : List Char := ['.', '$', '<', '>', '[', ']', '"', '\'', '@', '-']

theorem isBlank_of_isWordChar {c : Char} (h : isWordChar c) : Text.isBlank c = false := by
  have all := Text.of_ascii (P := fun c => isWordChar c → !Text.isBlank c) (by decide +kernel)
    (ascii_of_isWordChar h)
  simpa [h] using all

theorem ne_of_isWordChar {c d : Char} (h : isWordChar c) (mark : d ∈ marks) : c ≠ d := by
  have none : marks.all (!isWordChar ·) = true := rfl
  rintro rfl
  simpa [h] using List.all_eq_true.mp none c mark

theorem isSeparator_of_isWordChar {c : Char} (h : isWordChar c) : isSeparator c = false := by
  simp [isSeparator, ne_of_isWordChar h (d := '.') (by simp [marks]),
    ne_of_isWordChar h (d := '$') (by simp [marks])]

/-! ## 2. Class names -/

/-- A word that is not empty. -/
structure Identifier where
  first : Char
  rest : List Char
  proper : (first :: rest).all isWordChar

def Identifier.chars (i : Identifier) : List Char := i.first :: i.rest

theorem Identifier.isWordChar_of_mem {i : Identifier} {c : Char} (h : c ∈ i.chars) : isWordChar c :=
  List.all_eq_true.mp i.proper c h

/-- A class name by its parts. -/
structure ClassName where
  /-- The packages and the outer classes, each with the separator behind it. -/
  outer : List (Identifier × { c : Char // isSeparator c })
  simple : Identifier
  /-- What is written between angle brackets, if they are there. -/
  arguments : Option (List Char)
  dimensions : Nat

namespace ClassName

def outerPart (c : ClassName) : List Char := c.outer.flatMap fun o => o.1.chars ++ [o.2.1]

def argumentPart (c : ClassName) : List Char :=
  match c.arguments with
  | none => []
  | some inner => '<' :: (inner ++ ['>'])

/-- A class name without its dimensions. -/
def element (c : ClassName) : List Char := c.outerPart ++ c.simple.chars ++ c.argumentPart

/-- A class name as it is written. -/
def text (c : ClassName) : String :=
  String.ofList (c.element ++ (List.replicate c.dimensions brackets).flatten)

theorem mem_outerPart {c : ClassName} {d : Char} (h : d ∈ c.outerPart) :
    isWordChar d ∨ isSeparator d := by
  obtain ⟨o, -, hd⟩ := List.mem_flatMap.mp h
  rcases List.mem_append.mp hd with hd | hd
  · exact .inl (o.1.isWordChar_of_mem hd)
  · rw [List.mem_singleton.mp hd]
    exact .inr o.2.2

/-- In front of the simple name there is nothing or a separator. -/
theorem isSeparator_of_getLast? (c : ClassName) : ∀ d ∈ c.outerPart.getLast?, isSeparator d := by
  unfold outerPart
  rcases List.eq_nil_or_concat' c.outer with none | ⟨os, o, some⟩
  · rw [none]
    nofun
  · rw [some, List.flatMap_append, List.flatMap_singleton, ← List.append_assoc,
      List.getLast?_concat]
    rintro d ⟨⟩
    exact o.2.2

/-- A class name without its dimensions ends in a word or in an angle bracket. -/
theorem element_ends (c : ClassName) :
    ∃ d, c.element.getLast? = some d ∧ d ≠ ']' ∧ Text.isBlank d = false := by
  have inhabited : c.simple.chars ≠ [] := List.cons_ne_nil _ _
  cases arguments : c.arguments with
  | none =>
    have plain : c.element = c.outerPart ++ c.simple.chars := by
      simp [element, argumentPart, arguments]
    have word : isWordChar (c.simple.chars.getLast inhabited) :=
      c.simple.isWordChar_of_mem (List.getLast_mem _)
    refine ⟨_, ?_, ne_of_isWordChar word (by simp [marks]), isBlank_of_isWordChar word⟩
    rw [plain, List.getLast?_append_of_ne_nil _ inhabited, List.getLast?_eq_some_getLast]
  | some inner =>
    have closed : c.element = (c.outerPart ++ c.simple.chars ++ '<' :: inner) ++ ['>'] := by
      simp [element, argumentPart, arguments]
    refine ⟨'>', ?_, by decide, by decide⟩
    rw [closed, List.getLast?_concat]

end ClassName

/-! ## 3. Stems -/

namespace ClassName

theorem element_bare (c : ClassName) : ¬ brackets <:+ Text.trimEnd c.element := by
  obtain ⟨d, last, other, ink⟩ := c.element_ends
  have trimmed : Text.trimEnd c.element = c.element := by
    apply Text.trimEnd_eq
    rw [last]
    rintro e ⟨⟩
    exact ink
  rw [trimmed]
  rintro ⟨before, ends⟩
  have closed : (before ++ ['[', ']']).getLast? = some d := by
    rw [← last, ← ends]
    rfl
  rw [List.getLast?_append_of_ne_nil _ (List.cons_ne_nil _ _)] at closed
  exact other (Option.some.inj closed).symm

/-- A class name is read as it is written. -/
def reading (c : ClassName) : Reading where
  element :=
    { outer := c.outerPart
      gap := .none
      simple := c.simple.chars
      behind := c.argumentPart
      outer_plain := by
        intro opened
        rcases mem_outerPart opened with word | separator
        · exact ne_of_isWordChar word (d := '<') (by simp [marks]) rfl
        · cases separator
      outer_ends := c.isSeparator_of_getLast?
      simple_plain := fun d hd =>
        have word := c.simple.isWordChar_of_mem hd
        ⟨ne_of_isWordChar word (by simp [marks]), isSeparator_of_isWordChar word⟩
      simple_trim := Text.trim_eq
        (fun d hd => isBlank_of_isWordChar (c.simple.isWordChar_of_mem (List.mem_of_head? hd)))
        (fun d hd => isBlank_of_isWordChar (c.simple.isWordChar_of_mem (List.mem_of_getLast? hd)))
      behind_blank := by
        unfold argumentPart
        split <;> nofun }
  pairs := List.replicate c.dimensions .none
  ending := .none
  bare := by
    rw [Element.chars, Gap.chars_none, List.append_nil]
    exact c.element_bare

theorem text_reading (c : ClassName) : c.reading.text = c.text := by
  have pairs : pairPart (List.replicate c.dimensions .none) =
      (List.replicate c.dimensions brackets).flatten := by
    rw [pairPart, List.flatMap_replicate]
    rfl
  simp only [Reading.text, Reading.chars, text, reading, Element.chars, Gap.chars_none, pairs,
    element, List.append_nil]

/-- **The stem of a class name** is the simple name with a small first letter, and a word for each
dimension. -/
theorem nameStem_text (c : ClassName) : nameStem c.text = String.ofList
    (c.simple.first.toLower :: c.simple.rest ++
      (List.replicate c.dimensions "Array".toList).flatten) := by
  have ascii := ascii_of_isWordChar (c.simple.isWordChar_of_mem List.mem_cons_self)
  have dimensions : c.reading.pairs.length = c.dimensions := List.length_replicate
  have stem : lowerFirst c.reading.element.simple = c.simple.first.toLower :: c.simple.rest := by
    show Text.lowercase c.simple.first ++ c.simple.rest = _
    rw [Text.lowercase_of_ascii ascii]
    rfl
  rw [← c.text_reading, Reading.nameStem_text, dimensions, stem]

end ClassName

/-! ## 4. Numbers -/

theorem numbered_injective (stem : String) :
    Function.Injective fun k : Nat => stem ++ toString k := by
  intro i j same
  have digits : Nat.toDigits 10 i = Nat.toDigits 10 j := by
    have chars := congrArg String.toList same
    simpa [Nat.toString_eq_repr] using chars
  simpa using congrArg (Nat.ofDigitChars 10 · 0) digits

section Search

variable {stem : String} {isTaken : String → Bool} {fuel n : Nat}

/-- A search that finds a name finds the first that is free. -/
theorem firstFree?_some {name : String} (h : firstFree? stem isTaken fuel n = some name) :
    ∃ k, n ≤ k ∧ k < n + fuel ∧ name = stem ++ toString k ∧ isTaken name = false ∧
      ∀ j, n ≤ j → j < k → isTaken (stem ++ toString j) = true := by
  induction fuel generalizing n with
  | zero => cases h
  | succ fuel ih =>
    simp only [firstFree?] at h
    split at h
    · next taken =>
      obtain ⟨k, after, within, named, free, before⟩ := ih h
      refine ⟨k, by omega, by omega, named, free, fun j low high => ?_⟩
      rcases Nat.eq_or_lt_of_le low with rfl | later
      · exact taken
      · exact before j later high
    · next free =>
      cases h
      exact ⟨n, Nat.le_refl n, by omega, rfl, Bool.eq_false_iff.mpr free,
        fun j low high => absurd low (by omega)⟩

/-- A search that finds none has seen that all are taken. -/
theorem firstFree?_none (h : firstFree? stem isTaken fuel n = none) :
    ∀ j, n ≤ j → j < n + fuel → isTaken (stem ++ toString j) = true := by
  induction fuel generalizing n with
  | zero =>
    intro j low high
    omega
  | succ fuel ih =>
    simp only [firstFree?] at h
    split at h
    · next taken =>
      intro j low high
      rcases Nat.eq_or_lt_of_le low with rfl | later
      · exact taken
      · exact ih h j later (by omega)
    · cases h

/-- What is found does not depend on the fuel, as long as there is enough of it to get there. -/
theorem firstFree?_eq {k : Nat} (start : n ≤ k) (free : isTaken (stem ++ toString k) = false)
    (before : ∀ j, n ≤ j → j < k → isTaken (stem ++ toString j) = true) (fuel : Nat) :
    firstFree? stem isTaken fuel n = if k < n + fuel then some (stem ++ toString k) else none := by
  induction fuel generalizing n with
  | zero => rw [if_neg (by omega), firstFree?]
  | succ fuel ih =>
    simp only [firstFree?]
    rcases Nat.eq_or_lt_of_le start with rfl | later
    · rw [free, if_neg Bool.false_ne_true, if_pos (by omega)]
    · rw [before n (Nat.le_refl n) later, if_pos rfl,
        ih later fun j low high => before j (by omega) high, Nat.add_assoc n 1, Nat.add_comm 1]

/-- So many numbers in a row are taken by no fewer names. -/
theorem le_of_taken {names : List String} {m : Nat}
    (taken : ∀ j, n ≤ j → j < n + m → stem ++ toString j ∈ names) : m ≤ names.length := by
  have sub : (Finset.Ico n (n + m)).image (fun k => stem ++ toString k) ⊆ names.toFinset := by
    intro name h
    obtain ⟨j, hj, rfl⟩ := Finset.mem_image.mp h
    obtain ⟨low, high⟩ := Finset.mem_Ico.mp hj
    exact List.mem_toFinset.mpr (taken j low high)
  calc m = (Finset.Ico n (n + m)).card := by rw [Nat.card_Ico, Nat.add_sub_cancel_left]
    _ = _ := (Finset.card_image_of_injective _ (numbered_injective stem)).symm
    _ ≤ names.toFinset.card := Finset.card_le_card sub
    _ ≤ names.length := List.toFinset_card_le names

end Search

/-- **A fresh name has the least number that is free,** as long as there are fewer names than
numbers to try. -/
theorem freshName_numbered {className : String} {isTaken : String → Bool} {names : List String}
    (all : ∀ name, isTaken name = true → name ∈ names) (few : names.length < candidates) :
    ∃ k, 1 ≤ k ∧ k ≤ names.length + 1 ∧
      freshName className isTaken = nameStem className ++ toString k ∧
      isTaken (nameStem className ++ toString k) = false ∧
      ∀ j, 1 ≤ j → j < k → isTaken (nameStem className ++ toString j) = true := by
  simp only [freshName]
  cases found : firstFree? (nameStem className) isTaken candidates 1 with
  | none =>
    have crowded := le_of_taken fun j low high => all _ (firstFree?_none found j low high)
    omega
  | some name =>
    obtain ⟨k, positive, -, rfl, free, before⟩ := firstFree?_some found
    have crowded : k - 1 ≤ names.length :=
      le_of_taken fun j low high => all _ (before j low (by omega))
    exact ⟨k, positive, by omega, rfl, free, before⟩

/-! ## 5. Literals -/

/-- What the characters of identifiers and a digit at the end are read as. -/
theorem ofTrimmed?_word {first d : Char} {rest : List Char}
    (words : ∀ c ∈ first :: rest, isWordChar c) (last : (first :: rest).getLast? = some d)
    (digit : d.isDigit) : Literal.ofTrimmed? (first :: rest) =
      if first.isDigit then (Literal.number? (first :: rest)).map .primitive
      else some (.name (String.ofList (first :: rest))) := by
  have keyword : ∀ w : List Char, w.getLast?.any Char.isDigit = false → first :: rest ≠ w := by
    rintro w letter rfl
    rw [last, Option.any_some, digit] at letter
    cases letter
  have word := words first List.mem_cons_self
  have named : (first :: rest).all Literal.isNameChar = true := by
    rw [List.all_eq_true]
    intro c hc
    have proper := words c hc
    simp only [isWordChar, Bool.or_eq_true, decide_eq_true_eq] at proper
    simpa [Literal.isNameChar, Text.isAlphanumeric_of_ascii (ascii_of_isWordChar (words c hc))]
      using .inl proper
  have other : ∀ m ∈ marks, first ≠ m := fun m hm => ne_of_isWordChar word hm
  simp only [marks, List.mem_cons, List.not_mem_nil, or_false, forall_eq_or_imp, forall_eq] at other
  simp only [Literal.ofTrimmed?]
  rw [if_neg (keyword _ rfl), if_neg (keyword _ rfl), if_neg (keyword _ rfl)]
  simp [other, named]

theorem parse_word {text : String} {first d : Char} {rest : List Char}
    (chars : text.toList = first :: rest) (words : ∀ c ∈ first :: rest, isWordChar c)
    (last : (first :: rest).getLast? = some d) (digit : d.isDigit) :
    Literal.parse text = .ok (.name text) ↔ first.isDigit = false := by
  have trimmed : Text.trim (first :: rest) = first :: rest := by
    apply Text.trim_eq
    · exact fun c hc => isBlank_of_isWordChar (words c (List.mem_of_head? hc))
    · exact fun c hc => isBlank_of_isWordChar (words c (List.mem_of_getLast? hc))
  simp only [Literal.parse]
  rw [chars, trimmed, ofTrimmed?_word words last digit, ← chars, String.ofList_toList]
  cases first.isDigit with
  | true => cases Literal.number? text.toList <;> simp
  | false => simp

theorem toLower_of_isWordChar {c : Char} (h : isWordChar c) :
    isWordChar c.toLower ∧ c.toLower.isDigit = c.isDigit := by
  have all := Text.of_ascii (P := fun c =>
      isWordChar c → isWordChar c.toLower ∧ c.toLower.isDigit = c.isDigit)
    (by decide +kernel) (ascii_of_isWordChar h)
  simpa [h] using all

theorem isWordChar_of_mem_toDigits {k : Nat} {d : Char} (h : d ∈ Nat.toDigits 10 k) :
    isWordChar d ∧ d.isDigit := by
  have digit := Nat.isDigit_of_mem_toDigits (by decide) (by decide) h
  exact ⟨by simp [isWordChar, Char.isAlphanum, digit], digit⟩

/-- **A guessed name is read as a name** unless the simple name begins with a digit. -/
theorem parse_numbered (c : ClassName) (k : Nat) :
    Literal.parse (nameStem c.text ++ toString k) = .ok (.name (nameStem c.text ++ toString k)) ↔
      c.simple.first.isDigit = false := by
  obtain ⟨proper, same⟩ := toLower_of_isWordChar (c.simple.isWordChar_of_mem List.mem_cons_self)
  have inhabited : Nat.toDigits 10 k ≠ [] := Nat.toDigits_ne_nil
  have chars : (nameStem c.text ++ toString k).toList = c.simple.first.toLower ::
      (c.simple.rest ++ (List.replicate c.dimensions "Array".toList).flatten ++
        Nat.toDigits 10 k) := by
    simp [c.nameStem_text, Nat.toString_eq_repr]
  rw [parse_word chars _ _ _, same]
  · exact (Nat.toDigits 10 k).getLast inhabited
  · intro e he
    rcases List.mem_cons.mp he with rfl | he
    · exact proper
    rcases List.mem_append.mp he with he | he
    · rcases List.mem_append.mp he with he | he
      · exact c.simple.isWordChar_of_mem (List.mem_cons_of_mem _ he)
      · obtain ⟨w, hw, he⟩ := List.mem_flatten.mp he
        rw [List.eq_of_mem_replicate hw] at he
        have array : "Array".toList.all isWordChar = true := rfl
        exact List.all_eq_true.mp array e he
    · exact (isWordChar_of_mem_toDigits he).1
  · rw [← List.cons_append, List.getLast?_append_of_ne_nil _ inhabited,
      List.getLast?_eq_some_getLast]
  · exact (isWordChar_of_mem_toDigits (List.getLast_mem inhabited)).2

end Naming

end Debugger
