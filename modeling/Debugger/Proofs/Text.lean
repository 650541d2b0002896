import Mathlib.Algebra.Group.Int.Defs
import Mathlib.Algebra.Group.Nat.Defs
import Mathlib.Data.List.DropRight
import Mathlib.Data.List.TakeWhile
import Debugger.Text.Blank
import Debugger.Text.Number
import Debugger.Text.Quoted
/-!
# What the readers of text take

Literals, class names, hit counts and levels are read by the same few readers: white space is cut
off around them, whole numbers are folded up digit by digit, and the inside of a quoted text is
taken two characters at a time where it has a backslash. Each reader is compared here with a
description of what it reads that does not mention it.

* `Numeral` - a whole number as it is written, and `readSigned?_numeral`, what it is read as.
* `Spells` - what the inside of a quoted text spells, and `unescape?_eq_some`, that this is what is
  read.
* `IsPlain` - the characters that are shown by an escape that is read, or as they are.

## 1. White space

## 2. Digits

## 3. Numerals

## 4. Quoted text
-/

namespace Debugger.Text

variable {cs before after body text digits : List Char} {bits : Nat}

/-! ## 1. White space -/

/-- What holds of the first 128 scalars holds of ASCII. -/
theorem of_ascii {P : Char → Bool} (all : (List.range 128).all fun n => P (Char.ofNat n))
    {c : Char} (ascii : c.val < 0x80) : P c = true := by
  have small : c.toNat < 128 := ascii
  simpa using List.all_eq_true.mp all c.toNat (List.mem_range.mpr small)

theorem trimStart_eq (h : ∀ c ∈ cs.head?, isBlank c = false) : trimStart cs = cs := by
  cases cs with
  | nil => rfl
  | cons c cs => simp [trimStart, h c rfl]

theorem trimEnd_eq (h : ∀ c ∈ cs.getLast?, isBlank c = false) : trimEnd cs = cs := by
  have start : trimStart cs.reverse = cs.reverse := by
    apply trimStart_eq
    rwa [List.head?_reverse]
  show (trimStart cs.reverse).reverse = cs
  rw [start, List.reverse_reverse]

theorem trim_eq (first : ∀ c ∈ cs.head?, isBlank c = false)
    (last : ∀ c ∈ cs.getLast?, isBlank c = false) : trim cs = cs := by
  unfold trim
  rw [trimStart_eq first, trimEnd_eq last]

theorem trim_blank (h : ∀ c ∈ cs, isBlank c) : trim cs = [] := by
  have nothing : trimStart cs = [] := List.dropWhile_eq_nil_iff.mpr h
  rw [trim, nothing]
  rfl

theorem trimStart_append_cons {c : Char} (ink : isBlank c = false) (cs rest : List Char) :
    trimStart (cs ++ c :: rest) = trimStart cs ++ c :: rest := by
  have kept : (c :: rest).dropWhile isBlank = c :: rest := by
    rw [List.dropWhile_cons, if_neg (Bool.eq_false_iff.mp ink)]
  unfold trimStart
  rw [List.dropWhile_append, kept]
  split
  · next nothing => rw [List.isEmpty_iff.mp nothing, List.nil_append]
  · rfl

theorem trimEnd_append_cons {c : Char} (ink : isBlank c = false) (cs rest : List Char) :
    trimEnd (cs ++ c :: rest) = cs ++ c :: trimEnd rest := by
  have turned : (cs ++ c :: rest).reverse = rest.reverse ++ c :: cs.reverse := by simp
  show (trimStart (cs ++ c :: rest).reverse).reverse = cs ++ c :: (trimStart rest.reverse).reverse
  rw [turned, trimStart_append_cons ink]
  simp

theorem trimStart_blank (blank : ∀ c ∈ before, isBlank c) (cs : List Char) :
    trimStart (before ++ cs) = trimStart cs :=
  List.dropWhile_append_of_pos blank

theorem trimEnd_blank (blank : ∀ c ∈ after, isBlank c) (cs : List Char) :
    trimEnd (cs ++ after) = trimEnd cs := by
  show (trimStart (cs ++ after).reverse).reverse = (trimStart cs.reverse).reverse
  rw [List.reverse_append, trimStart_blank]
  exact fun c hc => blank c (List.mem_reverse.mp hc)

theorem exists_trimStart (cs : List Char) :
    ∃ before, (∀ c ∈ before, isBlank c) ∧ before ++ trimStart cs = cs :=
  ⟨cs.takeWhile isBlank, fun _ h => List.mem_takeWhile_imp h, List.takeWhile_append_dropWhile⟩

theorem exists_trimEnd (cs : List Char) :
    ∃ after, (∀ c ∈ after, isBlank c) ∧ trimEnd cs ++ after = cs :=
  ⟨cs.rtakeWhile isBlank, fun _ h => List.mem_rtakeWhile_imp h,
    List.rdropWhile_append_rtakeWhile⟩

theorem head?_trimStart (cs : List Char) : ∀ c ∈ (trimStart cs).head?, isBlank c = false := by
  intro c first
  have first : (cs.dropWhile isBlank).head? = some c := first
  have stopped := List.head?_dropWhile_not isBlank cs
  rw [first] at stopped
  exact stopped

theorem getLast?_trimEnd (cs : List Char) : ∀ c ∈ (trimEnd cs).getLast?, isBlank c = false := by
  show ∀ c ∈ (trimStart cs.reverse).reverse.getLast?, isBlank c = false
  rw [List.getLast?_reverse]
  exact head?_trimStart cs.reverse

theorem trimEnd_trimEnd (cs : List Char) : trimEnd (trimEnd cs) = trimEnd cs :=
  trimEnd_eq (getLast?_trimEnd cs)

/-- The two ends of a text are trimmed in either order. -/
theorem trim_eq_trimStart (cs : List Char) : trim cs = trimStart (trimEnd cs) := by
  by_cases blank : ∀ c ∈ cs, isBlank c
  · have nothing : trimEnd cs = [] := trimEnd_blank blank []
    rw [trim_blank blank, nothing]
    rfl
  · -- A character that is no white space parts the text, and each side is trimmed by itself.
    push Not at blank
    obtain ⟨c, mem, marked⟩ := blank
    have ink : isBlank c = false := Bool.eq_false_iff.mpr marked
    obtain ⟨left, right, rfl⟩ := List.append_of_mem mem
    rw [trim, trimStart_append_cons ink, trimEnd_append_cons ink, trimEnd_append_cons ink,
      trimStart_append_cons ink]

theorem trim_trim (cs : List Char) : trim (trim cs) = trim cs := by
  apply trim_eq
  · rw [trim_eq_trimStart]
    exact head?_trimStart _
  · exact getLast?_trimEnd _

theorem exists_trim (cs : List Char) :
    ∃ before after, (∀ c ∈ before, isBlank c) ∧ (∀ c ∈ after, isBlank c) ∧
      before ++ trim cs ++ after = cs := by
  obtain ⟨before, blank, started⟩ := exists_trimStart cs
  obtain ⟨after, blank', ended⟩ := exists_trimEnd (trimStart cs)
  refine ⟨before, after, blank, blank', ?_⟩
  rw [trim, List.append_assoc, ended, started]

theorem trim_eq_nil_iff : trim cs = [] ↔ ∀ c ∈ cs, isBlank c := by
  refine ⟨fun nothing => ?_, trim_blank⟩
  obtain ⟨before, after, blank, blank', parts⟩ := exists_trim cs
  rw [nothing, List.append_nil] at parts
  rw [← parts]
  exact fun c there => (List.mem_append.mp there).elim (blank c) (blank' c)

theorem trim_padded (blank : ∀ c ∈ before, isBlank c) (blank' : ∀ c ∈ after, isBlank c)
    (cs : List Char) : trim (before ++ cs ++ after) = trim cs := by
  rw [trim_eq_trimStart, trimEnd_blank blank', ← trim_eq_trimStart, trim, trimStart_blank blank,
    trim]

/-- White space inside quotes is part of the text. -/
theorem trim_quoted {quote : Char} (ink : isBlank quote = false) (body : List Char) :
    trim (quote :: body ++ [quote]) = quote :: body ++ [quote] := by
  apply trim_eq
  · rintro c ⟨⟩
    exact ink
  · rw [List.getLast?_concat]
    rintro c ⟨⟩
    exact ink

theorem dropTail?_append (cs tail : List Char) : dropTail? tail (cs ++ tail) = some cs := by
  have ends : tail.isSuffixOf (cs ++ tail) = true :=
    List.isSuffixOf_iff_suffix.mpr (List.suffix_append cs tail)
  simp [dropTail?, ends]

theorem dropTail?_eq_some {stem tail : List Char} :
    dropTail? tail cs = some stem ↔ stem ++ tail = cs := by
  constructor
  · intro dropped
    simp only [dropTail?] at dropped
    split at dropped
    · next ends =>
      obtain ⟨before, rfl⟩ := List.isSuffixOf_iff_suffix.mp ends
      simp only [List.length_append, Nat.add_sub_cancel_right, List.take_left] at dropped
      rw [Option.some.inj dropped]
    · cases dropped
  · rintro rfl
    exact dropTail?_append stem tail

/-! ## 2. Digits -/

theorem isBlank_of_isDigit {c : Char} (digit : c.isDigit = true) : isBlank c = false := by
  have ascii : c.val < 0x80 := by
    simp only [Char.isDigit, Bool.and_eq_true, decide_eq_true_eq] at digit
    exact UInt32.lt_of_le_of_lt digit.2 (by decide)
  have all := of_ascii (P := fun c => c.isDigit → !isBlank c) (by decide +kernel) ascii
  simpa [digit] using all

/-- Digits and nothing else, and their value to the base ten. -/
theorem readDigits?_eq_some {n : Nat} : readDigits? cs = some n ↔
    (cs ≠ [] ∧ ∀ c ∈ cs, c.isDigit = true) ∧ Nat.ofDigitChars 10 cs 0 = n := by
  unfold readDigits?
  split
  · next digits =>
    simp only [Bool.and_eq_true, Bool.not_eq_true', List.isEmpty_eq_false_iff,
      List.all_eq_true] at digits
    exact ⟨fun h => ⟨digits, Option.some.inj h⟩, fun h => congrArg some h.2⟩
  · next other =>
    simp only [Bool.and_eq_true, Bool.not_eq_true', List.isEmpty_eq_false_iff,
      List.all_eq_true] at other
    exact ⟨nofun, fun h => absurd h.1 other⟩

theorem head?_ne_of_isDigit {mark : Char} (decimal : ∀ c ∈ digits, c.isDigit = true)
    (other : mark.isDigit = false) : digits.head? ≠ some mark := by
  intro h
  rw [decimal mark (List.mem_of_head? h)] at other
  cases other

theorem readUnsigned?_eq_some {n : Nat} : readUnsigned? bits cs = some n ↔
    ∃ sign digits, cs = sign ++ digits ∧ (sign = [] ∨ sign = ['+']) ∧
      (digits ≠ [] ∧ ∀ c ∈ digits, c.isDigit = true) ∧ Nat.ofDigitChars 10 digits 0 = n ∧
      n < 2 ^ bits := by
  have shape : readUnsigned? bits cs = some n ↔
      readDigits? (if cs.head? = some '+' then cs.tail else cs) = some n ∧ n < 2 ^ bits := by
    unfold readUnsigned?
    cases readDigits? (if cs.head? = some '+' then cs.tail else cs) with
    | none => exact ⟨nofun, fun h => nomatch h.1⟩
    | some m =>
      show (if m < 2 ^ bits then some m else none) = some n ↔ _
      split
      · next small => exact ⟨fun h => ⟨h, Option.some.inj h ▸ small⟩, And.left⟩
      · next large => exact ⟨nofun, fun h => absurd (Option.some.inj h.1 ▸ h.2) large⟩
  rw [shape, readDigits?_eq_some]
  constructor
  · rintro ⟨⟨digits, value⟩, small⟩
    split at digits
    · next plus =>
      rw [if_pos plus] at value
      obtain ⟨rest, rfl⟩ := List.head?_eq_some_iff.mp plus
      exact ⟨['+'], rest, rfl, .inr rfl, digits, value, small⟩
    · next plain =>
      rw [if_neg plain] at value
      exact ⟨[], cs, rfl, .inl rfl, digits, value, small⟩
  · rintro ⟨sign, digits, rfl, rfl | rfl, decimal, value, small⟩
    · have plain : ([] ++ digits).head? ≠ some '+' := head?_ne_of_isDigit decimal.2 rfl
      rw [if_neg plain]
      exact ⟨⟨decimal, value⟩, small⟩
    · have plus : (['+'] ++ digits).head? = some '+' := rfl
      rw [if_pos plus]
      exact ⟨⟨decimal, value⟩, small⟩

/-! ## 3. Numerals -/

/-- A whole number as it is written: a minus sign or none, and digits. -/
structure Numeral where
  negative : Bool
  digits : List Char
  proper : digits ≠ [] ∧ ∀ c ∈ digits, c.isDigit = true

namespace Numeral

def chars (n : Numeral) : List Char := if n.negative then '-' :: n.digits else n.digits

/-- The number that a numeral stands for. -/
def value (n : Numeral) : Int :=
  let size : Int := Nat.ofDigitChars 10 n.digits 0
  if n.negative then -size else size

/-- The numeral that an integer is shown as. -/
def ofInt (i : Int) : Numeral where
  negative := i < 0
  digits := Nat.toDigits 10 i.natAbs
  proper := ⟨Nat.toDigits_ne_nil, fun _ h => Nat.isDigit_of_mem_toDigits (by decide) (by decide) h⟩

theorem value_ofInt (i : Int) : (ofInt i).value = i := by
  have size : Nat.ofDigitChars 10 (Nat.toDigits 10 i.natAbs) 0 = i.natAbs :=
    Nat.ofDigitChars_toDigits (by decide) (by decide)
  simp only [ofInt, value, size, decide_eq_true_eq]
  split <;> omega

theorem toList_toString (i : Int) : (toString i).toList = (ofInt i).chars := by
  simp only [ofInt, chars, Int.toString_eq_repr, Int.repr_eq_if, decide_eq_true_eq]
  by_cases negative : i < 0
  · have size : (-i).toNat = i.natAbs := by omega
    rw [if_neg (Int.not_le.mpr negative), if_pos negative, size]
    simp
  · have size : i.toNat = i.natAbs := by omega
    rw [if_pos (Int.not_lt.mp negative), if_neg negative, size]
    simp

/-- A numeral begins with a digit or a minus sign. -/
theorem head_chars (n : Numeral) :
    ∃ c rest, n.chars = c :: rest ∧ (c.isDigit = true ∨ c = '-') := by
  unfold chars
  split
  · exact ⟨'-', n.digits, rfl, .inr rfl⟩
  · obtain ⟨c, rest, made⟩ := List.exists_cons_of_ne_nil n.proper.1
    exact ⟨c, rest, made, .inl (n.proper.2 c (made ▸ List.mem_cons_self))⟩

/-- A numeral ends in a digit. -/
theorem getLast?_chars (n : Numeral) : ∃ c, n.chars.getLast? = some c ∧ c.isDigit = true := by
  refine ⟨n.digits.getLast n.proper.1, ?_, n.proper.2 _ (List.getLast_mem _)⟩
  have last : n.digits.getLast? = some (n.digits.getLast n.proper.1) :=
    List.getLast?_eq_some_getLast n.proper.1
  unfold chars
  split
  · rw [List.getLast?_cons, last, Option.getD_some]
  · exact last

theorem mem_chars {n : Numeral} {c : Char} (h : c ∈ n.chars) : c.isDigit = true ∨ c = '-' := by
  unfold chars at h
  split at h
  · rcases List.mem_cons.mp h with rfl | h
    · exact .inr rfl
    · exact .inl (n.proper.2 c h)
  · exact .inl (n.proper.2 c h)

end Numeral

/-- **A numeral is read as its value,** if that is a number of the given width. -/
theorem readSigned?_numeral (bits : Nat) (n : Numeral) : readSigned? bits n.chars =
    if -(2 ^ (bits - 1) : Int) ≤ n.value ∧ n.value < 2 ^ (bits - 1) then some n.value
    else none := by
  have read : readDigits? n.digits = some (Nat.ofDigitChars 10 n.digits 0) :=
    readDigits?_eq_some.mpr ⟨n.proper, rfl⟩
  have limit : ((Nat.pow 2 (bits - 1) : Nat) : Int) = 2 ^ (bits - 1) := by simp
  unfold readSigned? Numeral.chars Numeral.value
  cases n.negative with
  | true =>
    have minus : ('-' :: n.digits).head? = some '-' := rfl
    simp only [if_true, minus, List.tail_cons, read, limit]
    rfl
  | false =>
    have noMinus : n.digits.head? ≠ some '-' := head?_ne_of_isDigit n.proper.2 rfl
    have noPlus : n.digits.head? ≠ some '+' := head?_ne_of_isDigit n.proper.2 rfl
    simp only [Bool.false_eq_true, if_false, noMinus, noPlus, read, limit]
    rfl

/-- **Only a numeral is read as a number,** unless there is a plus sign. -/
theorem exists_numeral {i : Int} (read : readSigned? bits cs = some i)
    (unsigned : cs.head? ≠ some '+') : ∃ n : Numeral, n.chars = cs := by
  unfold readSigned? at read
  by_cases minus : cs.head? = some '-'
  · obtain ⟨rest, rfl⟩ := List.head?_eq_some_iff.mp minus
    cases digits : readDigits? rest with
    | none => simp [digits] at read
    | some size => exact ⟨⟨true, rest, (readDigits?_eq_some.mp digits).1⟩, rfl⟩
  · cases digits : readDigits? cs with
    | none => simp [minus, unsigned, digits] at read
    | some size => exact ⟨⟨false, cs, (readDigits?_eq_some.mp digits).1⟩, rfl⟩

/-! ## 4. Quoted text -/

/-- The escapes of a quoted text: what stands behind the backslash, and what it stands for. -/
def escapes : List (Char × Char) :=
  [('n', '\n'), ('t', '\t'), ('r', '\r'), ('0', '\x00'), ('\\', '\\'), ('"', '"'), ('\'', '\'')]

/-- The inside of a quoted text spells a text: a backslash begins an escape, and every other
character, a quote too, stands for itself. -/
inductive Spells : List Char → List Char → Prop
  | nil : Spells [] []
  | plain {c : Char} {body text : List Char} (ordinary : c ≠ '\\') (rest : Spells body text) :
      Spells (c :: body) (c :: text)
  | escape {e c : Char} {body text : List Char} (pair : (e, c) ∈ escapes)
      (rest : Spells body text) : Spells ('\\' :: e :: body) (c :: text)

theorem escaped?_eq_some {e c : Char} : escaped? e = some c ↔ (e, c) ∈ escapes := by
  simp only [escapes, List.mem_cons, List.not_mem_nil, or_false, Prod.mk.injEq]
  constructor
  · intro h
    unfold escaped? at h
    repeat' split at h
    all_goals cases h
    all_goals simp_all [or_assoc]
  · intro pair
    rcases pair with ⟨rfl, rfl⟩ | ⟨rfl, rfl⟩ | ⟨rfl, rfl⟩ | ⟨rfl, rfl⟩ | ⟨rfl, rfl⟩ | ⟨rfl, rfl⟩ |
      ⟨rfl, rfl⟩ <;> rfl

theorem unescape?_plain {c : Char} (ordinary : c ≠ '\\') (body : List Char) :
    unescape? (c :: body) = (unescape? body).map (c :: ·) := by
  rw [unescape?.eq_def]
  exact if_neg ordinary

theorem unescape?_escape (e : Char) (body : List Char) : unescape? ('\\' :: e :: body) =
    (escaped? e).bind fun c => (unescape? body).map (c :: ·) := by
  rw [unescape?.eq_def]
  simp only [if_true]
  cases escaped? e with
  | none => rfl
  | some c => cases unescape? body <;> rfl

/-- **What is read is what is spelled.** -/
theorem unescape?_eq_some : unescape? body = some text ↔ Spells body text := by
  constructor
  · intro h
    fun_induction unescape? body generalizing text with
    | case1 =>
      cases h
      exact .nil
    | case2 => cases h
    | case3 e body ih =>
      obtain ⟨c, pair, h⟩ := Option.bind_eq_some_iff.mp h
      obtain ⟨rest, read, h⟩ := Option.bind_eq_some_iff.mp h
      cases h
      exact .escape (escaped?_eq_some.mp pair) (ih read)
    | case4 c body ordinary ih =>
      obtain ⟨rest, read, rfl⟩ := Option.map_eq_some_iff.mp h
      exact .plain ordinary (ih read)
  · intro h
    induction h with
    | nil => rfl
    | plain ordinary _ ih => rw [unescape?_plain ordinary, ih, Option.map_some]
    | escape pair _ ih =>
      rw [unescape?_escape, escaped?_eq_some.mpr pair, Option.bind_some, ih, Option.map_some]

/-- **Every text can be spelled.** -/
theorem exists_spells (text : List Char) : ∃ body, Spells body text := by
  induction text with
  | nil => exact ⟨[], .nil⟩
  | cons c text ih =>
    obtain ⟨body, spells⟩ := ih
    by_cases ordinary : c = '\\'
    · subst ordinary
      exact ⟨'\\' :: '\\' :: body, .escape (by simp [escapes]) spells⟩
    · exact ⟨c :: body, .plain ordinary spells⟩

/-- The characters that are shown without their number: printable ASCII and three controls. -/
def IsPlain (c : Char) : Prop :=
  c ∈ ['\t', '\r', '\n'] ∨ (0x20 ≤ c.val ∧ c.val ≤ 0x7e)

instance (c : Char) : Decidable (IsPlain c) := inferInstanceAs (Decidable (_ ∨ _))

/-- What is shown for such a character spells it. -/
theorem spells_escapePlain {c : Char} (plain : IsPlain c) : Spells (escapePlain c) [c] := by
  unfold escapePlain
  split
  · next tab =>
    subst tab
    exact .escape (by simp [escapes]) .nil
  split
  · next carriageReturn =>
    subst carriageReturn
    exact .escape (by simp [escapes]) .nil
  split
  · next lineFeed =>
    subst lineFeed
    exact .escape (by simp [escapes]) .nil
  split
  · next mark =>
    simp only [Bool.or_eq_true, decide_eq_true_eq] at mark
    refine .escape ?_ .nil
    rcases mark with (rfl | rfl) | rfl <;> simp [escapes]
  · next noMark =>
    simp only [Bool.or_eq_true, decide_eq_true_eq, not_or] at noMark
    have printable : 0x20 ≤ c.val ∧ c.val ≤ 0x7e := by
      rcases plain with control | printable
      · simp_all
      · exact printable
    rw [if_pos (by simpa using printable)]
    exact .plain noMark.2 .nil

theorem escapePlain_numbered {c : Char} (numbered : ¬ IsPlain c) : escapePlain c = hexEscape c := by
  simp only [IsPlain, List.mem_cons, List.not_mem_nil, or_false, not_or] at numbered
  obtain ⟨⟨noTab, noReturn, noFeed⟩, unprintable⟩ := numbered
  have noMark : ∀ d : Char, (0x20 ≤ d.val ∧ d.val ≤ 0x7e) → c ≠ d := by
    rintro d printable rfl
    exact unprintable printable
  have unmarked : (decide (c = '\'') || decide (c = '"') || decide (c = '\\')) = false := by
    simp [noMark '\'' (by decide), noMark '"' (by decide), noMark '\\' (by decide)]
  unfold escapePlain
  rw [if_neg noTab, if_neg noReturn, if_neg noFeed, unmarked, if_neg Bool.false_ne_true,
    if_neg (by simpa using unprintable)]

/-- The number of a scalar is no escape that is read. -/
theorem unescape?_hexEscape (c : Char) : unescape? (hexEscape c) = none := by
  show unescape? ('\\' :: 'u' :: _) = none
  rw [unescape?_escape]
  rfl

end Debugger.Text
