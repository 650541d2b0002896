import Mathlib.Data.List.DropRight
import Mathlib.Data.List.Induction
import Debugger.Naming
import Debugger.Proofs.Text
/-!
# Stems

A guessed name begins with the stem of a class name. The class name is taken apart from its end,
with white space cut off between the cuts, and nothing checks before that it is one: it may be any
text. So the parts of a class name are given here in such a way that every text has them.

* `Element` - what is left without the dimensions: packages and outer classes, the simple name, type
  arguments.
* `Reading` - an element with its dimensions. `Reading.exists_chars` and `Reading.unique` say that
  every text has one, and that the simple name and the number of dimensions are the same in all it
  has.
* `Reading.nameStem_text` - the stem is made of these two.

What the stem does not depend on is then shown on readings: a text gets another reading by one more
dimension, by a package in front or by type arguments behind it.

## 1. Simple names

## 2. Dimensions

## 3. Readings

## 4. What makes no difference
-/

namespace Debugger.Naming

/-! ## 1. Simple names -/

theorem mem_takeWhile_append {p : Char → Bool} {c : Char} {xs ys : List Char}
    (h : c ∈ (xs ++ ys).takeWhile p) : c ∈ xs.takeWhile p ∨ c ∈ ys.takeWhile p := by
  rw [List.takeWhile_append] at h
  split at h
  · next all =>
    rw [(List.takeWhile_prefix p).eq_of_length all]
    exact List.mem_append.mp h
  · exact .inl h

theorem ne_of_isBlank {c d : Char} (blank : Text.isBlank c) (ink : Text.isBlank d = false) :
    c ≠ d := by
  rintro rfl
  rw [blank] at ink
  cases ink

theorem isSeparator_of_isBlank {c : Char} (blank : Text.isBlank c) : isSeparator c = false := by
  have noStop : c ≠ '.' := ne_of_isBlank blank (by decide)
  have noDollar : c ≠ '$' := ne_of_isBlank blank (by decide)
  simp [isSeparator, noStop, noDollar]

/-- The simple name stands between the last separator and the first angle bracket. -/
theorem simpleName_eq_trim {cs outer inner : List Char}
    (plain : cs.takeWhile (· ≠ '<') = outer ++ inner)
    (ended : ∀ c ∈ outer.getLast?, isSeparator c)
    (whole : ∀ c ∈ inner, isSeparator c = false) : simpleName cs = Text.trim inner := by
  have nothing : outer.reverse.takeWhile (!isSeparator ·) = [] := by
    rcases List.eq_nil_or_concat' outer with rfl | ⟨before, c, rfl⟩
    · rfl
    · have separator := ended c (List.getLast?_concat ..)
      rw [List.reverse_append, List.reverse_singleton, List.singleton_append, List.takeWhile_cons,
        if_neg (by simp [separator])]
  unfold simpleName
  dsimp only
  rw [plain, List.reverse_append, List.takeWhile_append_of_pos, nothing, List.append_nil,
    List.reverse_reverse]
  intro c hc
  rw [whole c (List.mem_reverse.mp hc)]
  rfl

/-- A run of white space. -/
structure Gap where
  chars : List Char
  blank : ∀ c ∈ chars, Text.isBlank c

namespace Gap

def none : Gap := ⟨[], nofun⟩

@[simp] theorem chars_none : none.chars = [] := rfl

def append (g h : Gap) : Gap where
  chars := g.chars ++ h.chars
  blank c hc := (List.mem_append.mp hc).elim (g.blank c) (h.blank c)

end Gap

/-- A class name without dimensions, by its parts. -/
structure Element where
  /-- The packages and the outer classes, with the separator behind the last of them. -/
  outer : List Char
  gap : Gap
  simple : List Char
  /-- The type arguments, with the white space in front of the first angle bracket. -/
  behind : List Char
  outer_plain : '<' ∉ outer
  outer_ends : ∀ c ∈ outer.getLast?, isSeparator c
  simple_plain : ∀ c ∈ simple, c ≠ '<' ∧ isSeparator c = false
  simple_trim : Text.trim simple = simple
  behind_blank : ∀ c ∈ behind.takeWhile (· ≠ '<'), Text.isBlank c

namespace Element

def chars (e : Element) : List Char := e.outer ++ e.gap.chars ++ e.simple ++ e.behind

theorem simpleName_chars (e : Element) : simpleName e.chars = e.simple := by
  have plain : e.chars.takeWhile (· ≠ '<') =
      e.outer ++ (e.gap.chars ++ e.simple ++ e.behind.takeWhile (· ≠ '<')) := by
    unfold chars
    rw [List.takeWhile_append_of_pos]
    · simp only [List.append_assoc]
    · intro c hc
      rw [decide_eq_true_eq]
      rcases List.mem_append.mp hc with hc | hc
      · rcases List.mem_append.mp hc with hc | hc
        · rintro rfl
          exact e.outer_plain hc
        · exact ne_of_isBlank (e.gap.blank c hc) (by decide)
      · exact (e.simple_plain c hc).1
  rw [simpleName_eq_trim plain e.outer_ends, Text.trim_padded e.gap.blank e.behind_blank,
    e.simple_trim]
  intro c hc
  rcases List.mem_append.mp hc with hc | hc
  · rcases List.mem_append.mp hc with hc | hc
    · exact isSeparator_of_isBlank (e.gap.blank c hc)
    · exact (e.simple_plain c hc).2
  · exact isSeparator_of_isBlank (e.behind_blank c hc)

/-- **Every text is an element.** The first angle bracket is looked for first, and then the last
separator in front of it. -/
theorem exists_chars (cs : List Char) : ∃ e : Element, e.chars = cs := by
  let plain := cs.takeWhile (· ≠ '<')
  let inner := plain.rtakeWhile (!isSeparator ·)
  have parted : plain.rdropWhile (!isSeparator ·) ++ inner = plain :=
    List.rdropWhile_append_rtakeWhile
  have unopened : ∀ c ∈ plain, c ≠ '<' := fun c hc => by simpa using List.mem_takeWhile_imp hc
  obtain ⟨before, after, blank, blank', padded⟩ := Text.exists_trim inner
  refine ⟨{ outer := plain.rdropWhile (!isSeparator ·), gap := ⟨before, blank⟩
            simple := Text.trim inner, behind := after ++ cs.dropWhile (· ≠ '<')
            outer_plain := ?_, outer_ends := ?_, simple_plain := ?_
            simple_trim := Text.trim_trim inner, behind_blank := ?_ }, ?_⟩
  · intro opened
    exact unopened _ ((List.rdropWhile_prefix _ _).subset opened) rfl
  · intro c last
    obtain ⟨some, rfl⟩ := List.mem_getLast?_eq_getLast last
    simpa using List.rdropWhile_last_not _ plain some
  · intro c hc
    have inside : c ∈ inner := by
      rw [← padded]
      exact List.mem_append_left _ (List.mem_append_right _ hc)
    exact ⟨unopened c ((List.rtakeWhile_suffix _ _).subset inside),
      by simpa using List.mem_rtakeWhile_imp inside⟩
  · intro c hc
    rcases mem_takeWhile_append hc with hc | hc
    · exact blank' c ((List.takeWhile_prefix _).subset hc)
    · rw [List.takeWhile_eq_nil_iff.mpr (List.dropWhile_get_zero_not _ _)] at hc
      cases hc
  · calc plain.rdropWhile (!isSeparator ·) ++ before ++ Text.trim inner ++
          (after ++ cs.dropWhile (· ≠ '<'))
        = plain.rdropWhile (!isSeparator ·) ++ (before ++ Text.trim inner ++ after) ++
            cs.dropWhile (· ≠ '<') := by simp only [List.append_assoc]
      _ = plain ++ cs.dropWhile (· ≠ '<') := by rw [padded, parted]
      _ = cs := List.takeWhile_append_dropWhile

/-- More behind it: white space, or type arguments. -/
def extend (e : Element) (more : List Char)
    (blank : ∀ c ∈ more.takeWhile (· ≠ '<'), Text.isBlank c) : Element :=
  { e with
    behind := e.behind ++ more
    behind_blank := fun c hc => (mem_takeWhile_append hc).elim (e.behind_blank c) (blank c) }

theorem chars_extend (e : Element) (more : List Char) (blank) :
    (e.extend more blank).chars = e.chars ++ more := by
  simp only [chars, extend, List.append_assoc]

/-- One more package or outer class in front of it. -/
def within (e : Element) (p : List Char) (c : Char) (plain : '<' ∉ p) (ends : isSeparator c) :
    Element :=
  { e with
    outer := p ++ c :: e.outer
    outer_plain := by
      intro opened
      rcases List.mem_append.mp opened with inside | inside
      · exact plain inside
      rcases List.mem_cons.mp inside with rfl | inside
      · cases ends
      · exact e.outer_plain inside
    outer_ends := by
      rw [List.getLast?_append_cons, List.getLast?_cons]
      rintro d ⟨⟩
      cases last : e.outer.getLast? with
      | none => exact ends
      | some d => exact e.outer_ends d last }

theorem chars_within (e : Element) (p : List Char) (c : Char) (plain ends) :
    (e.within p c plain ends).chars = p ++ c :: e.chars := by
  simp only [chars, within, List.append_assoc, List.cons_append]

/-- White space in front of it belongs to the outer part, or to the gap where there is none. -/
theorem exists_indented (e : Element) (g : Gap) :
    ∃ e' : Element, e'.chars = g.chars ++ e.chars ∧ e'.simple = e.simple := by
  cases outer : e.outer with
  | nil => exact ⟨{ e with gap := g.append e.gap }, by simp [chars, outer, Gap.append], rfl⟩
  | cons c cs =>
    refine ⟨{ e with
        outer := g.chars ++ e.outer
        outer_plain := ?_
        outer_ends := ?_ }, by simp [chars], rfl⟩
    · intro opened
      rcases List.mem_append.mp opened with inside | inside
      · exact ne_of_isBlank (g.blank _ inside) (d := '<') (by decide) rfl
      · exact e.outer_plain inside
    · rw [List.getLast?_append_of_ne_nil _ (by simp [outer])]
      exact e.outer_ends

end Element

/-- White space around an element is not part of its simple name. -/
theorem simpleName_trim (cs : List Char) : simpleName (Text.trim cs) = simpleName cs := by
  obtain ⟨before, after, blank, blank', padded⟩ := Text.exists_trim cs
  obtain ⟨e, trimmed⟩ := Element.exists_chars (Text.trim cs)
  obtain ⟨e', indented, same⟩ := e.exists_indented ⟨before, blank⟩
  have unopened : ∀ c ∈ after.takeWhile (· ≠ '<'), Text.isBlank c := fun c hc =>
    blank' c ((List.takeWhile_prefix _).subset hc)
  calc simpleName (Text.trim cs) = e.simple := by rw [← trimmed, e.simpleName_chars]
    _ = e'.simple := same.symm
    _ = simpleName (e'.extend after unopened).chars :=
      (e'.extend after unopened).simpleName_chars.symm
    _ = simpleName cs := by rw [Element.chars_extend, indented, trimmed, padded]

/-! ## 2. Dimensions -/

theorem splitDimensions_of_bare {cs : List Char} (bare : ¬ brackets <:+ cs) :
    splitDimensions cs = (cs, 0) := by
  rw [splitDimensions]
  split
  · rfl
  · next element some => exact absurd ⟨element, Text.dropTail?_eq_some.mp some⟩ bare

theorem splitDimensions_append (cs : List Char) :
    splitDimensions (cs ++ brackets) =
      ((splitDimensions (Text.trimEnd cs)).1, (splitDimensions (Text.trimEnd cs)).2 + 1) := by
  rw [splitDimensions]
  split
  · next none => simp [Text.dropTail?_append] at none
  · next element some =>
    rw [Text.dropTail?_append] at some
    cases some
    rfl

/-- A text ends in no brackets, or it ends in a pair that is cut off with the white space in front
of it. -/
@[elab_as_elim]
theorem brackets_induction {motive : List Char → Prop}
    (bare : ∀ cs, ¬ brackets <:+ cs → motive cs)
    (pair : ∀ cs, motive (Text.trimEnd cs) → motive (cs ++ brackets)) (cs : List Char) :
    motive cs := by
  induction cs using splitDimensions.induct with
  | case1 cs none =>
    apply bare
    rintro ⟨element, rfl⟩
    rw [Text.dropTail?_append] at none
    cases none
  | case2 cs element some _ _ _ _ ih =>
    rw [← Text.dropTail?_eq_some.mp some]
    exact pair element ih

theorem splitDimensions_trimStart (cs : List Char) : splitDimensions (Text.trimStart cs) =
    (Text.trimStart (splitDimensions cs).1, (splitDimensions cs).2) := by
  induction cs using brackets_induction with
  | bare cs bare =>
    have bare' : ¬ brackets <:+ Text.trimStart cs := fun ends =>
      bare (ends.trans (List.dropWhile_suffix _))
    rw [splitDimensions_of_bare bare, splitDimensions_of_bare bare']
  | pair cs ih =>
    have start : Text.trimStart (cs ++ brackets) = Text.trimStart cs ++ brackets :=
      Text.trimStart_append_cons (by decide) cs _
    have swapped : Text.trimEnd (Text.trimStart cs) = Text.trimStart (Text.trimEnd cs) :=
      Text.trim_eq_trimStart cs
    rw [start, splitDimensions_append, splitDimensions_append, swapped, ih]

/-- Pairs of brackets, given by the white space in front of each. -/
def pairPart (pairs : List Gap) : List Char := pairs.flatMap fun g => g.chars ++ brackets

/-- **Each pair of brackets at the end is a dimension.** -/
theorem splitDimensions_pairs {cs : List Char} (bare : ¬ brackets <:+ Text.trimEnd cs)
    (pairs : List Gap) (ending : Gap) :
    splitDimensions (Text.trimEnd (cs ++ pairPart pairs ++ ending.chars)) =
      (Text.trimEnd cs, pairs.length) := by
  rw [Text.trimEnd_blank ending.blank]
  induction pairs using List.reverseRecOn with
  | nil =>
    rw [pairPart, List.flatMap_nil, List.append_nil]
    exact splitDimensions_of_bare bare
  | append_singleton pairs g ih =>
    have last : cs ++ pairPart (pairs ++ [g]) = cs ++ pairPart pairs ++ g.chars ++ brackets := by
      simp only [pairPart, List.flatMap_append, List.flatMap_singleton, List.append_assoc]
    have trimmed (cs : List Char) : Text.trimEnd (cs ++ brackets) = cs ++ brackets :=
      Text.trimEnd_append_cons (by decide) cs _
    rw [last, trimmed, splitDimensions_append, Text.trimEnd_blank g.blank, ih, List.length_append]
    rfl

/-! ## 3. Readings -/

/-- A text read as a class name: an element, its dimensions and white space behind them. -/
structure Reading where
  element : Element
  pairs : List Gap
  ending : Gap
  bare : ¬ brackets <:+ Text.trimEnd element.chars

namespace Reading

def chars (r : Reading) : List Char := r.element.chars ++ pairPart r.pairs ++ r.ending.chars

def text (r : Reading) : String := String.ofList r.chars

/-- One more dimension. -/
def addPair (r : Reading) (before after : Gap) : Reading :=
  { r with pairs := r.pairs ++ [r.ending.append before], ending := after }

theorem chars_addPair (r : Reading) (before after : Gap) :
    (r.addPair before after).chars = r.chars ++ before.chars ++ brackets ++ after.chars := by
  simp only [chars, addPair, pairPart, Gap.append, List.flatMap_append, List.flatMap_singleton,
    List.append_assoc]

/-- **Every text can be read as a class name.** -/
theorem exists_chars (cs : List Char) : ∃ r : Reading, r.chars = cs := by
  have trimmed : ∀ cs, Text.trimEnd cs = cs → ∀ after : Gap,
      ∃ r : Reading, r.chars = cs ++ after.chars := by
    intro cs
    induction cs using brackets_induction with
    | bare cs bare =>
      intro trimmed after
      obtain ⟨e, rfl⟩ := Element.exists_chars cs
      refine ⟨⟨e, [], after, by rwa [trimmed]⟩, ?_⟩
      simp only [chars, pairPart, List.flatMap_nil, List.append_nil]
    | pair cs ih =>
      intro _ after
      obtain ⟨before, blank, parted⟩ := Text.exists_trimEnd cs
      obtain ⟨r, read⟩ := ih (Text.trimEnd_trimEnd cs) ⟨before, blank⟩
      refine ⟨r.addPair .none after, ?_⟩
      rw [chars_addPair, read, parted, Gap.chars_none, List.append_nil]
  obtain ⟨after, blank, parted⟩ := Text.exists_trimEnd cs
  obtain ⟨r, read⟩ := trimmed _ (Text.trimEnd_trimEnd cs) ⟨after, blank⟩
  exact ⟨r, read.trans parted⟩

theorem exists_text (c : String) : ∃ r : Reading, r.text = c := by
  obtain ⟨r, read⟩ := exists_chars c.toList
  exact ⟨r, by rw [text, read, String.ofList_toList]⟩

theorem splitDimensions_chars (r : Reading) : splitDimensions (Text.trim r.chars) =
    (Text.trim r.element.chars, r.pairs.length) := by
  rw [Text.trim_eq_trimStart, splitDimensions_trimStart, chars, splitDimensions_pairs r.bare,
    ← Text.trim_eq_trimStart]

/-- **A text has one simple name and one number of dimensions,** however it is read. -/
theorem unique {r q : Reading} (same : r.chars = q.chars) :
    r.element.simple = q.element.simple ∧ r.pairs.length = q.pairs.length := by
  have split := r.splitDimensions_chars
  rw [same, q.splitDimensions_chars, Prod.mk.injEq] at split
  obtain ⟨element, dimensions⟩ := split
  refine ⟨?_, dimensions.symm⟩
  calc r.element.simple = simpleName (Text.trim r.element.chars) := by
        rw [simpleName_trim, Element.simpleName_chars]
    _ = simpleName (Text.trim q.element.chars) := by rw [element]
    _ = q.element.simple := by rw [simpleName_trim, Element.simpleName_chars]

/-- **The stem** is the simple name with a small first letter, and a word for each dimension. -/
theorem nameStem_text (r : Reading) : nameStem r.text = String.ofList
    (lowerFirst r.element.simple ++ (List.replicate r.pairs.length "Array".toList).flatten) := by
  unfold nameStem
  rw [text, String.toList_ofList, splitDimensions_chars]
  dsimp only
  rw [simpleName_trim, Element.simpleName_chars]

end Reading

/-! ## 4. What makes no difference -/

/-- Brackets do not reach over a character that is neither a bracket nor white space. -/
theorem bare_behind {cs : List Char} {d : Char} (ink : Text.isBlank d = false)
    (other : d ∉ brackets) (bare : ¬ brackets <:+ Text.trimEnd cs) (p : List Char) :
    ¬ brackets <:+ Text.trimEnd (p ++ d :: cs) := by
  rw [Text.trimEnd_append_cons ink]
  intro ends
  rcases List.suffix_or_suffix_of_suffix ends (List.suffix_append p _) with within | across
  · rcases List.suffix_cons_iff.mp within with whole | within
    · exact other (whole ▸ List.mem_cons_self)
    · exact bare within
  · exact other (across.subset List.mem_cons_self)

/-- Brackets at the end are there as well when the white space at the start is cut off. -/
theorem bare_of_trim {cs : List Char} (bare : ¬ brackets <:+ Text.trim cs) :
    ¬ brackets <:+ Text.trimEnd cs := by
  rintro ⟨before, ends⟩
  have trimmed : Text.trim cs = Text.trimStart before ++ brackets := by
    rw [Text.trim_eq_trimStart, ← ends]
    exact Text.trimStart_append_cons (by decide) before _
  exact bare (trimmed ▸ List.suffix_append _ _)

namespace Reading

variable (r : Reading)

theorem exists_within {p : List Char} {d : Char} (plain : '<' ∉ p) (ends : isSeparator d)
    (other : d ∉ brackets) : ∃ q : Reading, q.chars = p ++ d :: r.chars ∧
      q.element.simple = r.element.simple ∧ q.pairs = r.pairs := by
  have ink : Text.isBlank d = false := by
    cases blank : Text.isBlank d with
    | false => rfl
    | true =>
      rw [isSeparator_of_isBlank blank] at ends
      cases ends
  refine ⟨{ r with
      element := r.element.within p d plain ends
      bare := ?_ }, ?_, rfl, rfl⟩
  · rw [Element.chars_within]
    exact bare_behind ink other r.bare p
  · simp only [chars, Element.chars_within, List.append_assoc, List.cons_append]

theorem exists_generic (single : r.pairs = []) {g : List Char}
    (bare : ¬ brackets <:+ Text.trimEnd g) : ∃ q : Reading, q.chars = r.chars ++ '<' :: g ∧
      q.element.simple = r.element.simple ∧ q.pairs = r.pairs := by
  have blank : ∀ c ∈ (r.ending.chars ++ '<' :: g).takeWhile (· ≠ '<'), Text.isBlank c := by
    intro c hc
    rcases mem_takeWhile_append hc with hc | hc
    · exact r.ending.blank c ((List.takeWhile_prefix _).subset hc)
    · cases hc
  refine ⟨⟨r.element.extend _ blank, [], .none, ?_⟩, ?_, rfl, single.symm⟩
  · rw [Element.chars_extend, ← List.append_assoc]
    exact bare_behind (by decide) (by decide) bare _
  · simp only [chars, Element.chars_extend, single, pairPart, Gap.chars_none, List.flatMap_nil,
      List.append_nil, List.append_assoc]

theorem pairs_eq_nil (bare : ¬ brackets <:+ Text.trim r.chars) : r.pairs = [] := by
  have split := r.splitDimensions_chars
  rw [splitDimensions_of_bare bare, Prod.mk.injEq] at split
  exact List.length_eq_zero_iff.mp split.2.symm

end Reading

/-- A pair of brackets is one more dimension, whatever white space stands in front of it. -/
theorem nameStem_brackets (c w : String) (blank : ∀ d ∈ w.toList, Text.isBlank d) :
    nameStem (c ++ w ++ "[]") = nameStem c ++ "Array" := by
  obtain ⟨r, rfl⟩ := Reading.exists_text c
  have longer : (r.addPair ⟨w.toList, blank⟩ .none).text = r.text ++ w ++ "[]" := by
    apply String.toList_injective
    simp [Reading.text, Reading.chars_addPair, brackets]
  rw [← longer, Reading.nameStem_text, Reading.nameStem_text]
  apply String.toList_injective
  simp [Reading.addPair, List.replicate_succ']

/-- A package or an outer class in front is not part of the simple name. -/
theorem nameStem_within (p s : String) {mark : String} {d : Char} (single : mark.toList = [d])
    (plain : '<' ∉ p.toList) (ends : isSeparator d) (other : d ∉ brackets) :
    nameStem (p ++ mark ++ s) = nameStem s := by
  obtain ⟨r, rfl⟩ := Reading.exists_text s
  obtain ⟨q, within, simple, pairs⟩ := r.exists_within plain ends other
  have longer : q.text = p ++ mark ++ r.text := by
    apply String.toList_injective
    simp [Reading.text, within, single]
  rw [← longer, Reading.nameStem_text, Reading.nameStem_text, simple, pairs]

/-- Type arguments are not part of the simple name. If there are brackets in front of the first angle
bracket they belong to the simple name as long as it is there, and are dimensions without it. -/
theorem nameStem_generic (b g : String) (bare : ¬ brackets <:+ Text.trim b.toList)
    (bare' : ¬ brackets <:+ Text.trim g.toList) : nameStem (b ++ "<" ++ g) = nameStem b := by
  obtain ⟨r, rfl⟩ := Reading.exists_text b
  rw [Reading.text, String.toList_ofList] at bare
  obtain ⟨q, generic, simple, pairs⟩ :=
    r.exists_generic (r.pairs_eq_nil bare) (bare_of_trim bare')
  have longer : q.text = r.text ++ "<" ++ g := by
    apply String.toList_injective
    simp [Reading.text, generic]
  rw [← longer, Reading.nameStem_text, Reading.nameStem_text, simple, pairs]

/-- **The stem depends on the simple name and the dimensions only.** These two are the same however
a text is read, and neither packages and outer classes in front nor type arguments behind belong to
them. -/
theorem stem_depends_on_name_and_dimensions :
    -- Every text has one simple name and one number of dimensions, and the stem is made of them.
    (∀ c : String, ∃ r : Reading, r.text = c ∧
      (∀ q : Reading, q.text = c →
        q.element.simple = r.element.simple ∧ q.pairs.length = r.pairs.length) ∧
      nameStem c = String.ofList
        (lowerFirst r.element.simple ++ (List.replicate r.pairs.length "Array".toList).flatten)) ∧
    (∀ c w : String, (∀ d ∈ w.toList, Text.isBlank d) →
      nameStem (c ++ w ++ "[]") = nameStem c ++ "Array") ∧
    (∀ p s : String, '<' ∉ p.toList →
      nameStem (p ++ "." ++ s) = nameStem s ∧ nameStem (p ++ "$" ++ s) = nameStem s) ∧
    (∀ b g : String, ¬ brackets <:+ Text.trim b.toList → ¬ brackets <:+ Text.trim g.toList →
      nameStem (b ++ "<" ++ g) = nameStem b) := by
  refine ⟨?_, nameStem_brackets, ?_, nameStem_generic⟩
  · intro c
    obtain ⟨r, rfl⟩ := Reading.exists_text c
    exact ⟨r, rfl, fun q same => Reading.unique (String.ofList_injective same), r.nameStem_text⟩
  · intro p s plain
    have stop : ".".toList = ['.'] := rfl
    have dollar : "$".toList = ['$'] := rfl
    exact ⟨nameStem_within p s stop plain rfl (by decide),
      nameStem_within p s dollar plain rfl (by decide)⟩

/-- A class in a package, with type arguments that have separators and brackets themselves. -/
def nestedArray : Reading where
  element :=
    { outer := "java.util.".toList
      gap := .none
      simple := "Map".toList
      behind := " <q.K$L, V[]>".toList
      outer_plain := by decide
      outer_ends := by
        rintro c ⟨⟩
        rfl
      simple_plain := by simp [isSeparator]
      simple_trim := by decide
      behind_blank := List.all_eq_true.mp (by decide) }
  pairs := [.none, ⟨[' '], List.all_eq_true.mp rfl⟩]
  ending := .none
  bare := by decide

theorem nested_array_has_stem :
    nestedArray.text = "java.util.Map <q.K$L, V[]>[] []" ∧
    nameStem nestedArray.text = "mapArrayArray" ∧
    -- A no-break space and a tab are white space.
    (∀ d ∈ "\u00a0\t".toList, Text.isBlank d) ∧
    nameStem (nestedArray.text ++ "\u00a0\t" ++ "[]") = "mapArrayArrayArray" ∧
    '<' ∉ "p[]$q".toList ∧
    nameStem ("p[]$q" ++ "." ++ nestedArray.text) = "mapArrayArray" ∧
    nameStem ("p[]$q" ++ "$" ++ nestedArray.text) = "mapArrayArray" ∧
    ¬ brackets <:+ Text.trim "java.util.Map ".toList ∧
    ¬ brackets <:+ Text.trim "q.K$L, V[]> ".toList ∧
    nameStem ("java.util.Map " ++ "<" ++ "q.K$L, V[]> ") = "map" := by
  obtain ⟨parts, pair, outer, generic⟩ := stem_depends_on_name_and_dimensions
  have stem : nameStem nestedArray.text = "mapArrayArray" := by
    obtain ⟨r, -, only, stem⟩ := parts nestedArray.text
    obtain ⟨simple, dimensions⟩ := only nestedArray rfl
    rw [stem, ← simple, ← dimensions]
    decide
  have white : ∀ d ∈ "\u00a0\t".toList, Text.isBlank d := List.all_eq_true.mp (by decide)
  have plain : '<' ∉ "p[]$q".toList := by decide
  have bare : ¬ brackets <:+ Text.trim "java.util.Map ".toList := by decide
  have bare' : ¬ brackets <:+ Text.trim "q.K$L, V[]> ".toList := by decide
  obtain ⟨package, outerClass⟩ := outer _ nestedArray.text plain
  refine ⟨by decide, stem, white, ?_, plain, ?_, ?_, bare, bare', ?_⟩
  · rw [pair _ _ white, stem]
    decide
  · rw [package, stem]
  · rw [outerClass, stem]
  · rw [generic _ _ bare bare']
    decide +kernel

end Debugger.Naming
