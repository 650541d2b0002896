import Mathlib.Data.List.Induction
import Debugger.Log.Library
import Debugger.Proofs.Text
/-!
# What the text on top amounts to

The filter in effect is made of what two texts say, the configured one and one laid on top. They are
handed to the library together first, as one text with a comma between them; that says what the two
say, if both say something. Else the text on top is tried by itself, and then the configured one.

Of the library no more is assumed than `Library.Laws` has: it accepts a text just if each piece
between two commas is a directive, unless it is empty; and of two directives for the same target it
goes by the later.

* `NormalForm` - the form in which the configured text is handed on.
* `Library.effective_eq` - the directives of the filter in effect, in order.
* `Library.Laws.level?_of_last` - the last level that the text on top has for a target is the level.
* `Library.text_on_top_is_heeded` - all of this together.

## 1. What is known of the library

## 2. Texts

## 3. The filter in effect

## 4. Levels

## 5. The text on top
-/

namespace Debugger.Log

/-! ## 1. What is known of the library -/

/-- What is known of a library of filters. -/
structure Library.Laws (lib : Library) where
  /-- The directive that a piece of a text is, if it is one. -/
  directive? : List Char → Option lib.Directive
  /-- The filter of some directives, in order. -/
  ofDirectives : List lib.Directive → lib.Filter
  /-- A text is accepted just if all its pieces are directives, and its filter is made of these. -/
  tryNew_eq : ∀ text, lib.tryNew text = ((directiveTexts text).mapM directive?).map ofDirectives
  /-- A level that is added where nothing was said yet is all there is. -/
  addDirective_default : ∀ level,
    lib.addDirective lib.default (lib.ofLevel level) = ofDirectives [lib.ofLevel level]
  Target : Type
  /-- What a directive is for. -/
  target : lib.Directive → Target
  level : lib.Directive → Level
  /-- The level that a filter has for a target, if it has one. -/
  level? : lib.Filter → Target → Option Level
  /-- A later directive replaces an earlier one for the same target, -/
  level?_replaced : ∀ ds d, level? (ofDirectives (ds ++ [d])) (target d) = some (level d)
  /-- and leaves those for other targets as they are. -/
  level?_spared : ∀ ds d t, target d ≠ t →
    level? (ofDirectives (ds ++ [d])) t = level? (ofDirectives ds) t

/-! ## 2. Texts -/

/-- The form that a configured text is brought into. White space alone stands for `info`, and a word
for a level may be written in any case. -/
inductive NormalForm (text : List Char) : String → Prop
  | blank (blank : ∀ c ∈ text, Text.isBlank c) : NormalForm text "info"
  | warning (spelt : (Text.trim text).map Char.toLower = "warning".toList) : NormalForm text "warn"
  | level {word : String} (known : word ∈ ["trace", "debug", "info", "warn", "error"])
      (spelt : (Text.trim text).map Char.toLower = word.toList) : NormalForm text word
  | other (marked : ∃ c ∈ text, ¬ Text.isBlank c)
      (unlike : ∀ word ∈ ["warning", "trace", "debug", "info", "warn", "error"],
        (Text.trim text).map Char.toLower ≠ word.toList) :
      NormalForm text (String.ofList (Text.trim text))

/-- A text that a word is spelt in is not blank. -/
theorem trim_ne_nil_of_spelt {text : List Char} {word : String} (marked : word ≠ "")
    (spelt : (Text.trim text).map Char.toLower = word.toList) : Text.trim text ≠ [] := by
  intro nothing
  rw [nothing] at spelt
  exact marked (String.toList_eq_nil_iff.mp spelt.symm)

theorem normalize_eq_iff {text form : String} :
    normalize text = form ↔ NormalForm text.toList form := by
  constructor
  · rintro rfl
    unfold normalize
    dsimp only
    split
    · next nothing => exact .blank (Text.trim_eq_nil_iff.mp (List.isEmpty_iff.mp nothing))
    split
    · next spelt => exact .warning (by rw [← spelt, String.toList_ofList])
    split
    · next known => exact .level known String.toList_ofList.symm
    · next ink unlike unknown =>
      refine .other ?_ fun word listed spelt => ?_
      · by_contra blank
        push Not at blank
        exact ink (List.isEmpty_iff.mpr (Text.trim_eq_nil_iff.mpr blank))
      · rw [spelt, String.ofList_toList] at unlike unknown
        rcases List.mem_cons.mp listed with rfl | known
        · exact unlike rfl
        · exact unknown known
  · intro normal
    unfold normalize
    dsimp only
    cases normal with
    | blank blank =>
      rw [Text.trim_eq_nil_iff.mpr blank]
      rfl
    | warning spelt =>
      have ink := trim_ne_nil_of_spelt (by decide) spelt
      rw [if_neg (mt List.isEmpty_iff.mp ink), spelt, if_pos String.ofList_toList]
      rfl
    | level known spelt =>
      have unlike : form ≠ "" ∧ form ≠ "warning" := by
        constructor <;> rintro rfl <;> exact absurd known (by decide)
      have ink := trim_ne_nil_of_spelt unlike.1 spelt
      rw [if_neg (mt List.isEmpty_iff.mp ink), spelt, String.ofList_toList, if_neg unlike.2]
      exact if_pos known
    | other marked unlike =>
      have ink : Text.trim text.toList ≠ [] := by
        rw [ne_eq, Text.trim_eq_nil_iff]
        push Not
        exact marked
      have unspelt {word : String} (listed : word ∈ _)
          (spelt : String.ofList ((Text.trim text.toList).map Char.toLower) = word) : False :=
        unlike word listed (by rw [← spelt, String.toList_ofList])
      rw [if_neg (mt List.isEmpty_iff.mp ink), if_neg (unspelt List.mem_cons_self)]
      exact if_neg fun known => unspelt (List.mem_cons_of_mem _ known) rfl

/-- The pieces on the two sides of a comma are those of the one text and then those of the other. -/
theorem directiveTexts_append (s t : String) :
    directiveTexts (s ++ "," ++ t) = directiveTexts s ++ directiveTexts t := by
  have joined : (s ++ "," ++ t).toList = s.toList ++ ',' :: t.toList := by simp
  unfold directiveTexts List.splitOn
  rw [joined, List.splitOnP_append_cons _ _ (by rfl), List.filter_append]

namespace Library

variable {lib : Library} (laws : lib.Laws) (configured : String) (onTop : Option String)
  (text : String)

namespace Laws

/-- The directives of a text, if it has nothing else. -/
def directives? : Option (List lib.Directive) := (directiveTexts text).mapM laws.directive?

theorem directives?_append (s t : String) : laws.directives? (s ++ "," ++ t) = do
    return (← laws.directives? s) ++ (← laws.directives? t) := by
  simp [directives?, directiveTexts_append, List.mapM_append]

/-- The texts that are accepted are those that have directives and nothing else. -/
theorem isSome_tryNew : (lib.tryNew text).isSome = (laws.directives? text).isSome := by
  rw [laws.tryNew_eq, Option.isSome_map]
  rfl

/-- What the text laid on top says. -/
def onTop? : Option (List lib.Directive) := (fromSurroundings onTop).bind laws.directives?

end Laws

theorem fromSurroundings_eq_some {t : String} : fromSurroundings onTop = some t ↔
    ∃ text, onTop = some text ∧ (∃ c ∈ text.toList, ¬ Text.isBlank c) ∧
      String.ofList (Text.trim text.toList) = t := by
  unfold fromSurroundings
  cases onTop with
  | none => simp
  | some text =>
    have ink : String.ofList (Text.trim text.toList) ≠ "" ↔
        ∃ c ∈ text.toList, ¬ Text.isBlank c := by
      rw [ne_eq, String.ofList_eq_empty_iff, Text.trim_eq_nil_iff]
      push Not
      rfl
    simp only [Option.map_some, Option.some.injEq, Option.filter_eq_some_iff, decide_eq_true_eq]
    constructor
    · rintro ⟨rfl, some_⟩
      exact ⟨text, rfl, ink.mp some_, rfl⟩
    · rintro ⟨_, rfl, marked, rfl⟩
      exact ⟨rfl, ink.mpr marked⟩

/-- A text on top says something if it is not blank, and is accepted without the white space around
it. -/
theorem Laws.onTop?_eq_some {above : List lib.Directive} : laws.onTop? onTop = some above ↔
    ∃ text, onTop = some text ∧ (∃ c ∈ text.toList, ¬ Text.isBlank c) ∧
      laws.directives? (String.ofList (Text.trim text.toList)) = some above := by
  unfold onTop?
  rw [Option.bind_eq_some_iff]
  constructor
  · rintro ⟨t, there, read⟩
    obtain ⟨text, rfl, marked, rfl⟩ := (fromSurroundings_eq_some onTop).mp there
    exact ⟨text, rfl, marked, read⟩
  · rintro ⟨text, rfl, marked, read⟩
    exact ⟨_, (fromSurroundings_eq_some _).mpr ⟨text, rfl, marked, rfl⟩, read⟩

/-! ## 3. The filter in effect -/

/-- What is to be in effect by what the configured text says and what the one laid on top says, for
those that say something. -/
def inEffect (lib : Library) :
    Option (List lib.Directive) → Option (List lib.Directive) → List lib.Directive
  | some below, some above => below ++ above
  | none, some above => above
  | some below, none => below
  | none, none => [lib.ofLevel .info]

theorem ofConfigured_eq : lib.ofConfigured configured =
    laws.ofDirectives (lib.inEffect (laws.directives? (normalize configured)) none) := by
  unfold ofConfigured
  rw [laws.tryNew_eq, laws.addDirective_default]
  unfold Laws.directives?
  cases (directiveTexts (normalize configured)).mapM laws.directive? <;> rfl

theorem effective_eq : lib.effective configured onTop = laws.ofDirectives
    (lib.inEffect (laws.directives? (normalize configured)) (laws.onTop? onTop)) := by
  unfold effective Laws.onTop?
  cases fromSurroundings onTop with
  | none => exact ofConfigured_eq laws configured
  | some t =>
    have tried (s : String) : lib.tryNew s = (laws.directives? s).map laws.ofDirectives :=
      laws.tryNew_eq s
    dsimp only
    rw [ofConfigured_eq laws, tried, tried, laws.directives?_append, Option.bind_some]
    cases laws.directives? (normalize configured) <;> cases laws.directives? t <;> rfl

/-- What the text on top says comes last, whatever the configured one is. -/
theorem inEffect_above (below : Option (List lib.Directive)) (above : List lib.Directive) :
    lib.inEffect below (some above) = below.getD [] ++ above := by
  cases below <;> rfl

/-! ## 4. Levels -/

namespace Laws

variable {laws} {below above : List lib.Directive} {d : lib.Directive}

/-- Of some directives this is the last for its target. -/
def Last (laws : lib.Laws) (ds : List lib.Directive) (d : lib.Directive) : Prop :=
  ∃ before after, ds = before ++ d :: after ∧ ∀ e ∈ after, laws.target e ≠ laws.target d

theorem exists_last (named : d ∈ above) :
    ∃ last, laws.Last above last ∧ laws.target last = laws.target d := by
  induction above using List.reverseRecOn with
  | nil => cases named
  | append_singleton ds e ih =>
    by_cases same : laws.target e = laws.target d
    · exact ⟨e, ⟨ds, [], rfl, nofun⟩, same⟩
    · have earlier : d ∈ ds := by
        rcases List.mem_append.mp named with old | new
        · exact old
        · rw [List.mem_singleton.mp new] at same
          exact absurd rfl same
      obtain ⟨last, ⟨before, after, rfl, others⟩, same'⟩ := ih earlier
      refine ⟨last, ⟨before, after ++ [e], by simp, fun x there => ?_⟩, same'⟩
      rcases List.mem_append.mp there with old | new
      · exact others x old
      · rw [List.mem_singleton.mp new, same']
        exact same

/-- A target that is not named any more keeps its level. -/
theorem level?_of_unnamed {t : laws.Target} (unnamed : ∀ e ∈ above, laws.target e ≠ t) :
    laws.level? (laws.ofDirectives (below ++ above)) t =
      laws.level? (laws.ofDirectives below) t := by
  induction above using List.reverseRecOn with
  | nil => rw [List.append_nil]
  | append_singleton ds e ih =>
    rw [← List.append_assoc, laws.level?_spared _ _ _ (unnamed e (by simp))]
    exact ih fun x there => unnamed x (List.mem_append_left _ there)

/-- The last directive for a target gives the level, whatever comes before. -/
theorem level?_of_last (last : laws.Last above d) :
    laws.level? (laws.ofDirectives (below ++ above)) (laws.target d) = some (laws.level d) := by
  obtain ⟨before, after, rfl, others⟩ := last
  have parted : below ++ (before ++ d :: after) = (below ++ before ++ [d]) ++ after := by simp
  rw [parted, level?_of_unnamed others, laws.level?_replaced]

end Laws

/-! ## 5. The text on top -/

/-- **The text on top overrides the configured one and never spoils it.** The filter in effect is
made of what both texts say, the one on top last; if one of them says nothing, of what the other
says; and if neither does, of a level alone. So every target that the text on top names has the last
level it is given there, and every other target the level that the configured text has for it. The
configured text is taken in its normal form, and the one on top without the white space around
it. -/
theorem text_on_top_is_heeded :
    (∀ form, normalize configured = form ↔ NormalForm configured.toList form) ∧
    (∀ text, (lib.tryNew text).isSome = (laws.directives? text).isSome) ∧
    (∀ above, laws.onTop? onTop = some above ↔
      ∃ text, onTop = some text ∧ (∃ c ∈ text.toList, ¬ Text.isBlank c) ∧
        laws.directives? (String.ofList (Text.trim text.toList)) = some above) ∧
    lib.effective configured onTop = laws.ofDirectives
      (lib.inEffect (laws.directives? (normalize configured)) (laws.onTop? onTop)) ∧
    ∀ above, laws.onTop? onTop = some above →
      (∀ d ∈ above, ∃ last, laws.Last above last ∧ laws.target last = laws.target d ∧
        laws.level? (lib.effective configured onTop) (laws.target d) = some (laws.level last)) ∧
      ∀ below, laws.directives? (normalize configured) = some below →
        ∀ t, (∀ e ∈ above, laws.target e ≠ t) →
          laws.level? (lib.effective configured onTop) t =
            laws.level? (laws.ofDirectives below) t := by
  refine ⟨fun _ => normalize_eq_iff, laws.isSome_tryNew, fun _ => laws.onTop?_eq_some onTop,
    effective_eq laws configured onTop, fun above top => ?_⟩
  rw [effective_eq laws, top, inEffect_above]
  refine ⟨fun d named => ?_, fun below bottom t unnamed => ?_⟩
  · obtain ⟨last, isLast, same⟩ := Laws.exists_last named
    exact ⟨last, isLast, same, same ▸ Laws.level?_of_last isLast⟩
  · rw [bottom]
    exact Laws.level?_of_unnamed unnamed

/-- A directive as it stands: the word for a level, a target, or a target with the word for a level
after an equals sign. -/
def wordDirective? (cs : List Char) : Option (Option String × Level) :=
  let named? (word : List Char) := Level.all.find? fun l => l.name.toList == word
  let name := some (String.ofList (cs.takeWhile (· ≠ '=')))
  match cs.dropWhile (· ≠ '=') with
  | [] => some (((named? cs).map (none, ·)).getD (name, .trace))
  | _ :: word => (named? word).map (name, ·)

/-- The level of the last directive for a target. -/
def lastLevel? (ds : List (Option String × Level)) (target : Option String) : Option Level :=
  (ds.reverse.find? (·.1 = target)).map (·.2)

theorem lastLevel?_replaced (ds : List (Option String × Level)) (d : Option String × Level) :
    lastLevel? (ds ++ [d]) d.1 = some d.2 := by
  simp [lastLevel?]

theorem lastLevel?_spared (ds : List (Option String × Level)) (d : Option String × Level)
    (target : Option String) (other : d.1 ≠ target) :
    lastLevel? (ds ++ [d]) target = lastLevel? ds target := by
  simp [lastLevel?, other]

/-- A library that knows such directives only, and cuts no white space off. -/
def words : Library where
  Directive := Option String × Level
  Filter := List (Option String × Level)
  tryNew text := (directiveTexts text).mapM wordDirective?
  default := []
  addDirective f d := f ++ [d]
  ofLevel level := (none, level)

def wordsLaws : words.Laws where
  directive? := wordDirective?
  ofDirectives ds := ds
  tryNew_eq _ := Option.map_id'.symm
  addDirective_default _ := rfl
  Target := Option String
  target := Prod.fst
  level := Prod.snd
  level? := lastLevel?
  level?_replaced := lastLevel?_replaced
  level?_spared := lastLevel?_spared

/-- A level on top replaces the configured one for the same target, and no other. White space around
it does not matter, and neither does an empty piece. -/
theorem level_on_top_replaces :
    wordsLaws.onTop? (some " a=debug ") = some [(some "a", .debug)] ∧
      wordsLaws.level? (words.effective "warn,,a=info" (some " a=debug ")) (some "a") =
        some .debug ∧
      wordsLaws.level? (words.effective "warn,,a=info" (some " a=debug ")) none = some .warn := by
  have top : wordsLaws.onTop? (some " a=debug ") = some [(some "a", .debug)] := rfl
  obtain ⟨-, -, -, -, heeded⟩ := text_on_top_is_heeded wordsLaws "warn,,a=info" (some " a=debug ")
  obtain ⟨named, others⟩ := heeded _ top
  obtain ⟨last, ⟨before, after, whole, -⟩, -, level⟩ := named _ List.mem_cons_self
  refine ⟨top, ?_, others [(none, .warn), (some "a", .info)] rfl none ?_⟩
  · -- There is one directive on top, so this is the last.
    have only : last ∈ [((some "a", .debug) : Option String × Level)] := by
      rw [whole]
      exact List.mem_append_right _ List.mem_cons_self
    rw [List.mem_singleton.mp only] at level
    exact level
  · intro e there
    rw [List.mem_singleton.mp there]
    exact nofun

/-- By itself a level with white space after it is refused. On top it is accepted, since the white
space is cut off before the library sees the text. -/
theorem white_space_on_top_is_cut_off :
    words.tryNew "a=info " = none ∧ (∃ c ∈ "a=info ".toList, ¬ Text.isBlank c) ∧
      wordsLaws.directives? (normalize "warn") = some [(none, .warn)] ∧
      words.effective "warn" (some "a=info ") ≠ wordsLaws.ofDirectives [(none, .warn)] := by
  refine ⟨rfl, ⟨'a', by decide, by decide⟩, rfl, fun same => ?_⟩
  have level : wordsLaws.level? (words.effective "warn" (some "a=info ")) (some "a") =
      some .info := rfl
  rw [same] at level
  cases level

end Library

end Debugger.Log
