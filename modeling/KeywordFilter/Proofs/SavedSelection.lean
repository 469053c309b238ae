import KeywordFilter.Proofs.Filter
import KeywordFilter.Proofs.SelectionHistory
import KeywordFilter.Proofs.Text.Words

/-!
# Saving and loading a selection

A saved run has a name for each mode, and says "ignore" in place of everything else. So what is loaded
is either the selection that was saved, or one that ignores keywords in its place (`reload_cases`). The
second happens only where no filter can be compiled, and there all tests are selected as before
(`saved_and_loaded`).
-/

set_option autoImplicit false

namespace KeywordFilter

theorem Filter.create_without_text (mode : Mode) (vocabulary : Option (List String))
    (settings : FullSettings) (filter : Filter) :
    create (some mode.name) none vocabulary settings ≠ .ok filter := by
  intro h
  obtain ⟨tree, hTree, _⟩ := create_mode_eq_ok_iff.mp h
  cases mode with
  | listed quantifier =>
    have hWords : Text.words "" = [] := by
      rw [Text.words, String.toList_empty, Text.splitWords_of_blank rfl, List.map_nil]
    rw [Mode.compile, Option.getD_none, hWords] at hTree
    cases hTree
  | expression => cases hTree

namespace Selection

def fresh (mode text : Option String) (vocabulary : Option (List String)) (settings : FullSettings) :
    Selection where
  mode := mode
  text := text
  vocabulary := vocabulary
  settings := settings

/-- What is loaded when a selection was saved, for the same vocabulary and settings. -/
def reload (selection : Selection) : Selection × Option Warning :=
  ofProperties selection.toProperties selection.vocabulary selection.settings

section
variable {mode text : Option String} {vocabulary : Option (List String)} {settings : FullSettings}

theorem fresh_ignoring (h : mode = none ∨ mode = some ignoreName) :
    (fresh mode text vocabulary settings).filter? = none ∧
      (fresh mode text vocabulary settings).isValid = true := by
  have hBlank : (fresh mode text vocabulary settings).refresh.Blank :=
    refresh_of_ignoring (isIgnoring_iff.mpr h)
  refine ⟨?_, ?_⟩
  · rw [filter?, hBlank.cached, Option.map_none]
  · rw [isValid, hBlank.error, Option.isNone_none]

theorem exists_mode_of_filter? {filter : Filter}
    (h : (fresh mode text vocabulary settings).filter? = some filter) :
    ∃ kind : Mode, mode = some kind.name ∧
      Filter.create (some kind.name) text vocabulary settings = .ok filter := by
  obtain ⟨object, hObject, rfl⟩ := Option.map_eq_some_iff.mp h
  rcases refresh_cases (fresh mode text vocabulary settings) with
    ⟨_, hBlank, _⟩ | ⟨_, hPair, _⟩ | ⟨hIgnoring, _, hCompiles⟩
  · rw [hBlank.cached] at hObject
    cases hObject
  · cases hPair
  · obtain ⟨hCreate, _⟩ := outcome_eq_ok_iff.mp (hCompiles.holds.eq_ok_of_cached hObject)
    rcases Filter.create_eq_ok_iff.mp hCreate with ⟨hMode, _⟩ | ⟨kind, hKind, _⟩
    · rw [isIgnoring_iff.mpr hMode] at hIgnoring
      cases hIgnoring
    · rw [hKind] at hCreate
      exact ⟨kind, hKind, hCreate⟩

theorem modeOfOperator?_operatorOfMode (mode : Mode) :
    modeOfOperator? (operatorOfMode (some mode.name)) = some mode.name := by
  match mode with
  | .listed .all => decide
  | .listed .any => decide
  | .expression => decide

theorem operatorOfMode_eq_ignore (h : ∀ kind : Mode, mode ≠ some kind.name) :
    operatorOfMode mode = "ignore" := by
  have hKind : mode.bind Mode.ofName? = none := by
    rw [Option.bind_eq_none_iff]
    intro name hName
    rw [Option.eq_none_iff_forall_ne_some]
    intro kind hKind
    rw [Mode.ofName?_eq_some_iff] at hKind
    exact h kind (by rw [hName, hKind])
  rw [operatorOfMode, hKind]

theorem reload_cases (mode text : Option String) (vocabulary : Option (List String))
    (settings : FullSettings) :
    (∃ (kind : Mode) (content : String), mode = some kind.name ∧ text = some content ∧
      (fresh mode text vocabulary settings).reload =
        (fresh mode text vocabulary settings, none)) ∨
    ((∀ kind : Mode, mode = some kind.name → text = none) ∧
      (fresh mode text vocabulary settings).reload =
        (fresh (some ignoreName) text vocabulary settings, none)) := by
  cases text with
  | none => exact .inr ⟨fun _ _ => rfl, rfl⟩
  | some content =>
    by_cases hMode : ∃ kind : Mode, mode = some kind.name
    · obtain ⟨kind, rfl⟩ := hMode
      refine .inl ⟨kind, content, rfl, rfl, ?_⟩
      simp only [reload, ofProperties, toProperties, fresh, Properties.mode,
        modeOfOperator?_operatorOfMode]
    · rw [not_exists] at hMode
      refine .inr ⟨fun kind hKind => absurd hKind (hMode kind), ?_⟩
      have hOperator := operatorOfMode_eq_ignore hMode
      simp only [reload, ofProperties, toProperties, fresh, Properties.mode, hOperator]
      rfl

theorem filter?_fresh_eq_none (h : ∀ kind : Mode, mode = some kind.name → text = none) :
    (fresh mode text vocabulary settings).filter? = none := by
  rw [Option.eq_none_iff_forall_ne_some]
  intro filter hFilter
  obtain ⟨kind, hKind, hCreate⟩ := exists_mode_of_filter? hFilter
  rw [h kind hKind] at hCreate
  exact Filter.create_without_text kind vocabulary settings filter hCreate

theorem filter?_reload :
    (fresh mode text vocabulary settings).reload.1.filter? =
      (fresh mode text vocabulary settings).filter? := by
  rcases reload_cases mode text vocabulary settings with ⟨_, _, _, _, hReload⟩ | ⟨hMode, hReload⟩
  · rw [hReload]
  · rw [hReload, filter?_fresh_eq_none hMode, (fresh_ignoring (.inr rfl)).1]

theorem isValid_reload (h : (fresh mode text vocabulary settings).isValid = true) :
    (fresh mode text vocabulary settings).reload.1.isValid = true := by
  rcases reload_cases mode text vocabulary settings with ⟨_, _, _, _, hReload⟩ | ⟨_, hReload⟩
  · rw [hReload]
    exact h
  · rw [hReload]
    exact (fresh_ignoring (.inr rfl)).2

theorem warning_reload : (fresh mode text vocabulary settings).reload.2 = none := by
  rcases reload_cases mode text vocabulary settings with ⟨_, _, _, _, hReload⟩ | ⟨_, hReload⟩
  · rw [hReload]
  · rw [hReload]

theorem pair_reload_iff :
    (fresh mode text vocabulary settings).reload.1.pair = (mode, text) ↔
      mode = some ignoreName ∨ (∃ kind : Mode, mode = some kind.name) ∧ text ≠ none := by
  rcases reload_cases mode text vocabulary settings with
    ⟨kind, content, rfl, rfl, hReload⟩ | ⟨hMode, hReload⟩
  · rw [hReload]
    exact ⟨fun _ => .inr ⟨⟨kind, rfl⟩, Option.some_ne_none content⟩, fun _ => rfl⟩
  · rw [hReload]
    constructor
    · intro hPair
      exact .inl (Prod.mk.inj hPair).1.symm
    · rintro (rfl | ⟨⟨kind, hKind⟩, hText⟩)
      · rfl
      · exact absurd (hMode kind hKind) hText

theorem operator_of_mode (properties : Properties)
    (h : ∀ kind : Mode, some properties.mode.1 = some kind.name → properties.keywords = none) :
    operatorOfMode (some properties.mode.1) = "ignore" := by
  apply operatorOfMode_eq_ignore
  intro kind hKind
  have hKeywords := h kind hKind
  have hMode : properties.mode.1 = ignoreName := by
    rw [Properties.mode, hKeywords]
    cases properties.operator <;> rfl
  rw [hMode, Option.some.injEq] at hKind
  exact kind.name_ne_ignoreName hKind.symm

theorem toProperties_reload (properties : Properties) :
    (ofProperties properties vocabulary settings).1.reload.1.toProperties =
      (ofProperties properties vocabulary settings).1.toProperties := by
  have hLoaded : (ofProperties properties vocabulary settings).1 =
      fresh (some properties.mode.1) properties.keywords vocabulary settings := rfl
  rw [hLoaded]
  rcases reload_cases (some properties.mode.1) properties.keywords vocabulary settings with
    ⟨_, _, _, _, hReload⟩ | ⟨hMode, hReload⟩
  · rw [hReload]
  · rw [hReload]
    simp only [toProperties, fresh, operator_of_mode properties hMode]
    rfl

end

/-- A selection that was saved and loaded again selects the same tests, by the same filter if there is
one, and stays valid; nothing is worth a warning. Its mode and text come back exactly if keywords are
ignored by name or the mode exists and has a text. What is saved of a loaded run does not change when
it is loaded and saved once more. -/
theorem saved_and_loaded (vocabulary : Option (List String)) (settings : FullSettings) :
    (∀ mode text : Option String,
      (fresh mode text vocabulary settings).reload.2 = none ∧
      (∀ {ι : Type} (tests : List (TestCase ι)),
        selectTests (fresh mode text vocabulary settings).reload.1.filter? tests =
          selectTests (fresh mode text vocabulary settings).filter? tests) ∧
      (fresh mode text vocabulary settings).reload.1.filter? =
        (fresh mode text vocabulary settings).filter? ∧
      ((fresh mode text vocabulary settings).isValid = true →
        (fresh mode text vocabulary settings).reload.1.isValid = true) ∧
      ((fresh mode text vocabulary settings).reload.1.pair = (mode, text) ↔
        mode = some ignoreName ∨ (∃ kind : Mode, mode = some kind.name) ∧ text ≠ none)) ∧
    ∀ properties : Properties,
      (ofProperties properties vocabulary settings).1.reload.1.toProperties =
        (ofProperties properties vocabulary settings).1.toProperties := by
  refine ⟨?_, toProperties_reload⟩
  intro mode text
  refine ⟨warning_reload, ?_, filter?_reload, isValid_reload, pair_reload_iff⟩
  intro ι tests
  rw [filter?_reload]

theorem saved_and_loaded_words :
    (fresh (some "any of") (some "Fast É") (some ["FAST", "é"]) {}).isValid = true ∧
      (fresh (some "any of") (some "Fast É") (some ["FAST", "é"]) {}).reload.1.isValid = true ∧
      (fresh (some "any of") (some "Fast É") (some ["FAST", "é"]) {}).reload.1.pair =
        (some "any of", some "Fast É") := by
  obtain ⟨_, _, _, hValid, hPair⟩ :=
    (saved_and_loaded (some ["FAST", "é"]) {}).1 (some "any of") (some "Fast É")
  have hBuilt : (fresh (some "any of") (some "Fast É") (some ["FAST", "é"]) {}).isValid = true := by
    decide +kernel
  exact ⟨hBuilt, hValid hBuilt, hPair.mpr (.inr ⟨⟨.listed .any, rfl⟩, Option.some_ne_none _⟩)⟩

end Selection

end KeywordFilter
