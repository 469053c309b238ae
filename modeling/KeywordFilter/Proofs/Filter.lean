import KeywordFilter.Filter
import KeywordFilter.Proofs.Parsing

/-!
# Which filters are built

A filter is built in a mode that exists when its text describes a condition (`create_eq_ok_iff`).
-/

set_option autoImplicit false

namespace KeywordFilter

namespace Mode

theorem ofName?_eq_some_iff {name : String} {mode : Mode} :
    ofName? name = some mode ↔ name = mode.name := by
  constructor
  · intro h
    unfold ofName? at h
    split at h
    · next hName =>
      cases h
      exact hName
    · split at h
      · next hName =>
        cases h
        exact hName
      · split at h
        · next hName =>
          cases h
          exact hName
        · cases h
  · rintro rfl
    match mode with
    | .listed .all => rfl
    | .listed .any => rfl
    | .expression => rfl

theorem name_ne_ignoreName (mode : Mode) : mode.name ≠ ignoreName := by
  match mode with
  | .listed .all => decide
  | .listed .any => decide
  | .expression => decide

end Mode

namespace Filter

open Expression

theorem create_mode (mode : Mode) (text : Option String) (vocabulary : Option (List String))
    (settings : FullSettings) :
    create (some mode.name) text vocabulary settings =
      (mode.compile settings vocabulary (text.getD "") >>= fun tree =>
        pure (matching mode (text.getD "") tree settings)) := by
  simp only [create, if_neg mode.name_ne_ignoreName, Mode.ofName?_eq_some_iff.mpr rfl]

theorem create_mode_eq_ok_iff {mode : Mode} {text : Option String}
    {vocabulary : Option (List String)} {settings : FullSettings} {filter : Filter} :
    create (some mode.name) text vocabulary settings = .ok filter ↔
      ∃ tree, mode.compile settings vocabulary (text.getD "") = .ok tree ∧
        filter = matching mode (text.getD "") tree settings := by
  rw [create_mode, bind_eq_ok_iff]
  simp [pure, Except.pure, eq_comm]

theorem create_eq_ok_iff {mode text : Option String} {vocabulary : Option (List String)}
    {settings : FullSettings} {filter : Filter} :
    create mode text vocabulary settings = .ok filter ↔
      (mode = none ∨ mode = some ignoreName) ∧ filter = acceptAll ∨
        ∃ kind : Mode, mode = some kind.name ∧
          ∃ tree, kind.compile settings vocabulary (text.getD "") = .ok tree ∧
            filter = matching kind (text.getD "") tree settings := by
  constructor
  · intro h
    cases mode with
    | none =>
      cases h
      exact .inl ⟨.inl rfl, rfl⟩
    | some name =>
      by_cases hName : name = ignoreName
      · subst hName
        cases h
        exact .inl ⟨.inr rfl, rfl⟩
      · cases hMode : Mode.ofName? name with
        | none => simp [create, hName, hMode] at h
        | some kind =>
          rw [Mode.ofName?_eq_some_iff] at hMode
          subst hMode
          exact .inr ⟨kind, rfl, create_mode_eq_ok_iff.mp h⟩
  · rintro (⟨rfl | rfl, rfl⟩ | ⟨kind, rfl, h⟩)
    · rfl
    · rfl
    · exact create_mode_eq_ok_iff.mpr h

theorem create_expression_eq_ok_iff {text : Option String} {vocabulary : Option (List String)}
    {settings : FullSettings} {filter : Filter} :
    create (some Mode.expression.name) text vocabulary settings = .ok filter ↔
      ∃ tree, parse settings vocabulary (some (text.getD "")) = .ok tree ∧
        filter = matching .expression (text.getD "") tree settings := by
  exact create_mode_eq_ok_iff

@[simp] theorem accepts_matching (mode : Mode) (text : String) (predicate : Predicate)
    (settings : FullSettings) (keywords : KeywordSet) :
    (matching mode text predicate settings).accepts keywords = predicate.accepts keywords := rfl

end Filter

end KeywordFilter
