import KeywordFilter.Selection
import KeywordFilter.Suite
import Mathlib.Order.Bounds.Basic

/-!
# The history of a selection

A `History` is a selection as it was made and the steps that were taken with it. Some of the steps
bring the selection up to date; steps of this kind between which mode and text did not change make up
a stretch. What a selection holds was built at the first step of the stretch, with the vocabulary and
the settings of that time, and it is the same object as long as the stretch goes on
(`History.answers_explained`).
-/

set_option autoImplicit false

namespace KeywordFilter

namespace Selection

inductive Step (ι : Type) where
  | set (mode text : Option String)
  | assignVocabulary (vocabulary : Option (List String))
  | assignSettings (settings : FullSettings)
  | read
  | validate
  | select (tests : List (TestCase ι))
  | save

inductive Answer (ι : Type) where
  | nothing
  | object (compiled : Option Compiled)
  | validity (valid : Bool)
  | tests (selected : List (TestCase ι))
  | saved (properties : Properties)

variable {ι : Type}

def Step.refreshes : Step ι → Bool
  | read | validate | select _ => true
  | _ => false

def after (selection : Selection) : Step ι → Selection
  | .set mode text => selection.set mode text
  | .assignVocabulary vocabulary => { selection with vocabulary := vocabulary }
  | .assignSettings settings => { selection with settings := settings }
  | .read | .validate | .select _ => selection.refresh
  | .save => selection

def answer (selection : Selection) : Step ι → Answer ι
  | .read => .object selection.refresh.cached
  | .validate => .validity selection.isValid
  | .select tests => .tests (selectTests selection.filter? tests)
  | .save => .saved selection.toProperties
  | _ => .nothing

def pair (selection : Selection) : Option String × Option String :=
  (selection.mode, selection.text)

/-- What compiling the present mode and text comes to; the object gets a number. -/
def outcome (selection : Selection) (number : Nat) : Except FilterError Compiled :=
  (Filter.create selection.mode selection.text selection.vocabulary selection.settings).map
    (⟨·, number⟩)

/-- The selection holds an outcome: the object and no error, or what is said of the error. -/
def Holds (selection : Selection) : Except FilterError Compiled → Prop
  | .ok compiled => selection.cached = some compiled ∧ selection.errorMessage = none
  | .error error =>
    selection.cached = none ∧ selection.errorMessage = some ("bad keywords: " ++ error.message)

structure Blank (selection : Selection) : Prop where
  cached : selection.cached = none
  compiledFrom : selection.compiledFrom = none
  error : selection.error = none

structure Keeps (selection next : Selection) : Prop where
  cached : next.cached = selection.cached
  compiledFrom : next.compiledFrom = selection.compiledFrom
  error : next.error = selection.error
  builds : next.builds = selection.builds

structure Compiles (selection next : Selection) : Prop where
  compiledFrom : next.compiledFrom = some selection.pair
  holds : next.Holds (selection.outcome selection.builds)
  builds_le : selection.builds ≤ next.builds
  builds_lt : ∀ object, selection.outcome selection.builds = .ok object →
    selection.builds < next.builds

theorem isIgnoring_iff {selection : Selection} :
    selection.isIgnoring = true ↔ selection.mode = none ∨ selection.mode = some ignoreName := by
  rw [isIgnoring]
  cases selection.mode <;> simp

theorem isIgnoring_congr {selection other : Selection} (h : selection.pair = other.pair) :
    selection.isIgnoring = other.isIgnoring := by
  rw [isIgnoring, isIgnoring, (Prod.mk.inj h).1]

theorem Blank.errorMessage {selection : Selection} (h : selection.Blank) :
    selection.errorMessage = none := by
  rw [Selection.errorMessage, h.error]
  rfl

theorem Keeps.refl (selection : Selection) : selection.Keeps selection :=
  ⟨rfl, rfl, rfl, rfl⟩

section
variable {selection next : Selection} (h : selection.Keeps next)
include h

theorem Keeps.blank (hBlank : selection.Blank) : next.Blank :=
  ⟨h.cached.trans hBlank.cached, h.compiledFrom.trans hBlank.compiledFrom,
    h.error.trans hBlank.error⟩

theorem Keeps.errorMessage : next.errorMessage = selection.errorMessage := by
  rw [Selection.errorMessage, Selection.errorMessage, h.error]

theorem Keeps.holds {compiled : Except FilterError Compiled} (hHolds : selection.Holds compiled) :
    next.Holds compiled := by
  cases compiled with
  | ok object => exact ⟨h.cached.trans hHolds.1, h.errorMessage.trans hHolds.2⟩
  | error error => exact ⟨h.cached.trans hHolds.1, h.errorMessage.trans hHolds.2⟩

end

theorem after_of_refreshes {step : Step ι} (h : step.refreshes = true) (selection : Selection) :
    selection.after step = selection.refresh := by
  cases step <;> first | rfl | cases h

theorem keeps_after {step : Step ι} (h : step.refreshes = false) (selection : Selection) :
    selection.Keeps (selection.after step) := by
  cases step with
  | read => cases h
  | validate => cases h
  | select tests => cases h
  | _ => exact ⟨rfl, rfl, rfl, rfl⟩

theorem Holds.eq_ok_of_cached {selection : Selection} {compiled : Except FilterError Compiled}
    {object : Compiled} (h : selection.Holds compiled) (hObject : selection.cached = some object) :
    compiled = .ok object := by
  cases compiled with
  | ok other =>
    rw [h.1, Option.some.injEq] at hObject
    rw [hObject]
  | error error =>
    rw [h.1] at hObject
    cases hObject

theorem outcome_eq_ok_iff {selection : Selection} {number : Nat} {object : Compiled} :
    selection.outcome number = .ok object ↔
      Filter.create selection.mode selection.text selection.vocabulary selection.settings =
        .ok object.filter ∧ object.build = number := by
  rw [outcome]
  cases Filter.create selection.mode selection.text selection.vocabulary selection.settings with
  | ok filter =>
    constructor
    · rintro ⟨⟩
      exact ⟨rfl, rfl⟩
    · rintro ⟨hFilter, rfl⟩
      cases hFilter
      rfl
  | error error => exact ⟨nofun, nofun⟩

theorem compiles_compile (selection : Selection) : selection.Compiles selection.compile := by
  unfold compile
  cases hCreate : Filter.create selection.mode selection.text selection.vocabulary
      selection.settings with
  | ok filter =>
    refine ⟨rfl, ?_, Nat.le_succ _, fun _ _ => Nat.lt_succ_self _⟩
    rw [outcome, hCreate]
    exact ⟨rfl, rfl⟩
  | error error =>
    refine ⟨rfl, ?_, Nat.le_refl _, ?_⟩
    · rw [outcome, hCreate]
      exact ⟨rfl, rfl⟩
    · intro object hObject
      have hFilter := (outcome_eq_ok_iff.mp hObject).1
      rw [hCreate] at hFilter
      cases hFilter

theorem refresh_of_ignoring {selection : Selection} (h : selection.isIgnoring = true) :
    selection.refresh.Blank := by
  rw [refresh, if_pos h]
  exact ⟨rfl, rfl, rfl⟩

/-- The three ways to bring a selection up to date: to forget, to leave everything as it is, and to
compile. -/
theorem refresh_cases (selection : Selection) :
    (selection.isIgnoring = true ∧ selection.refresh.Blank ∧
      selection.refresh.builds = selection.builds) ∨
    (selection.isIgnoring = false ∧ selection.compiledFrom = some selection.pair ∧
      selection.refresh = selection) ∨
    (selection.isIgnoring = false ∧ selection.compiledFrom ≠ some selection.pair ∧
      selection.Compiles selection.refresh) := by
  unfold refresh
  split
  · next hIgnoring => exact .inl ⟨hIgnoring, ⟨rfl, rfl, rfl⟩, rfl⟩
  · next hIgnoring =>
    rw [Bool.not_eq_true] at hIgnoring
    split
    · next hPair => exact .inr (.inl ⟨hIgnoring, hPair, rfl⟩)
    · next hPair => exact .inr (.inr ⟨hIgnoring, hPair, compiles_compile selection⟩)

theorem builds_le_refresh (selection : Selection) :
    selection.builds ≤ selection.refresh.builds := by
  rcases refresh_cases selection with ⟨_, _, hBuilds⟩ | ⟨_, _, hSame⟩ | ⟨_, _, hCompiles⟩
  · rw [hBuilds]
  · rw [hSame]
  · exact hCompiles.builds_le

end Selection

open Selection

/-- A selection as it was made, and the steps that were taken with it. -/
structure History (ι : Type) where
  mode : Option String
  text : Option String
  vocabulary : Option (List String)
  settings : FullSettings
  steps : List (Step ι)

namespace History

variable {ι : Type} (history : History ι)

def start : Selection where
  mode := history.mode
  text := history.text
  vocabulary := history.vocabulary
  settings := history.settings

def state (count : Nat) : Selection :=
  (history.steps.take count).foldl Selection.after history.start

def Refreshes (place : Nat) : Prop :=
  ∃ step, history.steps[place]? = some step ∧ step.refreshes = true

/-- The places of refreshing steps from which on every refreshing step up to `place` saw the mode and
text that the step at `place` sees. -/
def stretch (place : Nat) : Set Nat :=
  {first | first ≤ place ∧ history.Refreshes first ∧
    ∀ between, first ≤ between → between ≤ place → history.Refreshes between →
      (history.state between).pair = (history.state place).pair}

def answer? (place : Nat) : Option (Answer ι) :=
  history.steps[place]?.map (history.state place).answer

inductive Remembers (count : Nat) : Prop where
  | blank : (history.state count).Blank →
    (∀ place < count, history.Refreshes place →
      ∃ later, place ≤ later ∧ later < count ∧ history.Refreshes later ∧
        (history.state later).isIgnoring = true) →
    Remembers count
  | compiled {last origin : Nat} : last < count → history.Refreshes last →
    (∀ place, last < place → place < count → ¬ history.Refreshes place) →
    (history.state last).isIgnoring = false →
    (history.state count).compiledFrom = some (history.state last).pair →
    IsLeast (history.stretch last) origin →
    (history.state origin).Compiles (history.state (origin + 1)) →
    (history.state count).Holds
      ((history.state origin).outcome (history.state origin).builds) →
    Remembers count

variable {history}

theorem state_succ {place : Nat} {step : Step ι} (h : history.steps[place]? = some step) :
    history.state (place + 1) = (history.state place).after step := by
  rw [state, List.take_add_one, h, List.foldl_append]
  rfl

theorem state_succ_of_refreshes {place : Nat} (h : history.Refreshes place) :
    history.state (place + 1) = (history.state place).refresh := by
  obtain ⟨step, hStep, hRefreshes⟩ := h
  rw [state_succ hStep, after_of_refreshes hRefreshes]

theorem keeps_succ {place : Nat} (h : ¬ history.Refreshes place) :
    (history.state place).Keeps (history.state (place + 1)) := by
  cases hStep : history.steps[place]? with
  | none =>
    rw [state, state, List.take_add_one, hStep]
    simpa using Keeps.refl _
  | some step =>
    rw [state_succ hStep]
    apply keeps_after
    rw [← Bool.not_eq_true]
    exact fun hRefreshes => h ⟨step, hStep, hRefreshes⟩

theorem builds_mono {place later : Nat} (h : place ≤ later) :
    (history.state place).builds ≤ (history.state later).builds := by
  induction h with
  | refl => exact Nat.le_refl _
  | @step later _ ih =>
    refine Nat.le_trans ih ?_
    by_cases hRefreshes : history.Refreshes later
    · rw [Nat.succ_eq_add_one, state_succ_of_refreshes hRefreshes]
      exact builds_le_refresh _
    · rw [Nat.succ_eq_add_one, (keeps_succ hRefreshes).builds]

theorem mem_stretch_self {place : Nat} (h : history.Refreshes place) :
    place ∈ history.stretch place := by
  refine ⟨Nat.le_refl place, h, ?_⟩
  intro between hFirst hLast _
  rw [Nat.le_antisymm hLast hFirst]

theorem mem_stretch_of_mem {first last place : Nat} (h : first ∈ history.stretch last)
    (hPlace : last ≤ place) (hPair : (history.state last).pair = (history.state place).pair)
    (hQuiet : ∀ between, last < between → between ≤ place → history.Refreshes between →
      (history.state between).pair = (history.state place).pair) :
    first ∈ history.stretch place := by
  obtain ⟨hFirst, hRefreshes, hSame⟩ := h
  refine ⟨Nat.le_trans hFirst hPlace, hRefreshes, ?_⟩
  intro between hFrom hTo hBetween
  rcases Nat.lt_or_ge last between with hLater | hEarlier
  · exact hQuiet between hLater hTo hBetween
  · rw [hSame between hFrom hEarlier hBetween, hPair]

theorem Remembers.keep {count : Nat} (h : history.Remembers count)
    (hQuiet : ¬ history.Refreshes count) : history.Remembers (count + 1) := by
  have hKeeps := keeps_succ hQuiet
  cases h with
  | blank hBlank hIgnoring =>
    refine .blank (hKeeps.blank hBlank) ?_
    intro place hPlace hRefreshes
    have hNe : place ≠ count := by
      rintro rfl
      exact hQuiet hRefreshes
    obtain ⟨later, hFrom, hTo, hLater⟩ := hIgnoring place (by omega) hRefreshes
    exact ⟨later, hFrom, Nat.lt_succ_of_lt hTo, hLater⟩
  | compiled hLast hRefreshes hNone hIgnoring hFrom hOrigin hCompiles hHolds =>
    refine .compiled (Nat.lt_succ_of_lt hLast) hRefreshes ?_ hIgnoring
      (hKeeps.compiledFrom.trans hFrom) hOrigin hCompiles (hKeeps.holds hHolds)
    intro place hAfter hBefore hPlace
    rcases Nat.lt_succ_iff_lt_or_eq.mp hBefore with hLt | rfl
    · exact hNone place hAfter hLt hPlace
    · exact hQuiet hPlace

theorem Remembers.isLeast_stretch {count : Nat} (h : history.Remembers count)
    (hRefreshes : history.Refreshes count)
    (hIgnoring : (history.state count).isIgnoring = false)
    (hStale : (history.state count).compiledFrom ≠ some (history.state count).pair) :
    IsLeast (history.stretch count) count := by
  refine ⟨mem_stretch_self hRefreshes, ?_⟩
  rintro first ⟨hFirst, hRefreshesFirst, hSame⟩
  by_contra hLt
  rw [Nat.not_le] at hLt
  cases h with
  | blank _ hForgotten =>
    obtain ⟨later, hFrom, hTo, hRefreshesLater, hLater⟩ := hForgotten first hLt hRefreshesFirst
    have hPair := hSame later hFrom (Nat.le_of_lt hTo) hRefreshesLater
    rw [isIgnoring_congr hPair, hIgnoring] at hLater
    cases hLater
  | @compiled last origin hLast hRefreshesLast hNone _ hCompiled _ _ _ =>
    have hFrom : first ≤ last := by
      by_contra hAfter
      exact hNone first (by omega) hLt hRefreshesFirst
    have hPair := hSame last hFrom (Nat.le_of_lt hLast) hRefreshesLast
    rw [hPair] at hCompiled
    exact hStale hCompiled

theorem isLeast_stretch_of_last {last origin place : Nat} (hLast : last ≤ place)
    (hOrigin : IsLeast (history.stretch last) origin)
    (hPair : (history.state last).pair = (history.state place).pair)
    (hQuiet : ∀ between, last < between → between ≤ place → history.Refreshes between →
      (history.state between).pair = (history.state place).pair) :
    IsLeast (history.stretch place) origin := by
  refine ⟨mem_stretch_of_mem hOrigin.1 hLast hPair hQuiet, ?_⟩
  rintro first ⟨hFirst, hRefreshesFirst, hSame⟩
  by_cases hFrom : first ≤ last
  · refine hOrigin.2 ⟨hFrom, hRefreshesFirst, ?_⟩
    intro between hAfter hBefore hBetween
    rw [hSame between hAfter (Nat.le_trans hBefore hLast) hBetween, hPair]
  · have hTo := hOrigin.1.1
    omega

theorem Remembers.refresh {count : Nat} (h : history.Remembers count)
    (hRefreshes : history.Refreshes count) : history.Remembers (count + 1) := by
  have hState := state_succ_of_refreshes hRefreshes
  have hNone : ∀ place, count < place → place < count + 1 → ¬ history.Refreshes place := by
    intro place hAfter hBefore
    omega
  rcases refresh_cases (history.state count) with
    ⟨hIgnoring, hBlank, _⟩ | ⟨hIgnoring, hPair, hSame⟩ | ⟨hIgnoring, hStale, hCompiles⟩
  · rw [← hState] at hBlank
    refine .blank hBlank ?_
    intro place hPlace _
    exact ⟨count, Nat.le_of_lt_succ hPlace, Nat.lt_succ_self count, hRefreshes, hIgnoring⟩
  · rw [hSame] at hState
    cases h with
    | blank hBlank =>
      rw [hBlank.compiledFrom] at hPair
      cases hPair
    | @compiled last origin hLast _ hQuiet _ hCompiled hOrigin hBuilt hHolds =>
      have hPairs := Option.some.inj (hCompiled.symm.trans hPair)
      have hStretch : IsLeast (history.stretch count) origin := by
        refine isLeast_stretch_of_last (Nat.le_of_lt hLast) hOrigin hPairs ?_
        intro between hAfter hBefore hBetween
        rcases Nat.lt_or_eq_of_le hBefore with hLt | rfl
        · exact absurd hBetween (hQuiet between hAfter hLt)
        · rfl
      refine .compiled (Nat.lt_succ_self count) hRefreshes hNone hIgnoring ?_ hStretch hBuilt ?_
      · rw [hState, hPair]
      · rwa [hState]
  · have hStretch := h.isLeast_stretch hRefreshes hIgnoring hStale
    rw [← hState] at hCompiles
    exact .compiled (Nat.lt_succ_self count) hRefreshes hNone hIgnoring hCompiles.compiledFrom
      hStretch hCompiles hCompiles.holds

theorem remembers (count : Nat) : history.Remembers count := by
  induction count with
  | zero =>
    refine .blank ⟨rfl, rfl, rfl⟩ ?_
    intro place hPlace
    cases hPlace
  | succ count ih =>
    by_cases h : history.Refreshes count
    · exact ih.refresh h
    · exact ih.keep h

/-- What a refreshed selection holds was compiled at the first step of the stretch. -/
theorem exists_origin {place : Nat} (hRefreshes : history.Refreshes place)
    (hIgnoring : (history.state place).isIgnoring = false) :
    ∃ origin, IsLeast (history.stretch place) origin ∧
      (history.state origin).Compiles (history.state (origin + 1)) ∧
      (history.state (place + 1)).Holds
        ((history.state origin).outcome (history.state origin).builds) := by
  cases history.remembers (place + 1) with
  | blank _ hForgotten =>
    obtain ⟨later, hFrom, hTo, _, hLater⟩ := hForgotten place (Nat.lt_succ_self place) hRefreshes
    have hSame : later = place := by omega
    rw [hSame, hIgnoring] at hLater
    cases hLater
  | @compiled last origin hLast _ hNone _ _ hOrigin hCompiles hHolds =>
    have hSame : last = place := by
      by_contra hNe
      exact hNone place (by omega) (Nat.lt_succ_self place) hRefreshes
    rw [hSame] at hOrigin
    exact ⟨origin, hOrigin, hCompiles, hHolds⟩

theorem not_ignoring_of_cached {place : Nat} (hRefreshes : history.Refreshes place)
    {object : Compiled} (hObject : (history.state (place + 1)).cached = some object) :
    (history.state place).isIgnoring = false := by
  rw [← Bool.not_eq_true]
  intro hIgnoring
  rw [state_succ_of_refreshes hRefreshes, (refresh_of_ignoring hIgnoring).cached] at hObject
  cases hObject

theorem exists_origin_of_cached {place : Nat} (hRefreshes : history.Refreshes place)
    {object : Compiled} (hObject : (history.state (place + 1)).cached = some object) :
    ∃ origin, IsLeast (history.stretch place) origin ∧
      (history.state origin).outcome (history.state origin).builds = .ok object ∧
      (history.state origin).builds < (history.state (origin + 1)).builds := by
  obtain ⟨origin, hOrigin, hCompiles, hHolds⟩ :=
    exists_origin hRefreshes (not_ignoring_of_cached hRefreshes hObject)
  have hOutcome := hHolds.eq_ok_of_cached hObject
  exact ⟨origin, hOrigin, hOutcome, hCompiles.builds_lt object hOutcome⟩

section
variable {place later : Nat} {object other : Compiled}
variable (hRefreshes : history.Refreshes place) (hLater : history.Refreshes later)
variable (hObject : (history.state (place + 1)).cached = some object)
variable (hOther : (history.state (later + 1)).cached = some other)
include hRefreshes hLater hObject hOther

theorem same_stretch_of_build_eq (hBuild : object.build = other.build) :
    ∀ between, place ≤ between → between ≤ later → history.Refreshes between →
      (history.state between).pair = (history.state later).pair := by
  obtain ⟨origin, hOrigin, hOutcome, hBuilt⟩ := exists_origin_of_cached hRefreshes hObject
  obtain ⟨origin', hOrigin', hOutcome', hBuilt'⟩ := exists_origin_of_cached hLater hOther
  rw [(outcome_eq_ok_iff.mp hOutcome).2, (outcome_eq_ok_iff.mp hOutcome').2] at hBuild
  -- the number of builds has grown between two different origins
  have hSame : origin = origin' := by
    rcases Nat.lt_trichotomy origin origin' with hLt | hEq | hLt
    · have hMono : (history.state (origin + 1)).builds ≤ (history.state origin').builds :=
        builds_mono hLt
      omega
    · exact hEq
    · have hMono : (history.state (origin' + 1)).builds ≤ (history.state origin).builds :=
        builds_mono hLt
      omega
  intro between hFrom hTo hBetween
  have hAfter : origin' ≤ between := by
    rw [← hSame]
    exact Nat.le_trans hOrigin.1.1 hFrom
  exact hOrigin'.1.2.2 between hAfter hTo hBetween

theorem eq_of_same_stretch (hOrder : place ≤ later)
    (hSame : ∀ between, place ≤ between → between ≤ later → history.Refreshes between →
      (history.state between).pair = (history.state later).pair) : object = other := by
  obtain ⟨origin, hOrigin, hOutcome, _⟩ := exists_origin_of_cached hRefreshes hObject
  obtain ⟨origin', hOrigin', hOutcome', _⟩ := exists_origin_of_cached hLater hOther
  have hStretch : IsLeast (history.stretch later) origin := by
    refine isLeast_stretch_of_last hOrder hOrigin (hSame place (Nat.le_refl _) hOrder hRefreshes) ?_
    intro between hFrom hTo hBetween
    exact hSame between (Nat.le_of_lt hFrom) hTo hBetween
  rw [hOrigin'.unique hStretch, hOutcome] at hOutcome'
  exact Except.ok.inj hOutcome'

end

theorem refreshes_of_read {place : Nat} (h : history.steps[place]? = some .read) :
    history.Refreshes place :=
  ⟨_, h, rfl⟩

theorem answer?_of_read {place : Nat} (h : history.steps[place]? = some .read) :
    history.answer? place = some (.object (history.state (place + 1)).cached) := by
  rw [answer?, h, state_succ h]
  rfl

theorem answer?_eq_object_iff {place : Nat} (h : history.steps[place]? = some .read)
    {object : Compiled} :
    history.answer? place = some (.object (some object)) ↔
      (history.state (place + 1)).cached = some object := by
  rw [answer?_of_read h, Option.some.injEq, Answer.object.injEq]

/-- What there is to say about the answers of a selection. Once it is up to date, it holds what was
compiled at the first step of the stretch, with the vocabulary and the settings that were in force
there, or nothing if keywords are ignored. Two reads give the same object exactly if both give one
and belong to one stretch. Steps that do not bring it up to date touch neither the object nor the
error. -/
structure Explained (history : History ι) : Prop where
  ignoring : ∀ place, history.Refreshes place →
    (history.state place).mode = none ∨ (history.state place).mode = some ignoreName →
      (history.state (place + 1)).cached = none ∧
        (history.state (place + 1)).errorMessage = none
  since_origin : ∀ place name, history.Refreshes place →
    (history.state place).mode = some name → name ≠ ignoreName →
    ∃ origin, IsLeast (history.stretch place) origin ∧
      (history.state origin).Compiles (history.state (origin + 1)) ∧
      (history.state (place + 1)).Holds
        ((Filter.create (some name) (history.state place).text (history.state origin).vocabulary
          (history.state origin).settings).map (⟨·, (history.state origin).builds⟩))
  present : ∀ place name, history.Refreshes place →
    (history.state place).mode = some name → name ≠ ignoreName →
    (∀ earlier ≤ place, (history.state earlier).vocabulary = (history.state place).vocabulary ∧
      (history.state earlier).settings = (history.state place).settings) →
    ∃ number, (history.state (place + 1)).Holds
      ((Filter.create (some name) (history.state place).text (history.state place).vocabulary
        (history.state place).settings).map (⟨·, number⟩))
  read : ∀ place, history.steps[place]? = some .read →
    history.answer? place = some (.object (history.state (place + 1)).cached)
  validate : ∀ place, history.steps[place]? = some .validate →
    history.answer? place = some (.validity (history.state (place + 1)).errorMessage.isNone)
  select : ∀ place tests, history.steps[place]? = some (.select tests) →
    history.answer? place =
      some (.tests (selectTests ((history.state (place + 1)).cached.map (·.filter)) tests))
  same_object_iff : ∀ place later, place ≤ later → history.steps[place]? = some .read →
    history.steps[later]? = some .read →
    ((∃ object other, history.answer? place = some (.object (some object)) ∧
        history.answer? later = some (.object (some other)) ∧ object.build = other.build) ↔
      (∃ object, history.answer? place = some (.object (some object))) ∧
      (∃ other, history.answer? later = some (.object (some other))) ∧
      ∀ between, place ≤ between → between ≤ later → history.Refreshes between →
        (history.state between).pair = (history.state later).pair)
  eq_of_build_eq : ∀ place later object other, place ≤ later →
    history.steps[place]? = some .read → history.steps[later]? = some .read →
    history.answer? place = some (.object (some object)) →
    history.answer? later = some (.object (some other)) →
    object.build = other.build → object = other
  untouched : ∀ place step, history.steps[place]? = some step → step.refreshes = false →
    (history.state (place + 1)).cached = (history.state place).cached ∧
      (history.state (place + 1)).errorMessage = (history.state place).errorMessage

section
variable {place : Nat} {name : String} (hRefreshes : history.Refreshes place)
variable (hMode : (history.state place).mode = some name) (hName : name ≠ ignoreName)
include hRefreshes hMode hName

theorem exists_origin_of_mode :
    ∃ origin, IsLeast (history.stretch place) origin ∧
      (history.state origin).Compiles (history.state (origin + 1)) ∧
      (history.state (place + 1)).Holds
        ((Filter.create (some name) (history.state place).text (history.state origin).vocabulary
          (history.state origin).settings).map (⟨·, (history.state origin).builds⟩)) := by
  have hIgnoring : (history.state place).isIgnoring = false := by
    rw [isIgnoring, hMode]
    simpa using hName
  obtain ⟨origin, hOrigin, hCompiles, hHolds⟩ := exists_origin hRefreshes hIgnoring
  -- the first step of the stretch saw the present mode and text
  have hPair := hOrigin.1.2.2 origin (Nat.le_refl _) hOrigin.1.1 hOrigin.1.2.1
  obtain ⟨hMode', hText⟩ := Prod.mk.inj hPair
  rw [outcome, hMode', hText, hMode] at hHolds
  exact ⟨origin, hOrigin, hCompiles, hHolds⟩

end

/-- Along every history a selection answers with what it compiled at the first step of the stretch,
whatever happened to vocabulary and settings since. -/
theorem answers_explained (history : History ι) : history.Explained where
  ignoring place hRefreshes hMode := by
    have hBlank := refresh_of_ignoring (isIgnoring_iff.mpr hMode)
    rw [← state_succ_of_refreshes hRefreshes] at hBlank
    exact ⟨hBlank.cached, hBlank.errorMessage⟩
  since_origin place name := exists_origin_of_mode
  present place name hRefreshes hMode hName hStay := by
    obtain ⟨origin, hOrigin, _, hHolds⟩ := exists_origin_of_mode hRefreshes hMode hName
    obtain ⟨hVocabulary, hSettings⟩ := hStay origin hOrigin.1.1
    rw [hVocabulary, hSettings] at hHolds
    exact ⟨_, hHolds⟩
  read place := answer?_of_read
  validate place hStep := by
    rw [answer?, hStep, state_succ hStep]
    change some (Answer.validity (history.state place).refresh.error.isNone) = _
    rw [errorMessage, Option.isNone_map]
    rfl
  select place tests hStep := by
    rw [answer?, hStep, state_succ hStep]
    rfl
  same_object_iff place later hOrder hPlace hLater := by
    simp only [answer?_eq_object_iff hPlace, answer?_eq_object_iff hLater]
    constructor
    · rintro ⟨object, other, hObject, hOther, hBuild⟩
      refine ⟨⟨object, hObject⟩, ⟨other, hOther⟩, ?_⟩
      exact same_stretch_of_build_eq (refreshes_of_read hPlace) (refreshes_of_read hLater) hObject
        hOther hBuild
    · rintro ⟨⟨object, hObject⟩, ⟨other, hOther⟩, hSame⟩
      refine ⟨object, other, hObject, hOther, ?_⟩
      rw [eq_of_same_stretch (refreshes_of_read hPlace) (refreshes_of_read hLater) hObject hOther
        hOrder hSame]
  eq_of_build_eq place later object other hOrder hPlace hLater hObject hOther hBuild := by
    rw [answer?_eq_object_iff hPlace] at hObject
    rw [answer?_eq_object_iff hLater] at hOther
    have hSame := same_stretch_of_build_eq (refreshes_of_read hPlace) (refreshes_of_read hLater)
      hObject hOther hBuild
    exact eq_of_same_stretch (refreshes_of_read hPlace) (refreshes_of_read hLater) hObject hOther
      hOrder hSame
  untouched place step hStep hKind := by
    have hKeeps := keeps_after hKind (history.state place)
    rw [← state_succ hStep] at hKeeps
    exact ⟨hKeeps.cached, hKeeps.errorMessage⟩

-- a pair that comes back before the next read is not compiled again, and one that comes back after is
example :
    let history : History Nat := ⟨some "expr", some "a", none, {},
      [.read, .set none none, .assignVocabulary (some []), .set (some "expr") (some "a"), .read,
        .set none none, .validate, .set (some "expr") (some "a"), .read]⟩
    (history.state 5).cached = (history.state 1).cached ∧
      (history.state 9).errorMessage = some "bad keywords: invalid keyword: a" := by
  decide +kernel

end History

end KeywordFilter
