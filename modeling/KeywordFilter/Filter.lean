import KeywordFilter.Expression.Parsing
import KeywordFilter.Tree.Evaluation
import KeywordFilter.Tree.Rendering
import KeywordFilter.WordList

/-!
# Keyword filters

A filter decides which sets of keywords are selected. It is built from a mode and a text: an
expression, a list of words of which all or any are asked for, or nothing at all, in which case it
accepts every set.
-/

set_option autoImplicit false

namespace KeywordFilter

inductive Mode where
  | listed (quantifier : Quantifier)
  | expression
  deriving DecidableEq, Repr

namespace Mode

def name : Mode → String
  | listed .all => "all of"
  | listed .any => "any of"
  | expression => "expr"

def ofName? (name : String) : Option Mode :=
  if name = "all of" then some (listed .all)
  else if name = "any of" then some (listed .any)
  else if name = "expr" then some expression
  else none

def compile (mode : Mode) (settings : FullSettings) (vocabulary : Option (List String))
    (text : String) : Except FilterError Predicate :=
  match mode with
  | listed quantifier => WordList.build quantifier settings vocabulary (Text.words text)
  | expression => Expression.parse settings vocabulary (some text)

end Mode

def ignoreName : String := "ignore"

/-- A filter for sets of keywords. It accepts every set, or the sets that meet a condition. -/
inductive Filter where
  | acceptAll
  | matching (mode : Mode) (text : String) (predicate : Predicate) (settings : FullSettings)
  deriving DecidableEq

namespace Filter

/-- Builds the filter of a mode, given by name, and a text. The words of the vocabulary are as
declared, and `none` admits every keyword. -/
def create (mode text : Option String) (vocabulary : Option (List String)) (settings : FullSettings) :
    Except FilterError Filter :=
  match mode with
  | none => .ok acceptAll
  | some name =>
    if name = ignoreName then .ok acceptAll
    else
      match Mode.ofName? name with
      | none => .error (.unknownMode name)
      | some mode => do
        let text := text.getD ""
        let predicate ← mode.compile settings vocabulary text
        pure (matching mode text predicate settings)

def modeName : Filter → String
  | acceptAll => ignoreName
  | matching mode .. => mode.name

def text : Filter → String
  | acceptAll => ""
  | matching _ text .. => text

def predicate? : Filter → Option Predicate
  | acceptAll => none
  | matching _ _ predicate _ => some predicate

def settings : Filter → FullSettings
  | acceptAll => {}
  | matching _ _ _ settings => settings

def summary (filter : Filter) : String :=
  (filter.predicate?.map Predicate.text).getD ""

def quoted (filter : Filter) : String :=
  "Keywords(" ++ Text.quote filter.modeName ++ ", " ++ Text.quote filter.summary ++ ")"

def accepts (filter : Filter) (keywords : KeywordSet) : Bool :=
  filter.predicate?.all (·.accepts keywords)

def foldKeywords (filter : Filter) (words : List String) : KeywordSet :=
  Keyword.foldSet filter.settings words

def select (filter : Filter) (sets : List KeywordSet) : List KeywordSet :=
  sets.filter filter.accepts

/-- Two filters are the same when they have the same condition, apart from the words shown; mode,
text and settings do not count. -/
def Same (filter other : Filter) : Prop :=
  filter.predicate?.map Tree.bare = other.predicate?.map Tree.bare

instance (filter other : Filter) : Decidable (filter.Same other) :=
  inferInstanceAs (Decidable (filter.predicate?.map Tree.bare = other.predicate?.map Tree.bare))

/-- For each filter the place of the first one that is the same. -/
def firstPlaces (filters : List Filter) : List Nat :=
  filters.map fun filter => filters.findIdx fun other => decide (other.Same filter)

end Filter

end KeywordFilter
