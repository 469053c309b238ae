import KeywordFilter.Filter

/-!
# Saved selections

A saved run keeps the mode and the text of its filter. A `Selection` holds this pair, compiles the
filter when it is asked for, and keeps the outcome until mode or text change. A change of vocabulary
or settings alone does not make it compile again.
-/

set_option autoImplicit false

namespace KeywordFilter

/-- A compiled filter, with the number of filters that the selection had compiled before it. Two
filters of one selection are the same object when these numbers are equal. -/
structure Compiled where
  filter : Filter
  build : Nat
  deriving DecidableEq

/-- The mode and text of a filter, with what came of compiling them last: the filter or the error,
and the mode and text that they belong to. The mode need not be one that exists. -/
structure Selection where
  mode : Option String := some ignoreName
  text : Option String := none
  vocabulary : Option (List String) := none
  settings : FullSettings := {}
  cached : Option Compiled := none
  compiledFrom : Option (Option String × Option String) := none
  error : Option FilterError := none
  builds : Nat := 0
  deriving DecidableEq

namespace Selection

def isIgnoring (selection : Selection) : Bool :=
  selection.mode.all (· = ignoreName)

def compile (selection : Selection) : Selection :=
  let compiledFrom := some (selection.mode, selection.text)
  match Filter.create selection.mode selection.text selection.vocabulary selection.settings with
  | .ok filter =>
    { selection with
      cached := some ⟨filter, selection.builds⟩
      compiledFrom := compiledFrom
      error := none
      builds := selection.builds + 1 }
  | .error error =>
    { selection with cached := none, compiledFrom := compiledFrom, error := some error }

/-- Brings the outcome up to date with mode and text. -/
def refresh (selection : Selection) : Selection :=
  if selection.isIgnoring then
    -- what was compiled before is forgotten, so the same pair is compiled again later
    { selection with cached := none, compiledFrom := none, error := none }
  else if selection.compiledFrom = some (selection.mode, selection.text) then selection
  else selection.compile

def set (selection : Selection) (mode text : Option String) : Selection :=
  { selection with mode := mode, text := text }

def filter? (selection : Selection) : Option Filter :=
  selection.refresh.cached.map (·.filter)

/-- Whether a filter can be compiled, or none is asked for. -/
def isValid (selection : Selection) : Bool :=
  selection.refresh.error.isNone

def errorMessage (selection : Selection) : Option String :=
  selection.error.map fun error => "bad keywords: " ++ error.message

/-- The part of a saved run that describes its filter. The mode is spelled as an operator there. -/
structure Properties where
  operator : Option String
  keywords : Option String
  deriving DecidableEq, Repr

def modeOfOperator? (operator : String) : Option String :=
  if operator = "ignore" then some ignoreName
  else if operator = "expr" then some Mode.expression.name
  else if operator = "allOf" then some (Mode.listed .all).name
  else if operator = "anyOf" then some (Mode.listed .any).name
  else none

/-- The operator that a saved run has for a mode; a mode that does not exist is not kept. -/
def operatorOfMode (mode : Option String) : String :=
  match mode.bind Mode.ofName? with
  | some .expression => "expr"
  | some (.listed .all) => "allOf"
  | some (.listed .any) => "anyOf"
  | none => "ignore"

inductive Warning where
  | unknownOperator (operator : String)
  deriving DecidableEq, Repr

def Warning.message : Warning → String
  | unknownOperator operator =>
    "Unknown keyword operator " ++ Text.quote operator ++ ", ignoring keywords"

/-- The mode of a saved run, with a warning if its operator is not known. A run that lacks operator
or keywords asks for no filter. -/
def Properties.mode (properties : Properties) : String × Option Warning :=
  match properties.operator, properties.keywords with
  | some operator, some _ =>
    match modeOfOperator? operator with
    | some mode => (mode, none)
    | none => (ignoreName, some (.unknownOperator operator))
  | _, _ => (ignoreName, none)

def ofProperties (properties : Properties) (vocabulary : Option (List String))
    (settings : FullSettings) : Selection × Option Warning :=
  let (mode, warning) := properties.mode
  ({ mode := some mode, text := properties.keywords, vocabulary := vocabulary,
     settings := settings }, warning)

def toProperties (selection : Selection) : Properties where
  operator := some (operatorOfMode selection.mode)
  keywords := selection.text

end Selection

end KeywordFilter
