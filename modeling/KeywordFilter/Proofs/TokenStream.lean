import KeywordFilter.Proofs.Scanning

/-!
# The token stream of a text

A scan seen as one list: its tokens, and at last the end of the text or the character where scanning
stops. Every item covers a slice of the text, which is empty only for the end of the text.
-/

set_option autoImplicit false

namespace KeywordFilter

open Unicode Scan

inductive Symbol where
  | token (token : Token)
  | stop (stop : Stop)
  deriving DecidableEq, Repr

/-- An item of the token stream, with the slice of the text that it covers. -/
structure Item where
  symbol : Symbol
  source : List Char
  position : Nat
  deriving DecidableEq, Repr

def Item.Covers (item : Item) (text : List Char) : Prop :=
  (text.drop item.position).take item.source.length = item.source

/-- The item has its place in the text: it is the slice at its position, and only the end of the text
is empty. -/
structure Item.Locates (item : Item) (text : String) : Prop where
  covers : item.Covers text.toList
  source_eq_nil_iff : item.source = [] ↔ item.symbol = .stop .finish
  position_of_finish : item.symbol = .stop .finish → item.position = text.length

namespace Scan

def itemOf (lexeme : Lexeme) : Item :=
  ⟨.token lexeme.token, lexeme.source, lexeme.position⟩

def items (scan : Scan) : List Item :=
  scan.lexemes.map itemOf ++ [⟨.stop scan.stop, scan.stop.source, scan.position⟩]

def symbols (scan : Scan) : List Symbol :=
  scan.items.map (·.symbol)

theorem symbols_eq (scan : Scan) :
    scan.symbols = scan.tokens.map .token ++ [.stop scan.stop] := by
  simp [symbols, items, tokens, itemOf]

theorem covers_append (front source rest : List Char) (symbol : Symbol) :
    Item.Covers ⟨symbol, source, front.length⟩ (front ++ (source ++ rest)) := by
  simp [Item.Covers]

theorem items_cover {settings : FullSettings} (front : List Char) {text : List Char} {item : Item}
    (hItem : item ∈ (scanFrom settings front.length text).items) : item.Covers (front ++ text) := by
  generalize hPosition : front.length = position at hItem
  fun_induction scanFrom settings position text generalizing front with
  | case1 =>
    rw [List.mem_singleton.mp hItem, ← hPosition]
    exact covers_append front [] [] _
  | case2 position c rest hSpacing ih =>
    have h : item.Covers (front ++ [c] ++ rest) := ih _ (by simp [hPosition]) hItem
    simpa using h
  | case3 position c rest hSpacing token hToken ih =>
    rcases List.mem_cons.mp hItem with rfl | hItem
    · rw [← hPosition]
      exact covers_append front [c] rest _
    · have h : item.Covers (front ++ [c] ++ rest) := ih _ (by simp [hPosition]) hItem
      simpa using h
  | case4 position c rest hSpacing hToken hStart source others ih =>
    have hText : c :: rest = source ++ others := (identifier_append_others c rest).symm
    rcases List.mem_cons.mp hItem with rfl | hItem
    · rw [← hPosition, hText]
      exact covers_append front source others _
    · have h : item.Covers (front ++ source ++ others) := ih _ (by simp [hPosition]) hItem
      rwa [List.append_assoc, ← hText] at h
  | case5 position c rest hSpacing hToken hStart =>
    rw [List.mem_singleton.mp hItem, ← hPosition]
    exact covers_append front [c] rest _

theorem source_eq_nil_iff {settings : FullSettings} {position : Nat} {text : List Char} {item : Item}
    (hItem : item ∈ (scanFrom settings position text).items) :
    item.source = [] ↔ item.symbol = .stop .finish := by
  fun_induction scanFrom settings position text with
  | case1 =>
    rw [List.mem_singleton.mp hItem]
    simp [Stop.source]
  | case2 position c rest hSpacing ih => exact ih hItem
  | case3 position c rest hSpacing token hToken ih =>
    rcases List.mem_cons.mp hItem with rfl | hItem
    · simp [itemOf]
    · exact ih hItem
  | case4 position c rest hSpacing hToken hStart source others ih =>
    rcases List.mem_cons.mp hItem with rfl | hItem
    · simp [itemOf, source]
    · exact ih hItem
  | case5 position c rest hSpacing hToken hStart =>
    rw [List.mem_singleton.mp hItem]
    simp [Stop.source]

theorem position_of_finish {settings : FullSettings} {position : Nat} {text : List Char}
    (hStop : (scanFrom settings position text).stop = .finish) :
    (scanFrom settings position text).position = position + text.length := by
  fun_induction scanFrom settings position text with
  | case1 => rfl
  | case2 position c rest hSpacing ih =>
    rw [ih hStop, List.length_cons]
    omega
  | case3 position c rest hSpacing token hToken ih =>
    have h := ih hStop
    simp only [cons, List.length_cons]
    omega
  | case4 position c rest hSpacing hToken hStart source others ih =>
    have h := ih hStop
    have hText : (source ++ others).length = (c :: rest).length :=
      congrArg List.length (identifier_append_others c rest)
    rw [List.length_append] at hText
    simp only [cons]
    omega
  | case5 => cases hStop

theorem locates_of_mem {settings : FullSettings} {text : String} {item : Item}
    (hItem : item ∈ (ofText settings text).items) : item.Locates text := by
  refine ⟨items_cover [] hItem, source_eq_nil_iff hItem, ?_⟩
  intro hFinish
  rcases List.mem_append.mp hItem with hLexeme | hStop
  · obtain ⟨lexeme, _, rfl⟩ := List.mem_map.mp hLexeme
    cases hFinish
  · rw [List.mem_singleton.mp hStop] at hFinish ⊢
    have h := position_of_finish (Symbol.stop.inj hFinish)
    rwa [Nat.zero_add, String.length_toList] at h

end Scan

end KeywordFilter
