import RowFilter.Proofs.Sql.Clauses
import RowFilter.Proofs.Sql.Tokens

/-!
# Spelling of clauses

A text spells tokens if a reader of tokens finds exactly these tokens in it, whatever follows, as
long as what follows cannot belong to the last of them. Every piece of a clause spells its tokens,
and pieces with a boundary between them spell their tokens one after the other; so the text of a
clause spells the tokens of the clause whenever its operands do.
-/

namespace RowFilter.Sql

open Text

/-- Whether a character ends every token but one between quotes. -/
def isBoundary (c : Char) : Bool := c = ' ' || c = ',' || c = ')'

/-- Whether a text is empty or begins with a boundary. -/
def Bounded (rest : List Char) : Prop := ∀ c ∈ rest.head?, isBoundary c = true

/-- Whether a text is read as the given tokens in front of every bounded text. -/
def Spells (text : List Char) (tokens : List Token) : Prop :=
  ∀ rest, Bounded rest → lex (text ++ rest) = (lex rest).map (tokens ++ ·)

/-- Whether the reader stands between quotes. -/
def Reading.isQuoted : Reading → Bool
  | .quoted _ _ => true
  | _ => false

theorem bounded_nil : Bounded [] := by
  intro c hc
  simp at hc

theorem bounded_cons {c : Char} (hc : isBoundary c = true) (rest : List Char) :
    Bounded (c :: rest) := by
  intro d hd
  simp only [List.head?_cons, Option.mem_def, Option.some.injEq] at hd
  rwa [← hd]

private theorem symbol_extend_boundary (first : Char) (soFar : List Char) {c : Char}
    (hc : isBoundary c = true) :
    (Reading.symbol first soFar).extend c = none := by
  have none_found : Symbol.ofChars? (first :: soFar ++ [c]) = none := by
    simp only [Symbol.ofChars?, List.find?_eq_none, beq_iff_eq]
    intro symbol _ spelled
    have last : symbol.spelling.toList.getLast? = some c := by rw [spelled, List.getLast?_concat]
    have several : 1 < symbol.spelling.toList.length := by simp [spelled]
    simp only [isBoundary, Bool.or_eq_true, decide_eq_true_eq] at hc
    rcases symbol with _ | _ | _ | _ | (_ | _ | _ | _ | _ | _) <;>
      simp [Symbol.spelling, Relation.sign] at last several <;> subst last <;> simp at hc
  rw [Reading.extend, none_found]
  rfl

/-- A boundary extends no token but one between quotes. -/
theorem Reading.extend_boundary {reading : Reading} (unquoted : reading.isQuoted = false) {c : Char}
    (hc : isBoundary c = true) : reading.extend c = none := by
  cases reading with
  | symbol first soFar => exact symbol_extend_boundary first soFar hc
  | quoted quote soFar => simp [Reading.isQuoted] at unquoted
  | closed quote soFar =>
      simp only [isBoundary, Bool.or_eq_true, decide_eq_true_eq] at hc
      rcases hc with (rfl | rfl) | rfl <;> cases quote <;> simp [Reading.extend, Quote.char]
  | _ =>
      simp only [isBoundary, Bool.or_eq_true, decide_eq_true_eq] at hc
      rcases hc with (rfl | rfl) | rfl <;> rfl

theorem Reading.stops_of_bounded {reading : Reading} (unquoted : reading.isQuoted = false)
    {rest : List Char} (bounded : Bounded rest) : reading.Stops rest :=
  fun c hc => Reading.extend_boundary unquoted (bounded c hc)

/-- Characters that run through one token spell it. -/
theorem spells_of_run {c : Char} {first last : Reading} {chars : List Char} {read : List Token}
    (started : Reading.start c = some first)
    (extended : chars.foldlM Reading.extend first = some last) (finished : last.finish = some read)
    (unquoted : last.isQuoted = false) :
    Spells (c :: chars) read :=
  fun _ bounded => lex_of_run started extended finished (Reading.stops_of_bounded unquoted bounded)

theorem spells_nil : Spells [] [] := by
  intro rest _
  simp

/-- Two texts with a boundary between them spell their tokens one after the other. -/
theorem Spells.append {text : List Char} {first second : List Token} (spells : Spells text first)
    {c : Char} (hc : isBoundary c = true) {rest : List Char} (later : Spells (c :: rest) second) :
    Spells (text ++ c :: rest) (first ++ second) := by
  intro after bounded
  rw [List.append_assoc, spells (c :: rest ++ after) (bounded_cons hc (rest ++ after)),
    later after bounded, Option.map_map]
  simp only [Function.comp_def, List.append_assoc]

/-- A blank spells nothing. -/
theorem Spells.blank {text : List Char} {tokens : List Token} (spells : Spells text tokens) :
    Spells (' ' :: text) tokens := by
  intro rest bounded
  rw [List.cons_append, lex_cons]
  exact spells rest bounded

/-- Two texts with a blank between them spell their tokens one after the other. -/
theorem Spells.spaced {text rest : List Char} {first second : List Token}
    (spells : Spells text first) (later : Spells rest second) :
    Spells (text ++ ' ' :: rest) (first ++ second) :=
  spells.append rfl later.blank

theorem spells_keyword (keyword : Keyword) : Spells keyword.spelling.toList [.keyword keyword] := by
  cases keyword <;> exact spells_of_run rfl rfl rfl rfl

theorem spells_symbol (symbol : Symbol) : Spells symbol.spelling.toList [.symbol symbol] := by
  rcases symbol with _ | _ | _ | _ | (_ | _ | _ | _ | _ | _) <;> exact spells_of_run rfl rfl rfl rfl

/-- An opening parenthesis is a token of its own, whatever follows. -/
theorem lex_opening (rest : List Char) :
    lex ('(' :: rest) = (lex rest).map (.symbol .opening :: ·) := by
  have alone : (Reading.symbol '(' []).Stops rest := by
    intro c _
    simp [Reading.extend, Symbol.ofChars?, Symbol.all, Symbol.spelling, Relation.sign]
  rw [lex_cons]
  exact scan_of_stops alone

/-- A text between parentheses. -/
theorem Spells.parenthesised {text : List Char} {tokens : List Token}
    (spells : Spells text tokens) :
    Spells ('(' :: text ++ [')']) (.symbol .opening :: tokens ++ [.symbol .closing]) := by
  have closed : Spells (text ++ [')']) (tokens ++ [.symbol .closing]) :=
    spells.append rfl (spells_symbol .closing)
  intro rest bounded
  rw [List.cons_append, List.cons_append, lex_opening, closed rest bounded, Option.map_map]
  rfl

theorem Reading.extend_quoted_quote (quote : Quote) (soFar : List Char) :
    (Reading.quoted quote soFar).extend quote.char = some (.closed quote soFar) := by
  simp [Reading.extend]

theorem Reading.extend_closed_quote (quote : Quote) (soFar : List Char) :
    (Reading.closed quote soFar).extend quote.char =
      some (.quoted quote (soFar ++ [quote.char])) := by
  simp [Reading.extend]

theorem Reading.extend_quoted_of_ne {quote : Quote} {c : Char} (hc : c ≠ quote.char)
    (soFar : List Char) :
    (Reading.quoted quote soFar).extend c = some (.quoted quote (soFar ++ [c])) := by
  simp [Reading.extend, hc]

/-- Characters with every quote doubled are read back between the quotes. -/
theorem foldlM_extend_quoted (quote : Quote) (soFar text : List Char) :
    (replaceChar quote.char [quote.char, quote.char] text).foldlM Reading.extend
        (.quoted quote soFar) =
      some (.quoted quote (soFar ++ text)) := by
  induction text generalizing soFar with
  | nil => simp [replaceChar]
  | cons c text ih =>
      have later := ih (soFar ++ [c])
      rw [List.append_assoc, List.singleton_append] at later
      rw [replaceChar, List.flatMap_cons, List.foldlM_append, ← replaceChar, ← later]
      by_cases hc : c = quote.char
      · simp only [hc, if_true, List.foldlM_cons, List.foldlM_nil, Reading.extend_quoted_quote,
          Reading.extend_closed_quote, Option.bind_eq_bind, Option.bind_some, Option.pure_def]
      · simp only [hc, if_false, List.foldlM_cons, List.foldlM_nil, Reading.extend_quoted_of_ne hc,
          Option.bind_eq_bind, Option.bind_some, Option.pure_def]

/-- Quoted characters spell the one token that stands for them. -/
theorem spells_quoteChars (quote : Quote) (text : List Char) :
    Spells (quoteChars quote.char text) [quote.token text] := by
  have started : Reading.start quote.char = some (.quoted quote []) := by cases quote <;> rfl
  have extended :
      (replaceChar quote.char [quote.char, quote.char] text ++ [quote.char]).foldlM Reading.extend
        (.quoted quote []) = some (.closed quote text) := by
    rw [List.foldlM_append, foldlM_extend_quoted]
    exact Reading.extend_quoted_quote quote text
  exact spells_of_run started extended rfl rfl

theorem spells_identifier (name : String) : Spells (identifier name).toList [.identifier name] := by
  have spells := spells_quoteChars .double name.toList
  rw [Quote.token, String.ofList_toList] at spells
  rwa [identifier, String.toList_ofList]

theorem spells_textLiteral (text : String) : Spells (textLiteral text).toList [.text text] := by
  have spells := spells_quoteChars .single text.toList
  rw [Quote.token, String.ofList_toList] at spells
  rwa [textLiteral, String.toList_ofList]

/-- Characters that a token takes one by one are all read as part of it. -/
theorem foldlM_extend {reading : List Char → Reading} {P : Char → Prop}
    (step : ∀ soFar c, P c → (reading soFar).extend c = some (reading (soFar ++ [c])))
    (soFar : List Char) {chars : List Char} (each : ∀ c ∈ chars, P c) :
    chars.foldlM Reading.extend (reading soFar) = some (reading (soFar ++ chars)) := by
  induction chars generalizing soFar with
  | nil => simp
  | cons c chars ih =>
      have later := ih (soFar ++ [c]) fun other hother => each other (List.mem_cons_of_mem c hother)
      rw [List.append_assoc, List.singleton_append] at later
      rw [List.foldlM_cons, step soFar c (each c List.mem_cons_self)]
      exact later

theorem spells_placeholder (number : Nat) :
    Spells (Clause.placeholder number).toList [.placeholder number] := by
  have digits : ∀ c ∈ Nat.toDigits 10 number, c.isDigit = true := fun c hc =>
    Nat.isDigit_of_mem_toDigits (by decide) (by decide) hc
  have chars : (Clause.placeholder number).toList = '$' :: Nat.toDigits 10 number := by
    simp [Clause.placeholder]
  have finished : (Reading.placeholder (Nat.toDigits 10 number)).finish =
      some [.placeholder number] := by
    simp [Reading.finish, Nat.toDigits_ne_nil, Nat.ofDigitChars_ten_toDigits]
  have step : ∀ soFar c, c.isDigit = true →
      (Reading.placeholder soFar).extend c = some (.placeholder (soFar ++ [c])) := by
    intro soFar c digit
    rw [Reading.extend, if_pos digit]
  rw [chars]
  exact spells_of_run rfl (foldlM_extend step [] digits) finished rfl

/-- Rows of tokens with a separator between neighbours. -/
def separated (separator : List Token) : List (List Token) → List Token
  | [] => []
  | [row] => row
  | row :: rest => row ++ separator ++ separated separator rest

theorem separated_cons_cons (separator first second : List Token) (rest : List (List Token)) :
    separated separator (first :: second :: rest) =
      first ++ separator ++ separated separator (second :: rest) := rfl

/-- What is picked from separated rows is what is picked from the rows, if the separator has nothing
to pick. -/
theorem filterMap_separated {γ : Type} {pick : Token → Option γ} {separator : List Token}
    (none_between : separator.filterMap pick = []) (rows : List (List Token)) :
    (separated separator rows).filterMap pick = rows.flatMap (List.filterMap pick) := by
  induction rows with
  | nil => rfl
  | cons row rest ih =>
      cases rest with
      | nil => simp [separated]
      | cons second rest =>
          rw [separated_cons_cons, List.filterMap_append, List.filterMap_append, none_between, ih,
            List.append_nil]
          exact List.flatMap_cons.symm

/-- Parentheses are passed over if symbols are not picked. -/
theorem filterMap_parenthesised {γ : Type} {pick : Token → Option γ}
    (symbols : ∀ s, pick (.symbol s) = none) (inner : List Token) :
    List.filterMap pick (.symbol .opening :: inner ++ [.symbol .closing]) =
      inner.filterMap pick := by
  rw [List.filterMap_append, List.filterMap_cons_none (symbols _),
    List.filterMap_cons_none (symbols _), List.filterMap_nil, List.append_nil]

/-- Two texts with a comma and a blank between them. -/
theorem Spells.listed {text rest : List Char} {first second : List Token}
    (spells : Spells text first) (later : Spells rest second) :
    Spells (text ++ ", ".toList ++ rest) (first ++ [.symbol .comma] ++ second) := by
  rw [List.append_assoc, List.append_assoc]
  exact spells.append rfl ((spells_symbol .comma).spaced later)

/-- Two texts with a keyword and blanks between them. -/
theorem Spells.connected {text rest : List Char} {first second : List Token}
    (spells : Spells text first) (keyword : Keyword) (later : Spells rest second) :
    Spells (text ++ ' ' :: keyword.spelling.toList ++ ' ' :: rest)
      (first ++ [.keyword keyword] ++ second) := by
  rw [List.append_assoc, List.append_assoc]
  exact spells.spaced ((spells_keyword keyword).spaced later)

/-- Joined texts spell separated tokens if the separator does so between any two texts. -/
theorem spells_joined {separator : String} {between : List Token}
    (step : ∀ {text rest : List Char} {first second : List Token}, Spells text first →
      Spells rest second →
      Spells (text ++ separator.toList ++ rest) (first ++ between ++ second))
    {ι : Type} {write : ι → String} {tokens : ι → List Token} {items : List ι}
    (each : ∀ item ∈ items, Spells (write item).toList (tokens item)) :
    Spells (joined separator (items.map write)).toList (separated between (items.map tokens)) := by
  induction items with
  | nil => exact spells_nil
  | cons item rest ih =>
      have first := each item List.mem_cons_self
      have later := ih fun other hother => each other (List.mem_cons_of_mem item hother)
      cases rest with
      | nil => exact first
      | cons second rest =>
          simp only [List.map_cons, joined, separated, String.toList_append] at later ⊢
          exact step first later

namespace Clause

variable {α : Type}

mutual

/-- The tokens of a clause, given those of its operands. -/
def tokens (operand : α → List Token) : Clause α → List Token
  | .always => [.keyword .yes]
  | .never => [.keyword .no]
  | .compare column relation value =>
      .identifier column :: .symbol (.relation relation) :: operand value
  | .among column operands =>
    .identifier column :: .keyword .member :: .symbol .opening ::
      separated [.symbol .comma] (operands.map operand) ++ [.symbol .closing]
  | .between column low high =>
    .identifier column :: .keyword .between :: operand low ++ .keyword .conjunction :: operand high
  | .like column pattern => .identifier column :: .keyword .ilike :: operand pattern
  | .isNull column => [.identifier column, .keyword .is, .keyword .null]
  | .isNotNull column => [.identifier column, .keyword .is, .keyword .not, .keyword .null]
  | .all [] => [.keyword .yes]
  | .any [] => [.keyword .no]
  | .all (part :: rest) =>
    .symbol .opening :: separated [.keyword .conjunction]
      (tokens operand part :: tokensOfParts operand rest) ++
      [.symbol .closing]
  | .any (part :: rest) =>
    .symbol .opening :: separated [.keyword .disjunction]
      (tokens operand part :: tokensOfParts operand rest) ++
      [.symbol .closing]
  | .both left right => tokens operand left ++ .keyword .conjunction :: tokens operand right

/-- The tokens of clauses. -/
def tokensOfParts (operand : α → List Token) : List (Clause α) → List (List Token)
  | [] => []
  | part :: rest => tokens operand part :: tokensOfParts operand rest

end

theorem tokensOfParts_eq_map (operand : α → List Token) (parts : List (Clause α)) :
    tokensOfParts operand parts = parts.map (tokens operand) := by
  induction parts with
  | nil => rfl
  | cons part rest ih => rw [tokensOfParts, ih, List.map_cons]

private theorem spells_test (column : String) (keyword : Keyword) {text : List Char}
    {tokens : List Token} (spells : Spells text tokens) :
    Spells ((identifier column).toList ++ ' ' :: keyword.spelling.toList ++ ' ' :: text)
      (.identifier column :: .keyword keyword :: tokens) :=
  (spells_identifier column).connected keyword spells

private theorem spells_parts (connective : String) (keyword : Keyword)
    (same : (" " ++ connective ++ " ").toList = ' ' :: keyword.spelling.toList ++ [' '])
    {write : α → String} {operand : α → List Token} {parts : List (Clause α)}
    (each : ∀ part ∈ parts, Spells (part.text write).toList (part.tokens operand)) :
    Spells (connected connective (parts.map (text write))).toList
      (.symbol .opening :: separated [.keyword keyword] (parts.map (tokens operand)) ++
        [.symbol .closing]) := by
  have spells : Spells (joined (" " ++ connective ++ " ") (parts.map (text write))).toList
      (separated [.keyword keyword] (parts.map (tokens operand))) := by
    refine spells_joined (fun first later => ?_) each
    have between := first.connected keyword later
    rw [same]
    simpa only [List.append_assoc, List.cons_append, List.nil_append] using between
  have inside := spells.parenthesised
  rw [connected, String.toList_append, String.toList_append]
  exact inside

/-- The text of a clause spells the tokens of the clause if every operand does. -/
theorem spells_text {write : α → String} {operand : α → List Token} (clause : Clause α)
    (each : ∀ a ∈ clause.operands, Spells (write a).toList (operand a)) :
    Spells (clause.text write).toList (clause.tokens operand) := by
  induction clause using induction with
  | always => exact spells_keyword .yes
  | never => exact spells_keyword .no
  | compare column relation value =>
      have spelled := each value (by simp [operands])
      rw [text]
      simp only [String.toList_append]
      have signed :=
        ((spells_identifier column).spaced (spells_symbol (.relation relation))).spaced spelled
      simpa [tokens, Symbol.spelling] using signed
  | among column values =>
      have listed : Spells (joined ", " (values.map write)).toList
          (separated [.symbol .comma] (values.map operand)) :=
        spells_joined (fun first later => first.listed later) each
      have test := spells_test column .member listed.parenthesised
      rw [text]
      simpa [tokens, Keyword.spelling] using test
  | between column low high =>
      have ends :=
        (each low (by simp [operands])).connected .conjunction (each high (by simp [operands]))
      have test := spells_test column .between ends
      rw [text]
      simpa [tokens, Keyword.spelling] using test
  | like column pattern =>
      have test := spells_test column .ilike (each pattern (by simp [operands]))
      rw [text]
      simpa [tokens, Keyword.spelling] using test
  | isNull column =>
      have test := spells_test column .is (spells_keyword .null)
      rw [text]
      simpa [tokens, Keyword.spelling] using test
  | isNotNull column =>
      have test := spells_test column .is ((spells_keyword .not).spaced (spells_keyword .null))
      rw [text]
      simpa [tokens, Keyword.spelling] using test
  | all parts ih =>
      have spelled := spells_parts "AND" .conjunction rfl fun part hpart =>
        ih part hpart fun a ha => each a (mem_operandsOfParts hpart ha)
      cases parts with
      | nil => exact spells_keyword .yes
      | cons part rest =>
          rw [text, texts_eq_map, tokens, tokensOfParts_eq_map]
          exact spelled
  | any parts ih =>
      have spelled := spells_parts "OR" .disjunction rfl fun part hpart =>
        ih part hpart fun a ha => each a (mem_operandsOfParts hpart ha)
      cases parts with
      | nil => exact spells_keyword .no
      | cons part rest =>
          rw [text, texts_eq_map, tokens, tokensOfParts_eq_map]
          exact spelled
  | both left right hleft hright =>
      have first := hleft fun a ha => each a (List.mem_append_left _ ha)
      have second := hright fun a ha => each a (List.mem_append_right _ ha)
      have connected := first.connected .conjunction second
      rw [text]
      simpa [tokens, Keyword.spelling] using connected

/-! ### What tokens there are -/

private theorem forall_mem_separated {P : Token → Prop} {separator : List Token}
    (between : ∀ token ∈ separator, P token) {rows : List (List Token)}
    (each : ∀ row ∈ rows, ∀ token ∈ row, P token) :
    ∀ token ∈ separated separator rows, P token := by
  induction rows with
  | nil => simp [separated]
  | cons row rest ih =>
      have first := each row List.mem_cons_self
      have later := ih fun other hother => each other (List.mem_cons_of_mem row hother)
      cases rest with
      | nil => exact first
      | cons second rest =>
          rw [separated_cons_cons, List.forall_mem_append, List.forall_mem_append]
          exact ⟨⟨first, between⟩, later⟩

/-- The tokens of a clause are keywords, symbols, its columns, and the tokens of its operands. -/
theorem forall_mem_tokens {P : Token → Prop} {operand : α → List Token}
    (keyword : ∀ k, P (.keyword k)) (symbol : ∀ s, P (.symbol s)) (clause : Clause α)
    (column : ∀ name ∈ clause.columns, P (.identifier name))
    (each : ∀ a ∈ clause.operands, ∀ token ∈ operand a, P token) :
    ∀ token ∈ clause.tokens operand, P token := by
  have parenthesised : ∀ {inner : List Token}, (∀ token ∈ inner, P token) →
      ∀ token ∈ .symbol .opening :: inner ++ [.symbol .closing], P token := by
    intro inner holds
    rw [List.forall_mem_append, List.forall_mem_cons, List.forall_mem_singleton]
    exact ⟨⟨symbol .opening, holds⟩, symbol .closing⟩
  have joined : ∀ {connective : Keyword} {parts : List (Clause α)},
      (∀ part ∈ parts, ∀ token ∈ part.tokens operand, P token) →
      ∀ token ∈ separated [.keyword connective] (parts.map (tokens operand)), P token := by
    intro connective parts holds
    apply forall_mem_separated (List.forall_mem_singleton.mpr (keyword connective))
    rw [List.forall_mem_map]
    exact holds
  induction clause using induction with
  | always => exact List.forall_mem_singleton.mpr (keyword .yes)
  | never => exact List.forall_mem_singleton.mpr (keyword .no)
  | compare name relation value =>
      rw [tokens, List.forall_mem_cons, List.forall_mem_cons]
      exact ⟨column name List.mem_cons_self, symbol _, each value List.mem_cons_self⟩
  | among name values =>
      have listed : ∀ token ∈ separated [.symbol .comma] (values.map operand), P token := by
        apply forall_mem_separated (List.forall_mem_singleton.mpr (symbol .comma))
        rw [List.forall_mem_map]
        exact each
      show ∀ token ∈ .identifier name :: .keyword .member :: (.symbol .opening ::
        separated [.symbol .comma] (values.map operand) ++ [.symbol .closing]), P token
      rw [List.forall_mem_cons, List.forall_mem_cons]
      exact ⟨column name List.mem_cons_self, keyword _, parenthesised listed⟩
  | between name low high =>
      show ∀ token ∈ .identifier name :: .keyword .between ::
        (operand low ++ .keyword .conjunction :: operand high), P token
      rw [List.forall_mem_cons, List.forall_mem_cons, List.forall_mem_append, List.forall_mem_cons]
      exact ⟨column name List.mem_cons_self, keyword _, each low (by simp [operands]), keyword _,
        each high (by simp [operands])⟩
  | like name pattern =>
      rw [tokens, List.forall_mem_cons, List.forall_mem_cons]
      exact ⟨column name List.mem_cons_self, keyword _, each pattern List.mem_cons_self⟩
  | isNull name =>
      rw [tokens, List.forall_mem_cons, List.forall_mem_cons, List.forall_mem_singleton]
      exact ⟨column name List.mem_cons_self, keyword _, keyword _⟩
  | isNotNull name =>
      rw [tokens, List.forall_mem_cons, List.forall_mem_cons, List.forall_mem_cons,
        List.forall_mem_singleton]
      exact ⟨column name List.mem_cons_self, keyword _, keyword _, keyword _⟩
  | all parts ih =>
      rw [columns_all, List.forall_mem_flatMap] at column
      rw [operands_all, List.forall_mem_flatMap] at each
      cases parts with
      | nil => exact List.forall_mem_singleton.mpr (keyword .yes)
      | cons part rest =>
          rw [tokens, tokensOfParts_eq_map]
          exact parenthesised (joined fun other hother =>
            ih other hother (column other hother) (each other hother))
  | any parts ih =>
      rw [columns_any, List.forall_mem_flatMap] at column
      rw [operands_any, List.forall_mem_flatMap] at each
      cases parts with
      | nil => exact List.forall_mem_singleton.mpr (keyword .no)
      | cons part rest =>
          rw [tokens, tokensOfParts_eq_map]
          exact parenthesised (joined fun other hother =>
            ih other hother (column other hother) (each other hother))
  | both left right hleft hright =>
      rw [columns, List.forall_mem_append] at column
      rw [operands, List.forall_mem_append] at each
      rw [tokens, List.forall_mem_append, List.forall_mem_cons]
      exact ⟨hleft column.1 each.1, keyword _, hright column.2 each.2⟩

end Clause

end RowFilter.Sql
