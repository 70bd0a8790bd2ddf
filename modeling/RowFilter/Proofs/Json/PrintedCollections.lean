import RowFilter.Proofs.Json.Collections
import RowFilter.Proofs.Json.Numerals
import RowFilter.Proofs.Json.Quotations

/-!
# Lists and objects read back

Rows of characters that are written with commas between them, and between brackets or braces, are
read row by row, whatever the reader of a row is, if it reads each row up to where a comma or a
closing mark follows.
-/

namespace RowFilter.Json

open Text

variable {α σ : Type} {rest : Source} {rows : List (List Char)}

/-! ### Rows with commas -/

theorem commaSeparated_cons (row : List Char) (rows : List (List Char)) :
    commaSeparated (row :: rows) = row ++ rows.flatMap (',' :: ·) := by
  induction rows generalizing row with
  | nil => exact (List.append_nil row).symm
  | cons next rows ih =>
      rw [commaSeparated, ih, List.flatMap_cons]
      · rfl
      · exact List.cons_ne_nil next rows

/-- The rows after the first of a list or an object, each after a comma, and what closes it. -/
def laterRows (rows : List (List Char)) (closing : Char) (rest : Source) : Source :=
  (rows.flatMap (',' :: ·)).map .char ++ .char closing :: rest

theorem laterRows_cons (row : List Char) (rows : List (List Char)) (closing : Char)
    (rest : Source) :
    laterRows (row :: rows) closing rest =
      .char ',' :: (row.map .char ++ laterRows rows closing rest) := by
  simp [laterRows]

theorem commaSeparated_append (row : List Char) (rows : List (List Char)) (closing : Char)
    (rest : Source) :
    (commaSeparated (row :: rows)).map .char ++ .char closing :: rest =
      row.map .char ++ laterRows rows closing rest := by
  rw [commaSeparated_cons, List.map_append, List.append_assoc]
  rfl

/-- A number that stands in a list or an object ends there. -/
theorem stopsNumber_laterRows (rows : List (List Char)) {closing : Char}
    (mark : closing = ']' ∨ closing = '}') (rest : Source) :
    StopsNumber (laterRows rows closing rest) := by
  intro symbol first
  cases rows with
  | nil =>
      obtain rfl := Option.some.inj first
      rcases mark with rfl | rfl <;> decide
  | cons row rows =>
      rw [laterRows_cons] at first
      obtain rfl := Option.some.inj first
      decide

theorem length_le_of_mem {row : List Char} (hrow : row ∈ rows) :
    row.length ≤ (commaSeparated rows).length := by
  cases rows with
  | nil => cases hrow
  | cons first rows =>
      rw [commaSeparated_cons, List.length_append]
      rcases List.mem_cons.mp hrow with rfl | later
      · exact Nat.le_add_right _ _
      · have within := List.Sublist.length_le (List.sublist_flatten_of_mem
          (List.mem_map_of_mem (f := fun row => ',' :: row) later))
        rw [← List.flatMap_def, List.length_cons] at within
        omega

theorem length_le_commaSeparated (rows : List (List Char)) :
    rows.length ≤ (commaSeparated rows).length + 1 := by
  cases rows with
  | nil => exact Nat.zero_le _
  | cons first rows =>
      have each : rows.length ≤ (rows.flatMap (',' :: ·)).length := by
        induction rows with
        | nil => exact Nat.le_refl 0
        | cons row rows ih =>
            rw [List.flatMap_cons, List.length_append, List.length_cons, List.length_cons]
            omega
      rw [commaSeparated_cons, List.length_append, List.length_cons]
      omega

/-! ### Lists -/

/-- Whether a reader reads a row of characters as a value, whatever follows that stops a number, and
the row may stand in a list. -/
structure ReadsRow (reader : Source → Attempt (α × Source)) (row : List Char) (value : α) :
    Prop where
  /-- The row starts with no blank and no closing bracket. -/
  starts : ∃ c more, row = c :: more ∧ isBlank (.char c) = false ∧ c ≠ ']'
  /-- The row is read up to its end. -/
  reads : ∀ {rest : Source}, StopsNumber rest →
    reader (row.map .char ++ rest) = .ok (value, rest)

variable {item : Source → Attempt (α × Source)}

theorem nextItem_row {row : List Char} {value : α} (readsRow : ReadsRow item row value)
    (rest : Source) :
    nextItem true (row.map .char ++ rest) = .ok (.item (row.map .char ++ rest)) ∧
      nextItem false (.char ',' :: (row.map .char ++ rest)) =
        .ok (.item (row.map .char ++ rest)) := by
  obtain ⟨c, more, rfl, solid, open_⟩ := readsRow.starts
  have start : (c :: more).map Symbol.char ++ rest = .char c :: (more.map .char ++ rest) := rfl
  have skipped : skipBlanks (.char c :: (more.map Symbol.char ++ rest)) =
      .char c :: (more.map .char ++ rest) := skipBlanks_cons solid _
  have bracket : ¬ Symbol.char c = .char ']' := fun same => open_ (Symbol.char.inj same)
  have comma : skipBlanks (.char ',' :: .char c :: (more.map Symbol.char ++ rest)) =
      .char ',' :: .char c :: (more.map .char ++ rest) := skipBlanks_cons rfl _
  rw [start]
  constructor
  · rw [nextItem, skipped]
    dsimp only
    rw [if_neg bracket, if_pos rfl]
  · rw [nextItem, comma]
    dsimp only
    rw [if_neg (by decide), if_neg (by decide), if_pos rfl, skipped]
    dsimp only
    rw [if_neg bracket]

/-- The rows after the first are read one after the other. -/
theorem listItems_laterRows {values : List α}
    (each : List.Forall₂ (ReadsRow item) rows values) {rounds : Nat}
    (enough : rows.length < rounds) (rest : Source) :
    listItems item rounds false (laterRows rows ']' rest) = .ok (values, .char ']' :: rest) := by
  induction each generalizing rounds with
  | nil =>
      obtain ⟨less, rfl⟩ : ∃ less, rounds = less + 1 := ⟨rounds - 1, by omega⟩
      exact listItems_succ_eq_ok_iff.mpr (.inl ⟨rfl, rfl⟩)
  | @cons row value rows values head tail ih =>
      rw [List.length_cons] at enough
      obtain ⟨less, rfl⟩ : ∃ less, rounds = less + 1 := ⟨rounds - 1, by omega⟩
      rw [laterRows_cons]
      exact listItems_succ_eq_ok_iff.mpr (.inr ⟨_, value, _, values, (nextItem_row head _).2,
        head.reads (stopsNumber_laterRows rows (.inl rfl) rest), ih (by omega), rfl⟩)

/-- The rows of a list that is written are read one after the other. -/
theorem listItems_commaSeparated {values : List α}
    (each : List.Forall₂ (ReadsRow item) rows values) {rounds : Nat}
    (enough : rows.length < rounds) (rest : Source) :
    listItems item rounds true ((commaSeparated rows).map .char ++ .char ']' :: rest) =
      .ok (values, .char ']' :: rest) := by
  obtain ⟨less, rfl⟩ : ∃ less, rounds = less + 1 := ⟨rounds - 1, by omega⟩
  cases each with
  | nil => exact listItems_succ_eq_ok_iff.mpr (.inl ⟨rfl, rfl⟩)
  | @cons row value rows values head tail =>
      rw [List.length_cons] at enough
      rw [commaSeparated_append]
      exact listItems_succ_eq_ok_iff.mpr (.inr ⟨_, value, _, values, (nextItem_row head _).1,
        head.reads (stopsNumber_laterRows rows (.inl rfl) rest),
        listItems_laterRows tail (by omega) rest, rfl⟩)

theorem length_arrayChars (rows : List (List Char)) :
    (arrayChars rows).length = (commaSeparated rows).length + 2 := by
  rw [arrayChars, List.length_append, List.length_cons, List.length_singleton]

theorem map_arrayChars_append (rows : List (List Char)) (rest : Source) :
    (arrayChars rows).map .char ++ rest =
      .char '[' :: ((commaSeparated rows).map .char ++ .char ']' :: rest) := by
  simp [arrayChars]

/-- What is written between brackets is read as what its rows are read as. -/
theorem enclosed_arrayChars {values : List α} (each : List.Forall₂ (ReadsRow item) rows values)
    {rounds : Nat} (enough : rows.length < rounds) (rest : Source) :
    enclosed closeList (listItems item rounds true)
      ((commaSeparated rows).map .char ++ .char ']' :: rest) = .ok (values, rest) :=
  enclosed_eq_ok_iff.mpr ⟨_, listItems_commaSeparated each enough rest, rfl⟩

/-! ### Objects -/

/-- Whether a reader of members collects named rows of characters, whatever follows that stops a
number. -/
inductive CollectsRows (member : String → σ → Source → Attempt (σ × Source)) :
    σ → List (String × List Char) → σ → Prop
  | nil (collected : σ) : CollectsRows member collected [] collected
  | cons {collected next all : σ} {name : String} {row : List Char}
      {named : List (String × List Char)}
      (one : ∀ {rest : Source}, StopsNumber rest →
        member name collected (.char ':' :: (row.map .char ++ rest)) = .ok (next, rest))
      (others : CollectsRows member next named all) :
      CollectsRows member collected ((name, row) :: named) all

variable {member : String → σ → Source → Attempt (σ × Source)} {named : List (String × List Char)}
  {collected all : σ}

/-- The rows of the members of an object. -/
def memberRows (named : List (String × List Char)) : List (List Char) :=
  named.map fun member => memberChars member.1 member.2

theorem length_lt_memberRows {member : String × List Char} (hmember : member ∈ named) :
    member.2.length < (commaSeparated (memberRows named)).length := by
  have written : memberChars member.1 member.2 ∈ memberRows named :=
    List.mem_map.mpr ⟨member, hmember, rfl⟩
  have within := length_le_of_mem written
  rw [memberChars, List.length_append, List.length_cons] at within
  omega

theorem length_le_memberRows (named : List (String × List Char)) :
    named.length ≤ (commaSeparated (memberRows named)).length + 1 := by
  have count := length_le_commaSeparated (memberRows named)
  rwa [memberRows, List.length_map, ← memberRows] at count

theorem length_objectChars (named : List (String × List Char)) :
    (objectChars named).length = (commaSeparated (memberRows named)).length + 2 := by
  rw [objectChars, List.length_append, List.length_cons, List.length_singleton, memberRows]

theorem map_objectChars_append (named : List (String × List Char)) (rest : Source) :
    (objectChars named).map .char ++ rest =
      .char '{' :: ((commaSeparated (memberRows named)).map .char ++ .char '}' :: rest) := by
  simp [objectChars, memberRows]

theorem map_stringChars_append (text : String) (rest : Source) :
    (stringChars text).map .char ++ rest =
      .char '"' :: ((text.toList.flatMap escapedChar).map .char ++ .char '"' :: rest) := by
  simp [stringChars]

theorem map_memberChars_append (name : String) (row : List Char) (rest : Source) :
    (memberChars name row).map .char ++ rest =
      .char '"' :: ((name.toList.flatMap escapedChar).map .char ++
        .char '"' :: .char ':' :: (row.map .char ++ rest)) := by
  simp [memberChars, stringChars]

/-- The members after the first are collected one after the other. -/
theorem objectMembers_laterRows (each : CollectsRows member collected named all) {rounds : Nat}
    (enough : named.length < rounds) (rest : Source) :
    objectMembers member rounds false collected (laterRows (memberRows named) '}' rest) =
      .ok (all, .char '}' :: rest) := by
  induction each generalizing rounds with
  | nil collected =>
      obtain ⟨less, rfl⟩ : ∃ less, rounds = less + 1 := ⟨rounds - 1, by omega⟩
      exact objectMembers_succ_eq_ok_iff.mpr (.inl ⟨rfl, rfl⟩)
  | @cons collected next all name row named one others ih =>
      rw [List.length_cons] at enough
      obtain ⟨less, rfl⟩ : ∃ less, rounds = less + 1 := ⟨rounds - 1, by omega⟩
      rw [memberRows, List.map_cons, laterRows_cons, map_memberChars_append]
      exact objectMembers_succ_eq_ok_iff.mpr (.inr ⟨_, name, _, next, _, rfl,
        stringToken_escapedChars name _, one (stopsNumber_laterRows _ (.inr rfl) rest),
        ih (by omega)⟩)

/-- The members of an object that is written are collected one after the other. -/
theorem objectMembers_commaSeparated (each : CollectsRows member collected named all)
    {rounds : Nat} (enough : named.length < rounds) (rest : Source) :
    objectMembers member rounds true collected
      ((commaSeparated (memberRows named)).map .char ++ .char '}' :: rest) =
        .ok (all, .char '}' :: rest) := by
  obtain ⟨less, rfl⟩ : ∃ less, rounds = less + 1 := ⟨rounds - 1, by omega⟩
  cases each with
  | nil => exact objectMembers_succ_eq_ok_iff.mpr (.inl ⟨rfl, rfl⟩)
  | @cons _ next _ name row named one others =>
      rw [List.length_cons] at enough
      rw [memberRows, List.map_cons, commaSeparated_append, map_memberChars_append]
      exact objectMembers_succ_eq_ok_iff.mpr (.inr ⟨_, name, _, next, _, rfl,
        stringToken_escapedChars name _, one (stopsNumber_laterRows _ (.inr rfl) rest),
        objectMembers_laterRows others (by omega) rest⟩)

/-- What is written between braces is collected from its named rows. -/
theorem enclosed_objectChars (each : CollectsRows member collected named all) {rounds : Nat}
    (enough : named.length < rounds) (rest : Source) :
    enclosed closeObject (objectMembers member rounds true collected)
      ((commaSeparated (memberRows named)).map .char ++ .char '}' :: rest) = .ok (all, rest) :=
  enclosed_eq_ok_iff.mpr ⟨_, objectMembers_commaSeparated each enough rest, rfl⟩

end RowFilter.Json
