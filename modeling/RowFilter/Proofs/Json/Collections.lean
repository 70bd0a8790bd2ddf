import Mathlib.Data.List.DropRight
import RowFilter.Json.Expected
import RowFilter.Proofs.Filter.Folding

/-!
# Lists and objects read item by item

What a successful reading of a list or an object did, step by step, and readers compared: if
whatever one reader of items reads, another one reads as something related, then the same holds of
whole lists, and of objects with the readers of their members. The other reader may need a greater
bound for every item, so it is only asked to read from some bound on.
-/

namespace RowFilter.Json

open RowFilter.Filter

variable {α β σ τ : Type} {text rest : Source}

/-! ### Single steps -/

theorem skipBlanks_skipBlanks (text : Source) : skipBlanks (skipBlanks text) = skipBlanks text :=
  List.dropWhile_idempotent _ _

theorem skipBlanks_cons {symbol : Text.Symbol} (solid : isBlank symbol = false) (rest : Source) :
    skipBlanks (symbol :: rest) = symbol :: rest := by
  rw [skipBlanks, List.dropWhile_cons_of_neg (by rw [solid]; decide)]

theorem nested_eq_ok_iff {depth : Nat} {body : Nat → Attempt (α × Source)} {read : α × Source} :
    nested depth text body = .ok read ↔ ∃ less, depth = less + 1 ∧ body less = .ok read := by
  cases depth with
  | zero => simp [nested]
  | succ depth => simp [nested]

/-- What is enclosed was read up to what closes it. -/
theorem enclosed_eq_ok_iff {close : Source → Closing} {body : Source → Attempt (α × Source)}
    {value : α} :
    enclosed close body text = .ok (value, rest) ↔
      ∃ inner, body text = .ok (value, inner) ∧ close inner = ⟨none, rest⟩ := by
  unfold enclosed
  cases body text with
  | error stop => simp
  | ok read =>
      obtain ⟨found, inner⟩ := read
      rcases closed : close inner with ⟨_ | fault, after⟩
      · simp only [closed, Except.ok.injEq, Prod.mk.injEq]
        constructor
        · rintro ⟨rfl, rfl⟩
          exact ⟨inner, ⟨rfl, rfl⟩, closed⟩
        · rintro ⟨_, ⟨rfl, rfl⟩, same⟩
          rw [closed] at same
          exact ⟨rfl, congrArg Closing.rest same⟩
      · simp only [closed, reduceCtorEq, Except.ok.injEq, Prod.mk.injEq, false_iff]
        rintro ⟨_, ⟨rfl, rfl⟩, same⟩
        rw [closed] at same
        cases same

/-- A list was read to its end, or an item of it and then the rest. -/
theorem listItems_succ_eq_ok_iff {item : Source → Attempt (α × Source)} {rounds : Nat}
    {first : Bool} {values : List α} :
    listItems item (rounds + 1) first text = .ok (values, rest) ↔
      (nextItem first text = .ok (.close rest) ∧ values = []) ∨
        ∃ start value after more, nextItem first text = .ok (.item start) ∧
          item start = .ok (value, after) ∧ listItems item rounds false after = .ok (more, rest) ∧
            values = value :: more := by
  rw [listItems, bind_eq_ok_iff]
  constructor
  · rintro ⟨next, found, read⟩
    cases next with
    | close start =>
        obtain ⟨rfl, rfl⟩ := Prod.mk.inj (Except.ok.inj read)
        exact .inl ⟨found, rfl⟩
    | item start =>
        simp only [bind_eq_ok_iff, Prod.exists] at read
        obtain ⟨value, after, one, more, last, others, same⟩ := read
        obtain ⟨rfl, rfl⟩ := Prod.mk.inj (Except.ok.inj same)
        exact .inr ⟨start, value, after, more, found, one, others, rfl⟩
  · rintro (⟨found, rfl⟩ | ⟨start, value, after, more, found, one, others, rfl⟩)
    · exact ⟨_, found, rfl⟩
    · refine ⟨_, found, ?_⟩
      simp only [one, others, ok_bind]
      rfl

theorem itemOrEnd_eq_ok_iff {item : Source → Attempt (α × Source)} {first : Bool}
    {value : Option α} :
    itemOrEnd item first text = .ok (value, rest) ↔
      (nextItem first text = .ok (.close rest) ∧ value = none) ∨
        ∃ start found, nextItem first text = .ok (.item start) ∧
          item start = .ok (found, rest) ∧ value = some found := by
  rw [itemOrEnd, bind_eq_ok_iff]
  constructor
  · rintro ⟨next, found, read⟩
    cases next with
    | close start =>
        obtain ⟨rfl, rfl⟩ := Prod.mk.inj (Except.ok.inj read)
        exact .inl ⟨found, rfl⟩
    | item start =>
        simp only [bind_eq_ok_iff, Prod.exists] at read
        obtain ⟨value, after, one, same⟩ := read
        obtain ⟨rfl, rfl⟩ := Prod.mk.inj (Except.ok.inj same)
        exact .inr ⟨start, value, found, one, rfl⟩
  · rintro (⟨found, rfl⟩ | ⟨start, value, found, one, rfl⟩)
    · exact ⟨_, found, rfl⟩
    · refine ⟨_, found, ?_⟩
      simp only [one, ok_bind]
      rfl

/-- An object was read to its end, or a member of it and then the rest. -/
theorem objectMembers_succ_eq_ok_iff {member : String → σ → Source → Attempt (σ × Source)}
    {rounds : Nat} {first : Bool} {collected all : σ} :
    objectMembers member (rounds + 1) first collected text = .ok (all, rest) ↔
      (nextMember first text = .ok (.close rest) ∧ all = collected) ∨
        ∃ start name middle more after, nextMember first text = .ok (.name start) ∧
          stringToken start = .ok (name, middle) ∧
            member name collected middle = .ok (more, after) ∧
              objectMembers member rounds false more after = .ok (all, rest) := by
  rw [objectMembers, bind_eq_ok_iff]
  constructor
  · rintro ⟨next, found, read⟩
    cases next with
    | close start =>
        obtain ⟨rfl, rfl⟩ := Prod.mk.inj (Except.ok.inj read)
        exact .inl ⟨found, rfl⟩
    | name start =>
        simp only [bind_eq_ok_iff, Prod.exists] at read
        obtain ⟨name, middle, named, more, after, one, others⟩ := read
        exact .inr ⟨start, name, middle, more, after, found, named, one, others⟩
  · rintro (⟨found, rfl⟩ | ⟨start, name, middle, more, after, found, named, one, others⟩)
    · exact ⟨_, found, rfl⟩
    · refine ⟨_, found, ?_⟩
      simp only [named, one, others, ok_bind]

/-- What may stand only once has not been seen, and was read after its colon. -/
theorem memberOnce_eq_ok_iff {name : String} {seen : Option α}
    {reader : Source → Attempt (α × Source)} {read : α × Source} :
    memberOnce name seen reader text = .ok read ↔
      seen = none ∧ ∃ after, colon text = .ok after ∧ reader after = .ok read := by
  cases seen with
  | some value => simp [memberOnce]
  | none => simp [memberOnce, bind_eq_ok_iff]

/-- The closing bracket stands where it was found. -/
theorem nextItem_of_close {first : Bool} (closed : nextItem first text = .ok (.close rest)) :
    nextItem false rest = .ok (.close rest) := by
  unfold nextItem at closed
  split at closed
  · cases closed
  · rename_i symbol after skipped
    split at closed
    · rename_i bracket
      obtain rfl := NextItem.close.inj (Except.ok.inj closed)
      subst bracket
      rfl
    · split at closed
      · cases closed
      · split at closed
        · split at closed
          · cases closed
          · split at closed <;> cases closed
        · cases closed

/-- Where a closing bracket can be read, it is the next thing in the list. -/
theorem nextItem_of_closeList (closed : closeList text = ⟨none, rest⟩) :
    ∃ last, nextItem false text = .ok (.close last) ∧ closeList last = ⟨none, rest⟩ := by
  unfold closeList at closed
  cases skipped : skipBlanks text with
  | nil => simp [skipped] at closed
  | cons symbol after =>
      simp only [skipped] at closed
      split at closed
      · rename_i bracket
        subst bracket
        refine ⟨.char ']' :: after, ?_, closed⟩
        simp [nextItem, skipped]
      · split at closed
        · split at closed <;> simp at closed
        · simp at closed

/-- A text is read between its quotes. -/
theorem expectString_eq_ok_iff {spelled : String} :
    expectString text = .ok (spelled, rest) ↔
      ∃ inner, skipBlanks text = .char '"' :: inner ∧ stringToken inner = .ok (spelled, rest) := by
  unfold expectString
  split
  · rename_i inner quote
    simp [quote]
  · rename_i other
    constructor
    · intro read
      cases read
    · rintro ⟨inner, quote, _⟩
      exact absurd quote (other inner)

/-- Null is read as nothing, and anything else as the reader does. -/
theorem expectOptional_eq_ok_iff {reader : Source → Attempt (α × Source)} {found : Option α} :
    expectOptional reader text = .ok (found, rest) ↔
      (found = none ∧ ∃ inner, skipBlanks text = .char 'n' :: inner ∧
        keyword ['u', 'l', 'l'] inner = .ok rest) ∨
        ∃ value, found = some value ∧ (∀ inner, skipBlanks text ≠ .char 'n' :: inner) ∧
          reader (skipBlanks text) = .ok (value, rest) := by
  unfold expectOptional
  split
  · rename_i inner start
    simp only [map_eq_ok_iff, Prod.mk.injEq, start, List.cons.injEq, true_and]
    constructor
    · rintro ⟨after, word, rfl, rfl⟩
      exact .inl ⟨rfl, inner, rfl, word⟩
    · rintro (⟨rfl, _, rfl, word⟩ | ⟨_, _, other, _⟩)
      · exact ⟨rest, word, rfl, rfl⟩
      · exact absurd rfl (other inner)
  · rename_i other
    simp only [map_eq_ok_iff, Prod.exists, Prod.mk.injEq]
    constructor
    · rintro ⟨value, after, read, rfl, rfl⟩
      exact .inr ⟨value, rfl, other, read⟩
    · rintro (⟨_, inner, start, _⟩ | ⟨value, rfl, _, read⟩)
      · exact absurd start (other inner)
      · exact ⟨value, rest, read, rfl, rfl⟩

/-- A list is read between its brackets. -/
theorem expectList_eq_ok_iff {expected : String} {item : Nat → Source → Attempt (α × Source)}
    {depth : Nat} {values : List α} :
    expectList expected item depth text = .ok (values, rest) ↔
      ∃ less inner last, depth = less + 1 ∧ skipBlanks text = .char '[' :: inner ∧
        listItems (item less) (inner.length + 1) true inner = .ok (values, last) ∧
          closeList last = ⟨none, rest⟩ := by
  unfold expectList
  split
  · rename_i inner bracket
    simp only [nested_eq_ok_iff, enclosed_eq_ok_iff, bracket, List.cons.injEq, true_and]
    constructor
    · rintro ⟨less, rfl, last, items, closed⟩
      exact ⟨less, inner, last, rfl, rfl, items, closed⟩
    · rintro ⟨less, _, last, rfl, rfl, items, closed⟩
      exact ⟨less, rfl, last, items, closed⟩
  · rename_i other
    constructor
    · intro read
      cases read
    · rintro ⟨_, inner, _, _, bracket, _⟩
      exact absurd bracket (other inner)

/-- A record is read from a list, by position, or from an object, by its members. -/
theorem expectRecord_eq_ok_iff {expected : String}
    {positional : Nat → Source → Attempt (α × Source)}
    {member : Nat → String → σ → Source → Attempt (σ × Source)} {start : σ}
    {finish : σ → Except Fault α} {depth : Nat} {record : α} :
    expectRecord expected positional member start finish depth text = .ok (record, rest) ↔
      ∃ less inner last, depth = less + 1 ∧
        ((skipBlanks text = .char '[' :: inner ∧ positional less inner = .ok (record, last) ∧
            closeList last = ⟨none, rest⟩) ∨
          ∃ collected, skipBlanks text = .char '{' :: inner ∧
            objectMembers (member less) (inner.length + 1) true start inner =
              .ok (collected, last) ∧
            finish collected = .ok record ∧ closeObject last = ⟨none, rest⟩) := by
  unfold expectRecord
  split
  · rename_i inner bracket
    simp only [nested_eq_ok_iff, enclosed_eq_ok_iff, bracket, List.cons.injEq, true_and]
    constructor
    · rintro ⟨less, rfl, last, read, closed⟩
      exact ⟨less, inner, last, rfl, .inl ⟨rfl, read, closed⟩⟩
    · rintro ⟨less, _, last, rfl, ⟨rfl, read, closed⟩ | ⟨_, ⟨brace, _⟩, _⟩⟩
      · exact ⟨less, rfl, last, read, closed⟩
      · cases brace
  · rename_i inner brace
    simp only [nested_eq_ok_iff, enclosed_eq_ok_iff, brace, List.cons.injEq, true_and]
    constructor
    · rintro ⟨less, rfl, last, body, closed⟩
      obtain ⟨⟨collected, after⟩, members, read⟩ := (bind_eq_ok_iff _ _ _).mp body
      cases finished : finish collected with
      | error fault => simp [finished, throw, throwThe, MonadExceptOf.throw] at read
      | ok found =>
          simp only [finished, pure, Except.pure, Except.ok.injEq, Prod.mk.injEq] at read
          obtain ⟨rfl, rfl⟩ := read
          exact ⟨less, inner, after, rfl, .inr ⟨collected, rfl, members, finished, closed⟩⟩
    · rintro ⟨less, _, last, rfl, ⟨⟨bracket, _⟩, _⟩ | ⟨collected, rfl, members, finished, closed⟩⟩
      · cases bracket
      · refine ⟨less, rfl, last, ?_, closed⟩
        simp only [members, ok_bind, finished]
        rfl
  · rename_i noBracket noBrace
    constructor
    · intro read
      cases read
    · rintro ⟨_, inner, _, _, ⟨bracket, _⟩ | ⟨_, brace, _⟩⟩
      · exact absurd bracket (noBracket inner)
      · exact absurd brace (noBrace inner)

/-! ### Whatever is read -/

/-- What holds of each item that is read holds of the items of a list. -/
theorem forall_mem_of_listItems {item : Source → Attempt (α × Source)} {P : α → Prop}
    (each : ∀ {text value rest}, item text = .ok (value, rest) → P value) {rounds : Nat}
    {first : Bool} {values : List α}
    (read : listItems item rounds first text = .ok (values, rest)) : ∀ value ∈ values, P value := by
  induction rounds generalizing first text values with
  | zero => cases read
  | succ rounds ih =>
      rcases listItems_succ_eq_ok_iff.mp read with
        ⟨_, rfl⟩ | ⟨start, value, after, more, _, one, others, rfl⟩
      · exact List.forall_mem_nil _
      · exact List.forall_mem_cons.mpr ⟨each one, ih others⟩

/-- What each member keeps holds of what the members of an object collect. -/
theorem objectMembers_invariant {member : String → σ → Source → Attempt (σ × Source)}
    {P : σ → Prop}
    (each : ∀ {name collected text more rest}, P collected →
      member name collected text = .ok (more, rest) → P more) {rounds : Nat} {first : Bool}
    {collected all : σ} (start : P collected)
    (read : objectMembers member rounds first collected text = .ok (all, rest)) : P all := by
  induction rounds generalizing first text collected with
  | zero => cases read
  | succ rounds ih =>
      rcases objectMembers_succ_eq_ok_iff.mp read with
        ⟨_, rfl⟩ | ⟨_, name, middle, next, after, _, _, one, others⟩
      · exact start
      · exact ih (each start one) others

/-! ### Readers compared -/

/-- Whether something holds from some bound on. -/
def FromSomeBound (P : Nat → Prop) : Prop := ∃ bound, ∀ more, bound ≤ more → P more

namespace FromSomeBound

variable {P Q : Nat → Prop}

theorem of_forall (always : ∀ bound, P bound) : FromSomeBound P := ⟨0, fun more _ => always more⟩

/-- Two things that hold from some bound on hold together from some bound on. -/
theorem and (first : FromSomeBound P) (second : FromSomeBound Q) :
    FromSomeBound fun bound => P bound ∧ Q bound := by
  obtain ⟨one, hone⟩ := first
  obtain ⟨other, hother⟩ := second
  exact ⟨max one other, fun more enough =>
    ⟨hone more (Nat.max_le.mp enough).1, hother more (Nat.max_le.mp enough).2⟩⟩

theorem mono (holds : FromSomeBound P) (implies : ∀ bound, P bound → Q bound) :
    FromSomeBound Q := by
  obtain ⟨bound, enough⟩ := holds
  exact ⟨bound, fun more le => implies more (enough more le)⟩

/-- Something may be shown for bounds that are not zero, and greater than a given one. -/
theorem of_succ (least : Nat) (holds : FromSomeBound fun bound => least ≤ bound → P (bound + 1)) :
    FromSomeBound P := by
  obtain ⟨bound, enough⟩ := holds
  refine ⟨max bound least + 1, fun more le => ?_⟩
  obtain ⟨less, rfl⟩ : ∃ less, more = less + 1 := ⟨more - 1, by omega⟩
  exact enough less (by omega) (by omega)

theorem exists_bound (holds : FromSomeBound P) : ∃ bound, P bound := by
  obtain ⟨bound, enough⟩ := holds
  exact ⟨bound, enough bound (Nat.le_refl bound)⟩

end FromSomeBound

/-- If whatever one reader of items reads another one reads as something related, then the same
holds of lists. -/
theorem listItems_related {item : Source → Attempt (α × Source)}
    {other : Nat → Source → Attempt (β × Source)} {R : α → β → Prop} {rounds : Nat}
    {first : Bool} {values : List α}
    (read : listItems item rounds first text = .ok (values, rest))
    (each : ∀ text value rest, item text = .ok (value, rest) →
      ∃ found, (FromSomeBound fun bound => other bound text = .ok (found, rest)) ∧ R value found) :
    ∃ founds, (FromSomeBound fun bound => ∀ more, rounds ≤ more →
      listItems (other bound) more first text = .ok (founds, rest)) ∧
        List.Forall₂ R values founds := by
  induction rounds generalizing first text values with
  | zero => cases read
  | succ rounds ih =>
      rcases listItems_succ_eq_ok_iff.mp read with
        ⟨closed, rfl⟩ | ⟨start, value, after, more, next, one, others, rfl⟩
      · refine ⟨[], .of_forall fun bound more enough => ?_, .nil⟩
        obtain ⟨less, rfl⟩ : ∃ less, more = less + 1 := ⟨more - 1, by omega⟩
        exact listItems_succ_eq_ok_iff.mpr (.inl ⟨closed, rfl⟩)
      · obtain ⟨found, reads, related⟩ := each _ _ _ one
        obtain ⟨founds, readsOthers, relatedOthers⟩ := ih others
        refine ⟨found :: founds, (reads.and readsOthers).mono ?_, .cons related relatedOthers⟩
        rintro bound ⟨here, there⟩ more enough
        obtain ⟨less, rfl⟩ : ∃ less, more = less + 1 := ⟨more - 1, by omega⟩
        exact listItems_succ_eq_ok_iff.mpr
          (.inr ⟨start, found, after, founds, next, here, there less (by omega), rfl⟩)

/-- If whatever one reader of members collects another one collects as something related, then the
same holds of objects. -/
theorem objectMembers_related {member : String → σ → Source → Attempt (σ × Source)}
    {other : Nat → String → τ → Source → Attempt (τ × Source)} {R : σ → τ → Prop} {rounds : Nat}
    {first : Bool} {collected all : σ} {gathered : τ}
    (read : objectMembers member rounds first collected text = .ok (all, rest))
    (start : R collected gathered)
    (each : ∀ name collected gathered text more rest, R collected gathered →
      member name collected text = .ok (more, rest) →
      ∃ others, (FromSomeBound fun bound =>
        other bound name gathered text = .ok (others, rest)) ∧ R more others) :
    ∃ whole, (FromSomeBound fun bound => ∀ more, rounds ≤ more →
      objectMembers (other bound) more first gathered text = .ok (whole, rest)) ∧ R all whole := by
  induction rounds generalizing first text collected gathered with
  | zero => cases read
  | succ rounds ih =>
      rcases objectMembers_succ_eq_ok_iff.mp read with
        ⟨closed, rfl⟩ | ⟨begin, name, middle, next, after, found, named, one, others⟩
      · refine ⟨gathered, .of_forall fun bound more enough => ?_, start⟩
        obtain ⟨less, rfl⟩ : ∃ less, more = less + 1 := ⟨more - 1, by omega⟩
        exact objectMembers_succ_eq_ok_iff.mpr (.inl ⟨closed, rfl⟩)
      · obtain ⟨gathering, reads, related⟩ := each _ _ _ _ _ _ start one
        obtain ⟨whole, readsOthers, relatedOthers⟩ := ih others related
        refine ⟨whole, (reads.and readsOthers).mono ?_, relatedOthers⟩
        rintro bound ⟨here, there⟩ more enough
        obtain ⟨less, rfl⟩ : ∃ less, more = less + 1 := ⟨more - 1, by omega⟩
        exact objectMembers_succ_eq_ok_iff.mpr
          (.inr ⟨begin, name, middle, gathering, after, found, named, here,
            there less (by omega)⟩)

end RowFilter.Json
