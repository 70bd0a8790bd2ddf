import RowFilter.Proofs.Json.Members
import RowFilter.Proofs.Json.Values

/-!
# Values as they are written

An object that was read has one member of each name: of several members of one name the last stays.
As it is written a value keeps all members of its objects, in the order in which they stand. What a
text is read as is what is written there, with the repeated members left out.
-/

namespace RowFilter.Json

open RowFilter.Filter

mutual

/-- What is left of a written value when of several members of one name the last stays. -/
def normalised : Json → Json
  | .null => .null
  | .boolean b => .boolean b
  | .number n => .number n
  | .string text => .string text
  | .array items => .array (normalisedItems items)
  | .object members => .object (membersOf (normalisedMembers members))

/-- What is left of each value. -/
def normalisedItems : List Json → List Json
  | [] => []
  | item :: rest => normalised item :: normalisedItems rest

/-- What is left of each member's value. -/
def normalisedMembers : List (String × Json) → List (String × Json)
  | [] => []
  | (name, value) :: rest => (name, normalised value) :: normalisedMembers rest

end

theorem normalisedItems_eq_map (items : List Json) :
    normalisedItems items = items.map normalised := by
  induction items with
  | nil => rfl
  | cons item rest ih => rw [normalisedItems, ih, List.map_cons]

theorem normalisedMembers_eq_map (members : List (String × Json)) :
    normalisedMembers members = members.map fun member => (member.1, normalised member.2) := by
  induction members with
  | nil => rfl
  | cons member rest ih => rw [normalisedMembers, ih, List.map_cons]

theorem normalised_of_isLeaf {value : Json} (leaf : IsLeaf value) : value.normalised = value := by
  cases leaf <;> rfl

/-- Reads a member of an object as it is written, after the members before it. -/
def writtenMember (value : Source → Attempt (Json × Source)) (name : String)
    (members : List (String × Json)) (text : Source) :
    Attempt (List (String × Json) × Source) := do
  let rest ← colon text
  let (read, rest) ← value rest
  return (members ++ [(name, read)], rest)

/-- Reads a value as it is written. The first argument bounds the steps; the second is how many
lists and objects may still be opened inside one another. -/
def written : Nat → Nat → Source → Attempt (Json × Source)
  | 0, _, text => .error (.at .endInValue text 0)
  | bound + 1, depth, text =>
    match skipBlanks text with
    | .char '[' :: rest =>
      nested depth (.char '[' :: rest) fun depth => do
        let (items, rest) ← enclosed closeList (listItems (written bound depth) bound true) rest
        return (.array items, rest)
    | .char '{' :: rest =>
      nested depth (.char '{' :: rest) fun depth => do
        let (members, rest) ←
          enclosed closeObject (objectMembers (writtenMember (written bound depth)) bound true [])
            rest
        return (.object members, rest)
    | _ => value 1 depth text

/-- Whether a text starts with a value as it is written: with enough steps the value is read. -/
def WrittenAt (depth : Nat) (text : Source) (value : Json) (rest : Source) : Prop :=
  FromSomeBound fun bound => written bound depth text = .ok (value, rest)

/-- Whether a text starts with the items of a list, up to its closing bracket. -/
def ItemsWritten (depth : Nat) (first : Bool) (text : Source) (items : List Json)
    (last : Source) : Prop :=
  ∃ rounds, FromSomeBound fun bound => ∀ more, rounds ≤ more →
    listItems (written bound depth) more first text = .ok (items, last)

/-- Whether a text starts with the members of an object after given ones, up to its closing
brace. -/
def MembersWritten (depth : Nat) (first : Bool) (before : List (String × Json)) (text : Source)
    (members : List (String × Json)) (last : Source) : Prop :=
  ∃ rounds, FromSomeBound fun bound => ∀ more, rounds ≤ more →
    objectMembers (writtenMember (written bound depth)) more first before text =
      .ok (members, last)

namespace WrittenAt

variable {depth : Nat} {text rest inner last : Source} {value : Json}

/-- A text starts with one value at most. -/
theorem unique {other : Json} {after : Source} (first : WrittenAt depth text value rest)
    (second : WrittenAt depth text other after) : value = other ∧ rest = after := by
  obtain ⟨bound, one, two⟩ := (FromSomeBound.and first second).exists_bound
  rw [one] at two
  exact Prod.mk.inj (Except.ok.inj two)

/-- What is read without brackets and braces is written so. -/
theorem leaf (noBracket : ∀ inner, skipBlanks text ≠ .char '[' :: inner)
    (noBrace : ∀ inner, skipBlanks text ≠ .char '{' :: inner)
    (read : Json.value 1 depth text = .ok (value, rest)) : WrittenAt depth text value rest := by
  refine .of_succ 0 (.of_forall fun more _ => ?_)
  rw [written]
  split
  · exact absurd ‹_› (noBracket _)
  · exact absurd ‹_› (noBrace _)
  · exact read

theorem null (start : skipBlanks text = .char 'n' :: inner)
    (word : keyword ['u', 'l', 'l'] inner = .ok rest) : WrittenAt depth text .null rest := by
  refine leaf (by simp [start]) (by simp [start]) ?_
  simp only [Json.value, start, word, ok_bind]
  rfl

theorem string {spelled : String} (start : skipBlanks text = .char '"' :: inner)
    (token : stringToken inner = .ok (spelled, rest)) :
    WrittenAt depth text (.string spelled) rest := by
  refine leaf (by simp [start]) (by simp [start]) ?_
  simp only [Json.value, start, token, ok_bind]
  rfl

/-- A list is written where its items are, between its brackets. -/
theorem array {items : List Json} (bracket : skipBlanks text = .char '[' :: inner)
    (each : ItemsWritten depth true inner items last) (closed : closeList last = ⟨none, rest⟩) :
    WrittenAt (depth + 1) text (.array items) rest := by
  obtain ⟨rounds, each⟩ := each
  refine .of_succ rounds (each.mono fun bound reads enough => ?_)
  have read : enclosed closeList (listItems (written bound depth) bound true) inner =
      .ok (items, rest) := enclosed_eq_ok_iff.mpr ⟨last, reads bound enough, closed⟩
  simp only [written, bracket, nested, read, ok_bind]
  rfl

/-- An object is written where its members are, between its braces. -/
theorem object {members : List (String × Json)} (brace : skipBlanks text = .char '{' :: inner)
    (each : MembersWritten depth true [] inner members last)
    (closed : closeObject last = ⟨none, rest⟩) :
    WrittenAt (depth + 1) text (.object members) rest := by
  obtain ⟨rounds, each⟩ := each
  refine .of_succ rounds (each.mono fun bound reads enough => ?_)
  have read : enclosed closeObject (objectMembers (writtenMember (written bound depth)) bound true
      []) inner = .ok (members, rest) := enclosed_eq_ok_iff.mpr ⟨last, reads bound enough, closed⟩
  simp only [written, brace, nested, read, ok_bind]
  rfl

/-- A member is written where its value is, after the colon. -/
theorem member {name : String} {members : List (String × Json)} {start : Source}
    (mark : colon text = .ok start) (given : WrittenAt depth start value rest) :
    FromSomeBound fun bound => writtenMember (written bound depth) name members text =
      .ok (members ++ [(name, value)], rest) := by
  refine given.mono fun bound read => ?_
  simp only [writtenMember, mark, read, ok_bind]
  rfl

private theorem exists_writtenMember_of_eq {reader : Source → Attempt (Json × Source)}
    (each : ∀ {text rest : Source} {value : Json}, reader text = .ok (value, rest) →
      WrittenAt depth text value rest)
    {name : String} {members more : List (String × Json)}
    (read : writtenMember reader name members text = .ok (more, rest)) :
    ∃ others, (FromSomeBound fun bound => writtenMember (written bound depth) name members text =
      .ok (others, rest)) ∧ more = others := by
  obtain ⟨start, mark, body⟩ := (bind_eq_ok_iff _ _ _).mp read
  obtain ⟨⟨one, after⟩, done, same⟩ := (bind_eq_ok_iff _ _ _).mp body
  obtain ⟨rfl, rfl⟩ := Prod.mk.inj (Except.ok.inj same)
  exact ⟨_, member mark (each done), rfl⟩

/-- What is read with some number of steps is written there. -/
theorem of_written {bound : Nat} (read : written bound depth text = .ok (value, rest)) :
    WrittenAt depth text value rest := by
  induction bound generalizing depth text value rest with
  | zero => cases read
  | succ bound ih =>
      rw [written] at read
      split at read
      · rename_i inner bracket
        obtain ⟨less, rfl, body⟩ := nested_eq_ok_iff.mp read
        obtain ⟨⟨items, after⟩, list, same⟩ := (bind_eq_ok_iff _ _ _).mp body
        obtain ⟨rfl, rfl⟩ := Prod.mk.inj (Except.ok.inj same)
        obtain ⟨last, each, closed⟩ := enclosed_eq_ok_iff.mp list
        obtain ⟨others, reads, related⟩ :=
          listItems_related (R := Eq) each fun _ one _ done => ⟨one, ih done, rfl⟩
        rw [List.forall₂_eq_eq_eq] at related
        subst related
        exact .array bracket ⟨_, reads⟩ closed
      · rename_i inner brace
        obtain ⟨less, rfl, body⟩ := nested_eq_ok_iff.mp read
        obtain ⟨⟨members, after⟩, object, same⟩ := (bind_eq_ok_iff _ _ _).mp body
        obtain ⟨rfl, rfl⟩ := Prod.mk.inj (Except.ok.inj same)
        obtain ⟨last, each, closed⟩ := enclosed_eq_ok_iff.mp object
        obtain ⟨others, reads, same⟩ := objectMembers_related (R := Eq) each rfl
          fun _ _ _ _ _ _ start done => start ▸ exists_writtenMember_of_eq ih done
        subst same
        exact .object brace ⟨_, reads⟩ closed
      · rename_i noBracket noBrace
        exact .leaf noBracket noBrace read

end WrittenAt

namespace ItemsWritten

variable {depth : Nat} {first : Bool} {text rest last : Source} {items : List Json}

theorem close (closed : nextItem first text = .ok (.close rest)) :
    ItemsWritten depth first text [] rest := by
  refine ⟨1, .of_forall fun bound more enough => ?_⟩
  obtain ⟨less, rfl⟩ : ∃ less, more = less + 1 := ⟨more - 1, by omega⟩
  exact listItems_succ_eq_ok_iff.mpr (.inl ⟨closed, rfl⟩)

theorem item {start after : Source} {value : Json} (next : nextItem first text = .ok (.item start))
    (one : WrittenAt depth start value after) (others : ItemsWritten depth false after items last) :
    ItemsWritten depth first text (value :: items) last := by
  obtain ⟨rounds, others⟩ := others
  refine ⟨rounds + 1, (FromSomeBound.and one others).mono ?_⟩
  rintro bound ⟨here, there⟩ more enough
  obtain ⟨less, rfl⟩ : ∃ less, more = less + 1 := ⟨more - 1, by omega⟩
  exact listItems_succ_eq_ok_iff.mpr
    (.inr ⟨start, value, after, items, next, here, there less (by omega), rfl⟩)

/-- Where the closing bracket is the next thing, there are no items. -/
theorem eq_nil (written : ItemsWritten depth first text items last)
    (closed : nextItem first text = .ok (.close rest)) : items = [] ∧ last = rest := by
  obtain ⟨rounds, each⟩ := written
  obtain ⟨bound, read⟩ := each.exists_bound
  rcases listItems_succ_eq_ok_iff.mp (read (rounds + 1) (by omega)) with
    ⟨here, none⟩ | ⟨start, _, _, _, next, _⟩
  · rw [closed] at here
    exact ⟨none, (NextItem.close.inj (Except.ok.inj here)).symm⟩
  · rw [closed] at next
    cases next

/-- What is read by position, an item or the end, stands before what is written after it. -/
theorem of_itemOrEnd {α : Type} {reader : Source → Attempt (α × Source)} {R : α → Json → Prop}
    (each : ∀ {text rest : Source} {value : α}, reader text = .ok (value, rest) →
      ∃ whole, WrittenAt depth text whole rest ∧ R value whole)
    {found : Option α} (read : itemOrEnd reader first text = .ok (found, rest))
    (others : ItemsWritten depth false rest items last) :
    (found = none ∧ items = [] ∧ ItemsWritten depth first text [] last) ∨
      ∃ value whole, found = some value ∧ R value whole ∧
        ItemsWritten depth first text (whole :: items) last := by
  rcases itemOrEnd_eq_ok_iff.mp read with ⟨closed, rfl⟩ | ⟨start, value, next, one, rfl⟩
  · obtain ⟨rfl, rfl⟩ := others.eq_nil (nextItem_of_close closed)
    exact .inl ⟨rfl, rfl, .close closed⟩
  · obtain ⟨whole, here, related⟩ := each one
    exact .inr ⟨value, whole, rfl, related, .item next here others⟩

end ItemsWritten

theorem plainMember_eq_ok_iff {reader : Source → Attempt (Json × Source)} {name : String}
    {members all : List (String × Json)} {text rest : Source} :
    plainMember reader name members text = .ok (all, rest) ↔
      ∃ start read, colon text = .ok start ∧ reader start = .ok (read, rest) ∧
        all = insertMember name read members := by
  simp only [plainMember, bind_eq_ok_iff, pure, Except.pure, Except.ok.injEq, Prod.exists,
    Prod.mk.injEq]
  constructor
  · rintro ⟨start, mark, read, after, done, rfl, rfl⟩
    exact ⟨start, read, mark, done, rfl⟩
  · rintro ⟨start, read, mark, done, rfl⟩
    exact ⟨start, mark, read, rest, done, rfl, rfl⟩

/-- Whether the members of an object are what is left of members as they are written. -/
def Left (members wholes : List (String × Json)) : Prop :=
  membersOf (normalisedMembers wholes) = members

theorem left_nil : Left [] [] := rfl

/-- Inserting a member keeps what is left of the members before it. -/
theorem Left.append {members wholes : List (String × Json)} (left : Left members wholes)
    (name : String) (value : Json) :
    Left (insertMember name value.normalised members) (wholes ++ [(name, value)]) := by
  rw [Left, normalisedMembers_eq_map, List.map_append, List.map_singleton,
    membersOf_append_singleton, ← normalisedMembers_eq_map, left]

/-- Where a reader of values is matched by written values, so is the reader of members. -/
theorem exists_writtenMember {reader : Source → Attempt (Json × Source)} {depth : Nat}
    (each : ∀ {text rest : Source} {read : Json}, reader text = .ok (read, rest) →
      ∃ whole, WrittenAt depth text whole rest ∧ whole.normalised = read)
    {name : String} {members wholes more : List (String × Json)} {text rest : Source}
    (left : Left members wholes) (given : plainMember reader name members text = .ok (more, rest)) :
    ∃ others, (FromSomeBound fun bound => writtenMember (written bound depth) name wholes text =
      .ok (others, rest)) ∧ Left more others := by
  obtain ⟨start, read, mark, done, rfl⟩ := plainMember_eq_ok_iff.mp given
  obtain ⟨whole, reads, rfl⟩ := each done
  exact ⟨wholes ++ [(name, whole)], WrittenAt.member mark reads, left.append name whole⟩

/-- Where a value is read, one is written of which it is what is left. -/
theorem exists_writtenAt_of_value {bound depth : Nat} {text rest : Source} {read : Json}
    (given : value bound depth text = .ok (read, rest)) :
    ∃ whole, WrittenAt depth text whole rest ∧ whole.normalised = read := by
  induction bound generalizing depth text rest read with
  | zero => cases given
  | succ bound ih =>
      cases readAs_of_value given with
      | leaf leaf noBracket noBrace alone =>
          exact ⟨read, .leaf noBracket noBrace (alone 0 depth), normalised_of_isLeaf leaf⟩
      | array bracket list =>
          obtain ⟨last, items, closed⟩ := enclosed_eq_ok_iff.mp list
          obtain ⟨wholes, reads, related⟩ :=
            listItems_related items fun _ _ _ one => ih one
          refine ⟨.array wholes, .array bracket ⟨_, reads⟩ closed, ?_⟩
          rw [normalised, normalisedItems_eq_map,
            map_eq_map_of_forall₂ related fun _ _ _ same => same, List.map_id']
      | object brace object =>
          obtain ⟨last, members, closed⟩ := enclosed_eq_ok_iff.mp object
          obtain ⟨wholes, reads, left⟩ :=
            objectMembers_related members left_nil fun _ _ _ _ _ _ => exists_writtenMember ih
          exact ⟨.object wholes, .object brace ⟨_, reads⟩ closed, by rw [normalised, left]⟩

end RowFilter.Json
