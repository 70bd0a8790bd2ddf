import Mathlib.Data.String.Basic
import RowFilter.Proofs.Predicate.TextKinds
import RowFilter.Proofs.Predicate.Verdicts

/-!
# Bounds on columns of texts

A comparison puts texts of one kind in the order of the kind and texts of different kinds in that of
their characters. The two need not agree: a text of another kind may stand, by its characters,
between two that are in the opposite order as dates or identifiers. Where no three texts stand so
the comparison is a total preorder, and a wider bound keeps every row. Where three do, there is a
wider bound that loses one.
-/

namespace RowFilter.Comparison

open Std (TransCmp OrientedCmp LawfulEqCmp LawfulBCmp)

/-- Three texts in the order of their characters of which the outer two are of one kind and are not
in that order by their kind, while the middle one is of another kind. -/
structure Misplaced (low middle high : String) : Prop where
  /-- The outer two are of one kind. -/
  outer : Kind.of low = Kind.of high
  /-- The middle one is of another. -/
  inner : Kind.of middle ≠ Kind.of low
  /-- The first stands before the middle one. -/
  below : low < middle
  /-- The middle one stands before the last. -/
  above : middle < high
  /-- The first does not stand before the last. -/
  reversed : orderOfTexts low high ≠ .lt

/-- Whether no three of the texts are misplaced. -/
def WellPlaced (texts : Set String) : Prop :=
  ∀ low ∈ texts, ∀ middle ∈ texts, ∀ high ∈ texts, ¬ Misplaced low middle high

theorem orderOfTexts_of_same {a b : String} (same : Kind.of a = Kind.of b) :
    orderOfTexts a b = (Kind.of a).order a b := by
  rw [orderOfTexts_eq, if_pos same]

theorem orderOfTexts_of_different {a b : String} (different : Kind.of a ≠ Kind.of b) :
    orderOfTexts a b = compare a b := by
  rw [orderOfTexts_eq, if_neg different]

/-- Texts that count as equal are of one kind. -/
theorem kind_eq_of_equal {a b : String} (equal : orderOfTexts a b = .eq) :
    Kind.of a = Kind.of b := by
  by_contra different
  rw [orderOfTexts_of_different different] at equal
  exact different (congrArg Kind.of (LawfulEqCmp.eq_of_compare equal))

/-- Counting as equal is transitive. -/
theorem orderOfTexts_eq_trans {a b c : String} (first : orderOfTexts a b = .eq)
    (second : orderOfTexts b c = .eq) : orderOfTexts a c = .eq := by
  have same := kind_eq_of_equal first
  have next := kind_eq_of_equal second
  rw [orderOfTexts_of_same same] at first
  rw [orderOfTexts_of_same next, ← same] at second
  rw [orderOfTexts_of_same (same.trans next)]
  exact TransCmp.eq_trans first second

/-- Texts of different kinds stand one before the other by their characters. -/
theorem isLE_iff_of_different {a b : String} (different : Kind.of a ≠ Kind.of b) :
    (orderOfTexts a b).isLE = true ↔ a < b := by
  have distinct : a ≠ b := fun same => different (congrArg Kind.of same)
  have atMost : (compare a b).isLE = true ↔ a ≤ b := LawfulBCmp.isLE_iff_le
  rw [orderOfTexts_of_different different, atMost, le_iff_lt_or_eq, or_iff_left distinct]

/-- Of two texts of different kinds the one that is not at most as high stands after the other. -/
theorem lt_of_not_isLE {a b : String} (different : Kind.of a ≠ Kind.of b)
    (reversed : ¬ (orderOfTexts a b).isLE = true) : b < a := by
  rw [isLE_iff_of_different different, not_lt] at reversed
  exact lt_of_le_of_ne reversed fun same => different (congrArg Kind.of same.symm)

theorem ne_lt_of_isLE {a b : String} (below : (orderOfTexts a b).isLE = true) :
    orderOfTexts b a ≠ .lt :=
  fun reversed => OrientedCmp.not_isLE_of_lt reversed below

section

variable {texts : Set String} {a b c : String}

/-- Standing at most as high is transitive where no three texts are misplaced: a failure needs two
texts of one kind and a third of another, and these are misplaced. -/
theorem WellPlaced.isLE_trans (placed : WellPlaced texts) (ha : a ∈ texts) (hb : b ∈ texts)
    (hc : c ∈ texts) (first : (orderOfTexts a b).isLE = true)
    (second : (orderOfTexts b c).isLE = true) : (orderOfTexts a c).isLE = true := by
  by_contra reversed
  -- If just two are of one kind, the third stands between them by its characters.
  by_cases same : Kind.of a = Kind.of b
  · by_cases next : Kind.of b = Kind.of c
    · rw [orderOfTexts_of_same same] at first
      rw [orderOfTexts_of_same next, ← same] at second
      rw [orderOfTexts_of_same (same.trans next)] at reversed
      exact reversed (TransCmp.isLE_trans first second)
    · have different : Kind.of a ≠ Kind.of c := by rwa [same]
      exact placed b hb c hc a ha {
        outer := same.symm
        inner := Ne.symm next
        below := (isLE_iff_of_different next).mp second
        above := lt_of_not_isLE different reversed
        reversed := ne_lt_of_isLE first }
  · have below : a < b := (isLE_iff_of_different same).mp first
    by_cases next : Kind.of b = Kind.of c
    · have different : Kind.of a ≠ Kind.of c := by rwa [← next]
      exact placed c hc a ha b hb {
        outer := next.symm
        inner := different
        below := lt_of_not_isLE different reversed
        above := below
        reversed := ne_lt_of_isLE second }
    · have above : b < c := (isLE_iff_of_different next).mp second
      by_cases outer : Kind.of a = Kind.of c
      · exact placed a ha b hb c hc {
          outer
          inner := Ne.symm same
          below
          above
          reversed := fun less => reversed (by rw [less]; rfl) }
      · exact reversed ((isLE_iff_of_different outer).mpr (below.trans above))

/-- Standing before is transitive only where no three texts are misplaced. -/
theorem wellPlaced_of_lt_trans
    (transitive : ∀ a ∈ texts, ∀ b ∈ texts, ∀ c ∈ texts, orderOfTexts a b = .lt →
      orderOfTexts b c = .lt → orderOfTexts a c = .lt) : WellPlaced texts := by
  intro low hlow middle hmiddle high hhigh misplaced
  have inner : Kind.of middle ≠ Kind.of high := by
    rw [← misplaced.outer]
    exact misplaced.inner
  have below : orderOfTexts low middle = .lt := by
    rw [orderOfTexts_of_different misplaced.inner.symm]
    exact compare_lt_iff_lt.mpr misplaced.below
  have above : orderOfTexts middle high = .lt := by
    rw [orderOfTexts_of_different inner]
    exact compare_lt_iff_lt.mpr misplaced.above
  exact misplaced.reversed (transitive low hlow middle hmiddle high hhigh below above)

/-- Where no three texts are misplaced the comparison is a total preorder. -/
theorem WellPlaced.transCmp (placed : WellPlaced texts) :
    TransCmp fun a b : texts => orderOfTexts a b where
  eq_swap := oriented_orderOfTexts.eq_swap
  isLE_trans {a b c} := placed.isLE_trans a.2 b.2 c.2

/-- Texts of one kind are well placed. -/
theorem wellPlaced_of_kind {kind : Kind} (each : ∀ text ∈ texts, Kind.of text = kind) :
    WellPlaced texts := fun low hlow middle hmiddle _ _ misplaced =>
  misplaced.inner ((each middle hmiddle).trans (each low hlow).symm)

end

/-- What holds below a bound holds below a greater one, and what holds above a bound above a
lesser one. -/
theorem holds_of_isLE {α : Type} (cmp : α → α → Ordering) [TransCmp cmp] (a low high : α)
    (ordered : (cmp low high).isLE = true) :
    (∀ relation ∈ [Relation.less, .lessOrEqual], relation.holds (cmp a low) = true →
      relation.holds (cmp a high) = true) ∧
    ∀ relation ∈ [Relation.greater, .greaterOrEqual], relation.holds (cmp a high) = true →
      relation.holds (cmp a low) = true := by
  have turned : (cmp high low).isGE = true := OrientedCmp.isGE_iff_isLE.mpr ordered
  simp only [List.forall_mem_cons, List.not_mem_nil, false_imp_iff, implies_true, and_true,
    Relation.holds, beq_iff_eq, bne_iff_ne, ← Ordering.isLE_iff_ne_gt, ne_eq,
    ← Ordering.isGE_iff_ne_lt]
  exact ⟨⟨fun below => TransCmp.lt_of_lt_of_isLE below ordered,
    fun below => TransCmp.isLE_trans below ordered⟩,
    fun above => TransCmp.gt_of_gt_of_isGE above turned,
    fun above => TransCmp.isGE_trans above turned⟩

end RowFilter.Comparison

namespace RowFilter.Predicate

open Comparison

/-- Whether the comparison of a column with a bound selects the records whose column holds a
text. -/
def Selects (field : String) (relation : Relation) (bound text : String) : Prop :=
  ∀ record : Record, record.lookup field = some (.string text) →
    (Predicate.compare field relation (.text bound)).holds record = true

/-- Whether a record is selected depends only on the order of its text and the bound. -/
theorem selects_iff {field : String} {relation : Relation} {bound text : String} :
    Selects field relation bound text ↔ relation.holds (orderOfTexts text bound) = true := by
  have verdict {record : Record} (column : record.lookup field = some (.string text)) :
      (Predicate.compare field relation (.text bound)).holds record =
        relation.holds (orderOfTexts text bound) := by
    have present : column? record field = some (.string text) := by
      rw [column?, column]
      rfl
    rw [holds, present, compares_of_notNull rfl]
    rfl
  constructor
  · intro selected
    have column : ([(field, .string text)] : Record).lookup field = some (.string text) :=
      List.lookup_cons_self
    rw [← verdict column]
    exact selected _ column
  · intro ordered record column
    rw [verdict column]
    exact ordered

/-- Whether comparing with texts puts them in an order. -/
structure OrdersTexts (field : String) (texts : Set String) : Prop where
  /-- What is less than a lesser text is less. -/
  less_of_less : ∀ u ∈ texts, ∀ v ∈ texts, ∀ w ∈ texts,
    Selects field .less v u → Selects field .less w v → Selects field .less w u
  /-- What equals a lesser text is less. -/
  less_of_equal : ∀ u ∈ texts, ∀ v ∈ texts, ∀ w ∈ texts,
    Selects field .equal v u → Selects field .less w v → Selects field .less w u
  /-- What is less than an equal text is less. -/
  less_of_less_of_equal : ∀ u ∈ texts, ∀ v ∈ texts, ∀ w ∈ texts,
    Selects field .less v u → Selects field .equal w v → Selects field .less w u

/-- Whether raising an upper bound or lowering a lower one loses no row. -/
def KeepsRows (field : String) (texts : Set String) : Prop :=
  ∀ low ∈ texts, ∀ high ∈ texts, Selects field .lessOrEqual high low → ∀ text ∈ texts,
    (∀ relation ∈ [Relation.less, .lessOrEqual],
      Selects field relation low text → Selects field relation high text) ∧
    ∀ relation ∈ [Relation.greater, .greaterOrEqual],
      Selects field relation high text → Selects field relation low text

section

variable {field : String} {texts : Set String}

theorem selects_less_iff {bound text : String} :
    Selects field .less bound text ↔ orderOfTexts text bound = .lt := by
  rw [selects_iff, Relation.holds, beq_iff_eq]

theorem selects_equal_iff {bound text : String} :
    Selects field .equal bound text ↔ orderOfTexts text bound = .eq := by
  rw [selects_iff, Relation.holds, beq_iff_eq]

theorem selects_lessOrEqual_iff {bound text : String} :
    Selects field .lessOrEqual bound text ↔ (orderOfTexts text bound).isLE = true := by
  rw [selects_iff, Relation.holds, bne_iff_ne, Ordering.isLE_iff_ne_gt, ne_eq]

theorem ordersTexts_iff : OrdersTexts field texts ↔ WellPlaced texts := by
  constructor
  · intro ordered
    apply wellPlaced_of_lt_trans
    intro a ha b hb c hc first second
    exact selects_less_iff.mp (ordered.less_of_less a ha b hb c hc (selects_less_iff.mpr first)
      (selects_less_iff.mpr second))
  · intro placed
    have preorder := placed.transCmp
    refine ⟨?_, ?_, ?_⟩
    · intro u hu v hv w hw first second
      rw [selects_less_iff] at first second ⊢
      exact preorder.lt_trans (a := ⟨u, hu⟩) (b := ⟨v, hv⟩) (c := ⟨w, hw⟩) first second
    · intro u hu v hv w hw first second
      rw [selects_equal_iff] at first
      rw [selects_less_iff] at second ⊢
      exact preorder.lt_of_eq_of_lt (a := ⟨u, hu⟩) (b := ⟨v, hv⟩) (c := ⟨w, hw⟩) first second
    · intro u hu v hv w hw first second
      rw [selects_equal_iff] at second
      rw [selects_less_iff] at first ⊢
      exact preorder.lt_of_lt_of_eq (a := ⟨u, hu⟩) (b := ⟨v, hv⟩) (c := ⟨w, hw⟩) first second

theorem keepsRows_iff : KeepsRows field texts ↔ WellPlaced texts := by
  constructor
  · intro keeps
    apply wellPlaced_of_lt_trans
    intro a ha b hb c hc first second
    have raised : Selects field .lessOrEqual c b := by
      rw [selects_lessOrEqual_iff, second]
      rfl
    exact selects_less_iff.mp ((keeps b hb c hc raised a ha).1 .less List.mem_cons_self
      (selects_less_iff.mpr first))
  · intro placed low hlow high hhigh ordered text htext
    have preorder := placed.transCmp
    rw [selects_lessOrEqual_iff] at ordered
    simp only [selects_iff]
    exact holds_of_isLE (fun a b : texts => orderOfTexts a b) ⟨text, htext⟩ ⟨low, hlow⟩
      ⟨high, hhigh⟩ ordered

end

/-- Counting as equal is transitive for all texts. On a set of texts the comparison puts them in an
order, and a bound that is made wider loses no row, exactly if no three of them are misplaced; so it
does on texts of one kind. -/
theorem texts_ordered_iff (field : String) (texts : Set String) :
    (∀ u v w, Selects field .equal v u → Selects field .equal w v → Selects field .equal w u) ∧
      (OrdersTexts field texts ↔ WellPlaced texts) ∧
      (KeepsRows field texts ↔ WellPlaced texts) ∧
      ∀ kind, (∀ text ∈ texts, Kind.of text = kind) → WellPlaced texts := by
  refine ⟨?_, ordersTexts_iff, keepsRows_iff, fun kind => wellPlaced_of_kind⟩
  intro u v w first second
  rw [selects_equal_iff] at first second ⊢
  exact orderOfTexts_eq_trans first second

/-- An earlier instant is below a bound that is below another text, but not below the other. A day
counts as equal to its first instant, which is not below the text that the day is below. -/
theorem sample_bounds_lose_rows :
    (Selects "at" .less "2024-01-15T00:30:00Z" "2024-01-15T01:00:00+02:00" ∧
      Selects "at" .less "2024-01-15T00:45 or so" "2024-01-15T00:30:00Z" ∧
      ¬ Selects "at" .less "2024-01-15T00:45 or so" "2024-01-15T01:00:00+02:00") ∧
    Selects "at" .equal "2024-01-15" "2024-01-15T00:00:00Z" ∧
      Selects "at" .less "2024-01-15 or so" "2024-01-15" ∧
      ¬ Selects "at" .less "2024-01-15 or so" "2024-01-15T00:00:00Z" := by
  simp only [selects_iff]
  decide +kernel

end RowFilter.Predicate
