import YamlTidy.Proofs.Yaml.Ends
import YamlTidy.Yaml.Canonical

/-!
# What writing can end in

Writing walks through a document twice: it arranges a layout of it and writes that.  The first
breaks off at numbers, comments and items of sets that cannot be written, the second only at the
comment in the header of a block scalar.
-/

namespace YamlTidy
namespace Yaml

open Abort (OfWriting)

/-! ## Numbers -/

namespace WrittenReal

@[grind .]
theorem ends_fillFront (place : Nat) (m1 m2 : List Char) (e : Int) :
    EndsIn OfWriting (fillFront place m1 m2 e) := by
  fun_induction fillFront place m1 m2 e <;> grind

/-- The digits of a number may not suffice to fill up what stands in front of its point. -/
@[grind .]
theorem ends_withPlaces (f : RealForm) (x : ExponentForm) (m1 m2 : List Char) (e : Int) :
    EndsIn OfWriting (withPlaces f x m1 m2 e) := by
  grind [withPlaces]

/-- A number may be cut off in front of its point. -/
@[grind .]
theorem ends_scientificText (f : RealForm) (x : ExponentForm) (negative : Bool) (mantissa : Nat)
    (exponent : Int) : EndsIn OfWriting (scientificText f x negative mantissa exponent) := by
  unfold scientificText
  extract_lets
  split
  extract_lets
  split
  · exact EndsIn.error_iff.mpr .pointCut
  · exact ends_withPlaces _ _ _ _ _

@[grind .]
theorem ends_text (w : WrittenReal) : EndsIn OfWriting w.text := by
  grind [text]

end WrittenReal

/-- An integer cannot be written when it has too many decimal digits, and only then. -/
theorem WrittenInteger.text_eq_error_iff (w : WrittenInteger) (abort : Abort) :
    w.text = .error abort ↔
      abort = .integerTooLong ∧ w.form.base = .decimal ∧ w.isTooLong = true := by
  rw [text]
  split
  · next h =>
      simp only [Bool.and_eq_true, decide_eq_true_eq] at h
      simp [h, eq_comm]
  · next h =>
      simp only [Bool.and_eq_true, decide_eq_true_eq] at h
      simp only [reduceCtorEq, false_iff]
      exact fun ⟨_, hlong⟩ => h hlong

@[grind .]
theorem WrittenInteger.ends_text (w : WrittenInteger) : EndsIn OfWriting w.text :=
  fun abort h => ((w.text_eq_error_iff abort).mp h).1 ▸ .integerTooLong

/-! ## Layouts -/

namespace Arrange

variable {α : Type}

/-- An arrangement that breaks off in ways of writing only. -/
abbrev Arranges (act : Arrange α) : Prop :=
  Keeps (fun _ => True) OfWriting act

theorem arranges_of_ends {act : Arrange α} (h : ∀ s, EndsIn OfWriting (act s)) : Arranges act :=
  fun s _ => ⟨h s, fun _ _ _ => trivial⟩

@[grind ←]
theorem arranges_fail {abort : Abort} (h : OfWriting abort) :
    Arranges (fail abort : Arrange α) :=
  arranges_of_ends fun _ => EndsIn.error_iff.mpr h

@[grind .]
theorem arranges_set (s : ArrangeState) : Arranges (set s : Arrange PUnit) :=
  arranges_of_ends fun _ => .ok _

@[grind .]
theorem arranges_modify (f : ArrangeState → ArrangeState) : Arranges (modify f) :=
  .modify fun _ _ => trivial

@[grind ←]
theorem arranges_part (id : Nat) (anchor : Option (List Char)) {make : Arrange Layout}
    (h : Arranges make) : Arranges (part id anchor make) := by
  grind [part]

@[grind .]
theorem arranges_scalar (anchor : Option Anchor) (core : CoreTag) (text : List Char)
    (style : AskedStyle) (notes : LayoutNotes) :
    Arranges (scalar anchor core text style notes) := by
  cases anchor <;> grind [scalar]

/-- A collection that has comments takes no others. -/
@[grind .]
theorem arranges_withItemNotes (cells : Cells) (item : Item) (l : Layout) :
    Arranges (withItemNotes cells item l) := by
  unfold withItemNotes
  split
  · exact .pure _
  · extract_lets taken
    split
    · exact arranges_fail .commentsCollide
    · exact .pure _

/-- A collection cannot be an item of a set. -/
@[grind .]
theorem arranges_asSetItem (l : Layout) : Arranges (asSetItem l) := by
  cases l with
  | reference => exact .pure _
  | scalar => exact .pure _
  | sequence => exact arranges_fail .setOfCollections
  | mapping => exact arranges_fail .setOfCollections

@[grind ←]
theorem arranges_each {f : α → Arrange Layout} (hf : ∀ a, Arranges (f a)) (xs : List α) :
    Arranges (each f xs) := by
  induction xs with
  | nil => exact .pure _
  | cons x more ih => grind [each]

@[grind ←]
theorem arranges_eachPair {f g : α → Arrange Layout} (hf : ∀ a, Arranges (f a))
    (hg : ∀ a, Arranges (g a)) (xs : List α) : Arranges (eachPair f g xs) := by
  induction xs with
  | nil => exact .pure _
  | cons x more ih => grind [eachPair]

@[grind ←]
theorem arranges_cell (cells : Cells) {arrange : Value → Arrange Layout}
    (h : ∀ v, Arranges (arrange v)) (id : Nat) : Arranges (cell cells arrange id) := by
  unfold cell
  split
  · exact .pure _
  · exact arranges_part _ _ (.pure _)
  · grind
  · refine arranges_part _ _ (.bind (arranges_each (fun i => ?_) _) fun ls => .pure _)
    exact .bind (h i.value) fun l => arranges_withItemNotes _ _ _
  · refine arranges_part _ _
      (.bind (arranges_eachPair (fun e => ?_) (fun e => ?_) _) fun ls => ?_)
    · exact .bind (h _) fun _ => .pure _
    · exact .bind (h _) fun _ => .pure _
    · split <;> grind
  · refine arranges_part _ _
      (.bind (arranges_eachPair (fun e => ?_) (fun e => ?_) _) fun ls => ?_)
    · exact .bind (h _) fun l => arranges_asSetItem _
    · exact .pure _
    · exact .pure _
  · refine arranges_part _ _ (.bind (arranges_each (fun e => ?_) _) fun ls => .pure _)
    exact .bind (h _) fun _ => .bind (h _) fun _ => .pure _
  · refine arranges_part _ _ (.bind (arranges_each (fun e => ?_) _) fun ls => .pure _)
    exact .bind (h _) fun _ => .bind (h _) fun _ => .pure _

@[grind .]
theorem arranges_value (cells : Cells) (n : Nat) (root : Bool) (v : Value) :
    Arranges (value cells n root v) := by
  induction n generalizing root v with
  | zero => exact arranges_fail .layoutTooDeep
  | succ n ih =>
      cases v with
      | int w anchor =>
          simp only [value]
          split
          · exact arranges_scalar _ _ _ _ _
          · next abort habort => exact arranges_fail (w.ends_text abort habort)
      | real w anchor =>
          simp only [value]
          split
          · exact arranges_scalar _ _ _ _ _
          · next abort habort => exact arranges_fail (w.ends_text abort habort)
      | cell id => exact arranges_cell cells (fun v => ih false v) id
      | keySequence inFlow items =>
          exact .bind (arranges_each (fun v => ih false v) _) fun _ => .pure _
      | keyMapping inFlow entries =>
          refine .bind (arranges_eachPair (fun e => ?_) (fun e => ?_) _) fun _ => .pure _
          · exact ih false e.1
          · exact ih false e.2
      | tuple items => exact .bind (arranges_each (fun v => ih false v) _) fun _ => .pure _
      | _ =>
          simp only [value]
          exact arranges_scalar _ _ _ _ _

end Arrange

theorem DocumentLayout.ends_ofDocument (d : Document) :
    EndsIn OfWriting (DocumentLayout.ofDocument d) :=
  .map _ (Arrange.arranges_value _ _ _ _ {} trivial).1

/-! ## Texts -/

/-- The comment in the header of a block scalar has no lines of its own. -/
@[grind .]
theorem Pen.ends_commentsBefore (notes : List Leading) (p : Pen) :
    EndsIn OfWriting (Pen.commentsBefore notes p) := by
  fun_induction Pen.commentsBefore notes p <;> grind

namespace Layout

@[grind .]
theorem ends_openSequence (s : Spot) (notes : LayoutNotes) (inFlow : Bool) (p : Pen) :
    EndsIn OfWriting (openSequence s notes inFlow p) := by
  grind [openSequence]

@[grind .]
theorem ends_openMapping (s : Spot) (notes : LayoutNotes) (inFlow : Bool) (p : Pen) :
    EndsIn OfWriting (openMapping s notes inFlow p) := by
  grind [openMapping]

@[grind .]
theorem ends_beginLine (l : Layout) (indent : Option Int) (p : Pen) :
    EndsIn OfWriting (beginLine l indent p) := by
  grind [beginLine]

mutual

@[grind .]
theorem ends_write (m : Measures) (anchors : List (Nat × List Char)) (s : Spot) :
    (l : Layout) → (p : Pen) → EndsIn OfWriting (write m anchors s l p)
  | .reference id _, p => by grind [write]
  | .scalar info text asked, p => by grind [write]
  | .sequence info inFlow items, p => by
      have hflow := fun s first => ends_writeFlowItems m anchors s first items
      have hblock := fun s => ends_writeItems m anchors s items
      unfold write
      refine .bind (ends_openSequence _ _ _ _) fun opened => ?_
      split
      extract_lets
      split
      · split
        · exact .pure _
        · exact .bind (hflow _ _ _) fun _ => .pure _
      · refine .bind (hblock _ _) fun _ => ?_
        exact .bind (Pen.ends_commentsBefore _ _) fun _ => .pure _
  | .mapping info inFlow entries, p => by
      have hflow := fun s first => ends_writeFlowEntries m anchors s first entries
      have hblock := fun s => ends_writeEntries m anchors s entries
      unfold write
      refine .bind (ends_openMapping _ _ _ _) fun opened => ?_
      split
      extract_lets
      split
      · split
        · exact .pure _
        · exact .bind (hflow _ _ _) fun _ => .pure _
      · exact .bind (hblock _ _) fun _ => Pen.ends_commentsBefore _ _

theorem ends_writeFlowItems (m : Measures) (anchors : List (Nat × List Char)) (s : Spot)
    (first : Bool) :
    (items : List Layout) → (p : Pen) →
      EndsIn OfWriting (writeFlowItems m anchors s first items p)
  | [], p => by grind [writeFlowItems]
  | l :: more, p => by
      have hl := fun s => ends_write m anchors s l
      have hmore := fun s first => ends_writeFlowItems m anchors s first more
      grind [writeFlowItems]

theorem ends_writeFlowEntries (m : Measures) (anchors : List (Nat × List Char)) (s : Spot)
    (first : Bool) :
    (entries : List (Layout × Layout)) → (p : Pen) →
      EndsIn OfWriting (writeFlowEntries m anchors s first entries p)
  | [], p => by grind [writeFlowEntries]
  | (k, v) :: more, p => by
      have hk := fun s => ends_write m anchors s k
      have hv := fun s => ends_write m anchors s v
      have hmore := fun s first => ends_writeFlowEntries m anchors s first more
      grind [writeFlowEntries]

theorem ends_writeItems (m : Measures) (anchors : List (Nat × List Char)) (s : Spot) :
    (items : List Layout) → (p : Pen) → EndsIn OfWriting (writeItems m anchors s items p)
  | [], p => by grind [writeItems]
  | l :: more, p => by
      have hl := fun s => ends_write m anchors s l
      have hmore := fun s => ends_writeItems m anchors s more
      grind [writeItems]

theorem ends_writeEntries (m : Measures) (anchors : List (Nat × List Char)) (s : Spot) :
    (entries : List (Layout × Layout)) → (p : Pen) →
      EndsIn OfWriting (writeEntries m anchors s entries p)
  | [], p => by grind [writeEntries]
  | (k, v) :: more, p => by
      have hk := fun s => ends_write m anchors s k
      have hv := fun s => ends_write m anchors s v
      have hmore := fun s => ends_writeEntries m anchors s more
      grind [writeEntries]

end

end Layout

/-! ## Measures

Whether writing breaks off does not depend on the measures: they move the pen and choose between
lines, and no comment is looked for where they decide. -/

theorem Pen.endsAlike_commentsBefore (notes : List Leading) (p q : Pen) :
    EndsAlike (Pen.commentsBefore notes p) (Pen.commentsBefore notes q) := by
  induction notes generalizing p q with
  | nil => exact .ok _ _
  | cons note more ih =>
      cases note with
      | header text => exact .refl _
      | comment c => exact ih _ _

namespace Layout

section

variable {s t : Spot} (h : s.announced = t.announced)
include h

theorem endsAlike_openSequence (notes : LayoutNotes) (inFlow : Bool) (p q : Pen) :
    EndsAlike (openSequence s notes inFlow p) (openSequence t notes inFlow q) := by
  unfold openSequence
  rw [h]
  cases t.announced
  · refine .bind (Pen.endsAlike_commentsBefore _ _ _) fun _ _ => ?_
    cases inFlow <;> exact .ok _ _
  · cases inFlow <;> exact .ok _ _

theorem endsAlike_openMapping (notes : LayoutNotes) (inFlow : Bool) (p q : Pen) :
    EndsAlike (openMapping s notes inFlow p) (openMapping t notes inFlow q) := by
  unfold openMapping
  rw [h]
  cases t.announced
  · exact .bind (Pen.endsAlike_commentsBefore _ _ _) fun _ _ => .ok _ _
  · exact .ok _ _

end

theorem endsAlike_beginLine (l : Layout) (i j : Option Int) (p q : Pen) :
    EndsAlike (beginLine l i p) (beginLine l j q) :=
  .map _ _ (Pen.endsAlike_commentsBefore _ _ _)

variable (m m' : Measures) (anchors : List (Nat × List Char))

mutual

theorem endsAlike_write {s t : Spot} (hannounced : s.announced = t.announced)
    (hflow : s.flow = t.flow) : (l : Layout) → (p q : Pen) →
      EndsAlike (write m anchors s l p) (write m' anchors t l q)
  | .reference id _, p, q => by
      simp only [write]
      exact .ok _ _
  | .scalar info text asked, p, q => by
      simp only [write]
      exact .ok _ _
  | .sequence info inFlow items, p, q => by
      have hin : s.inFlow = t.inFlow := by rw [Spot.inFlow, Spot.inFlow, hflow]
      unfold write
      refine .bind (endsAlike_openSequence hannounced _ _ _ _) fun a b => ?_
      simp only [hin]
      split
      · split
        · exact .ok _ _
        · exact .bind (endsAlike_writeFlowItems (by rw [hflow]) _ _ _ _) fun _ _ => .ok _ _
      · refine .bind (endsAlike_writeItems (by exact hflow) _ _ _) fun _ _ => ?_
        exact .bind (Pen.endsAlike_commentsBefore _ _ _) fun _ _ => .ok _ _
  | .mapping info inFlow entries, p, q => by
      have hin : s.inFlow = t.inFlow := by rw [Spot.inFlow, Spot.inFlow, hflow]
      unfold write
      refine .bind (endsAlike_openMapping hannounced _ _ _ _) fun a b => ?_
      simp only [hin]
      split
      · split
        · exact .ok _ _
        · exact .bind (endsAlike_writeFlowEntries (by rw [hflow]) _ _ _ _) fun _ _ => .ok _ _
      · refine .bind (endsAlike_writeEntries (by exact hflow) _ _ _) fun _ _ => ?_
        exact Pen.endsAlike_commentsBefore _ _ _

theorem endsAlike_writeFlowItems {s t : Spot} (hflow : s.flow = t.flow) (first : Bool) :
    (items : List Layout) → (p q : Pen) →
      EndsAlike (writeFlowItems m anchors s first items p)
        (writeFlowItems m' anchors t first items q)
  | [], p, q => by
      simp only [writeFlowItems]
      exact .ok _ _
  | l :: more, p, q => by
      unfold writeFlowItems
      refine .bind (endsAlike_write ?_ ?_ l _ _) fun a b => ?_
      · rfl
      · exact hflow
      · exact endsAlike_writeFlowItems hflow false more _ _

theorem endsAlike_writeFlowEntries {s t : Spot} (hflow : s.flow = t.flow) (first : Bool) :
    (entries : List (Layout × Layout)) → (p q : Pen) →
      EndsAlike (writeFlowEntries m anchors s first entries p)
        (writeFlowEntries m' anchors t first entries q)
  | [], p, q => by
      simp only [writeFlowEntries]
      exact .ok _ _
  | (k, v) :: more, p, q => by
      unfold writeFlowEntries
      have hk := fun b => endsAlike_write (s := s.member b) (t := t.member b) rfl hflow k
      have hv := endsAlike_write (s := s.member false) (t := t.member false) rfl hflow v
      have hmore := endsAlike_writeFlowEntries hflow false more
      dsimp only
      split
      · exact .bind (hk true _ _) fun _ _ => .bind (hv _ _) fun _ _ => hmore _ _
      · exact .bind (hk false _ _) fun _ _ => .bind (hv _ _) fun _ _ => hmore _ _

theorem endsAlike_writeItems {s t : Spot} (hflow : s.flow = t.flow) :
    (items : List Layout) → (p q : Pen) →
      EndsAlike (writeItems m anchors s items p) (writeItems m' anchors t items q)
  | [], p, q => by
      simp only [writeItems]
      exact .ok _ _
  | l :: more, p, q => by
      unfold writeItems
      have hl := endsAlike_write (s := { s.item with announced := true })
        (t := { t.item with announced := true }) rfl hflow l
      refine .bind (endsAlike_beginLine _ _ _ _ _) fun _ _ => .bind (hl _ _) fun _ _ => ?_
      exact endsAlike_writeItems hflow more _ _

theorem endsAlike_writeEntries {s t : Spot} (hflow : s.flow = t.flow) :
    (entries : List (Layout × Layout)) → (p q : Pen) →
      EndsAlike (writeEntries m anchors s entries p) (writeEntries m' anchors t entries q)
  | [], p, q => by
      simp only [writeEntries]
      exact .ok _ _
  | (k, v) :: more, p, q => by
      unfold writeEntries
      have hk := fun b => endsAlike_write (s := { s.member b with announced := true })
        (t := { t.member b with announced := true }) rfl hflow k
      have hv := endsAlike_write (s := s.member false) (t := t.member false) rfl hflow v
      have hmore := endsAlike_writeEntries hflow more
      refine .bind (endsAlike_beginLine _ _ _ _ _) fun _ _ => ?_
      dsimp only
      split
      · exact .bind (hk true _ _) fun _ _ => .bind (hv _ _) fun _ _ => hmore _ _
      · exact .bind (hk false _ _) fun _ _ => .bind (hv _ _) fun _ _ => hmore _ _

end

end Layout

/-! ## Documents -/

theorem DocumentLayout.ends_write (m : Measures) (d : DocumentLayout) :
    EndsIn OfWriting (d.write m) :=
  .bind (Layout.ends_write m _ _ _ _) fun _ => .pure _

theorem DocumentLayout.endsAlike_write (m m' : Measures) (d : DocumentLayout) :
    EndsAlike (d.write m) (d.write m') :=
  .bind (Layout.endsAlike_write m m' _ rfl rfl _ _ _) fun _ _ => .ok _ _

section

variable (o o' : Options)

theorem Document.ends_canonical (d : Document) : EndsIn OfWriting (d.canonical o) :=
  .bind (DocumentLayout.ends_ofDocument d) fun layout =>
    .bind (layout.ends_write _) fun _ => .pure _

theorem Document.endsAlike_canonical (d : Document) :
    EndsAlike (d.canonical o) (d.canonical o') := by
  unfold Document.canonical
  cases DocumentLayout.ofDocument d with
  | error abort => exact .error abort
  | ok layout =>
      change EndsAlike (layout.write (Measures.ofOptions o) >>= _)
        (layout.write (Measures.ofOptions o') >>= _)
      exact .bind (layout.endsAlike_write _ _) fun _ _ => .ok _ _

theorem ends_canonicalTexts (ds : List Document) : EndsIn OfWriting (canonicalTexts o ds) := by
  induction ds with
  | nil => exact .ok _
  | cons d more ih => exact .bind (d.ends_canonical o) fun _ => .bind ih fun _ => .pure _

theorem endsAlike_canonicalTexts (ds : List Document) :
    EndsAlike (canonicalTexts o ds) (canonicalTexts o' ds) := by
  induction ds with
  | nil => exact .ok _ _
  | cons d more ih =>
      exact .bind (d.endsAlike_canonical o o') fun _ _ => .bind ih fun _ _ => .ok _ _

/-- Writing documents breaks off in ways of writing only. -/
theorem ends_canonical (ds : List Document) : EndsIn OfWriting (canonical o ds) :=
  .map _ (ends_canonicalTexts o ds)

/-- Whether documents can be written does not depend on the options. -/
theorem endsAlike_canonical (ds : List Document) :
    EndsAlike (canonical o ds) (canonical o' ds) :=
  .map _ _ (endsAlike_canonicalTexts o o' ds)

end

end Yaml
end YamlTidy
