import YamlTidy.Proofs.Yaml.Ends.Nodes
import YamlTidy.Yaml.Datum

/-!
# What building values can end in
-/

namespace YamlTidy
namespace Yaml

open Fault (OfReading)

/-! ## Scalars -/

namespace WrittenInteger

@[grind .]
theorem ends_convert (radix : Nat) (s : List Char) : EndsIn OfReading (convert radix s) := by
  unfold convert
  extract_lets
  split
  extract_lets
  split
  · exact EndsIn.error_iff.mpr (.rejected _ _)
  · exact EndsIn.error_iff.mpr (.rejected _ _)
  · split
    · exact EndsIn.error_iff.mpr (.rejected _ _)
    · exact .ok _

@[grind .]
theorem ends_sixtieths (n : Int) (pieces : List (List Char)) :
    EndsIn OfReading (sixtieths n pieces) := by
  induction pieces generalizing n with
  | nil => exact .ok _
  | cons piece more ih => grind [sixtieths]

@[grind .]
theorem ends_marked (version11 negative : Bool) (s : List Char) (base : Base) (ds : List Char) :
    EndsIn OfReading (marked version11 negative s base ds) := by
  grind [marked]

/-- An integer may have no digits. -/
@[grind .]
theorem ends_ofText (version11 : Bool) (s : List Char) :
    EndsIn OfReading (ofText version11 s) := by
  grind [ofText]

end WrittenInteger

namespace WrittenReal

@[grind .]
theorem ends_convert (s : List Char) : EndsIn OfReading (convert s) := by
  grind [convert]

@[grind .]
theorem ends_convertAll (pieces : List (List Char)) : EndsIn OfReading (convertAll pieces) := by
  induction pieces with
  | nil => exact .ok _
  | cons piece more ih => grind [convertAll]

/-- A place of a number to base 60 may count too much. -/
@[grind .]
theorem ends_sixtieths (sum : Binary64) (base : Nat) (pieces : List Binary64) :
    EndsIn OfReading (sixtieths sum base pieces) := by
  induction pieces generalizing sum base with
  | nil => exact .ok _
  | cons piece more ih => grind [sixtieths]

@[grind .]
theorem ends_splitExponent (s : List Char) : EndsIn OfReading (splitExponent s) := by
  grind [splitExponent]

@[grind .]
theorem ends_ofText (version11 : Bool) (s : List Char) :
    EndsIn OfReading (ofText version11 s) := by
  grind [ofText]

end WrittenReal

namespace Timestamp

@[grind .]
theorem ends_require (fault : Option CalendarFault) : EndsIn OfReading (require fault) := by
  cases fault <;> grind [require]

/-- A moment may lie outside the calendar in universal time. -/
@[grind .]
theorem ends_ofParts (p : TimestampParts) : EndsIn OfReading (ofParts p) := by
  grind [ofParts]

theorem ends_of_ofText? {s : List Char} {x : Except Fault Timestamp} (h : ofText? s = some x) :
    EndsIn OfReading x := by
  obtain ⟨p, -, rfl⟩ := Option.map_eq_some_iff.mp h
  exact ends_ofParts p

end Timestamp

namespace Build

variable {α : Type}

/-- Whether a key that stands twice can be shown or not, the text is rejected. -/
theorem ofReading_duplicateFault (cells : Cells) (key value old : Value) (mark : Mark) :
    (duplicateFault cells key value old mark).OfReading := by
  unfold duplicateFault
  split
  · exact .at _ _
  · exact .rejected _ _

theorem ofReading_duplicateItemFault (cells : Cells) (key : Value) (mark : Mark) :
    (duplicateItemFault cells key mark).OfReading := by
  unfold duplicateItemFault
  split
  · exact .at _ _
  · exact .rejected _ _

/-- A builder that fails with faults of reading only. -/
abbrev Builds (act : Build α) : Prop :=
  Keeps (fun _ => True) OfReading act

/-! ## Single steps -/

/-- Nothing is asked of a state. -/
theorem builds_of_ends {act : Build α} (h : ∀ s, EndsIn OfReading (act s)) : Builds act :=
  fun s _ => ⟨h s, fun _ _ _ => trivial⟩

@[grind ←]
theorem builds_fail {fault : Fault} (h : fault.OfReading) : Builds (fail fault : Build α) :=
  builds_of_ends fun _ => EndsIn.error_iff.mpr h

@[grind ←]
theorem builds_lift {x : Except Fault α} (h : EndsIn OfReading x) : Builds (lift x) :=
  builds_of_ends fun _ => .map _ h

@[grind ←]
theorem builds_orElse {fault : Fault} (act : Build α) (h : fault.OfReading) :
    Builds (orElse fault act) := by
  refine builds_of_ends fun s => ?_
  unfold orElse
  split <;> simp [h]

@[grind .]
theorem builds_setCell (id : Nat) (cell : Cell) : Builds (setCell id cell) :=
  builds_of_ends fun _ => .ok _

@[grind .]
theorem builds_remember (info : NodeInfo) (v : Value) : Builds (remember info v) :=
  builds_of_ends fun _ => .ok _

@[grind .]
theorem builds_made? (info : NodeInfo) : Builds (made? info) :=
  builds_of_ends fun _ => .ok _

@[grind .]
theorem builds_commentsOf (n : Node) : Builds (commentsOf n) := by
  refine builds_of_ends fun s => ?_
  unfold commentsOf
  split <;> simp

@[grind .]
theorem builds_takeComments (n : Node) : Builds (takeComments n) := by
  refine builds_of_ends fun s => ?_
  unfold takeComments
  split <;> simp

@[grind .]
theorem builds_modify (f : BuildState → BuildState) : Builds (modify f) :=
  .modify fun _ _ => trivial

@[grind ←]
theorem builds_deeply (deep : Bool) {act : Build α} (h : Builds act) :
    Builds (deeply deep act) := by
  grind [deeply]

@[grind .]
theorem ends_binaryOf (info : NodeInfo) (text : List Char) :
    EndsIn OfReading (binaryOf info text) := by
  grind [binaryOf]

@[grind .]
theorem builds_buildTagged (info : NodeInfo) (text : List Char) (style : ScalarStyle) :
    Builds (buildTagged info text style) := by
  grind [buildTagged]

@[grind .]
theorem builds_buildScalar (ctx : BuildContext) (info : NodeInfo) (text : List Char)
    (style : ScalarStyle) (folds : List Nat) :
    Builds (buildScalar ctx info text style folds) := by
  unfold buildScalar
  extract_lets anchor
  cases coreOf info.tag with
  | none => exact builds_buildTagged _ _ _
  | some core =>
      cases core with
      | timestamp =>
          dsimp only
          split
          · exact builds_fail (.at _ _)
          · rename_i x hx
            refine .bind (builds_lift (Timestamp.ends_of_ofText? hx)) fun t => ?_
            exact .bind (builds_setCell _ _) fun _ => .pure _
      | _ => grind

@[grind .]
theorem builds_requireHashable (v : Value) : Builds (requireHashable v) := by
  grind [requireHashable]

/-! ## Collections -/

/-- In a collection of an unknown tag all faults are one. -/
@[grind .]
theorem builds_fillUnknown (ctx : BuildContext) (build : Bool → Node → Build Value) (n : Node)
    (info : NodeInfo) : Builds (fillUnknown ctx build n info) :=
  builds_orElse _ (.at _ _)

section Collections

variable {ctx : BuildContext} {build : Bool → Node → Build Value}
  (hbuild : ∀ deep n, Builds (build deep n))
include hbuild

@[grind ←]
theorem builds_items (nodes : List Node) : Builds (items ctx build nodes) := by
  induction nodes with
  | nil => exact .pure _
  | cons child more ih => grind [items]

@[grind ←]
theorem builds_plainItems (nodes : List Node) : Builds (plainItems build nodes) := by
  induction nodes with
  | nil => exact .pure _
  | cons child more ih => grind [plainItems]

@[grind ←]
theorem builds_mergeOf (place : Nat) (merge : Option Merge) (pairs : List (Node × Node)) :
    Builds (mergeOf ctx build place merge pairs) := by
  induction pairs generalizing place merge with
  | nil => exact .pure _
  | cons entry more ih =>
      unfold mergeOf
      extract_lets key tag value take check keyNode
      clear_value tag value
      have htake : ∀ u, Builds (take u) := fun _ => .bind (hbuild _ _) fun _ => ih _ _
      have hcheck : ∀ u, Builds (check u) := by
        intro u
        cases value with
        | mapping => exact htake ()
        | sequence info inFlow nodes =>
            simp only [check]
            split
            · exact .bind (builds_fail (.at _ _)) htake
            · exact htake ()
        | scalar => exact .bind (builds_fail (.at _ _)) htake
        | reference => exact .bind (builds_fail (.at _ _)) htake
      clear_value take check
      split
      · split
        · exact .bind (builds_fail (.at _ _)) hcheck
        · exact hcheck ()
      · exact .bind (ih _ _) fun _ => .pure _
      · exact .bind (ih _ _) fun _ => .pure _

@[grind ←]
theorem builds_entriesFrom (deep : Bool) (done : List Entry) (pairs : List (Node × Node)) :
    Builds (entriesFrom ctx build deep done pairs) := by
  induction pairs generalizing done with
  | nil => exact .pure _
  | cons entry more ih =>
      unfold entriesFrom
      refine .bind (hbuild _ _) fun key => .bind .get fun s => ?_
      split
      · exact builds_fail (.at _ _)
      · refine .bind (hbuild _ _) fun value => .bind (builds_requireHashable _) fun _ => ?_
        refine .bind .get fun s => ?_
        extract_lets cells
        split
        · exact builds_fail (ofReading_duplicateFault ..)
        · exact .bind (builds_commentsOf _) fun _ => .bind (builds_commentsOf _) fun _ => ih _

@[grind ←]
theorem builds_fillMapping (tagged : Bool) (n : Node) (info : NodeInfo) :
    Builds (fillMapping ctx build tagged n info) := by
  unfold fillMapping
  split <;> grind

@[grind ←]
theorem builds_fillSequence (n : Node) (info : NodeInfo) :
    Builds (fillSequence ctx build n info) := by
  unfold fillSequence
  split <;> grind

@[grind ←]
theorem builds_setItems (done : List Entry) (pairs : List (Node × Node)) :
    Builds (setItems ctx build done pairs) := by
  induction pairs generalizing done with
  | nil => exact .pure _
  | cons entry more ih =>
      unfold setItems
      refine .bind (hbuild _ _) fun key => .bind .get fun s => ?_
      split
      · exact builds_fail (.at _ _)
      · refine .bind (hbuild _ _) fun _ => .bind (builds_requireHashable _) fun _ => ?_
        refine .bind .get fun s => ?_
        extract_lets cells
        split
        · exact builds_fail (ofReading_duplicateItemFault ..)
        · exact .bind (builds_commentsOf _) fun _ => .bind (builds_commentsOf _) fun _ => ih _

@[grind ←]
theorem builds_fillSet (n : Node) (info : NodeInfo) : Builds (fillSet ctx build n info) := by
  unfold fillSet
  split <;> grind

/-- An ordered map may have one key twice. -/
@[grind ←]
theorem builds_orderedEntries (done : List Entry) (nodes : List Node) :
    Builds (orderedEntries ctx build done nodes) := by
  induction nodes generalizing done with
  | nil => exact .pure _
  | cons child more ih =>
      unfold orderedEntries
      extract_lets target
      clear_value target
      split
      · refine .bind (hbuild _ _) fun key => .bind (builds_requireHashable _) fun _ => ?_
        refine .bind .get fun s => ?_
        extract_lets cells goOn
        have hgoOn : ∀ u, Builds (goOn u) := by
          refine fun _ => .bind (hbuild _ _) fun value => .bind (builds_commentsOf _) fun _ => ?_
          exact .bind (builds_commentsOf _) fun _ => .bind (builds_commentsOf _) fun _ => ih _
        split
        · exact .bind (builds_fail .orderedMapKey) hgoOn
        · exact hgoOn ()
      · exact builds_fail (.at _ _)
      · exact builds_fail (.at _ _)

@[grind ←]
theorem builds_fillOrderedMap (n : Node) (info : NodeInfo) :
    Builds (fillOrderedMap ctx build n info) := by
  unfold fillOrderedMap
  split <;> grind

@[grind ←]
theorem builds_pairItems (nodes : List Node) : Builds (pairItems ctx build nodes) := by
  induction nodes with
  | nil => exact .pure _
  | cons child more ih => grind [pairItems]

@[grind ←]
theorem builds_fillPairs (n : Node) (info : NodeInfo) : Builds (fillPairs ctx build n info) := by
  unfold fillPairs
  split <;> grind

@[grind ←]
theorem builds_fill (n : Node) : Builds (fill ctx build n) := by
  grind [fill]

@[grind ←]
theorem builds_buildCollection (n : Node) (info : NodeInfo) :
    Builds (buildCollection ctx build n info) := by
  grind [buildCollection]

@[grind ←]
theorem builds_buildNew (n : Node) (info : NodeInfo) : Builds (buildNew ctx build n info) := by
  unfold buildNew
  split
  · split <;> grind
  · split <;> grind

@[grind ←]
theorem builds_buildOne (deep : Bool) (n : Node) : Builds (buildOne ctx build deep n) := by
  unfold buildOne
  extract_lets target
  split
  · exact .pure _
  · refine .bind (builds_made? _) fun made => ?_
    split
    · exact .pure _
    · refine builds_deeply _ (.bind (builds_buildNew hbuild _ _) fun v => ?_)
      exact .bind (builds_remember _ _) fun _ => .pure _

end Collections

/-! ## Documents -/

@[grind .]
theorem builds_build (ctx : BuildContext) (bound : Nat) (deep : Bool) (n : Node) :
    Builds (build ctx bound deep n) := by
  induction bound generalizing deep n with
  | zero => exact builds_fail .layoutTooDeep
  | succ bound ih => exact builds_buildOne ih deep n

@[grind .]
theorem builds_fillAll (ctx : BuildContext) (bound : Nat) (nodes : List Node) :
    Builds (fillAll ctx bound nodes) := by
  induction nodes with
  | nil => exact .pure _
  | cons n more ih => grind [fillAll]

@[grind .]
theorem builds_rounds (ctx : BuildContext) (bound n : Nat) : Builds (rounds ctx bound n) := by
  induction n with
  | zero => exact .pure _
  | succ n ih => grind [rounds]

end Build

/-- Building a document fails with a fault of reading only. -/
theorem Document.ends_ofNodes (d : NodeDocument) : EndsIn OfReading (Document.ofNodes d) := by
  unfold Document.ofNodes
  extract_lets ctx bound act
  have hact : Build.Builds act :=
    .bind (Build.builds_build _ _ _ _) fun _ =>
      .bind (Build.builds_rounds _ _ _) fun _ => .pure _
  exact .map _ (hact {} trivial).1

theorem ends_documents {stream : NodeStream} (h : stream.Ends) :
    EndsIn OfReading (documents stream) := by
  induction stream with
  | done => exact .ok _
  | broken fault => exact EndsIn.error_iff.mpr h
  | more d rest ih =>
      exact .bind (Document.ends_ofNodes d) fun _ => .bind (ih h) fun _ => .pure _

/-- Reading a text fails with a fault of reading only. -/
theorem ends_load (text : List Char) : EndsIn OfReading (load text) :=
  ends_documents (NodeStream.ends_ofText text)

end Yaml
end YamlTidy
