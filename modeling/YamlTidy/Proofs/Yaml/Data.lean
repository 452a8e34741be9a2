import YamlTidy.Yaml.Datum

/-!
# Equal data

Data are compared by recursion on both sides, so that two texts can be told to say the same or not
by evaluation: `dataOf` gives the data of all documents of a text, and its values have decidable
equality.
-/

namespace YamlTidy
namespace Yaml

namespace Datum

mutual

/-- Whether two data are the same. -/
def same : Datum → Datum → Bool
  | null, null => true
  | bool a, bool b => a == b
  | int m, int n => m == n
  | real x, real y => decide (x = y)
  | text s, text t => s == t
  | binary s, binary t => s == t
  | timestamp s, timestamp t => decide (s = t)
  | tagged tag s, tagged tag' t => tag == tag' && s == t
  | sequence items, sequence others => sameItems items others
  | mapping entries, mapping others => sameEntries entries others
  | set items, set others => sameItems items others
  | cycle, cycle => true
  | _, _ => false

/-- Whether two lists hold the same data. -/
def sameItems : List Datum → List Datum → Bool
  | [], [] => true
  | a :: more, b :: others => same a b && sameItems more others
  | _, _ => false

/-- Whether two lists hold the same entries. -/
def sameEntries : List (Datum × Datum) → List (Datum × Datum) → Bool
  | [], [] => true
  | (a, x) :: more, (b, y) :: others => same a b && same x y && sameEntries more others
  | _, _ => false

end

mutual

theorem same_self : ∀ a : Datum, same a a = true
  | null | cycle => rfl
  | bool _ | int _ | real _ | text _ | binary _ | timestamp _ | tagged _ _ => by simp [same]
  | sequence items => by simpa [same] using sameItems_self items
  | mapping entries => by simpa [same] using sameEntries_self entries
  | set items => by simpa [same] using sameItems_self items

theorem sameItems_self : ∀ items : List Datum, sameItems items items = true
  | [] => rfl
  | a :: more => by simp [sameItems, same_self a, sameItems_self more]

theorem sameEntries_self : ∀ entries : List (Datum × Datum), sameEntries entries entries = true
  | [] => rfl
  | (a, x) :: more => by simp [sameEntries, same_self a, same_self x, sameEntries_self more]

end

mutual

theorem eq_of_same : ∀ {a b : Datum}, same a b = true → a = b
  | sequence items, b, h => by
      cases b <;> simp only [same, Bool.false_eq_true] at h
      rw [eq_of_sameItems h]
  | mapping entries, b, h => by
      cases b <;> simp only [same, Bool.false_eq_true] at h
      rw [eq_of_sameEntries h]
  | set items, b, h => by
      cases b <;> simp only [same, Bool.false_eq_true] at h
      rw [eq_of_sameItems h]
  | null, b, h | cycle, b, h | bool _, b, h | int _, b, h | real _, b, h | text _, b, h
  | binary _, b, h | timestamp _, b, h | tagged _ _, b, h => by
      cases b <;> simp_all [same]

theorem eq_of_sameItems : ∀ {items others : List Datum}, sameItems items others = true →
    items = others
  | [], others, h => by
      cases others with
      | nil => rfl
      | cons _ _ => simp [sameItems] at h
  | a :: more, others, h => by
      cases others with
      | nil => simp [sameItems] at h
      | cons b rest =>
          obtain ⟨ha, hmore⟩ : same a b = true ∧ sameItems more rest = true := by
            simpa [sameItems] using h
          rw [eq_of_same ha, eq_of_sameItems hmore]

theorem eq_of_sameEntries : ∀ {entries others : List (Datum × Datum)},
    sameEntries entries others = true → entries = others
  | [], others, h => by
      cases others with
      | nil => rfl
      | cons _ _ => simp [sameEntries] at h
  | (a, x) :: more, others, h => by
      cases others with
      | nil => simp [sameEntries] at h
      | cons b rest =>
          obtain ⟨b, y⟩ := b
          obtain ⟨⟨ha, hx⟩, hmore⟩ :
              (same a b = true ∧ same x y = true) ∧ sameEntries more rest = true := by
            simpa [sameEntries] using h
          rw [eq_of_same ha, eq_of_same hx, eq_of_sameEntries hmore]

end

instance : DecidableEq Datum := fun a b =>
  decidable_of_iff (same a b = true) ⟨eq_of_same, fun h => h ▸ same_self a⟩

end Datum

/-- The data of the documents of a text, if it is read. -/
def dataOf (text : List Char) : Option (List Datum) :=
  match load text with
  | .ok ds => some (ds.map Document.datum)
  | .error _ => none

theorem dataOf_of_load {text : List Char} {ds : List Document} (h : load text = .ok ds) :
    dataOf text = some (ds.map Document.datum) := by
  simp [dataOf, h]

/-- A text has data exactly when it is read. -/
theorem dataOf_ne_none_iff {text : List Char} :
    dataOf text ≠ none ↔ ∃ ds, load text = .ok ds := by
  unfold dataOf
  cases load text <;> simp

end Yaml
end YamlTidy
