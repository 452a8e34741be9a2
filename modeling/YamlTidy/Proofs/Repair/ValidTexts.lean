import YamlTidy.Proofs.Repair.Outlines

/-!
# Repairing texts that are valid already

A repair acts on rows and does not know about scalars, so it may well change what a valid text says
or make it unreadable.  It never does so when it finds nothing to repair: then it is the gate alone
(`autoFix_of_settled`), and its outcome is the canonical text of the very documents that were read.
Nor does it do so to an outline, whose items it moves without changing what they belong to.  In all
other texts the rebuilt text differs from the given one in blanks and commas only.
-/

namespace YamlTidy
namespace Repair

open Text Yaml

variable {o : Options} {t u : List Char}

/-- In a text with nothing to repair a repair is the gate alone. -/
theorem autoFix_of_settled {g : Outcome} (h : Settled o t) (hgate : Gate.format o t = .ok g) :
    autoFix o t = g := by
  refine autoFix_of_ok ?_
  rw [rebuilt_of_settled h]
  exact hgate

/-- The gate formats a text exactly when it reads documents that have a canonical text. -/
theorem format_eq_formatted_iff :
    Gate.format o t = .ok (.formatted u) ↔ ∃ ds, load t = .ok ds ∧
      canonical o ds = .ok u := by
  constructor
  · intro h
    rcases Gate.format_eq_ok h with ⟨ds, v, hload, hcanon, hg⟩ | ⟨d, hg⟩
    · cases hg
      exact ⟨ds, hload, hcanon⟩
    · cases hg
  · rintro ⟨ds, hload, hcanon⟩
    rw [Gate.format_of_load hload, hcanon]
    rfl

/-- A repair formats a text exactly when the gate formats the rebuilt one. -/
theorem autoFix_eq_formatted_iff :
    autoFix o t = .formatted u ↔
      Gate.format o (Rebuilt.ofText o t).text = .ok (.formatted u) := by
  refine ⟨fun h => ?_, autoFix_of_ok⟩
  cases hgate : Gate.format o (Rebuilt.ofText o t).text with
  | ok g =>
      rw [autoFix_of_ok hgate] at h
      rw [h]
  | error abort =>
      rw [autoFix_of_error hgate] at h
      cases h

/-- A repair does not end in a verdict without a text. -/
theorem autoFix_formatted_or_invalid (o : Options) (t : List Char) :
    (∃ u, autoFix o t = .formatted u) ∨
      ∃ m p, autoFix o t = .invalid (Rebuilt.ofText o t).text m p := by
  cases hgate : Gate.format o (Rebuilt.ofText o t).text with
  | ok g =>
      rw [autoFix_of_ok hgate]
      rcases Gate.format_eq_ok hgate with ⟨_, u, -, -, hg⟩ | ⟨d, hg⟩
      · exact Or.inl ⟨u, hg⟩
      · exact Or.inr ⟨_, _, hg⟩
  | error abort =>
      rw [autoFix_of_error hgate]
      exact Or.inr ⟨_, _, rfl⟩

/-! ## What a repaired text says -/

/-- Whether a text that is read says something else after a repair. -/
def Changes (o : Options) (t u : List Char) : Prop :=
  dataOf t ≠ none ∧ autoFix o t = .formatted u ∧ dataOf u ≠ dataOf t

instance (o : Options) (t u : List Char) : Decidable (Changes o t u) :=
  inferInstanceAs (Decidable (_ ∧ _ ∧ _))

/-- **What a repaired text says.**  The outcome of a repair is the canonical text of the documents
in the rebuilt text, which is the given one row by row up to blanks and commas.  Both are the same
text exactly when there is nothing to repair, and then the outcome is the canonical text of the
documents of the given text.  An outline keeps what it says, in whatever columns its lists stand and
whatever stands behind its rows, if its scalars keep their commas. -/
theorem canonical_of_repaired_text {ds : List Document} (hload : load t = .ok ds)
    (hfix : autoFix o t = .formatted u) :
    (∃ es, load (Rebuilt.ofText o t).text = .ok es ∧ canonical o es = .ok u) ∧
      (rows (Rebuilt.ofText o t).text).map essence = (rows (cleanArtifacts t)).map essence ∧
      ((Rebuilt.ofText o t).text = t ↔ Settled o t) ∧
      (Settled o t → canonical o ds = .ok u) ∧
      (o = {} → ∀ (p : Outline) (column : Nat), p.Proper → KeepsAllCommas p →
        p.height < depthLimit → t = p.text column → dataOf u = dataOf t) := by
  obtain ⟨es, hes, hcanon⟩ := format_eq_formatted_iff.mp (autoFix_eq_formatted_iff.mp hfix)
  refine ⟨⟨es, hes, hcanon⟩, rows_rebuilt o t, rebuilt_eq_self_iff, fun hsettled => ?_,
    fun ho p column hproper hcommas hheight ht => ?_⟩
  · rw [rebuilt_of_settled hsettled, hload] at hes
    cases hes
    exact hcanon
  · subst ho ht
    rw [autoFix_outline hproper hcommas hheight] at hfix
    cases hfix
    exact dataOf_regular hproper hheight column

/-- A list in the column of its key, with a port and a name between quotes. -/
def hosts : Outline :=
  .list Gate.hostsKey { carriage := true } 0 ⟨Gate.port, { trailing := 1 }⟩
    [⟨Gate.quotedName, {}⟩] .nil

theorem proper_hosts : hosts.Proper :=
  ⟨List.not_mem_nil, trivial⟩

theorem keepsAllCommas_hosts : KeepsAllCommas hosts := by
  have hscalars : ∀ s ∈ hosts.scalars, ',' ∉ s := by decide
  exact fun s hs => keepsCommas_of_not_mem (hscalars s hs)

theorem canonical_of_repaired_hosts :
    (∃ ds, load "hosts:\n  - 8080\n  - \"a: b\"\n".toList = .ok ds ∧
      canonical {} ds = .ok "hosts:\n  - 8080\n  - \"a: b\"\n".toList) ∧
      dataOf "hosts:\n  - 8080\n  - \"a: b\"\n".toList =
        dataOf "hosts:\r\n- 8080 \n- \"a: b\"\n".toList := by
  constructor
  · obtain ⟨ds, hload⟩ := dataOf_ne_none_iff.mp
      (by decide +kernel : dataOf "hosts:\n  - 8080\n  - \"a: b\"\n".toList ≠ none)
    have hfix : autoFix {} "hosts:\n  - 8080\n  - \"a: b\"\n".toList =
        .formatted "hosts:\n  - 8080\n  - \"a: b\"\n".toList := by decide +kernel
    have hsettled : Settled {} "hosts:\n  - 8080\n  - \"a: b\"\n".toList :=
      rebuilt_eq_self_iff.mp (by decide +kernel)
    exact ⟨ds, hload, (canonical_of_repaired_text hload hfix).2.2.2.1 hsettled⟩
  · obtain ⟨ds, hload⟩ := dataOf_ne_none_iff.mp
      (by decide +kernel : dataOf "hosts:\r\n- 8080 \n- \"a: b\"\n".toList ≠ none)
    have hfix : autoFix {} "hosts:\r\n- 8080 \n- \"a: b\"\n".toList =
        .formatted "hosts:\n  - 8080\n  - \"a: b\"\n".toList := by decide +kernel
    exact (canonical_of_repaired_text hload hfix).2.2.2.2 rfl hosts 0 proper_hosts
      keepsAllCommas_hosts (by decide +kernel) rfl

/-- A valid text can say something else after a repair, whatever kind of repair it is: an item that
continues the scalar above it is moved, a comma is dropped from a plain scalar, a tab in quotes is
expanded, a blank is cut off a row of a literal, a blank that is no space is cut off in front, and a
second byte order mark is dropped.  With nothing to repair the canonical text can still lose a
scalar that looks like the end of a document. -/
theorem valid_texts_that_change :
    Changes {} "- 1\n  - 2\n- 3\n".toList "- 1\n- 2\n- 3\n".toList ∧
      Changes {} "a: x,\n".toList "a: x\n".toList ∧
      Changes {} "a: \"x\ty\"\n".toList "a: \"x  y\"\n".toList ∧
      Changes {} "a: |\n  x \n".toList "a: |\n  x\n".toList ∧
      Changes {} "\u00A0a\n".toList "a\n".toList ∧
      Changes {} "\uFEFF\uFEFFa\n".toList "a\n".toList ∧
      Changes {} ">-\n...\n".toList ">-\n".toList := by
  decide +kernel

/-! ## Whether a valid text is still read -/

/-- Whether a text that passes the gate does not pass a repair. -/
def Breaks (o : Options) (t u : List Char) : Prop :=
  Gate.format o t = .ok (.formatted u) ∧ (autoFix o t).ok = false

instance (o : Options) (t u : List Char) : Decidable (Breaks o t u) :=
  inferInstanceAs (Decidable (_ ∧ _))

/-- **When a repair keeps a text valid.**  With nothing to repair, a text that the gate formats is
formatted alike, and so is an outline.  Where a repair fails on such a text, it changed it, and it
fails with a text that is the given one row by row up to blanks and commas. -/
theorem formatted_or_rebuilt_otherwise (hgate : Gate.format o t = .ok (.formatted u)) :
    (Settled o t → autoFix o t = .formatted u) ∧
      (o = {} → ∀ (p : Outline) (column : Nat), p.Proper → KeepsAllCommas p →
        p.height < depthLimit → t = p.text column → autoFix o t = .formatted u) ∧
      ((∃ v, autoFix o t = .formatted v) ∨
        ∃ r m p, autoFix o t = .invalid r m p ∧ r ≠ t ∧ ¬ Settled o t ∧
          (rows r).map essence = (rows (cleanArtifacts t)).map essence) := by
  refine ⟨fun h => autoFix_of_settled h hgate,
    fun ho p column hproper hcommas hheight ht => ?_, ?_⟩
  · subst ho ht
    rw [format_outline hproper hheight] at hgate
    cases hgate
    exact autoFix_outline hproper hcommas hheight column
  rcases autoFix_formatted_or_invalid o t with hfix | ⟨m, p, hfix⟩
  · exact Or.inl hfix
  · have hunsettled : ¬ Settled o t := by
      intro h
      rw [autoFix_of_settled h hgate] at hfix
      cases hfix
    have hne : (Rebuilt.ofText o t).text ≠ t := fun h => hunsettled (rebuilt_eq_self_iff.mp h)
    exact Or.inr ⟨_, m, p, hfix, hne, hunsettled, rows_rebuilt o t⟩

theorem formatted_of_settled_hosts :
    (Gate.format {} "hosts: [db,  web]\n".toList = .ok (.formatted "hosts: [db, web]\n".toList) ∧
      autoFix {} "hosts: [db,  web]\n".toList = .formatted "hosts: [db, web]\n".toList) ∧
      Gate.format {} "hosts:\r\n- 8080 \n- \"a: b\"\n".toList =
        .ok (.formatted "hosts:\n  - 8080\n  - \"a: b\"\n".toList) ∧
      autoFix {} "hosts:\r\n- 8080 \n- \"a: b\"\n".toList =
        .formatted "hosts:\n  - 8080\n  - \"a: b\"\n".toList := by
  have hgate : Gate.format {} "hosts: [db,  web]\n".toList =
      .ok (.formatted "hosts: [db, web]\n".toList) := by decide +kernel
  have hsettled : Settled {} "hosts: [db,  web]\n".toList :=
    rebuilt_eq_self_iff.mp (by decide +kernel)
  have hgate' : Gate.format {} "hosts:\r\n- 8080 \n- \"a: b\"\n".toList =
      .ok (.formatted "hosts:\n  - 8080\n  - \"a: b\"\n".toList) := by decide +kernel
  exact ⟨⟨hgate, (formatted_or_rebuilt_otherwise hgate).1 hsettled⟩, hgate',
    (formatted_or_rebuilt_otherwise hgate').2.1 rfl hosts 0 proper_hosts keepsAllCommas_hosts
      (by decide +kernel) rfl⟩

/-- A text that the gate formats can become unreadable by a repair, whatever kind of repair it is:
an item is moved away from the rows below it, a comma is dropped between items, a tab makes a row
deeper than the next one, a blank is cut off a row or in front, a second byte order mark is dropped,
and a carriage return becomes a line feed. -/
theorem valid_texts_that_break :
    Breaks {} "x:\n- a: 1\n  b: 2\n".toList "x:\n  - a: 1\n    b: 2\n".toList ∧
      Breaks {} "a: [\"x\",\n  \"y\"]\n".toList "a: [\"x\", \"y\"]\n".toList ∧
      Breaks {} "a: |\n \tx\n y\n".toList "a: |\n  \tx\n  y\n".toList ∧
      Breaks {} "- \n    \n- \u0085 #cb|-\n   ".toList "- \n- \n  #cb|-\n".toList ∧
      Breaks {} "\u00A0]".toList "\u00A0]\n".toList ∧
      Breaks {} "\uFEFF\uFEFF\x7d".toList "\"\\uFEFF\x7d\"\n".toList ∧
      Breaks {} "\n\r\n| #c\r\n".toList "| #c\n".toList := by
  decide +kernel

end Repair
end YamlTidy
