import YamlTidy.Proofs.Repair.Agreement
import YamlTidy.Proofs.Repair.NormalForm
import Mathlib.Logic.Relation

/-!
# Noise on the surface of a text

A text can be made noisy in ways that surface cleanup undoes (`Noisy`): tabs become spaces and
spaces become tabs, blanks are appended to rows, rows are joined by breaks of another kind, and
byte order marks are put in front.  Each kind of noise is undone by a stage of its own, and marks
are dropped before all of them.  That they are dropped first makes no difference, as the later
stages neither put a mark in front nor take away what stands in front of one
(`unifyBreaks_dropMarks`, `expandTabs_dropMarks`, `stripRows_dropMarks`).

Main statement: `normalize_of_noisy`.
-/

namespace YamlTidy
namespace Repair

open Text

/-! ## Noisy texts -/

/-- One tab in a text and as many spaces as it is wide, the one for the other. -/
inductive Retab (width : Int) : List Char → List Char → Prop where
  | expand (front back : List Char) :
      Retab width (front ++ '\t' :: back) (front ++ (spaces width ++ back))
  | collapse (front back : List Char) :
      Retab width (front ++ (spaces width ++ back)) (front ++ '\t' :: back)

/-- The line breaks of different systems. -/
inductive Break where
  | feed
  | pair
  | carriageReturn
  deriving Repr, DecidableEq

/-- The characters of a break. -/
def Break.text : Break → List Char
  | feed => ['\n']
  | pair => ['\r', '\n']
  | carriageReturn => ['\r']

/-- Rows put together again, a break of the kind between each two. -/
def Break.join (b : Break) : List (List Char) → List Char
  | [] => []
  | [row] => row
  | row :: more => row ++ b.text ++ b.join more

/-- Rows with something behind each. -/
def appendEach : List (List Char) → List (List Char) → List (List Char) :=
  List.zipWith (· ++ ·)

/-- A text with noise on its surface. -/
inductive Noisy (width : Int) (t : List Char) : List Char → Prop where
  | intro (retabbed : List Char) (tails : List (List Char)) (b : Break) (marks : Nat)
      (tabs : Relation.ReflTransGen (Retab width) t retabbed)
      (tail_for_each : tails.length = (rows retabbed).length)
      (blank : ∀ tail ∈ tails, ∀ c ∈ tail, isBlank c = true ∧ c ≠ '\n' ∧ c ≠ '\r') :
      Noisy width t
        (List.replicate marks '\uFEFF' ++ b.join (appendEach (rows retabbed) tails))

variable {width : Int} {s t noisy retabbed : List Char} {rs tails : List (List Char)}

/-! ## Tabs -/

theorem expandTabs_cons (c : Char) (s : List Char) :
    expandTabs width (c :: s) =
      (if c = '\t' then spaces width else [c]) ++ expandTabs width s := rfl

theorem expandTabs_spaces (width n : Int) : expandTabs width (spaces n) = spaces n := by
  refine expandTabs_eq_self fun htab => ?_
  exact absurd (List.eq_of_mem_replicate htab) (by decide)

/-- Tabs and the spaces that stand for them are the same once tabs are expanded. -/
theorem expandTabs_of_retab (h : Retab width s t) : expandTabs width s = expandTabs width t := by
  cases h with
  | expand front back =>
      rw [expandTabs_append, expandTabs_cons, if_pos rfl, expandTabs_append, expandTabs_append,
        expandTabs_spaces]
  | collapse front back =>
      rw [expandTabs_append, expandTabs_append, expandTabs_spaces, expandTabs_append,
        expandTabs_cons, if_pos rfl]

theorem expandTabs_of_retabs (h : Relation.ReflTransGen (Retab width) s t) :
    expandTabs width s = expandTabs width t := by
  induction h with
  | refl => rfl
  | tail _ hstep ih => exact ih.trans (expandTabs_of_retab hstep)

theorem return_notMem_of_retab (h : Retab width s t) (hs : '\r' ∉ s) : '\r' ∉ t := by
  have hspaces : '\r' ∉ spaces width := fun hmem =>
    absurd (List.eq_of_mem_replicate hmem) (by decide)
  cases h <;> simp_all

theorem return_notMem_of_retabs (h : Relation.ReflTransGen (Retab width) s t) (hs : '\r' ∉ s) :
    '\r' ∉ t := by
  induction h with
  | refl => exact hs
  | tail _ hstep ih => exact return_notMem_of_retab hstep ih

/-! ## Blanks behind rows -/

/-- Blanks behind a row are stripped with those it ends with. -/
theorem stripEnd_append_of_blank {tail : List Char} (h : ∀ c ∈ tail, isBlank c = true)
    (row : List Char) : stripEnd (row ++ tail) = stripEnd row := by
  have htail : ∀ c ∈ tail.reverse, isBlank c = true := fun c hc => h c (List.mem_reverse.mp hc)
  rw [stripEnd, List.reverse_append, List.dropWhile_append_of_pos htail, ← stripEnd]

theorem isBlank_of_mem_expandTabs {tail : List Char} (h : ∀ c ∈ tail, isBlank c = true) :
    ∀ c ∈ expandTabs width tail, isBlank c = true := by
  intro c hc
  rcases mem_expandTabs hc with rfl | ⟨hmem, -⟩
  · decide
  · exact h c hmem

theorem lineFeed_notMem_expandTabs (h : '\n' ∉ s) : '\n' ∉ expandTabs width s := by
  intro hfeed
  rcases mem_expandTabs hfeed with hspace | ⟨hmem, -⟩
  · exact absurd hspace (by decide)
  · exact h hmem

theorem stripRows_of_lineFeed_notMem (h : '\n' ∉ s) : stripRows s = stripEnd s := by
  rw [stripRows, rows_of_lineFeed_not_mem h]
  rfl

/-- Blanks behind rows, tabs among them, are stripped once tabs are expanded. -/
theorem stripRows_appendEach (hrows : ∀ row ∈ rs, '\n' ∉ row)
    (hlength : tails.length = rs.length)
    (hblank : ∀ tail ∈ tails, ∀ c ∈ tail, isBlank c = true ∧ c ≠ '\n') :
    stripRows (expandTabs width (joinRows (appendEach rs tails))) =
      stripRows (expandTabs width (joinRows rs)) := by
  induction rs generalizing tails with
  | nil => rfl
  | cons row more ih =>
      obtain ⟨tail, others, rfl⟩ := List.exists_cons_of_length_eq_add_one hlength
      obtain ⟨hrow, hmore⟩ := List.forall_mem_cons.mp hrows
      obtain ⟨htail, hothers⟩ := List.forall_mem_cons.mp hblank
      have hfeed : '\n' ∉ expandTabs width row := lineFeed_notMem_expandTabs hrow
      have htailFeed : '\n' ∉ expandTabs width tail :=
        lineFeed_notMem_expandTabs fun hmem => (htail _ hmem).2 rfl
      have hfeeds : '\n' ∉ expandTabs width row ++ expandTabs width tail := by
        simp [hfeed, htailFeed]
      have hstrip : stripEnd (expandTabs width row ++ expandTabs width tail) =
          stripEnd (expandTabs width row) :=
        stripEnd_append_of_blank (isBlank_of_mem_expandTabs fun c hc => (htail c hc).1) _
      cases more with
      | nil =>
          obtain rfl : others = [] := by simpa using hlength
          simp only [appendEach, List.zipWith_cons_cons, List.zipWith_nil_left, joinRows]
          rw [expandTabs_append, stripRows_of_lineFeed_notMem hfeeds,
            stripRows_of_lineFeed_notMem hfeed, hstrip]
      | cons next rest =>
          obtain ⟨nextTail, restTails, rfl⟩ :=
            List.exists_cons_of_length_eq_add_one (by simpa using hlength)
          have hrest := ih hmore (by simpa using hlength) hothers
          simp only [appendEach, List.zipWith_cons_cons, joinRows] at hrest ⊢
          rw [expandTabs_append, expandTabs_append, expandTabs_cons, if_neg (by decide),
            expandTabs_append, expandTabs_cons, if_neg (by decide), List.singleton_append,
            List.singleton_append, stripRows_append_lineFeed hfeeds, hstrip, hrest,
            stripRows_append_lineFeed hfeed]

/-! ## Breaks -/

theorem unifyBreaks_append (h : '\r' ∉ s) (t : List Char) :
    unifyBreaks (s ++ t) = s ++ unifyBreaks t := by
  induction s with
  | nil => rfl
  | cons c rest ih =>
      obtain ⟨hc, hrest⟩ := List.ne_and_not_mem_of_not_mem_cons h
      have hstep : unifyBreaks (c :: (rest ++ t)) = c :: unifyBreaks (rest ++ t) := by
        rw [unifyBreaks] <;> simp [Ne.symm hc]
      rw [List.cons_append, hstep, ih hrest, List.cons_append]

/-- A break is a line feed once breaks are unified, unless it is the front of another one. -/
theorem unifyBreaks_text (b : Break) (h : b = .carriageReturn → s.head? ≠ some '\n') :
    unifyBreaks (b.text ++ s) = '\n' :: unifyBreaks s := by
  cases b with
  | feed => rfl
  | pair => rfl
  | carriageReturn =>
      cases s with
      | nil => rfl
      | cons c rest =>
          have hc : c ≠ '\n' := by simpa using h rfl
          simp only [Break.text, List.singleton_append]
          rw [unifyBreaks]
          simpa using hc

theorem head?_join {row : List Char} (b : Break) (hb : b = .carriageReturn) (hrow : '\n' ∉ row)
    (more : List (List Char)) : (b.join (row :: more)).head? ≠ some '\n' := by
  cases row with
  | nil => cases more <;> simp [Break.join, Break.text, hb]
  | cons c rest =>
      have hc : '\n' ≠ c := (List.ne_and_not_mem_of_not_mem_cons hrow).1
      cases more <;> simp [Break.join, Ne.symm hc]

/-- Rows joined by breaks of any kind are joined by line feeds once breaks are unified. -/
theorem unifyBreaks_join (b : Break) (h : ∀ row ∈ rs, '\n' ∉ row ∧ '\r' ∉ row) :
    unifyBreaks (b.join rs) = joinRows rs := by
  induction rs with
  | nil => rfl
  | cons row more ih =>
      obtain ⟨hrow, hmore⟩ := List.forall_mem_cons.mp h
      cases more with
      | nil => exact unifyBreaks_eq_self hrow.2
      | cons next rest =>
          have hhead : b = .carriageReturn → (b.join (next :: rest)).head? ≠ some '\n' :=
            fun hb => head?_join b hb (hmore next List.mem_cons_self).1 rest
          have hjoin : b.join (row :: next :: rest) = row ++ (b.text ++ b.join (next :: rest)) :=
            List.append_assoc _ _ _
          rw [hjoin, unifyBreaks_append hrow.2, unifyBreaks_text b hhead, ih hmore]
          rfl

/-! ## Marks -/

/-- A text without the byte order marks in front. -/
def dropMarks (s : List Char) : List Char :=
  s.dropWhile (· == '\uFEFF')

theorem dropMarks_cons (s : List Char) : dropMarks ('\uFEFF' :: s) = dropMarks s := by
  simp [dropMarks]

theorem dropMarks_eq_self (h : s.head? ≠ some '\uFEFF') : dropMarks s = s :=
  dropWhile_mark_eq_self h

theorem dropMarks_replicate (n : Nat) (s : List Char) :
    dropMarks (List.replicate n '\uFEFF' ++ s) = dropMarks s := by
  induction n with
  | zero => rfl
  | succ n ih => rw [List.replicate_succ, List.cons_append, dropMarks_cons, ih]

/-- A stage that lets a mark in front pass and puts none there can wait until marks are dropped. -/
theorem dropMarks_comm {f : List Char → List Char}
    (hmark : ∀ s, f ('\uFEFF' :: s) = '\uFEFF' :: f s)
    (hhead : ∀ s, s.head? ≠ some '\uFEFF' → (f s).head? ≠ some '\uFEFF') (s : List Char) :
    f (dropMarks s) = dropMarks (f s) := by
  induction s with
  | nil => exact (dropMarks_eq_self (hhead [] (by simp))).symm
  | cons c rest ih =>
      by_cases hc : c = '\uFEFF'
      · subst hc
        rw [dropMarks_cons, hmark, dropMarks_cons, ih]
      · have hs : (c :: rest).head? ≠ some '\uFEFF' := by simpa using hc
        rw [dropMarks_eq_self hs, dropMarks_eq_self (hhead _ hs)]

theorem unifyBreaks_dropMarks (s : List Char) :
    unifyBreaks (dropMarks s) = dropMarks (unifyBreaks s) := by
  refine dropMarks_comm (fun s => ?_) (fun s hs => ?_) s
  · rw [unifyBreaks] <;> simp
  · have hclean := head?_cleanArtifacts s
    rwa [cleanArtifacts, ← dropMarks, dropMarks_eq_self hs] at hclean

theorem expandTabs_dropMarks (hwidth : 1 ≤ width) (s : List Char) :
    expandTabs width (dropMarks s) = dropMarks (expandTabs width s) :=
  dropMarks_comm (f := expandTabs width) (fun _ => rfl)
    (fun _ hs => head?_expandTabs hwidth hs) s

theorem stripRows_dropMarks (s : List Char) :
    stripRows (dropMarks s) = dropMarks (stripRows s) := by
  refine dropMarks_comm (fun s => ?_) (fun _ hs => head?_stripRows hs) s
  rcases stripRows_cons '\uFEFF' s with hkept | ⟨hblank, -⟩
  · exact hkept
  · exact absurd hblank (by decide)

/-- Cleanup in front of the commas, with the marks dropped last. -/
theorem stripRows_cleanArtifacts (hwidth : 1 ≤ width) (s : List Char) :
    stripRows (expandTabs width (cleanArtifacts s)) =
      dropMarks (stripRows (expandTabs width (unifyBreaks s))) := by
  rw [cleanArtifacts, ← dropMarks, unifyBreaks_dropMarks, expandTabs_dropMarks hwidth,
    stripRows_dropMarks]

/-! ## Noise is undone -/

theorem exists_of_mem_appendEach {row : List Char} (h : row ∈ appendEach rs tails) :
    ∃ front ∈ rs, ∃ tail ∈ tails, row = front ++ tail := by
  obtain ⟨i, hi, rfl⟩ := List.getElem_of_mem h
  rw [appendEach, List.length_zipWith, Nat.lt_min] at hi
  refine ⟨rs[i], List.getElem_mem hi.1, tails[i], List.getElem_mem hi.2, ?_⟩
  simp [appendEach]

/-- In front of the commas nothing is left of the noise. -/
theorem stripRows_of_noisy (hwidth : 1 ≤ width) (hreturn : '\r' ∉ t) (h : Noisy width t noisy) :
    stripRows (expandTabs width (cleanArtifacts noisy)) =
      stripRows (expandTabs width (cleanArtifacts t)) := by
  obtain ⟨retabbed, tails, b, marks, tabs, tail_for_each, blank⟩ := h
  have hretabbed : '\r' ∉ retabbed := return_notMem_of_retabs tabs hreturn
  have hrows : ∀ row ∈ appendEach (rows retabbed) tails, '\n' ∉ row ∧ '\r' ∉ row := by
    intro row hrow
    obtain ⟨front, hfront, tail, htail, rfl⟩ := exists_of_mem_appendEach hrow
    have hfeed := lineFeed_not_mem_rows hfront
    have hfrontReturn : '\r' ∉ front := fun hmem => hretabbed (mem_of_mem_rows hfront hmem)
    have hblank := blank tail htail
    exact ⟨by simpa [hfeed] using fun hmem => (hblank _ hmem).2.1 rfl,
      by simpa [hfrontReturn] using fun hmem => (hblank _ hmem).2.2 rfl⟩
  have hmarks : cleanArtifacts (List.replicate marks '\uFEFF' ++
      b.join (appendEach (rows retabbed) tails)) =
        cleanArtifacts (b.join (appendEach (rows retabbed) tails)) :=
    congrArg unifyBreaks (dropMarks_replicate marks _)
  have htails : stripRows (expandTabs width (joinRows (appendEach (rows retabbed) tails))) =
      stripRows (expandTabs width (joinRows (rows retabbed))) :=
    stripRows_appendEach (fun row => lineFeed_not_mem_rows) tail_for_each
      fun tail htail c hc => ⟨(blank tail htail c hc).1, (blank tail htail c hc).2.1⟩
  calc stripRows (expandTabs width (cleanArtifacts _))
      = dropMarks (stripRows
        (expandTabs width (joinRows (appendEach (rows retabbed) tails)))) := by
        rw [hmarks, stripRows_cleanArtifacts hwidth, unifyBreaks_join b hrows]
    _ = dropMarks (stripRows (expandTabs width retabbed)) := by rw [htails, joinRows_rows]
    _ = dropMarks (stripRows (expandTabs width (unifyBreaks t))) := by
        rw [← expandTabs_of_retabs tabs, unifyBreaks_eq_self hreturn]
    _ = stripRows (expandTabs width (cleanArtifacts t)) :=
      (stripRows_cleanArtifacts hwidth t).symm

/-- Repairs of texts that are rebuilt to the same text have the same outcome. -/
theorem autoFix_of_rebuilt {o : Options}
    (h : (Rebuilt.ofText o s).text = (Rebuilt.ofText o t).text) :
    autoFix o s = autoFix o t := by
  have hgate : Gate.format o (Rebuilt.ofText o s).text =
    Gate.format o (Rebuilt.ofText o t).text := by
    rw [h]
  cases hanswer : Gate.format o (Rebuilt.ofText o t).text with
  | ok g =>
      rw [hanswer] at hgate
      rw [autoFix_of_ok hanswer, autoFix_of_ok hgate]
  | error abort =>
      rw [hanswer] at hgate
      rw [autoFix_of_error hanswer, autoFix_of_error hgate, h]

/-- **Noise on the surface does not matter.**  A noisy text is cleaned to the same text as the
text itself, if that has no carriage returns, and both are repaired with the same outcome when
tabs are as wide as a step. -/
theorem normalize_of_noisy (hwidth : 1 ≤ width) (hreturn : '\r' ∉ t) (h : Noisy width t noisy) :
    normalize width noisy = normalize width t ∧
      ∀ o : Options, o.indent = width → autoFix o noisy = autoFix o t := by
  have hnormal : normalize width noisy = normalize width t := by
    rw [normalize, normalize, stripRows_of_noisy hwidth hreturn h]
  refine ⟨hnormal, fun o ho => autoFix_of_rebuilt ?_⟩
  rw [Rebuilt.ofText, Rebuilt.ofText, ho, hnormal]

/-- A list with a tab for spaces, spaces for a tab, blanks behind its commas, breaks of another
system and two byte order marks in front. -/
theorem normalize_of_noisy_list :
    let t := "a:\n\t- x,\n  - y,".toList
    let noisy := "\uFEFF\uFEFFa:\r\n  - x,\u00A0\t\r\n\t- y,\u000B".toList
    (1 : Int) ≤ 2 ∧ '\r' ∉ t ∧ Noisy 2 t noisy ∧ normalize 2 noisy = normalize 2 t ∧
      autoFix {} noisy = autoFix {} t ∧ normalize 2 noisy = "a:\n  - x\n  - y,".toList := by
  intro t noisy
  have hreturn : '\r' ∉ t := by decide
  have htabs : Relation.ReflTransGen (Retab 2) t "a:\n  - x,\n\t- y,".toList :=
    .tail (.single (.expand "a:\n".toList "- x,\n  - y,".toList))
      (.collapse "a:\n  - x,\n".toList "- y,".toList)
  have hnoisy : Noisy 2 t noisy :=
    .intro _ [[], ['\u00A0', '\t'], ['\u000B']] .pair 2 htabs (by decide) (by simp [isBlank])
  obtain ⟨hnormal, hrepair⟩ := normalize_of_noisy (by decide) hreturn hnoisy
  exact ⟨by decide, hreturn, hnoisy, hnormal, hrepair {} rfl, by decide +kernel⟩

end Repair
end YamlTidy
