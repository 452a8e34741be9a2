import YamlTidy.Repair.Pipeline
import YamlTidy.Proofs.Repair.Columns
import YamlTidy.Proofs.Repair.Surface

/-!
# The rebuilt text

What a repair hands to the strict gate has the rows of the given text up to blanks and commas
(`rows_rebuilt`).  It is the given text itself exactly when that is `Settled`: its surface is clean,
its rows are indented by spaces alone and its list items stand in their columns
(`rebuilt_eq_self_iff`).
-/

namespace YamlTidy
namespace Repair

open Text

/-! ## Stripped rows -/

/-- A stripped row does not begin with a blank. -/
theorem takeWhile_strip (row : List Char) : (strip row).takeWhile isBlank = [] := by
  cases hstrip : strip row with
  | nil => rfl
  | cons c rest =>
      have hprefix : strip row <+: row.dropWhile isBlank := List.rdropWhile_prefix isBlank _
      obtain ⟨back, hback⟩ := hprefix
      rw [hstrip] at hback
      have hhead := List.head?_dropWhile_not isBlank row
      rw [← hback] at hhead
      simp at hhead
      simp [hhead]

/-- A stripped row does not end in a blank. -/
theorem stripEnd_strip (row : List Char) : stripEnd (strip row) = strip row :=
  List.rdropWhile_idempotent isBlank _

theorem roleOf_eq_blank_iff (content : List Char) : roleOf content = .blank ↔ content = [] := by
  unfold roleOf
  constructor
  · intro h
    split at h
    · simpa using ‹content.isEmpty = true›
    · split at h
      · cases h
      · split at h
        · split at h <;> cases h
        · cases h
  · rintro rfl
    rfl

theorem takeWhile_space_eq_spaces (row : List Char) :
    row.takeWhile (· == ' ') = spaces (leadingSpaces row) := by
  refine List.eq_replicate_iff.mpr ⟨by simp [leadingSpaces], fun c hc => ?_⟩
  simpa using List.mem_takeWhile_imp hc

/-- In front of a text that does not begin with a blank, spaces are all that it begins with. -/
theorem takeWhile_spaces_append {p : Char → Bool} (hspace : p ' ' = true)
    (hp : ∀ c, p c = true → isBlank c = true) {content : List Char}
    (h : content.takeWhile isBlank = []) (n : Int) :
    (spaces n ++ content).takeWhile p = spaces n := by
  have hcontent : content.takeWhile p = [] := by
    cases content with
    | nil => rfl
    | cons c rest =>
        have hc : isBlank c = false := by
          by_contra hne
          simp [Bool.not_eq_false _ ▸ hne] at h
        have hpc : p c = false := by
          by_contra hne
          simp [hp c (Bool.not_eq_false _ ▸ hne)] at hc
        simp [hpc]
  have hall : ∀ c ∈ spaces n, p c = true := by
    intro c hc
    rw [List.eq_of_mem_replicate hc]
    exact hspace
  rw [List.takeWhile_append_of_pos hall, hcontent, List.append_nil]

/-- Content behind spaces ends as it does alone. -/
theorem stripEnd_place {content : List Char} (hne : content ≠ [])
    (h : stripEnd content = content) (n : Int) :
    stripEnd (place n content) = place n content := by
  refine List.rdropWhile_eq_self_iff.mpr fun hplace => ?_
  have hlast : (place n content).getLast hplace = content.getLast hne :=
    List.getLast_append_of_ne_nil _ hne
  rw [hlast]
  exact List.rdropWhile_eq_self_iff.mp h hne

/-! ## Rows emitted -/

section Emitted

variable {r : Realignment} {lines : List Line} {i : Nat} {raw : List Char}

/-- The row emitted for a classified one: itself if it is blank, else its content in some column. -/
theorem row_classify (r : Realignment) (lines : List Line) (i : Nat) (raw : List Char) :
    (strip raw = [] ∧ r.row lines i (Line.classify i raw) = raw) ∨
      (strip raw ≠ [] ∧ ∃ n, r.row lines i (Line.classify i raw) = place n (strip raw)) := by
  by_cases hstrip : strip raw = []
  · have hrole : (Line.classify i raw).role = .blank := (roleOf_eq_blank_iff _).mpr hstrip
    refine Or.inl ⟨hstrip, ?_⟩
    rw [Realignment.row, hrole]
    rfl
  · have hrole : (Line.classify i raw).role ≠ .blank := fun h =>
      hstrip ((roleOf_eq_blank_iff _).mp h)
    refine Or.inr ⟨hstrip, ?_⟩
    unfold Realignment.row
    split
    · exact absurd ‹_› hrole
    · exact ⟨_, rfl⟩
    · exact ⟨_, rfl⟩

theorem mem_of_mem_strip {c : Char} (h : c ∈ strip raw) : c ∈ raw :=
  (List.dropWhile_sublist _).subset ((List.rdropWhile_prefix isBlank _).subset h)

/-- An emitted row has spaces and characters of its line only. -/
theorem mem_row {c : Char} (h : c ∈ r.row lines i (Line.classify i raw)) :
    c = ' ' ∨ c ∈ raw := by
  rcases row_classify r lines i raw with ⟨-, heq⟩ | ⟨-, n, heq⟩
  · exact Or.inr (heq ▸ h)
  · rw [heq] at h
    rcases List.mem_append.mp h with hc | hc
    · exact Or.inl (List.eq_of_mem_replicate hc)
    · exact Or.inr (mem_of_mem_strip hc)

/-- A row with no blank at its end is emitted with none, and with spaces only in front. -/
theorem row_ends (hraw : stripEnd raw = raw) :
    stripEnd (r.row lines i (Line.classify i raw)) = r.row lines i (Line.classify i raw) ∧
      (r.row lines i (Line.classify i raw)).takeWhile isBlank =
        (r.row lines i (Line.classify i raw)).takeWhile (· == ' ') := by
  rcases row_classify r lines i raw with ⟨hstrip, heq⟩ | ⟨hstrip, n, heq⟩
  · have hblank : ∀ c ∈ raw.dropWhile isBlank, isBlank c = true :=
      List.rdropWhile_eq_nil_iff.mp hstrip
    have hnil : raw = [] := by
      rw [← hraw]
      refine List.rdropWhile_eq_nil_iff.mpr fun c hc => ?_
      rw [← List.takeWhile_append_dropWhile (p := isBlank) (l := raw), List.mem_append] at hc
      rcases hc with hc | hc
      · exact List.mem_takeWhile_imp hc
      · exact hblank c hc
    rw [heq, hnil]
    exact ⟨rfl, rfl⟩
  · rw [heq]
    refine ⟨stripEnd_place hstrip (stripEnd_strip raw) n, ?_⟩
    unfold place
    rw [takeWhile_spaces_append (by decide) (fun c hc => hc) (takeWhile_strip raw),
      takeWhile_spaces_append (by decide) (fun c hc => ?_) (takeWhile_strip raw)]
    obtain rfl : c = ' ' := by simpa using hc
    decide

/-- The content of a row with no blank at its end is what stands behind its blanks. -/
theorem strip_of_stripEnd (hend : stripEnd raw = raw) : strip raw = raw.dropWhile isBlank := by
  refine List.rdropWhile_eq_self_iff.mpr fun hne => ?_
  have hraw : raw ≠ [] := fun h => hne (by rw [h]; rfl)
  have hlast : raw.getLast hraw = (raw.dropWhile isBlank).getLast hne := by
    have hsuffix : raw.dropWhile isBlank <:+ raw := List.dropWhile_suffix isBlank
    exact (hsuffix.getLast hne).symm
  have hblank := List.rdropWhile_eq_self_iff.mp hend hraw
  rwa [hlast] at hblank

/-- A row with no blank at its end and only spaces in front is its content at its own indent. -/
theorem place_strip (hend : stripEnd raw = raw)
    (hfront : raw.takeWhile isBlank = raw.takeWhile (· == ' ')) :
    place (leadingSpaces raw) (strip raw) = raw := by
  have hsplit : raw.takeWhile isBlank ++ raw.dropWhile isBlank = raw :=
    List.takeWhile_append_dropWhile
  rw [place, ← takeWhile_space_eq_spaces, ← hfront, strip_of_stripEnd hend, hsplit]

end Emitted

/-! ## The realigned text -/

theorem mapIdx_row_classify (r : Realignment) (s : List Char) :
    (classify s).mapIdx (r.row (classify s)) =
      (rows s).mapIdx fun i raw => r.row (classify s) i (Line.classify i raw) := by
  generalize hlines : classify s = lines
  rw [← hlines, classify, List.mapIdx_mapIdx]
  rfl

/-- The rows of a realigned text are the rows emitted for its lines. -/
theorem rows_realign (r : Realignment) (s : List Char) :
    rows (r.realign (classify s)) =
      (rows s).mapIdx fun i raw => r.row (classify s) i (Line.classify i raw) := by
  rw [Realignment.realign, fold_snd_eq_mapIdx_row, mapIdx_row_classify]
  refine rows_joinRows ?_ fun row hrow hfeed => ?_
  · simpa using rows_ne_nil s
  · obtain ⟨i, hi, rfl⟩ := List.mem_mapIdx.mp hrow
    rcases mem_row hfeed with hspace | hraw
    · exact absurd hspace (by decide)
    · exact lineFeed_not_mem_rows (List.getElem_mem hi) hraw

/-- A row emitted for a line differs from it in blanks only. -/
theorem filter_row {p : Char → Bool}
    (hblank : ∀ c, isBlank c = true → c ≠ '\n' → p c = false) {r : Realignment}
    {lines : List Line} {i : Nat} {raw : List Char} (hfeed : '\n' ∉ raw) :
    (r.row lines i (Line.classify i raw)).filter p = raw.filter p := by
  rcases row_classify r lines i raw with ⟨-, heq⟩ | ⟨-, n, heq⟩
  · rw [heq]
  · have hfront : (raw.takeWhile isBlank).filter p = [] := by
      refine filter_of_blank hblank (fun c hc => List.mem_takeWhile_imp hc) fun h => hfeed ?_
      exact (List.takeWhile_sublist _).subset h
    have hrest : '\n' ∉ raw.dropWhile isBlank := fun h =>
      hfeed ((List.dropWhile_sublist _).subset h)
    calc (r.row lines i (Line.classify i raw)).filter p
        = (stripEnd (raw.dropWhile isBlank)).filter p := by
          rw [heq, place, List.filter_append, filter_spaces hblank]
          rfl
      _ = (raw.takeWhile isBlank ++ raw.dropWhile isBlank).filter p := by
          rw [filter_stripEnd hblank hrest, List.filter_append, hfront, List.nil_append]
      _ = raw.filter p := by rw [List.takeWhile_append_dropWhile]

/-- Realignment is invisible to a filter that sees no blanks but line feeds. -/
theorem filter_realign {p : Char → Bool} (hfeed : p '\n' = true)
    (hblank : ∀ c, isBlank c = true → c ≠ '\n' → p c = false) (r : Realignment)
    (s : List Char) :
    (r.realign (classify s)).filter p = s.filter p := by
  have hrows : (rows (r.realign (classify s))).map (List.filter p) =
      (rows s).map (List.filter p) := by
    rw [rows_realign]
    refine List.ext_getElem (by simp) fun i hi hi' => ?_
    have hlt : i < (rows s).length := by simpa using hi'
    simpa using filter_row hblank (lineFeed_not_mem_rows (List.getElem_mem hlt))
  calc (r.realign (classify s)).filter p
      = (joinRows (rows (r.realign (classify s)))).filter p := by rw [joinRows_rows]
    _ = (joinRows (rows s)).filter p := by
        rw [filter_joinRows hfeed, hrows, filter_joinRows hfeed]
    _ = s.filter p := by rw [joinRows_rows]

theorem mem_realign {c : Char} {r : Realignment} {s : List Char}
    (h : c ∈ r.realign (classify s)) : c = '\n' ∨ c = ' ' ∨ c ∈ s := by
  rw [← joinRows_rows (r.realign (classify s)), rows_realign] at h
  rcases mem_joinRows h with hc | ⟨row, hrow, hc⟩
  · exact Or.inl hc
  · obtain ⟨i, hi, rfl⟩ := List.mem_mapIdx.mp hrow
    rcases mem_row hc with hc | hc
    · exact Or.inr (Or.inl hc)
    · exact Or.inr (Or.inr (mem_of_mem_rows (List.getElem_mem hi) hc))

/-! ## What the rebuilt text keeps -/

/-- A character that a repair may add and delete. -/
def isFiller (c : Char) : Bool :=
  isBlank c || c == ','

/-- A row without blanks and commas. -/
def essence (row : List Char) : List Char :=
  row.filter fun c => !isFiller c

theorem rebuilt_text (o : Options) (t : List Char) :
    (Rebuilt.ofText o t).text =
      (Realignment.ofOptions o).realign (classify (normalize o.indent t)) :=
  rfl

/-- Row by row, the rebuilt text is the given one with its breaks unified, up to blanks and
commas. -/
theorem rows_rebuilt (o : Options) (t : List Char) :
    (rows (Rebuilt.ofText o t).text).map essence = (rows (cleanArtifacts t)).map essence := by
  let p : Char → Bool := fun c => c == '\n' || !isFiller c
  have hfeed : p '\n' = true := rfl
  have hblank : ∀ c, isBlank c = true → c ≠ '\n' → p c = false := by
    intro c hc hne
    simp [p, isFiller, hc, hne]
  have hcomma : p ',' = false := by decide
  have hessence : ∀ s, (rows s).map essence = rows (s.filter p) := by
    intro s
    rw [rows_filter hfeed]
    refine List.map_congr_left fun row hrow => List.filter_congr fun c hc => ?_
    have hne : c ≠ '\n' := fun e => lineFeed_not_mem_rows hrow (e ▸ hc)
    simp [p, hne]
  rw [hessence, hessence, rebuilt_text, filter_realign hfeed hblank,
    filter_normalize hfeed hblank hcomma]

/-- A carriage return together with the line feed behind it as a line feed, the first pass of
unifying breaks.  A carriage return that stands alone is left for the second. -/
def pairedBreaks : List Char → List Char
  | [] => []
  | '\r' :: '\n' :: rest => '\n' :: pairedBreaks rest
  | c :: rest => c :: pairedBreaks rest

/-- Breaks unified in one pass are breaks unified pairs first. -/
theorem unifyBreaks_eq_map_pairedBreaks (s : List Char) :
    unifyBreaks s = (pairedBreaks s).map fun c => if c = '\r' then '\n' else c := by
  fun_induction unifyBreaks s with
  | case1 => rfl
  | case2 rest ih => simp [pairedBreaks, ih]
  | case3 rest hpair ih =>
      have hstep : pairedBreaks ('\r' :: rest) = '\r' :: pairedBreaks rest :=
        pairedBreaks.eq_3 _ _ fun more _ hrest => hpair more hrest
      simp [hstep, ih]
  | case4 c rest _ hc ih =>
      have hstep : pairedBreaks (c :: rest) = c :: pairedBreaks rest :=
        pairedBreaks.eq_3 _ _ fun _ hreturn _ => hc hreturn
      have hne : c ≠ '\r' := fun h => hc h
      simp [hstep, hne, ih]

/-- A repair loses nothing and moves nothing to another row: the rebuilt text has a row for each row
of the given text, and each of its rows has the characters of that row, in their order, but for
blanks and commas. -/
theorem essence_rows_rebuilt (o : Options) (t : List Char) :
    let unified : List Char := (pairedBreaks (t.dropWhile (· == '\uFEFF'))).map fun c =>
      if c = '\r' then '\n' else c
    (rows (Rebuilt.ofText o t).text).length = (rows unified).length ∧
      ∀ i : Nat, ((rows (Rebuilt.ofText o t).text)[i]?).map essence =
        ((rows unified)[i]?).map essence := by
  intro unified
  have hunified : cleanArtifacts t = unified := unifyBreaks_eq_map_pairedBreaks _
  have hrows := rows_rebuilt o t
  rw [hunified] at hrows
  constructor
  · simpa using congrArg List.length hrows
  · intro i
    simpa using congrArg (fun rs : List (List Char) => rs[i]?) hrows

/-! ## Texts with nothing to repair -/

/-- A text in which a repair finds nothing to do: no byte order mark in front, no carriage return,
no tab, no row that ends in a blank or begins with one that is no space, no leftover comma, and no
list item outside its column. -/
structure Settled (o : Options) (t : List Char) : Prop extends SurfaceClean t where
  spacesInFront : ∀ row ∈ rows t, row.takeWhile isBlank = row.takeWhile (· == ' ')
  itemsInPlace : ∀ i, roleAt (classify t) i = .listItem →
    spaces ((Realignment.ofOptions o).column (classify t) i) = spaces (indentAt (classify t) i)

theorem getElem?_classify (s : List Char) (i : Nat) :
    (classify s)[i]? = ((rows s)[i]?).map (Line.classify i) := by
  simp [classify]

/-- In a text with nothing to repair each row is emitted as it stands. -/
theorem row_of_settled {o : Options} {t : List Char} (h : Settled o t) {i : Nat}
    {raw : List Char} (hi : (rows t)[i]? = some raw) :
    (Realignment.ofOptions o).row (classify t) i (Line.classify i raw) = raw := by
  have hmem : raw ∈ rows t := List.mem_of_getElem? hi
  have hplace := place_strip (h.noBlankEnd raw hmem) (h.spacesInFront raw hmem)
  have hline : (classify t)[i]? = some (Line.classify i raw) := by
    rw [getElem?_classify, hi]
    rfl
  unfold Realignment.row
  split
  · rfl
  · rename_i hrole
    have hitem := h.itemsInPlace i (by simp [roleAt, hline, hrole])
    have hindent : indentAt (classify t) i = leadingSpaces raw := by
      simp [indentAt, hline, Line.classify]
    rw [place, hitem, hindent]
    exact hplace
  · exact hplace

/-- A text with nothing to repair is rebuilt as it stands. -/
theorem rebuilt_of_settled {o : Options} {t : List Char} (h : Settled o t) :
    (Rebuilt.ofText o t).text = t := by
  have hrows : (rows t).mapIdx (fun i raw =>
      (Realignment.ofOptions o).row (classify t) i (Line.classify i raw)) = rows t := by
    refine List.ext_getElem (by simp) fun i hi hi' => ?_
    rw [List.getElem_mapIdx]
    exact row_of_settled h (List.getElem?_eq_getElem hi')
  rw [rebuilt_text, normalize_eq_self h.toSurfaceClean,
    ← joinRows_rows (Realignment.realign _ _),
    rows_realign, hrows, joinRows_rows]

/-- A filter that keeps commas and other visible characters, and line feeds. -/
def visible (c : Char) : Bool :=
  c == '\n' || !isBlank c

theorem visible_of_blank (c : Char) (hc : isBlank c = true) (hne : c ≠ '\n') :
    visible c = false := by
  simp [visible, hc, hne]

/-- The number of times a visible character stands in a text. -/
theorem count_filter_visible {c : Char} (hc : visible c = true) (s : List Char) :
    (s.filter visible).count c = s.count c :=
  List.count_filter hc

/-- Only the leftover commas of a text are missing among the commas of the rebuilt one. -/
theorem count_comma_rebuilt (o : Options) (t : List Char) :
    (Rebuilt.ofText o t).text.count ',' =
      (dropCommas (stripRows (expandTabs o.indent (cleanArtifacts t)))).count ',' := by
  rw [← count_filter_visible (by decide), rebuilt_text, filter_realign rfl visible_of_blank,
    normalize, filter_stripRows visible_of_blank rfl, count_filter_visible (by decide)]

/-- Only the byte order marks in front of a text are missing in the rebuilt one. -/
theorem count_mark_rebuilt (o : Options) (t : List Char) :
    (Rebuilt.ofText o t).text.count '\uFEFF' = (cleanArtifacts t).count '\uFEFF' := by
  let p : Char → Bool := fun c => c == '\n' || !isFiller c
  have hblank : ∀ c, isBlank c = true → c ≠ '\n' → p c = false := by
    intro c hc hne
    simp [p, isFiller, hc, hne]
  have hcount : ∀ s : List Char, (s.filter p).count '\uFEFF' = s.count '\uFEFF' :=
    fun s => List.count_filter (by decide)
  rw [← hcount, rebuilt_text, filter_realign rfl hblank, filter_normalize rfl hblank (by decide),
    hcount]

/-- The characters of a rebuilt text. -/
theorem mem_rebuilt {o : Options} {t : List Char} {c : Char}
    (h : c ∈ (Rebuilt.ofText o t).text) :
    c = '\n' ∨ c = ' ' ∨ c ∈ cleanArtifacts t ∧ c ≠ '\t' := by
  rw [rebuilt_text] at h
  rcases mem_realign h with hc | hc | hc
  · exact Or.inl hc
  · exact Or.inr (Or.inl hc)
  · exact mem_normalize hc

/-- Rows of a rebuilt text end in no blank and begin with spaces only. -/
theorem ends_of_mem_rows_rebuilt {o : Options} {t row : List Char}
    (h : row ∈ rows (Rebuilt.ofText o t).text) :
    stripEnd row = row ∧ row.takeWhile isBlank = row.takeWhile (· == ' ') := by
  rw [rebuilt_text, rows_realign] at h
  obtain ⟨i, hi, rfl⟩ := List.mem_mapIdx.mp h
  exact row_ends (stripEnd_of_mem_rows_stripRows (List.getElem_mem hi))

/-- A text that is rebuilt as it stands has a clean surface. -/
theorem surfaceClean_of_rebuilt {o : Options} {t : List Char}
    (h : (Rebuilt.ofText o t).text = t) : SurfaceClean t := by
  -- Breaks and tabs are told from the characters of the rebuilt text, marks and commas from their
  -- number in it: realignment moves rows, so that places say nothing.
  have hnoReturn : '\r' ∉ t := by
    intro hmem
    rw [← h] at hmem
    rcases mem_rebuilt hmem with hc | hc | ⟨hc, -⟩
    · exact absurd hc (by decide)
    · exact absurd hc (by decide)
    · exact return_not_mem_unifyBreaks _ hc
  have hnoTab : '\t' ∉ t := by
    intro hmem
    rw [← h] at hmem
    rcases mem_rebuilt hmem with hc | hc | ⟨-, hc⟩
    · exact absurd hc (by decide)
    · exact absurd hc (by decide)
    · exact hc rfl
  have hnoMark : t.head? ≠ some '\uFEFF' := by
    have hcount := count_mark_rebuilt o t
    rw [h] at hcount
    exact head?_ne_of_count_cleanArtifacts hcount.symm
  have hnoBlankEnd : ∀ row ∈ rows t, stripEnd row = row := by
    intro row hrow
    rw [← h] at hrow
    exact (ends_of_mem_rows_rebuilt hrow).1
  refine ⟨hnoMark, hnoReturn, hnoTab, hnoBlankEnd, dropCommasOnce_eq_self_iff.mp ?_⟩
  have hcount := count_comma_rebuilt o t
  rw [h, cleanArtifacts_eq_self hnoMark hnoReturn, expandTabs_eq_self hnoTab,
    stripRows_eq_self hnoBlankEnd] at hcount
  exact dropCommasOnce_of_count_dropCommas hcount.symm

/-- A list item whose row is emitted as it stands is in its column. -/
theorem spaces_column_of_row {r : Realignment} {lines : List Line} {i : Nat} {raw : List Char}
    (hrole : (Line.classify i raw).role = .listItem)
    (h : r.row lines i (Line.classify i raw) = raw) :
    spaces (r.column lines i) = spaces (leadingSpaces raw) := by
  have hplace : place (r.column lines i) (strip raw) = raw := by
    rw [Realignment.row, hrole] at h
    exact h
  calc spaces (r.column lines i)
      = (place (r.column lines i) (strip raw)).takeWhile (· == ' ') :=
        (takeWhile_spaces_append (by decide) (fun c hc => by
          obtain rfl : c = ' ' := by simpa using hc
          decide) (takeWhile_strip raw) _).symm
    _ = spaces (leadingSpaces raw) := by rw [hplace, takeWhile_space_eq_spaces]

/-- A repair leaves a text as it stands exactly when it finds nothing to do in it. -/
theorem rebuilt_eq_self_iff {o : Options} {t : List Char} :
    (Rebuilt.ofText o t).text = t ↔ Settled o t := by
  refine ⟨fun h => ?_, rebuilt_of_settled⟩
  have hclean := surfaceClean_of_rebuilt h
  refine ⟨hclean, fun row hrow => ?_, fun i hrole => ?_⟩
  · rw [← h] at hrow
    exact (ends_of_mem_rows_rebuilt hrow).2
  · have hrealign : (Realignment.ofOptions o).realign (classify t) = t := by
      rw [rebuilt_text, normalize_eq_self hclean] at h
      exact h
    -- Rows are compared one by one: an item that is emitted as it stands was in its column.
    have hrows := rows_realign (Realignment.ofOptions o) t
    rw [hrealign] at hrows
    have hline := getElem?_classify t i
    cases hraw : (rows t)[i]? with
    | none =>
        rw [hraw] at hline
        simp [roleAt, hline] at hrole
    | some raw =>
        rw [hraw] at hline
        have hitem : (Line.classify i raw).role = .listItem := by
          simpa [roleAt, hline] using hrole
        have hemitted :
            (Realignment.ofOptions o).row (classify t) i (Line.classify i raw) = raw := by
          have hi := congrArg (fun rs => rs[i]?) hrows
          simpa [hraw] using hi.symm
        rw [spaces_column_of_row hitem hemitted]
        simp [indentAt, hline, Line.classify]

end Repair
end YamlTidy
