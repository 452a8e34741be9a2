import YamlTidy.Proofs.Files.Descents
import YamlTidy.Proofs.Workspace.Endings
import YamlTidy.Proofs.Workspace.Sequels
import Mathlib.Data.Char
import Mathlib.Data.List.Lex

/-!
# Discovery

A workspace discovers the files of a tree whose names end in an extension: both searches find all
that has such a name (`mem_searches`), the files among it are kept, and they are put in order,
each once (`pairwise_ascending`, `mem_ascending`).  Only a link can end the search: one that leads
to a name that is too long (`link_of_isFile`).  A repair that does not write then reports on each
of the files and leaves them as they are (`process_of_file`), so that a scan has a report for each
(`forEach_reports`).

Main statement: `discover_and_scan`.
-/

namespace YamlTidy

open Files FileSystem

namespace Files

variable {p q : Path} {ps : List Path}

/-! ## Order -/

theorem before_iff_lt {s t : List Char} : before s t = true ↔ s < t := by
  induction s generalizing t with
  | nil => cases t <;> simp [before]
  | cons a s ih =>
      cases t with
      | nil => simp [before]
      | cons b t => simp [before, ih, List.cons_lt_cons_iff]

theorem pathBefore_iff_lt : pathBefore p q = true ↔ p < q := by
  induction p generalizing q with
  | nil => cases q <;> simp [pathBefore]
  | cons n p ih =>
      cases q with
      | nil => simp [pathBefore]
      | cons m q => simp [pathBefore, ih, before_iff_lt, List.cons_lt_cons_iff]

theorem mem_place : q ∈ place p ps ↔ q = p ∨ q ∈ ps := by
  refine ⟨mem_of_mem_place, fun h => ?_⟩
  induction ps with
  | nil => exact List.mem_singleton.mpr (h.resolve_right List.not_mem_nil)
  | cons first rest ih =>
      unfold place
      split
      · next heq => exact h.elim (fun hq => hq ▸ heq ▸ List.mem_cons_self) id
      · split
        · exact List.mem_cons.mpr h
        · rcases h with rfl | h
          · exact List.mem_cons_of_mem first (ih (Or.inl rfl))
          · rcases List.mem_cons.mp h with rfl | h
            · exact List.mem_cons_self
            · exact List.mem_cons_of_mem first (ih (Or.inr h))

theorem pairwise_place (h : ps.Pairwise (pathBefore · ·)) :
    (place p ps).Pairwise (pathBefore · ·) := by
  induction ps with
  | nil => exact List.pairwise_singleton _ p
  | cons first rest ih =>
      obtain ⟨hfirst, hrest⟩ := List.pairwise_cons.mp h
      unfold place
      split
      · exact h
      · next hne =>
          split
          · next hbefore =>
              refine List.pairwise_cons.mpr ⟨fun q hq => ?_, h⟩
              rcases List.mem_cons.mp hq with rfl | hq
              · exact hbefore
              · exact pathBefore_iff_lt.mpr
                  ((pathBefore_iff_lt.mp hbefore).trans (pathBefore_iff_lt.mp (hfirst q hq)))
          · next hnot =>
              refine List.pairwise_cons.mpr ⟨fun q hq => ?_, ih hrest⟩
              rcases mem_place.mp hq with rfl | hq
              · have hle := not_lt.mp (pathBefore_iff_lt.not.mp hnot)
                exact pathBefore_iff_lt.mpr (lt_of_le_of_ne hle (Ne.symm hne))
              · exact hfirst q hq

theorem mem_ascending : q ∈ ascending ps ↔ q ∈ ps := by
  refine ⟨mem_of_mem_ascending, fun h => ?_⟩
  induction ps with
  | nil => exact h
  | cons p rest ih =>
      rcases List.mem_cons.mp h with rfl | h
      · exact mem_place.mpr (Or.inl rfl)
      · exact mem_place.mpr (Or.inr (ih h))

/-- What is put in order stands in order, each path once. -/
theorem pairwise_ascending (ps : List Path) : (ascending ps).Pairwise (pathBefore · ·) := by
  induction ps with
  | nil => exact List.Pairwise.nil
  | cons p rest ih => exact pairwise_place ih

end Files

namespace Workspace

variable {ws : Workspace} {fs : FileSystem} {f p : Path} {steps : List Name}
  {extension : List Char}
  {maxDepth : Int} {r : Request} {e : Entry}

/-! ## What is looked at -/

/-- Something below a workspace, reached through directories only, whose name ends in an
extension, in small or in capital letters. -/
structure Matching (ws : Workspace) (fs : FileSystem) (extension : List Char)
    (p : Path) : Prop where
  below : ws.root <+: p ∧ p ≠ ws.root
  present : ∃ e, fs.entry? p = some e
  reached : ∀ q, q <+: p → q ≠ p → fs.entry? q = some .directory
  ending : Text.toSmall extension <:+ p.name ∨ Text.toCapital extension <:+ p.name

/-- A path among some others that cannot be looked at ends the search for files among them. -/
theorem ownFiles_error {ps : List Path} {fault : FileFault} (h : ownFiles fs ps = .error fault) :
    ∃ p ∈ ps, fs.isFile p = .error fault := by
  induction ps with
  | nil => cases h
  | cons p rest ih =>
      rw [ownFiles] at h
      split at h
      · next other hother =>
          cases h
          exact ⟨p, List.mem_cons_self, hother⟩
      · cases hrest : ownFiles fs rest with
        | error other =>
            rw [hrest] at h
            cases h
            obtain ⟨q, hq, hfault⟩ := ih hrest
            exact ⟨q, List.mem_cons_of_mem p hq, hfault⟩
        | ok others =>
            rw [hrest] at h
            cases h

theorem isFile_of_ownFiles {ps own : List Path} (h : ownFiles fs ps = .ok own) (hp : p ∈ ps) :
    ∃ isFile, fs.isFile p = .ok isFile := by
  induction ps generalizing own with
  | nil => cases hp
  | cons q rest ih =>
      rw [ownFiles] at h
      split at h
      · cases h
      · next isFile hfile =>
          rcases List.mem_cons.mp hp with rfl | hp
          · exact ⟨isFile, hfile⟩
          · cases hrest : ownFiles fs rest with
            | error fault =>
                rw [hrest] at h
                cases h
            | ok others => exact ih hrest hp

/-- Only a link cannot be looked at in a tree. -/
theorem link_of_isFile {fault : FileFault} (h : Tree fs) (hp : fs.entry? p = some e)
    (hfault : fs.isFile p = .error fault) : ∃ target, e = .link target := by
  cases hlink : e.isLink with
  | false =>
      rw [h.isFile hp hlink] at hfault
      cases hfault
  | true =>
      cases e with
      | link target => exact ⟨target, rfl⟩
      | _ => cases hlink

/-- What both searches find. -/
def searches (ws : Workspace) (fs : FileSystem) (extension : List Char) : List Path :=
  let find (ending : List Char) :=
    fs.select [.anyDepth, .matching (.ofText ('*' :: ending))] ws.root
  find (Text.toSmall extension) ++ find (Text.toCapital extension)

theorem mem_searches (h : Tree fs) (hroot : fs.entry? ws.root = some .directory)
    (hextension : Text.Literal extension) :
    p ∈ searches ws fs extension ↔ Matching ws fs extension p := by
  rw [searches, List.mem_append, mem_search_ending h (Text.literal_toSmall hextension) hroot,
    mem_search_ending h (Text.literal_toCapital hextension) hroot]
  constructor
  · rintro (⟨steps, rfl, hne, ⟨e, he⟩, hends⟩ | ⟨steps, rfl, hne, ⟨e, he⟩, hends⟩)
    · exact ⟨⟨⟨steps, rfl⟩, by simpa using hne⟩, ⟨e, he⟩, fun q hq => h.above he hq,
        Or.inl hends⟩
    · exact ⟨⟨⟨steps, rfl⟩, by simpa using hne⟩, ⟨e, he⟩, fun q hq => h.above he hq,
        Or.inr hends⟩
  · rintro ⟨⟨⟨steps, rfl⟩, hne⟩, hpresent, -, hends⟩
    have hsteps : steps ≠ [] := by simpa using hne
    exact hends.imp (fun hends => ⟨steps, rfl, hsteps, hpresent, hends⟩)
      (fun hends => ⟨steps, rfl, hsteps, hpresent, hends⟩)

theorem discover_eq (h : Tree fs) (hroot : fs.entry? ws.root = some .directory)
    (hextension : Text.Literal extension) (maxDepth : Int) :
    ws.discover fs extension maxDepth =
      match ownFiles fs (searches ws fs extension) with
      | .error fault => .error (.file fault)
      | .ok found => .ok ((ascending found).filter fun p =>
          ((p.length : Int) - ws.root.length ≤ maxDepth)) := by
  have hdirectory : fs.leadsToDirectory ws.root = true := by
    rw [leadsToDirectory, h.stat hroot rfl]
    rfl
  have hsmall := search_ending (Text.literal_toSmall hextension) hdirectory
  have hcapital := search_ending (Text.literal_toCapital hextension) hdirectory
  cases hown : ownFiles fs (searches ws fs extension) with
  | error fault =>
      rw [searches] at hown
      simp only [discover, hsmall, hcapital, hown]
  | ok found =>
      rw [searches] at hown
      simp only [discover, hsmall, hcapital, hown]

/-- The files among what the searches find are the ones that stand there themselves. -/
theorem ownFile_iff (h : Tree fs) (hp : fs.entry? p = some e) :
    fs.isFile p = .ok true ∧ fs.isLink p = false ↔ ∃ bytes time, e = .file bytes time := by
  rw [h.isLink hp]
  cases e with
  | file bytes time => simp [h.isFile hp rfl, Entry.isFile, Entry.isLink]
  | directory => simp [h.isFile hp rfl, Entry.isFile]
  | closed => simp [h.isFile hp rfl, Entry.isFile]
  | link target => simp [Entry.isLink]

/-! ## What is reported -/

theorem shown_of_below (hf : f = ws.root ++ steps) (hne : steps ≠ []) :
    ws.shown f = .ok (joined steps) := by
  have hempty : steps.isEmpty = false := by simpa using hne
  rw [shown, hf, below_append]
  simp [WrittenPath.text, hempty]

/-- A file of a tree is found again by the path that is shown of it. -/
theorem locate_of_file (h : Tree fs) (hf : fs.entry? f = some e) (hlink : e.isLink = false)
    (hbelow : f = ws.root ++ steps) (hne : steps ≠ []) :
    ws.locate fs (joined steps) = .ok f := by
  obtain ⟨hspelled, hup⟩ := h.named.path hf
  have hdown : Down ws.root f :=
    ⟨steps, hbelow, fun n hn => hspelled n (by rw [hbelow]; exact List.mem_append_right _ hn)⟩
  have hnames : f.all nameable = true := by
    simpa [nameable] using h.nameable_path hf
  have hloop : fs.isLoop f = false := by
    rw [isLoop, h.stat hf hlink]
  rw [locate_of_shown hdown (shown_of_below hbelow hne), settled,
    resolve_of_stands (h.stands hf hlink) hup]
  simp [hnames, hloop]

/-- A repair that does not write reports on each file of a tree and leaves all files alone. -/
theorem process_of_file (h : Tree fs) (hf : fs.entry? f = some e) (hlink : e.isLink = false)
    (hbelow : f = ws.root ++ steps) (hne : steps ≠ []) (hmode : r.mode = .fix)
    (hwrite : r.write = false) :
    ∃ report, ws.process fs (joined steps) r = (.ok report, fs) ∧
      report.path = joined steps := by
  have hplace := locate_of_file h hf hlink hbelow hne
  rcases hrun : ws.process fs (joined steps) r with ⟨result, after⟩
  cases course_of_process hrun with
  | astray stop locate =>
      rw [hplace] at locate
      cases locate
  | unseen place fault locate isFile =>
      rw [hplace] at locate
      cases locate
      rw [h.isFile hf hlink] at isFile
      cases isFile
  | unread place failure locate load => exact ⟨_, rfl, rfl⟩
  | aborted place text abort locate load apply =>
      rcases reason_of_apply apply with ⟨hnot, -⟩ | ⟨hformat, -⟩
      · exact absurd hmode hnot
      · rw [hmode] at hformat
        cases hformat
  | kept place text outcome locate load apply undue => exact ⟨_, rfl, rfl⟩
  | saved place directory q bytes time text outcome result after locate load apply due
      file save =>
      exact absurd due (isDue_of_idle (Or.inl hwrite) locate load apply)

/-- A file that a scan works on, and the report on it. -/
def ReportOf (ws : Workspace) (fs : FileSystem) (r : Request) (f : Path)
    (report : FileReport) : Prop :=
  ∃ steps, f = ws.root ++ steps ∧ report.path = joined steps ∧
    ws.process fs (joined steps) r = (.ok report, fs)

/-- Work that reports on each file of a list goes through the whole list, with a call behind
each. -/
theorem forEach_reports {ps : List Path} (total : Nat) (calls : List (Nat × Nat))
    (h : ∀ f ∈ ps, ∃ path report, ws.shown f = .ok path ∧
      ws.process fs path r = (.ok report, fs) ∧ ReportOf ws fs r f report) :
    ∃ reports, List.Forall₂ (ReportOf ws fs r) ps reports ∧
      ws.forEach (telling total fun fs path => ws.process fs path r) (fs, calls) ps =
        ⟨reports, none, fs,
          calls ++ (List.range ps.length).map fun k => (calls.length + k + 1, total)⟩ := by
  induction ps generalizing calls with
  | nil => exact ⟨[], List.Forall₂.nil, by simp [forEach]⟩
  | cons f rest ih =>
      obtain ⟨⟨path, report, hshown, hrun, hreport⟩, hrest⟩ := List.forall_mem_cons.mp h
      obtain ⟨reports, hreports, hend⟩ := ih (calls ++ [(calls.length + 1, total)]) hrest
      refine ⟨report :: reports, List.Forall₂.cons hreport hreports, ?_⟩
      simp only [forEach, hshown, telling, hrun, hend]
      simp [List.range_succ_eq_map, Nat.add_assoc, Nat.add_comm 1]

/-- A scan that repairs files of a tree without writing has a report on each of them. -/
theorem scanTelling_files (h : Tree fs) (force : Bool) {found : List Path}
    (hfound : ∀ f ∈ found, Matching ws fs extension f ∧
      ∃ bytes time, fs.entry? f = some (.file bytes time)) :
    ∃ reports, List.Forall₂ (ReportOf ws fs { mode := .fix, force }) found reports ∧
      ws.scanTelling fs { mode := .fix, force } found =
        ⟨reports, none, fs, (List.range found.length).map fun k => (k + 1, found.length)⟩ := by
  have hreport : ∀ f ∈ found, ∃ path report, ws.shown f = .ok path ∧
      ws.process fs path { mode := .fix, force } = (.ok report, fs) ∧
      ReportOf ws fs { mode := .fix, force } f report := by
    intro f hf
    obtain ⟨⟨⟨⟨steps, hbelow⟩, hstrict⟩, -⟩, bytes, time, hfile⟩ := hfound f hf
    have hne : steps ≠ [] := by
      rintro rfl
      exact hstrict (by simp [← hbelow])
    obtain ⟨report, hrun, hpath⟩ := process_of_file (r := { mode := .fix, force }) h hfile rfl
      hbelow.symm hne rfl rfl
    exact ⟨joined steps, report, shown_of_below hbelow.symm hne, hrun, steps, hbelow.symm,
      hpath, hrun⟩
  obtain ⟨reports, hreports, hscan⟩ := forEach_reports found.length [] hreport
  refine ⟨reports, hreports, ?_⟩
  rw [scanTelling, hscan]
  simp

/-- **What a workspace discovers, and what a scan of it reports.**  In a tree a search for an
extension ends with a fault exactly when there is a link with such a name that leads to a name
that is too long.  Otherwise it finds exactly the files below the workspace, reached through
directories, with such a name, not deeper than asked for, each once and in order.  A scan that
repairs them without writing has a report on each, in this order, tells behind each how many are
done, and leaves all files as they are. -/
theorem discover_and_scan (ws : Workspace) (fs : FileSystem) (extension : List Char)
    (maxDepth : Int) (force : Bool) (h : Tree fs) (hroot : fs.entry? ws.root = some .directory)
    (hextension : Text.Literal extension) :
    (∃ p target fault, Matching ws fs extension p ∧ fs.entry? p = some (.link target) ∧
      fs.isFile p = .error fault ∧ fault.cause = .nameTooLong ∧
      ws.discover fs extension maxDepth = .error (.file fault)) ∨
    (∀ p, Matching ws fs extension p → ∃ isFile, fs.isFile p = .ok isFile) ∧
      ∃ found, ws.discover fs extension maxDepth = .ok found ∧
        (∀ f, f ∈ found ↔ Matching ws fs extension f ∧
          (∃ bytes time, fs.entry? f = some (.file bytes time)) ∧
          (f.length : Int) - ws.root.length ≤ maxDepth) ∧
        found.Pairwise (pathBefore · ·) ∧
        ∃ reports, List.Forall₂ (ReportOf ws fs { mode := .fix, force }) found reports ∧
          ws.scanTelling fs { mode := .fix, force } found =
            ⟨reports, none, fs,
              (List.range found.length).map fun k => (k + 1, found.length)⟩ := by
  rw [discover_eq h hroot hextension]
  cases hown : ownFiles fs (searches ws fs extension) with
  | error fault =>
      obtain ⟨p, hp, hfault⟩ := ownFiles_error hown
      have hmatching := (mem_searches h hroot hextension).mp hp
      obtain ⟨e, he⟩ := hmatching.present
      obtain ⟨target, rfl⟩ := link_of_isFile h he hfault
      exact Or.inl ⟨p, target, fault, hmatching, he, hfault,
        h.allOpen.cause_of_isFile hfault, rfl⟩
  | ok own =>
      have hfound (f : Path) : f ∈ (ascending own).filter (fun p =>
          (p.length : Int) - ws.root.length ≤ maxDepth) ↔ Matching ws fs extension f ∧
            (∃ bytes time, fs.entry? f = some (.file bytes time)) ∧
            (f.length : Int) - ws.root.length ≤ maxDepth := by
        rw [List.mem_filter, mem_ascending, mem_ownFiles hown, mem_searches h hroot hextension,
          decide_eq_true_eq, and_assoc]
        refine and_congr_right fun hmatching => and_congr_left' ?_
        obtain ⟨e, he⟩ := hmatching.present
        rw [ownFile_iff h he, he]
        simp
      refine Or.inr
        ⟨fun p hp => isFile_of_ownFiles hown ((mem_searches h hroot hextension).mpr hp),
        _, rfl, hfound, (pairwise_ascending own).filter _, ?_⟩
      exact scanTelling_files h force fun f hf => ⟨((hfound f).mp hf).1, ((hfound f).mp hf).2.1⟩

/-- A workspace with files at two depths, a directory that is named like a file, and links to a
file and to the directory around it. -/
def mixedTree : FileSystem where
  entries := [(["w".toList], .directory),
    (["w".toList, "b.YAML".toList], .file (Text.Utf8.encode "b: 1\n".toList) 0),
    (["w".toList, "d.yaml".toList], .directory),
    (["w".toList, "d.yaml".toList, "a.yaml".toList], .file [] 0),
    (["w".toList, "l.yaml".toList], .link "b.YAML".toList),
    (["w".toList, "up".toList], .link "..".toList)]
  now := 1

theorem tree_mixed : Tree mixedTree where
  named := by decide +kernel
  opened := by decide
  inDirectory := by decide +kernel
  fits := by decide +kernel
  nameable := by decide +kernel

/-- Of the mixed tree the two files are discovered, and a scan reports on both. -/
theorem discover_and_scan_mixed :
    let ws : Workspace := { root := ["w".toList] }
    let found : List Path :=
      [["w".toList, "b.YAML".toList], ["w".toList, "d.yaml".toList, "a.yaml".toList]]
    Tree mixedTree ∧ mixedTree.entry? ws.root = some .directory ∧
      Text.Literal ".yaml".toList ∧
      ws.discover mixedTree ".yaml".toList 2 = .ok found ∧
      ∃ reports, List.Forall₂ (ReportOf ws mixedTree { mode := .fix }) found reports ∧
        ws.scanTelling mixedTree { mode := .fix } found =
          ⟨reports, none, mixedTree, [(1, 2), (2, 2)]⟩ := by
  intro ws found
  have hroot : mixedTree.entry? ws.root = some .directory := by decide +kernel
  have hextension : Text.Literal ".yaml".toList := by decide +kernel
  have hdiscover : ws.discover mixedTree ".yaml".toList 2 = .ok found := by decide +kernel
  rcases discover_and_scan ws mixedTree ".yaml".toList 2 false tree_mixed hroot hextension with
    ⟨p, target, fault, -, -, -, -, herror⟩ | ⟨-, others, hothers, -, -, reports,
      hreports, hscan⟩
  · rw [hdiscover] at herror
    cases herror
  · rw [hdiscover] at hothers
    cases hothers
    exact ⟨tree_mixed, hroot, hextension, hdiscover, reports, hreports, hscan⟩

/-- A link that leads to a name that is too long keeps a workspace from discovering the file beside
it. -/
theorem files_not_discovered :
    let ws : Workspace := { root := ["w".toList] }
    let beside : List (Path × Entry) :=
      [(["w".toList], .directory), (["w".toList, "a.yaml".toList], .file [] 0)]
    let link : Path × Entry := (["w".toList, "x.yaml".toList], .link (List.replicate 256 'b'))
    ws.discover ⟨beside, 1⟩ ".yaml".toList 10 = .ok [["w".toList, "a.yaml".toList]] ∧
      ws.discover ⟨link :: beside, 1⟩ ".yaml".toList 10 =
        .error (.file ⟨.nameTooLong, ["w".toList, "x.yaml".toList]⟩) := by
  decide +kernel

end Workspace
end YamlTidy
