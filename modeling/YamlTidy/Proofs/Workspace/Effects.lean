import YamlTidy.Proofs.Workspace.Endings
import YamlTidy.Proofs.Workspace.Sequels

/-!
# What work on a file touches

Without links a path leads to the place that its names give, whatever else there is
(`locate_of_linkless`).  So the places that saving a text touches are known (`Touched`): that of the
file, that of its backup, where nothing stood, and that of the temporary file, which is empty once a
text was moved over the file.  A file that stood there is lost with it (`neighbour_lost`).

Main statement: `touched_by_process`.
-/

namespace YamlTidy
namespace Files

namespace FileSystem

variable {fs : FileSystem} {p q place directory : Path} {names : List Name} {bytes : List UInt8}
  {time : Int}

/-! ## Paths without links -/

/-- A walk by names ends where the names say, or it fails for another reason than links. -/
theorem Linkless.walk (h : Linkless fs) (honto : ∀ n ∈ names, Onto n) (depth : Nat)
    (here : Path) :
    walk fs (follow fs depth) here names = .ok (here ++ names) ∨
      ∃ cause, walk fs (follow fs depth) here names = .error cause ∧
        cause ≠ .tooManyLinks := by
  induction names generalizing here with
  | nil => exact Or.inl (by rw [walk_nil, List.append_nil])
  | cons n rest ih =>
      obtain ⟨hn, hrest⟩ := List.forall_mem_cons.mp honto
      rw [walk_cons]
      split
      · exact Or.inr ⟨.missing, rfl, nofun⟩
      · rw [if_neg hn.1, if_neg hn.2, leads_of_not_link (h _)]
        split
        · exact Or.inr ⟨.nameTooLong, rfl, nofun⟩
        · simpa using ih hrest (here ++ [n])
      · exact Or.inr ⟨.denied, rfl, nofun⟩
      · exact Or.inr ⟨.notDirectory, rfl, nofun⟩

theorem Linkless.locate (h : Linkless fs) (honto : ∀ n ∈ p, Onto n) :
    fs.locate p = .ok p ∨ ∃ f, fs.locate p = .error f ∧ f.cause ≠ .tooManyLinks := by
  unfold FileSystem.locate
  split
  · exact Or.inr ⟨_, rfl, nofun⟩
  · rcases h.walk honto deepestLink [] with hok | ⟨cause, herror, hcause⟩
    · exact Or.inl (by rw [hok]; rfl)
    · exact Or.inr ⟨⟨cause, p⟩, by rw [herror]; rfl, hcause⟩

theorem Linkless.locate_eq (h : Linkless fs) (honto : ∀ n ∈ p, Onto n)
    (hq : fs.locate p = .ok q) :
    q = p := by
  rcases h.locate honto with hok | ⟨f, herror, -⟩
  · rw [hok] at hq
    exact (Except.ok.inj hq).symm
  · rw [herror] at hq
    cases hq

theorem Linkless.isLoop_eq_false (h : Linkless fs) (honto : ∀ n ∈ p, Onto n) :
    fs.isLoop p = false := by
  unfold isLoop stat
  rcases h.locate honto with hok | ⟨⟨cause, path⟩, herror, hcause⟩
  · rw [hok]
    dsimp only
    cases fs.entry? p <;> rfl
  · rw [herror]
    cases cause <;> first | rfl | exact absurd rfl hcause

/-- A path resolves to itself without its steps up. -/
theorem Linkless.resolve_eq (h : Linkless fs) (p : Path) : fs.resolve p = p.straight := by
  have hsteps (done : List Name) :
      resolveFrom fs (resolveLink fs (fs.entries.length + 1)) [] done.reverse p =
        ((p.foldl (fun done n => if n = up then done.drop 1 else n :: done) done).reverse,
          true) := by
    induction p generalizing done with
    | nil => rfl
    | cons n rest ih =>
        rw [List.foldl_cons]
        by_cases hn : n = up
        · rw [hn, resolveFrom_up, if_pos rfl, List.dropLast_reverse, ← List.drop_one]
          exact ih _
        · rw [resolveFrom_of_not_link hn (h _), if_neg hn, ← List.reverse_cons]
          exact ih _
  rw [resolve, show ([] : Path) = ([] : List Name).reverse from rfl, hsteps []]
  exact straight_of_noUp (up_notMem_straight p)

/-- A file stands at its path. -/
theorem FileAt.eq_of_linkless (h : FileAt fs place directory q bytes time) (hlinks : Linkless fs)
    (honto : ∀ n ∈ place, Onto n) : directory = place.parent ∧ q = place := by
  refine ⟨?_, hlinks.locate_eq honto h.locate⟩
  have honto' : ∀ n ∈ place.parent, Onto n := fun n hn => honto n (List.dropLast_subset _ hn)
  rcases hlinks.walk honto' deepestLink [] with hok | ⟨cause, herror, -⟩
  · rw [h.enters.1] at hok
    exact Except.ok.inj hok
  · rw [h.enters.1] at herror
    cases herror

end FileSystem
end Files

namespace Workspace

open Files FileSystem

variable {ws : Workspace} {fs after : FileSystem} {place : Path} {path : List Char}
  {bytes : List UInt8} {time : Int} {text : List Char} {r : Request}
  {done : Except FileFault Unit}

/-- A place that a path can lead to without links. -/
structure Plain (place : Path) : Prop where
  spelled : Spelled place
  onto : ∀ n ∈ place, Onto n

theorem plain_wanted (hroot : Spelled ws.root) (path : List Char) :
    Plain (wanted ws path).straight := by
  have hspelled : Spelled (wanted ws path).straight :=
    (spelled_fromDirectory hroot path).straight
  exact ⟨hspelled,
    fun n hn => ⟨fun heq => up_notMem_straight _ (heq ▸ hn), (hspelled n hn).ne_stay⟩⟩

/-- Without links the place of a file follows from the names in its path. -/
theorem locate_of_linkless (hlinks : Linkless fs) (hroot : Spelled ws.root) (path : List Char) :
    ws.locate fs path =
      if (wanted ws path).all nameable then .ok (wanted ws path).straight
      else .error .unnameable := by
  have hloop := hlinks.isLoop_eq_false (plain_wanted hroot path).onto
  change settled fs (wanted ws path) = _
  simp only [settled, hlinks.resolve_eq, hloop]
  cases (wanted ws path).all nameable <;> rfl

theorem plain_of_locate (hlinks : Linkless fs) (hroot : Spelled ws.root)
    (h : ws.locate fs path = .ok place) : Plain place := by
  rw [locate_of_linkless hlinks hroot] at h
  split at h
  · cases h
    exact plain_wanted hroot path
  · cases h

/-! ## Places beside a file -/

theorem name_withName (place : Path) (n : Name) : (place.withName n).name = n := by
  rw [Path.name, Path.withName, List.getLast?_concat]
  rfl

theorem backupSuffix_name_backupPath (place : Path) (k : Nat) :
    backupSuffix <:+ (backupPath place k).name := by
  obtain ⟨s, hs⟩ := exists_backupName_eq place.name k
  rw [backupPath, name_withName, hs]
  exact List.suffix_append s backupSuffix

theorem temporaryPath_ne_backupPath (place : Path) (k : Nat) :
    temporaryPath place ≠ backupPath place k := by
  intro heq
  have hnames := congrArg Path.name heq
  rw [temporaryPath, backupPath, name_withName, name_withName] at hnames
  exact temporaryName_ne_backupName place.name place.name k hnames

theorem temporaryPath_ne (place : Path) : temporaryPath place ≠ place := by
  intro heq
  have hnames := congrArg Path.name heq
  rw [temporaryPath, name_withName] at hnames
  have hsuffix : temporarySuffix = [] :=
    List.append_cancel_left (hnames.trans (List.append_nil place.name).symm)
  exact absurd hsuffix (by decide)

/-! ## Saving a text -/

/-- What saving a text over a file touches where there are no links. -/
structure Touched (fs after : FileSystem) (place backup : Path) (written : Bool) : Prop where
  /-- There is a file to write over. -/
  file : ∃ bytes time, fs.entry? place = some (.file bytes time)
  /-- Nothing stood where the backup goes. -/
  fresh : fs.entry? backup = none
  /-- The backup is what the file was. -/
  copied : after.entry? backup = fs.entry? place
  target : if written then ∃ bytes, after.entry? place = some (.file bytes fs.now)
    else after.entry? place = fs.entry? place
  /-- What stood where the temporary file goes was no directory, and it is gone. -/
  temporary : if written then
      fs.entry? (temporaryPath place) ≠ some .directory ∧
        after.entry? (temporaryPath place) = none
    else after.entry? (temporaryPath place) = fs.entry? (temporaryPath place)
  others : ∀ x, x ≠ place → x ≠ backup → x ≠ temporaryPath place →
    after.entry? x = fs.entry? x

/-- A backup alone. -/
theorem touched_of_put (hfile : fs.entry? place = some (.file bytes time)) {k : Nat}
    (hfresh : fs.entry? (backupPath place k) = none) :
    Touched fs (fs.put (backupPath place k) (.file bytes time)) place (backupPath place k)
      false where
  file := ⟨bytes, time, hfile⟩
  fresh := hfresh
  copied := by rw [entry_put_self (ne_nil_of_none hfresh), hfile]
  target := entry_put_of_ne fun heq => by simp [← heq, hfile] at hfresh
  temporary := entry_put_of_ne (temporaryPath_ne_backupPath place k)
  others x hplace hbackup htemporary := entry_put_of_ne hbackup

/-- A backup, and a text that is moved over the file behind it. -/
theorem touched_of_move (hfile : fs.entry? place = some (.file bytes time)) {k : Nat}
    (hfresh : fs.entry? (backupPath place k) = none)
    (hlinks : Linkless fs) (hnamed : place = place.parent ++ [place.name])
    (h : Replaced (fs.put (backupPath place k) (.file bytes time)) place place.parent text done
      after) :
    Touched fs after place (backupPath place k) done.isOk := by
  have hnil := ne_nil_of_none hfresh
  have hplace : place ≠ backupPath place k := fun heq => by simp [← heq, hfile] at hfresh
  have htemporary := temporaryPath_ne_backupPath place k
  rcases h.entry_of_linkless (hlinks.put hnil bytes time) with
    ⟨rfl, hroom, -, hentry⟩ | ⟨⟨fault, rfl⟩, rfl⟩
  · have hpath : place.parent ++ [temporaryName place] = temporaryPath place := rfl
    rw [hpath, entry_put_of_ne htemporary] at hroom
    rw [hpath, ← hnamed] at hentry
    refine ⟨⟨bytes, time, hfile⟩, hfresh, ?_, ⟨Text.Utf8.encode text, ?_⟩,
      ⟨hroom, ?_⟩, ?_⟩
    · rw [hentry, if_neg hplace.symm, if_neg htemporary.symm, entry_put_self hnil, hfile]
    · rw [hentry, if_pos rfl]
      rfl
    · rw [hentry, if_neg (temporaryPath_ne place), if_pos rfl]
    · intro x hx hbackup htemp
      rw [hentry, if_neg hx, if_neg htemp, entry_put_of_ne hbackup]
  · exact touched_of_put hfile hfresh

/-! ## Work on a file -/

/-- What work on a file comes to where there are no links. -/
inductive Effect (ws : Workspace) (fs : FileSystem) (path : List Char) :
    Except Stop FileReport → FileSystem → Prop where
  /-- Nothing is saved. -/
  | idle (result : Except Stop FileReport)
      (quiet : ∀ report, result = .ok report →
        report.written = false ∧ report.backup = none ∧
          ∃ place, ws.locate fs path = .ok place) :
      Effect ws fs path result fs
  /-- The backup is made, but it is not in the workspace. -/
  | outside (place : Path) (k : Nat) (stop : Stop) (after : FileSystem)
      (locate : ws.locate fs path = .ok place)
      (touched : Touched fs after place (backupPath place k) false) :
      Effect ws fs path (.error stop) after
  /-- The backup is made and reported. -/
  | saved (place : Path) (k : Nat) (steps : List Name) (report : FileReport) (after : FileSystem)
      (locate : ws.locate fs path = .ok place) (below : backupPath place k = ws.root ++ steps)
      (named : report.backup = some (joined steps))
      (touched : Touched fs after place (backupPath place k) report.written) :
      Effect ws fs path (.ok report) after

theorem written_eq_isOk {p : Processed} (hp : p.written = false) (done : Except FileFault Unit) :
    (finished p done).written = done.isOk := by
  cases done with
  | ok u => rfl
  | error fault => exact hp

theorem effect_of_saved {directory q : Path} {p : Processed} {result : Except Stop FileReport}
    (hlinks : Linkless fs) (hplace : Plain place) (hlocate : ws.locate fs path = .ok place)
    (hfile : FileAt fs place directory q bytes time) (hp : p.written = false)
    (h : Saved ws fs place p result after) : Effect ws fs path result after := by
  obtain ⟨rfl, rfl⟩ := hfile.eq_of_linkless hlinks hplace.onto
  have hcopied {k : Nat} {copied : FileSystem} (hfirst : FirstFree fs q k)
      (hcopy : fs.copy q (backupPath q k) = .ok copied) :
      fs.entry? (backupPath q k) = none ∧
        copied = fs.put (backupPath q k) (.file bytes time) := by
    have honto : ∀ n ∈ backupPath q k, Onto n := List.forall_mem_append.mpr
      ⟨fun n hn => hplace.onto n (List.dropLast_subset _ hn),
        List.forall_mem_singleton.mpr (onto_backupName _ k)⟩
    obtain ⟨b, hb, hnone, hput⟩ := hfirst.copied_eq hfile hcopy
    obtain rfl := hlinks.locate_eq honto hb
    exact ⟨hnone, hput⟩
  cases h with
  | unnamed k fault present => exact .idle _ nofun
  | outside k copied first copy below =>
      obtain ⟨hfresh, rfl⟩ := hcopied first copy
      exact .outside q k _ _ hlocate (touched_of_put hfile.file hfresh)
  | warned k fault done after first copy move =>
      obtain ⟨-, own, target, -, hlink⟩ := link_of_uncopied hfile.read first.free copy
      exact absurd hlink (hlinks own target)
  | copied k copied steps done after first copy below move =>
      have hmove := replaced_of_move (first.fileAt_of_copy hfile copy) move
      obtain ⟨hfresh, rfl⟩ := hcopied first copy
      refine .saved q k steps _ after hlocate below ?_ ?_
      · cases done <;> rfl
      · rw [FileReport.written, written_eq_isOk (by exact hp)]
        exact touched_of_move hfile.file hfresh hlinks hfile.named hmove

/-- Work on a file comes to one of these. -/
theorem effect_of_process {result : Except Stop FileReport} (hlinks : Linkless fs)
    (hroot : Spelled ws.root) (h : ws.process fs path r = (result, after)) :
    Effect ws fs path result after := by
  cases course_of_process h with
  | astray stop locate => exact .idle _ nofun
  | unseen place fault locate isFile => exact .idle _ nofun
  | unread place failure locate load =>
      refine .idle _ fun report hreport => ?_
      cases hreport
      exact ⟨rfl, rfl, place, locate⟩
  | aborted place text abort locate load apply => exact .idle _ nofun
  | kept place text outcome locate load apply undue =>
      refine .idle _ fun report hreport => ?_
      cases hreport
      exact ⟨rfl, rfl, place, locate⟩
  | saved place directory q bytes time text outcome result after locate load apply due
      file save =>
      exact effect_of_saved hlinks (plain_of_locate hlinks hroot locate) locate file rfl save

/-- **What work on a file touches.**  In a file system without links, a report names the backup
that is new, if there is one, and it holds what the file held.  When the report does not say that
the file was written, all other places are as they were.  When it does, the file is another one,
and the place of the temporary file is empty: what stood there is lost. -/
theorem touched_by_process {report : FileReport} (hlinks : Linkless fs) (hroot : Spelled ws.root)
    (h : ws.process fs path r = (.ok report, after)) :
    ∃ place, ∃ steps : Option (List Name), ws.locate fs path = .ok place ∧
      report.backup = steps.map joined ∧
      (∀ below ∈ steps, fs.entry? (ws.root ++ below) = none ∧
        after.entry? (ws.root ++ below) = fs.entry? place) ∧
      (report.written = false →
        ∀ x, (∀ below ∈ steps, x ≠ ws.root ++ below) → after.entry? x = fs.entry? x) ∧
      (report.written = true → fs.entry? (temporaryPath place) ≠ some .directory ∧
        after.entry? (temporaryPath place) = none ∧
        ∀ x, x ≠ place → x ≠ temporaryPath place →
          (∀ below ∈ steps, x ≠ ws.root ++ below) →
          after.entry? x = fs.entry? x) := by
  generalize hresult : (Except.ok report : Except Stop FileReport) = result at h
  cases effect_of_process hlinks hroot h with
  | idle result quiet =>
      obtain ⟨hwritten, hbackup, place, hplace⟩ := quiet report hresult.symm
      refine ⟨place, none, hplace, hbackup, nofun, fun _ x _ => rfl, fun hw => ?_⟩
      rw [hwritten] at hw
      cases hw
  | outside place k stop after locate touched => cases hresult
  | saved place k steps report after locate below named touched =>
      cases hresult
      rw [below] at touched
      refine ⟨place, some steps, locate, named, ?_, fun hw x hx => ?_, fun hw => ?_⟩
      · rintro _ ⟨⟩
        exact ⟨touched.fresh, touched.copied⟩
      · rw [hw] at touched
        by_cases hplace : x = place
        · exact hplace ▸ touched.target
        · by_cases htemporary : x = temporaryPath place
          · exact htemporary ▸ touched.temporary
          · exact touched.others x hplace (hx steps rfl) htemporary
      · rw [hw] at touched
        obtain ⟨hroom, hempty⟩ := touched.temporary
        exact ⟨hroom, hempty, fun x hplace htemporary hx =>
          touched.others x hplace (hx steps rfl) htemporary⟩

/-- A file that ends in a blank is repaired: its backup is new, and all else is as it was. -/
theorem touched_by_repair_of_spaced :
    let ws : Workspace := { root := ["w".toList] }
    let other : Path := ["w".toList, "b".toList]
    let fs := spacedFile [(other, .file [] 0)]
    let done := repairSpaced [(other, .file [] 0)]
    Linkless fs ∧ Spelled ws.root ∧ done = (.ok (.processed spacedReport), done.2) ∧
      ∃ place, ∃ steps : Option (List Name), ws.locate fs "a".toList = .ok place ∧
        (FileReport.processed spacedReport).backup = steps.map joined ∧
        (∀ below ∈ steps, fs.entry? (ws.root ++ below) = none ∧
          entry? done.2 (ws.root ++ below) = fs.entry? place) ∧
        entry? done.2 (temporaryPath place) = none ∧ entry? done.2 other = fs.entry? other := by
  intro ws other fs done
  have hlinks : Linkless fs := linkless_of_entries (by decide)
  have hroot : Spelled ws.root := by decide
  have hrun : done = (.ok (.processed spacedReport), done.2) := by decide +kernel
  obtain ⟨place, steps, hplace, hbackup, hnew, -, hwritten⟩ :=
    touched_by_process hlinks hroot hrun
  obtain ⟨-, hempty, hothers⟩ := hwritten rfl
  have hlocate : ws.locate fs "a".toList = .ok ["w".toList, "a".toList] := by decide +kernel
  rw [hlocate] at hplace
  cases hplace
  refine ⟨hlinks, hroot, hrun, _, steps, hlocate, hbackup, hnew, hempty, ?_⟩
  refine hothers other (by decide) (by decide) fun below hbelow heq => ?_
  have hnone := (hnew below hbelow).1
  rw [← heq] at hnone
  exact absurd hnone (by decide)

/-- A file at the name of the temporary file is lost when the file beside it is repaired: it is
neither the file nor the backup that the report names. -/
theorem neighbour_lost :
    let file : Path := ["w".toList, "a".toList]
    let neighbour := temporaryPath file
    let others : List (Path × Entry) := [(neighbour, .file (Text.Utf8.encode "keep\n".toList) 0)]
    let done := repairSpaced others
    Linkless (spacedFile others) ∧ done.1 = .ok (.processed spacedReport) ∧
      neighbour ≠ file ∧
      (FileReport.processed spacedReport).backup = some "a.yamlmend.backup".toList ∧
      neighbour ≠ ["w".toList, "a.yamlmend.backup".toList] ∧
      (spacedFile others).read neighbour = .ok (Text.Utf8.encode "keep\n".toList) ∧
      done.2.isPresent neighbour = .ok false := by
  intro file neighbour others done
  have hlinks : Linkless (spacedFile others) := linkless_of_entries (by decide)
  exact ⟨hlinks, by decide +kernel⟩

end Workspace
end YamlTidy
