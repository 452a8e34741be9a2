import YamlTidy.Proofs.Files.Walks
import YamlTidy.Workspace
import Mathlib.Data.List.Nodup
import Mathlib.Data.List.Perm.Subperm

/-!
# Backups of files that are written

Before a file is written its bytes are copied to the first backup name whose path leads to nothing.
There is such a name, as each one that is taken has an entry of its own (`firstFree_of_freeBackup`).
The text that came out then goes to a temporary file, which is moved over the file.  The copy
outlives both steps as long as the paths of the backup and of the temporary file lead to different
places (`kept_of_copied`), and without links they do (`Secured.recoverable`).

Main statement: `backup_of_written`.
-/

namespace YamlTidy
namespace Workspace

open Files FileSystem

variable {ws : Workspace} {fs after : FileSystem} {place : Path}

/-- The path of a file's backup with number `k`. -/
def backupPath (place : Path) (k : Nat) : Path :=
  place.withName (backupName place.name k)

/-- The path of the file that takes a text before it replaces another file. -/
def temporaryPath (place : Path) : Path :=
  place.withName (place.name ++ temporarySuffix)

/-! ## The first free name -/

theorem eq_of_decimal_eq {n n' : Nat} (h : decimal n = decimal n') : n = n' := by
  have hread (m : Nat) : Nat.ofDigitChars 10 (decimal m) 0 = m := by
    change Nat.ofDigitChars 10 m.repr.toList 0 = m
    rw [Nat.toList_repr, Nat.ofDigitChars_toDigits (by decide) (by decide)]
  rw [← hread n, h, hread n']

theorem backupName_injective (name : Name) : Function.Injective (backupName name) := by
  intro k k' h
  have hlength := congrArg List.length h
  cases k with
  | zero =>
      cases k' with
      | zero => rfl
      | succ k' =>
          simp only [backupName, List.length_append, List.length_cons] at hlength
          omega
  | succ k =>
      cases k' with
      | zero =>
          simp only [backupName, List.length_append, List.length_cons] at hlength
          omega
      | succ k' =>
          have hnumber := List.append_cancel_left (List.append_cancel_right h)
          exact eq_of_decimal_eq (List.cons.inj hnumber).2

theorem exists_backupName_eq (name : Name) (k : Nat) :
    ∃ s, backupName name k = s ++ backupSuffix := by
  cases k with
  | zero => exact ⟨name, rfl⟩
  | succ k => exact ⟨_, rfl⟩

theorem onto_append {suffix : List Char} (h : 2 < suffix.length) (s : List Char) :
    Onto (s ++ suffix) := by
  have hne {n : Name} (hn : n.length ≤ 2) : s ++ suffix ≠ n := by
    rintro rfl
    rw [List.length_append] at hn
    omega
  exact ⟨hne (by decide), hne (by decide)⟩

theorem onto_backupName (name : Name) (k : Nat) : Onto (backupName name k) := by
  obtain ⟨s, hs⟩ := exists_backupName_eq name k
  rw [hs]
  exact onto_append (by decide) s

/-- The name of a temporary file is never that of a backup: the one ends in `mp`, the other in
`up`. -/
theorem temporaryName_ne_backupName (name other : Name) (k : Nat) :
    name ++ temporarySuffix ≠ backupName other k := by
  have hend {suffix : List Char} (h : 2 ≤ suffix.length) (s : List Char) :
      (s ++ suffix).reverse.take 2 = suffix.reverse.take 2 := by
    rw [List.reverse_append, List.take_append_of_le_length (by simpa using h)]
  obtain ⟨s, hs⟩ := exists_backupName_eq other k
  rw [hs]
  intro heq
  have hends : temporarySuffix.reverse.take 2 = backupSuffix.reverse.take 2 := by
    rw [← hend (by decide) name, heq, hend (by decide) s]
  exact absurd hends (by decide)

/-- The first backup name of a place whose path leads to nothing. -/
structure FirstFree (fs : FileSystem) (place : Path) (k : Nat) : Prop where
  taken : ∀ j < k, fs.isPresent (backupPath place j) = .ok true
  free : fs.isPresent (backupPath place k) = .ok false

/-- Not all names are taken: each that is taken has an entry of its own. -/
theorem exists_not_present {directory : Path} (h : Enters fs place.parent directory) :
    ∃ k ≤ fs.entries.length, fs.isPresent (backupPath place k) ≠ .ok true := by
  by_contra! hall
  let names := (List.range (fs.entries.length + 1)).map fun k =>
    directory ++ [backupName place.name k]
  have hnodup : names.Nodup := List.Nodup.map
    (fun k k' heq => backupName_injective _ (by simpa using heq)) List.nodup_range
  have hlisted : names ⊆ fs.entries.map Prod.fst := by
    intro p hp
    obtain ⟨k, hk, rfl⟩ := List.mem_map.mp hp
    obtain ⟨e, he⟩ := exists_entry_of_isPresent h (onto_backupName _ k)
      (hall k (Nat.lt_succ_iff.mp (List.mem_range.mp hk)))
    exact mem_entries (by simp) he
  have hlength := (List.subperm_of_subset hnodup hlisted).length_le
  simp only [names, List.length_map, List.length_range] at hlength
  omega

theorem freeBackup_eq_ok {tries n : Nat} {backup : Path}
    (h : freeBackup fs place tries n = .ok backup) :
    ∃ k, backup = backupPath place k ∧
      (∀ j, n ≤ j → j < k → fs.isPresent (backupPath place j) = .ok true) ∧
      (fs.isPresent backup = .ok false ∨ k = n + tries) := by
  induction tries generalizing n with
  | zero =>
      cases h
      exact ⟨n, rfl, fun j hn hk => absurd hk (Nat.not_lt.mpr hn), .inr rfl⟩
  | succ tries ih =>
      simp only [freeBackup] at h
      split at h
      · cases h
      · next hfree =>
          cases h
          exact ⟨n, rfl, fun j hn hk => absurd hk (Nat.not_lt.mpr hn), .inl hfree⟩
      · next htaken =>
          obtain ⟨k, hk, hbefore, hend⟩ := ih h
          refine ⟨k, hk, fun j hn hj => ?_, hend.imp_right fun heq => by omega⟩
          rcases Nat.eq_or_lt_of_le hn with rfl | hlt
          · exact htaken
          · exact hbefore j hlt hj

/-- The backup of a file that can be read goes to the first free name. -/
theorem firstFree_of_freeBackup {directory backup : Path}
    (hplace : Enters fs place.parent directory)
    (h : freeBackup fs place (fs.entries.length + 1) 0 = .ok backup) :
    ∃ k, backup = backupPath place k ∧ FirstFree fs place k := by
  obtain ⟨k, rfl, hbefore, hend⟩ := freeBackup_eq_ok h
  have hfree : fs.isPresent (backupPath place k) = .ok false := by
    rcases hend with hfree | rfl
    · exact hfree
    · obtain ⟨j, hj, hne⟩ := exists_not_present hplace
      exact absurd (hbefore j (Nat.zero_le j) (by omega)) hne
  exact ⟨k, rfl, fun j hj => hbefore j (Nat.zero_le j) hj, hfree⟩

/-- The own places of a file's path and of the paths beside it are in one directory. -/
theorem enters_of_read {bytes : List UInt8} (h : fs.read place = .ok bytes) :
    ∃ directory, Enters fs place.parent directory := by
  obtain ⟨q, time, hq, hfile⟩ := read_eq_ok.mp h
  obtain ⟨directory, -, -, henters, -⟩ := exists_enters hq (by simp [hfile])
  exact ⟨directory, henters⟩

/-! ## Writing a file -/

section Written

variable {path text : List Char} {bytes : List UInt8} {k : Nat} {backup : Path}
  {p : Processed} {report : FileReport}

theorem replaceText_eq_ok (h : replaceText fs place text = (.ok (), after)) :
    ∃ mid, fs.write (temporaryPath place) (Text.Utf8.encode text) = .ok mid ∧
      mid.replace (temporaryPath place) place = .ok after := by
  unfold replaceText at h
  dsimp only at h
  split at h
  · next fs' hattempt =>
      cases h
      cases hwrite : fs.write (temporaryPath place) (Text.Utf8.encode text) with
      | error f =>
          simp only [temporaryPath] at hwrite
          rw [hwrite] at hattempt
          cases hattempt
      | ok mid =>
          refine ⟨mid, rfl, ?_⟩
          simp only [temporaryPath] at hwrite
          rw [hwrite] at hattempt
          exact hattempt
  · split at h
    · cases h
    · cases h
    · split at h <;> cases h

/-- A text that replaces another file leaves the bytes of a file as they are. -/
theorem read_of_replaceText (h : replaceText fs place text = (.ok (), after))
    (hplace : Apart fs place backup)
    (htemporary : fs.locate (temporaryPath place) ≠ fs.locate backup)
    (hread : fs.read backup = .ok bytes) : after.read backup = .ok bytes := by
  obtain ⟨mid, hwrite, hreplace⟩ := replaceText_eq_ok h
  obtain ⟨q, hq, hentry, -⟩ := writeAt_eq_ok.mp hwrite
  have hapart : Apart fs (temporaryPath place) backup :=
    ⟨q, hq, hentry, fun heq => htemporary (by rw [hq, heq])⟩
  exact read_of_replace hreplace (hapart.of_writeAt hwrite) (hplace.of_writeAt hwrite)
    (read_of_writeAt_of_ne hwrite htemporary.symm hread)

/-- What there is of the old bytes of a file that was written: a copy in the backup with number `k`,
or a warning. -/
inductive Secured (ws : Workspace) (fs after : FileSystem) (place : Path) (bytes : List UInt8)
    (k : Nat) (p : Processed) : Prop where
  /-- The report names the backup, and the backup holds the bytes unless the text that came out went
  through the same place. -/
  | copied (steps : List Name) (below : backupPath place k = ws.root ++ steps)
      (named : p.backup = some (joined steps)) (quiet : p.backupWarning = none)
      (kept : fs.locate (temporaryPath place) ≠ fs.locate (backupPath place k) →
        after.read (backupPath place k) = .ok bytes)
  /-- A link that cannot be followed stands where the backup should go. -/
  | warned (fault : FileFault) (own : Path) (target : List Char)
      (unnamed : p.backup = none)
      (warning : p.backupWarning = some ("Backup failed: ".toList ++ fault.message))
      (unplaced : fs.locate (backupPath place k) = .error fault)
      (standing : fs.own (backupPath place k) = .ok own)
      (link : fs.entry? own = some (.link target))

theorem exists_read_of_load {given : List Char} (h : load fs place = .ok (.ok given)) :
    ∃ bytes, fs.read place = .ok bytes := by
  unfold load at h
  split at h
  · cases h
  · cases h
  · split at h
    · cases h
    · next bytes hread => exact ⟨bytes, hread⟩

theorem copy_eq_writeAt (hread : fs.read place = .ok bytes) (backup : Path) :
    ∃ time, fs.copy place backup = fs.writeAt backup bytes time := by
  rw [copy, hread]
  exact ⟨_, rfl⟩

theorem eq_append_of_below {directory p : Path} {steps : List Name}
    (h : Path.below? directory p = some steps) : p = directory ++ steps := by
  unfold Path.below? at h
  split at h
  · next hprefix =>
      cases h
      obtain ⟨rest, rfl⟩ := List.isPrefixOf_iff_prefix.mp hprefix
      rw [List.drop_left]
  · cases h

/-- A file and its backup are apart as long as there is none. -/
theorem apart_of_free (hread : fs.read place = .ok bytes)
    (hfree : fs.isPresent backup = .ok false) : Apart fs place backup := by
  obtain ⟨q, time, hq, hfile⟩ := read_eq_ok.mp hread
  refine ⟨q, hq, by simp [hfile], fun heq => ?_⟩
  rw [isPresent_eq_true.mpr ⟨q, _, heq, hfile⟩] at hfree
  cases hfree

/-- The copy of a file's bytes outlives the text that replaces them. -/
theorem kept_of_copied {copied : FileSystem} (hread : fs.read place = .ok bytes)
    (hfree : fs.isPresent backup = .ok false) (hcopy : fs.copy place backup = .ok copied)
    (hreplace : replaceText copied place text = (.ok (), after))
    (htemporary : fs.locate (temporaryPath place) ≠ fs.locate backup) :
    after.read backup = .ok bytes := by
  obtain ⟨time, hwrite⟩ := copy_eq_writeAt hread backup
  rw [hcopy, eq_comm] at hwrite
  exact read_of_replaceText hreplace ((apart_of_free hread hfree).of_writeAt hwrite)
    (fun heq => htemporary (locate_eq_of_writeAt hwrite heq)) (read_of_writeAt_self hwrite)

/-- Where no copy can be made a link stands. -/
theorem link_of_uncopied {fault : FileFault} (hread : fs.read place = .ok bytes)
    (hfree : fs.isPresent (backupPath place k) = .ok false)
    (hcopy : fs.copy place (backupPath place k) = .error fault) :
    fs.locate (backupPath place k) = .error fault ∧ ∃ own target,
      fs.own (backupPath place k) = .ok own ∧ fs.entry? own = some (.link target) := by
  obtain ⟨time, hwrite⟩ := copy_eq_writeAt hread (backupPath place k)
  rw [hcopy, eq_comm] at hwrite
  have hlocate := locate_eq_error_of_writeAt hwrite hfree
  obtain ⟨directory, henters⟩ := enters_of_read hread
  obtain ⟨target, hlink⟩ := exists_link_of_error henters (onto_backupName _ k) hfree hlocate
  exact ⟨hlocate, _, target, own_concat henters, hlink⟩

/-- What saving a text leaves of the old bytes: one case for each branch that writes. -/
theorem secured_of_save (hread : fs.read place = .ok bytes)
    (h : ws.save fs place p = (.ok report, after)) (hwritten : p.written = false)
    (hbackup : p.backup = none) (hwarning : p.backupWarning = none)
    (hw : report.written = true) :
    ∃ k p', report = .processed p' ∧ FirstFree fs place k ∧
      Secured ws fs after place bytes k p' := by
  obtain ⟨directory, henters⟩ := enters_of_read hread
  unfold save at h
  dsimp only at h
  split at h
  · cases h
  · next backup hbackupFree =>
    obtain ⟨k, rfl, hfirst⟩ := firstFree_of_freeBackup henters hbackupFree
    refine ⟨k, ?_⟩
    split at h
    · next fault hcopy =>
        obtain ⟨hlocate, own, target, hown, hlink⟩ := link_of_uncopied hread hfirst.free hcopy
        split at h
        · cases h
          exact ⟨_, rfl, hfirst, .warned fault own target hbackup rfl hlocate hown hlink⟩
        · cases h
          rw [FileReport.written, hwritten] at hw
          cases hw
    · next copied hcopy =>
        split at h
        · cases h
        · next steps hbelow =>
          split at h
          · next hreplace =>
              cases h
              exact ⟨_, rfl, hfirst, .copied steps (eq_append_of_below hbelow) rfl hwarning
                (kept_of_copied hread hfirst.free hcopy hreplace)⟩
          · cases h
            rw [FileReport.written, hwritten] at hw
            cases hw

/-- Without links the paths of the temporary file and of the backup lead to different places. -/
theorem locate_temporary_ne (hread : fs.read place = .ok bytes)
    (hlinks : ∀ q target, fs.entry? q ≠ some (.link target)) (k : Nat) :
    fs.locate (temporaryPath place) ≠ fs.locate (backupPath place k) := by
  obtain ⟨directory, henters⟩ := enters_of_read hread
  have hnames := temporaryName_ne_backupName place.name place.name k
  intro heq
  cases hbackup : fs.locate (backupPath place k) with
  | error f =>
      rw [hbackup] at heq
      have hpath := (path_of_locate heq).symm.trans (path_of_locate hbackup)
      exact hnames (List.singleton_inj.mp (List.append_cancel_left hpath))
  | ok q =>
      rw [hbackup] at heq
      have htemporary := leads_of_locate henters (onto_append (by decide) _) heq
      have hleads := leads_of_locate henters (onto_backupName _ k) hbackup
      rw [leads_of_not_link (hlinks _)] at htemporary hleads
      have hplaces := Except.ok.inj (htemporary.trans hleads.symm)
      exact hnames (List.singleton_inj.mp (List.append_cancel_left hplaces))

/-- Without links there is a backup, the report names it, and it holds the bytes. -/
theorem Secured.recoverable (h : Secured ws fs after place bytes k p)
    (hread : fs.read place = .ok bytes)
    (hlinks : ∀ q target, fs.entry? q ≠ some (.link target)) :
    ∃ steps, backupPath place k = ws.root ++ steps ∧ p.backup = some (joined steps) ∧
      after.read (backupPath place k) = .ok bytes := by
  cases h with
  | copied steps below named quiet kept =>
      exact ⟨steps, below, named, kept (locate_temporary_ne hread hlinks k)⟩
  | warned fault own target unnamed warning unplaced standing link =>
      exact absurd link (hlinks own target)

/-- A report that something was written comes from saving the text that came out. -/
theorem save_of_process {r : Request} (h : ws.process fs path r = (.ok report, after))
    (hw : report.written = true) :
    ∃ place bytes outcome given, ws.locate fs path = .ok place ∧ fs.read place = .ok bytes ∧
      ws.save fs place { path, mode := r.mode, outcome, given } = (.ok report, after) := by
  unfold process at h
  split at h
  · cases h
  · next place hplace =>
    split at h
    · cases h
    · cases h
      cases hw
    · next given hload =>
      split at h
      · cases h
      · next outcome houtcome =>
        dsimp only at h
        split at h
        · obtain ⟨bytes, hread⟩ := exists_read_of_load hload
          exact ⟨place, bytes, outcome, given, hplace, hread, h⟩
        · cases h
          cases hw

/-- **What stays of a file that is overwritten.**  The backup goes to the first backup name whose
path leads to nothing.  The report names it and it holds the bytes that the file had, unless the
path of the temporary file leads to the same place; only where a link stands that cannot be
followed a warning takes the place of the backup. -/
theorem backup_of_written {r : Request} (h : ws.process fs path r = (.ok report, after))
    (hw : report.written = true) :
    ∃ place bytes k p, ws.locate fs path = .ok place ∧ fs.read place = .ok bytes ∧
      report = .processed p ∧ FirstFree fs place k ∧ Secured ws fs after place bytes k p := by
  obtain ⟨place, bytes, outcome, given, hplace, hread, hsave⟩ := save_of_process h hw
  obtain ⟨k, p, hreport, hfirst, hsecured⟩ := secured_of_save hread hsave rfl rfl rfl hw
  exact ⟨place, bytes, k, p, hplace, hread, hreport, hfirst, hsecured⟩

end Written

/-! ## What links beside a file do -/

/-- A directory with a file that ends in a blank, and with other entries. -/
def spacedFile (others : List (Path × Entry)) : FileSystem where
  entries := (["w".toList], .directory) ::
    (["w".toList, "a".toList], .file (Text.Utf8.encode "b \n".toList) 0) :: others
  now := 1

/-- Repairs that file. -/
def repairSpaced (others : List (Path × Entry)) : Except Stop FileReport × FileSystem :=
  Workspace.process { root := ["w".toList] } (spacedFile others) "a".toList { write := true }

/-- The report on it when it is written and there is a backup. -/
def spacedReport : Processed where
  path := "a".toList
  mode := .fix
  outcome := .formatted "b\n".toList
  given := "b \n".toList
  written := true
  backup := some "a.yamlmend.backup".toList

/-- Without links the backup holds the old bytes. -/
theorem backup_of_written_spaced :
    repairSpaced [] = (.ok (.processed spacedReport), (repairSpaced []).2) ∧
      (FileReport.processed spacedReport).written = true ∧
      ∃ place bytes k p, Workspace.locate { root := ["w".toList] } (spacedFile []) "a".toList =
        .ok place ∧ (spacedFile []).read place = .ok bytes ∧
        FileReport.processed spacedReport = .processed p ∧ FirstFree (spacedFile []) place k ∧
        Secured { root := ["w".toList] } (spacedFile []) (repairSpaced []).2 place bytes
          k p := by
  have hrun : repairSpaced [] = (.ok (.processed spacedReport), (repairSpaced []).2) := by
    decide +kernel
  exact ⟨hrun, rfl, backup_of_written hrun rfl⟩

/-- A link at the name of the backup that leads nowhere costs the backup.  A link from the temporary
file to the backup costs the old bytes, as the new ones are written over them, and one from the
backup to the temporary file costs the copy, as it is moved away. -/
theorem files_without_backup :
    let file : Path := ["w".toList, "a".toList]
    let backup := backupPath file 0
    let dangling := repairSpaced [(backup, .link "gone/b".toList)]
    let through := repairSpaced [(temporaryPath file, .link "a.yamlmend.backup".toList)]
    let moved := repairSpaced [(backup, .link "a.yamlmend.tmp".toList)]
    dangling.1 = .ok (.processed { spacedReport with
        backup := none
        backupWarning := some ("Backup failed: [Errno 2] No such file or directory: ".toList ++
          "'/w/a.yamlmend.backup'".toList) }) ∧
      through.1 = .ok (.processed spacedReport) ∧
      through.2.read backup = .ok (Text.Utf8.encode "b\n".toList) ∧
      moved.1 = .ok (.processed spacedReport) ∧ moved.2.isPresent backup = .ok false := by
  decide +kernel

end Workspace
end YamlTidy
