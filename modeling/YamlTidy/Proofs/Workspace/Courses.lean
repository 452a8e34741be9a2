import YamlTidy.Proofs.Files.Changes
import YamlTidy.Proofs.Workspace.Backups

/-!
# The courses that work on a file can take

`Workspace.process` looks for the file, reads it, does what it is asked to its text, and saves the
text that comes out.  Each step can end the work, and this module says once for each step what it
can come to and what it leaves of the files: `Replaced` for moving a text over a file, `Saved` for
saving it with its backup, and `Course` for the whole.

Main statements: `replaced`, `saved` and `course`, which say that there are no other ways.
-/

namespace YamlTidy
namespace Workspace

open Files FileSystem

variable {ws : Workspace} {fs after : FileSystem} {place directory q x : Path}
  {bytes : List UInt8} {time : Int} {text : List Char} {done : Except FileFault Unit}

/-! ## Moving a text over a file -/

/-- The name of the file that takes a text before it replaces another file. -/
def temporaryName (place : Path) : Name :=
  place.name ++ temporarySuffix

theorem onto_temporaryName (place : Path) : Onto (temporaryName place) :=
  onto_append (by decide) place.name

/-- What moving a text over a file can come to.  `directory` is that of the file's own place. -/
inductive Replaced (fs : FileSystem) (place directory : Path) (text : List Char) :
    Except FileFault Unit → FileSystem → Prop where
  /-- The text is written where the path of the temporary file leads, and what stands at that path
  itself takes the place of the file. -/
  | moved (q : Path) (e : Entry) (mid : FileSystem)
      (leads : leads fs deepestLink (directory ++ [temporaryName place]) = .ok q)
      (unlocked : fs.entry? q ≠ some .directory) (opened : fs.entry? q ≠ some .closed)
      (written : mid = fs.put q (.file (Text.Utf8.encode text) fs.now))
      (standing : mid.entry? (directory ++ [temporaryName place]) = some e) :
      Replaced fs place directory text (.ok ())
        ((mid.erase (directory ++ [temporaryName place])).put (directory ++ [place.name]) e)
  /-- The text cannot be written. -/
  | kept (fault : FileFault) : Replaced fs place directory text (.error fault) fs
  /-- The text cannot be written, as a link at the name of the temporary file leads to a directory,
  and the link is removed. -/
  | unlinked (fault : FileFault) (target : List Char)
      (link : fs.entry? (directory ++ [temporaryName place]) = some (.link target)) :
      Replaced fs place directory text (.error fault)
        (fs.erase (directory ++ [temporaryName place]))

/-- What was written for a file stands at the temporary path itself, or a link does. -/
theorem exists_temporary {mid : FileSystem} {w : Path}
    (honward : ∀ y, onward (mid.entry? y) = onward (fs.entry? y))
    (hleads : leads fs deepestLink w = .ok q) (hq : ∃ e, mid.entry? q = some e) :
    ∃ e, mid.entry? w = some e := by
  by_cases hlink : ∃ target, fs.entry? w = some (.link target)
  · obtain ⟨target, htarget⟩ := hlink
    exact ⟨_, onward_eq_link.mp ((honward w).trans (onward_eq_link.mpr htarget))⟩
  · rw [leads_of_not_link (not_exists.mp hlink)] at hleads
    cases hleads
    exact hq

theorem replaced_of_write {mid : FileSystem} (h : FileAt fs place directory q bytes time)
    (hwrite : fs.write (temporaryPath place) (Text.Utf8.encode text) = .ok mid) :
    ∃ after, mid.replace (temporaryPath place) place = .ok after ∧
      Replaced fs place directory text (.ok ()) after := by
  have honward := onward_of_writeAt hwrite
  have henters := h.enters.of_onward honward
  obtain ⟨r, hr, hentry, hclosed, hmid⟩ := writeAt_eq_ok.mp hwrite
  have hleads := leads_of_locate h.enters (onto_temporaryName place) hr
  have hwritten : ∃ e, mid.entry? r = some e :=
    ⟨_, by rw [hmid, entry_put_self (ne_nil_of_entry hentry)]⟩
  obtain ⟨e, he⟩ := exists_temporary honward hleads hwritten
  have hold : mid.own (temporaryPath place) = .ok (directory ++ [temporaryName place]) :=
    own_concat henters
  have hnew : mid.own place = .ok (directory ++ [place.name]) := by
    have hown := own_concat (n := place.name) henters
    rwa [← h.named] at hown
  exact ⟨_, replace_eq_ok.mpr ⟨_, _, e, hold, hnew, he, rfl⟩,
    .moved r e mid hleads hentry hclosed hmid he⟩

/-- Where the temporary file is present although it cannot be written, a directory is, and only a
link to it can be removed. -/
theorem link_of_unwritten {fault : FileFault} (h : FileAt fs place directory q bytes time)
    (hwrite : fs.write (temporaryPath place) (Text.Utf8.encode text) = .error fault)
    (hpresent : fs.isPresent (temporaryPath place) = .ok true)
    (hunlink : fs.unlink (temporaryPath place) = .ok after) :
    (∃ target, fs.entry? (directory ++ [temporaryName place]) = some (.link target)) ∧
      after = fs.erase (directory ++ [temporaryName place]) := by
  obtain ⟨r, e, hr, he⟩ := isPresent_eq_true.mp hpresent
  have hdirectory : fs.entry? r = some .directory ∨ fs.entry? r = some .closed := by
    by_contra! hentry
    rw [write, writeAt_eq_ok.mpr ⟨r, hr, hentry.1, hentry.2, rfl⟩] at hwrite
    cases hwrite
  obtain ⟨own, e', hown, hentry, hne, hclosed, hafter⟩ := unlink_eq_ok.mp hunlink
  rw [temporaryPath, Path.withName, own_concat h.enters] at hown
  cases hown
  refine ⟨?_, hafter⟩
  by_contra hlink
  have hleads := leads_of_locate h.enters (onto_temporaryName place) hr
  rw [leads_of_not_link (not_exists.mp hlink)] at hleads
  cases hleads
  rw [temporaryName, hentry] at hdirectory
  exact hdirectory.elim (fun heq => hne (Option.some.inj heq))
    fun heq => hclosed (Option.some.inj heq)

/-- Moving a text over a file that can be read takes one of these courses. -/
theorem replaced (h : FileAt fs place directory q bytes time) (text : List Char) :
    Replaced fs place directory text (replaceText fs place text).1
      (replaceText fs place text).2 := by
  unfold replaceText
  cases hwrite : fs.write (temporaryPath place) (Text.Utf8.encode text) with
  | ok mid =>
      obtain ⟨after, hreplace, hreplaced⟩ := replaced_of_write h hwrite
      rw [temporaryPath] at hwrite hreplace
      simp only [hwrite, hreplace, bind, Except.bind]
      exact hreplaced
  | error fault =>
      have hlink (after : FileSystem) (hpresent : fs.isPresent (temporaryPath place) = .ok true)
          (hunlink : fs.unlink (temporaryPath place) = .ok after) :=
        link_of_unwritten h hwrite hpresent hunlink
      rw [temporaryPath] at hwrite hlink
      simp only [hwrite, bind, Except.bind]
      cases hpresent : fs.isPresent (place.withName (place.name ++ temporarySuffix)) with
      | error other => exact .kept other
      | ok present =>
          cases present with
          | false => exact .kept fault
          | true =>
              cases hunlink : fs.unlink (place.withName (place.name ++ temporarySuffix)) with
              | error other => exact .kept other
              | ok after =>
                  obtain ⟨⟨target, htarget⟩, rfl⟩ := hlink after hpresent hunlink
                  exact .unlinked fault target htarget

namespace Replaced

theorem now_eq (h : Replaced fs place directory text done after) : after.now = fs.now := by
  cases h with
  | moved q e mid leads unlocked opened written standing => simp [written]
  | kept fault => rfl
  | unlinked fault target link => rfl

theorem own_ne_nil {n : Name} : directory ++ [n] ≠ [] := by simp

/-- A file that stands behind the move stood there before, or was just written. -/
theorem file_cases (h : Replaced fs place directory text done after)
    (hfile : after.entry? x = some (.file bytes time)) :
    fs.entry? x = some (.file bytes time) ∨ time = fs.now := by
  cases h with
  | moved q e mid leads unlocked opened written standing =>
      have hmid (y : Path) (hy : mid.entry? y = some (.file bytes time)) :
          fs.entry? y = some (.file bytes time) ∨ time = fs.now := by
        rw [written, entry_put (ne_nil_of_entry unlocked)] at hy
        split at hy
        · cases hy
          exact Or.inr rfl
        · exact Or.inl hy
      rw [entry_put own_ne_nil, entry_erase own_ne_nil] at hfile
      split at hfile
      · -- What was moved is the new file, or a link.
        cases hfile
        rcases hmid _ standing with hold | hnow
        · rw [leads_of_not_link (by simp [hold])] at leads
          cases leads
          rw [written, entry_put_self (ne_nil_of_entry unlocked)] at standing
          cases standing
          exact Or.inr rfl
        · exact Or.inr hnow
      · split at hfile
        · cases hfile
        · exact hmid x hfile
  | kept fault => exact Or.inl hfile
  | unlinked fault target link =>
      rw [entry_erase own_ne_nil] at hfile
      split at hfile
      · cases hfile
      · exact Or.inl hfile

/-- The move empties no place but that of the temporary file. -/
theorem entry_ne_none (h : Replaced fs place directory text done after) (hx : fs.entry? x ≠ none)
    (hne : x ≠ directory ++ [temporaryName place]) : after.entry? x ≠ none := by
  cases h with
  | moved q e mid leads unlocked opened written standing =>
      rw [entry_put own_ne_nil]
      split
      · nofun
      · rw [entry_erase_of_ne hne, written, entry_put (ne_nil_of_entry unlocked)]
        split
        · nofun
        · exact hx
  | kept fault => exact hx
  | unlinked fault target link => rwa [entry_erase_of_ne hne]

/-- When the move fails all stays as it was, but for a link at the name of the temporary file. -/
theorem entry_of_error {fault : FileFault}
    (h : Replaced fs place directory text (.error fault) after) (x : Path) :
    after.entry? x = fs.entry? x ∨
      x = directory ++ [temporaryName place] ∧ (∃ target, fs.entry? x = some (.link target)) ∧
        after.entry? x = none := by
  cases h with
  | kept fault => exact Or.inl rfl
  | unlinked fault target link =>
      by_cases hx : x = directory ++ [temporaryName place]
      · subst hx
        exact Or.inr ⟨rfl, ⟨target, link⟩, entry_erase_self own_ne_nil⟩
      · exact Or.inl (entry_erase_of_ne hx)

/-- Without links a text that is moved over a file takes its place, and the place of the temporary
file is empty. -/
theorem entry_of_linkless (h : Replaced fs place directory text done after)
    (hlinks : Linkless fs) :
    (done = .ok () ∧ fs.entry? (directory ++ [temporaryName place]) ≠ some .directory ∧
      fs.entry? (directory ++ [temporaryName place]) ≠ some .closed ∧
      ∀ x, after.entry? x =
        if x = directory ++ [place.name] then some (.file (Text.Utf8.encode text) fs.now)
        else if x = directory ++ [temporaryName place] then none else fs.entry? x) ∨
      (∃ fault, done = .error fault) ∧ after = fs := by
  cases h with
  | moved q e mid leads unlocked opened written standing =>
      rw [leads_of_not_link (hlinks _)] at leads
      cases leads
      rw [written, entry_put_self own_ne_nil] at standing
      cases standing
      refine Or.inl ⟨rfl, unlocked, opened, fun x => ?_⟩
      rw [entry_put own_ne_nil, entry_erase own_ne_nil]
      by_cases htemporary : x = directory ++ [temporaryName place]
      · simp only [htemporary, if_true]
      · rw [if_neg htemporary, if_neg htemporary, written, entry_put_of_ne htemporary]
  | kept fault => exact Or.inr ⟨⟨fault, rfl⟩, rfl⟩
  | unlinked fault target link => exact absurd link (hlinks _ target)

/-- Without links the path of a file that was moved over leads to the new text. -/
theorem read_of_ok (h : Replaced fs place directory text (.ok ()) after)
    (hplace : FileAt fs place directory q bytes time)
    (hlinks : ∀ p target, fs.entry? p ≠ some (.link target)) :
    after.read place = .ok (Text.Utf8.encode text) := by
  rcases h.entry_of_linkless hlinks with
    ⟨-, hroom, hclosed, hentry⟩ | ⟨⟨fault, hdone⟩, -⟩
  · have hfile := hplace.file
    have hown := hplace.leads
    rw [leads_of_not_link (hlinks _)] at hown
    cases hown
    -- Neither the new file nor the temporary one is on the way to anything.
    have honward (y : Path) : onward (after.entry? y) = onward (fs.entry? y) := by
      rw [hentry]
      split
      · next hy => rw [hy, hfile]; rfl
      · split
        · next hy =>
            rw [hy]
            rcases htemporary :
              fs.entry? (directory ++ [temporaryName place]) with _ | ⟨_ | _ | _ | _⟩
            · rfl
            · rfl
            · exact absurd htemporary hroom
            · exact absurd htemporary hclosed
            · exact absurd htemporary (hlinks _ _)
        · rfl
    exact read_eq_ok.mpr ⟨_, fs.now, (locate_of_onward honward).mpr hplace.locate,
      by rw [hentry, if_pos rfl]⟩
  · cases hdone

end Replaced

/-! ## Saving a text -/

theorem cause_of_freeBackup {tries n : Nat} {fault : FileFault}
    (h : freeBackup fs place tries n = .error fault) :
    ∃ k, fs.isPresent (backupPath place k) = .error fault := by
  induction tries generalizing n with
  | zero => cases h
  | succ tries ih =>
      simp only [freeBackup] at h
      split at h
      · next hpresent =>
          cases h
          exact ⟨n, hpresent⟩
      · cases h
      · exact ih h

/-- A report to which the end of the move is added. -/
def finished (p : Processed) : Except FileFault Unit → Processed
  | .ok () => { p with written := true }
  | .error fault => { p with writeError := some fault.message }

/-- What saving a text can come to. -/
inductive Saved (ws : Workspace) (fs : FileSystem) (place : Path) (p : Processed) :
    Except Stop FileReport → FileSystem → Prop where
  /-- A backup name is too long. -/
  | unnamed (k : Nat) (fault : FileFault)
      (present : fs.isPresent (backupPath place k) = .error fault) :
      Saved ws fs place p (.error (.file fault)) fs
  /-- The backup is made, but it is not in the workspace. -/
  | outside (k : Nat) (copied : FileSystem) (first : FirstFree fs place k)
      (copy : fs.copy place (backupPath place k) = .ok copied)
      (below : Path.below? ws.root (backupPath place k) = none) :
      Saved ws fs place p (.error (.outside (backupPath place k) ws.root)) copied
  /-- No backup can be made, and the text is moved over the file. -/
  | warned (k : Nat) (fault : FileFault) (done : Except FileFault Unit) (after : FileSystem)
      (first : FirstFree fs place k) (copy : fs.copy place (backupPath place k) = .error fault)
      (move : replaceText fs place p.output = (done, after)) :
      Saved ws fs place p (.ok (.processed (finished
        { p with backupWarning := some ("Backup failed: ".toList ++ fault.message) } done)))
          after
  /-- The backup is made, and the text is moved over the file. -/
  | copied (k : Nat) (copied : FileSystem) (steps : List Name) (done : Except FileFault Unit)
      (after : FileSystem) (first : FirstFree fs place k)
      (copy : fs.copy place (backupPath place k) = .ok copied)
      (below : backupPath place k = ws.root ++ steps)
      (move : replaceText copied place p.output = (done, after)) :
      Saved ws fs place p
        (.ok (.processed (finished { p with backup := some (joined steps) } done))) after

/-- Saving a text over a file that can be read takes one of these courses. -/
theorem saved (h : FileAt fs place directory q bytes time) (p : Processed) :
    Saved ws fs place p (ws.save fs place p).1 (ws.save fs place p).2 := by
  unfold save
  cases hfree : freeBackup fs place (fs.entries.length + 1) 0 with
  | error fault =>
      obtain ⟨k, hpresent⟩ := cause_of_freeBackup hfree
      exact .unnamed k fault hpresent
  | ok backup =>
      obtain ⟨k, rfl, hfirst⟩ := firstFree_of_freeBackup h.enters hfree
      cases hcopy : fs.copy place (backupPath place k) with
      | error fault =>
          let p' := { p with backupWarning := some ("Backup failed: ".toList ++ fault.message) }
          rcases hmove : replaceText fs place p'.output with ⟨done, after⟩
          have hsaved : Saved ws fs place p _ after :=
            .warned k fault done after hfirst hcopy hmove
          simp only [hcopy]
          rw [hmove]
          cases done <;> exact hsaved
      | ok copied =>
          cases hbelow : Path.below? ws.root (backupPath place k) with
          | none => simpa only [hcopy, hbelow] using Saved.outside k copied hfirst hcopy hbelow
          | some steps =>
              let p' := { p with backup := some (joined steps) }
              rcases hmove : replaceText copied place p'.output with ⟨done, after⟩
              have hsaved := Saved.copied (p := p) k copied steps done after hfirst hcopy
                (eq_append_of_below hbelow) hmove
              simp only [hcopy, hbelow]
              rw [hmove]
              cases done <;> exact hsaved

/-! ## Work on a file -/

/-- What work on a file can come to. -/
inductive Course (ws : Workspace) (fs : FileSystem) (path : List Char) (r : Request) :
    Except Stop FileReport → FileSystem → Prop where
  /-- The path leads nowhere. -/
  | astray (stop : Stop) (locate : ws.locate fs path = .error stop) :
      Course ws fs path r (.error stop) fs
  /-- Whether a file is there cannot be told. -/
  | unseen (place : Path) (fault : FileFault) (locate : ws.locate fs path = .ok place)
      (isFile : fs.isFile place = .error fault) : Course ws fs path r (.error (.file fault)) fs
  /-- There is no file, or it cannot be read. -/
  | unread (place : Path) (failure : ReadFailure) (locate : ws.locate fs path = .ok place)
      (load : load fs place = .ok (.error failure)) :
      Course ws fs path r (.ok (.failed path failure)) fs
  /-- The operation on the text breaks off. -/
  | aborted (place : Path) (text : List Char) (abort : Yaml.Abort)
      (locate : ws.locate fs path = .ok place) (load : load fs place = .ok (.ok text))
      (apply : r.mode.apply ws.options text = .error abort) :
      Course ws fs path r (.error (.aborted abort)) fs
  /-- There is nothing to write. -/
  | kept (place : Path) (text : List Char) (outcome : Outcome)
      (locate : ws.locate fs path = .ok place) (load : load fs place = .ok (.ok text))
      (apply : r.mode.apply ws.options text = .ok outcome)
      (undue : Processed.isDue { path, mode := r.mode, outcome, given := text } r = false) :
      Course ws fs path r
        (.ok (.processed { path, mode := r.mode, outcome, given := text })) fs
  /-- The text that came out is saved. -/
  | saved (place directory q : Path) (bytes : List UInt8) (time : Int) (text : List Char)
      (outcome : Outcome) (result : Except Stop FileReport) (after : FileSystem)
      (locate : ws.locate fs path = .ok place) (load : load fs place = .ok (.ok text))
      (apply : r.mode.apply ws.options text = .ok outcome)
      (due : Processed.isDue { path, mode := r.mode, outcome, given := text } r = true)
      (file : FileAt fs place directory q bytes time)
      (save : Saved ws fs place { path, mode := r.mode, outcome, given := text } result after) :
      Course ws fs path r result after

theorem isFile_of_load {stop : Stop} (h : load fs place = .error stop) :
    ∃ fault, stop = .file fault ∧ fs.isFile place = .error fault := by
  unfold load at h
  split at h
  · next fault hfault =>
      cases h
      exact ⟨fault, rfl, hfault⟩
  · cases h
  · split at h <;> cases h

/-- Work on a file takes one of these courses. -/
theorem course (ws : Workspace) (fs : FileSystem) (path : List Char) (r : Request) :
    Course ws fs path r (ws.process fs path r).1 (ws.process fs path r).2 := by
  unfold process
  cases hlocate : ws.locate fs path with
  | error stop => exact .astray stop hlocate
  | ok place =>
      rcases hload : load fs place with stop | failure | text
      · simp only [hload]
        obtain ⟨fault, rfl, hfault⟩ := isFile_of_load hload
        exact .unseen place fault hlocate hfault
      · simp only [hload]
        exact .unread place failure hlocate hload
      · cases happly : r.mode.apply ws.options text with
        | error abort =>
            simp only [hload, happly]
            exact .aborted place text abort hlocate hload happly
        | ok outcome =>
            obtain ⟨bytes, hread⟩ := exists_read_of_load hload
            obtain ⟨directory, q, time, hfile⟩ := exists_fileAt hread
            simp only [hload, happly]
            split
            · next hdue =>
                exact .saved place directory q bytes time text outcome _ _ hlocate hload happly
                  hdue hfile (saved hfile _)
            · next hundue =>
                exact .kept place text outcome hlocate hload happly (by simpa using hundue)

theorem course_of_process {path : List Char} {r : Request} {result : Except Stop FileReport}
    (h : ws.process fs path r = (result, after)) : Course ws fs path r result after := by
  have hcourse := course ws fs path r
  rwa [h] at hcourse

theorem replaced_of_move (h : FileAt fs place directory q bytes time)
    (hmove : replaceText fs place text = (done, after)) :
    Replaced fs place directory text done after := by
  have hreplaced := replaced h text
  rwa [hmove] at hreplaced

/-- The backup of a file is a copy of it where nothing stood. -/
theorem FirstFree.copied_eq {k : Nat} {copied : FileSystem} (h : FirstFree fs place k)
    (hfile : FileAt fs place directory q bytes time)
    (hcopy : fs.copy place (backupPath place k) = .ok copied) :
    ∃ b, fs.locate (backupPath place k) = .ok b ∧ fs.entry? b = none ∧
      copied = fs.put b (.file bytes time) := by
  obtain ⟨q', bytes', time', b, hq, hsource, hb, hentry, -, hcopied⟩ := copy_eq_ok.mp hcopy
  rw [hfile.locate] at hq
  cases hq
  rw [hfile.file] at hsource
  cases hsource
  refine ⟨b, hb, ?_, hcopied⟩
  rcases isPresent_eq_false.mp h.free with ⟨b', hb', hnone⟩ | ⟨fault, hfault, -⟩
  · rw [hb] at hb'
    cases hb'
    exact hnone
  · rw [hb] at hfault
    cases hfault

/-- The backup takes nothing from the file. -/
theorem FirstFree.fileAt_of_copy {k : Nat} {copied : FileSystem} (h : FirstFree fs place k)
    (hfile : FileAt fs place directory q bytes time)
    (hcopy : fs.copy place (backupPath place k) = .ok copied) :
    FileAt copied place directory q bytes time := by
  obtain ⟨b, hb, hnone, -⟩ := h.copied_eq hfile hcopy
  obtain ⟨t, hwrite⟩ := copy_eq_writeAt hfile.read (backupPath place k)
  rw [hcopy, eq_comm] at hwrite
  refine hfile.of_writeAt hwrite fun hlocate => ?_
  rw [hb] at hlocate
  cases hlocate
  rw [hfile.file] at hnone
  cases hnone

/-- All is as it was, or one file is new. -/
def Grown (fs mid : FileSystem) : Prop :=
  mid = fs ∨ ∃ b bytes time, fs.entry? b = none ∧ mid = fs.put b (.file bytes time)

theorem Grown.now_eq {mid : FileSystem} (h : Grown fs mid) : mid.now = fs.now := by
  rcases h with rfl | ⟨b, bytes, time, -, rfl⟩
  · rfl
  · rfl

theorem Grown.file_cases {mid : FileSystem} (h : Grown fs mid)
    (hx : mid.entry? x = some (.file bytes time)) :
    fs.entry? x = some (.file bytes time) ∨ fs.entry? x = none := by
  rcases h with rfl | ⟨b, new, moment, hnone, rfl⟩
  · exact Or.inl hx
  · rw [entry_put (ne_nil_of_none hnone)] at hx
    split at hx
    · next hxb => exact Or.inr (hxb ▸ hnone)
    · exact Or.inl hx

theorem Grown.entry_ne_none {mid : FileSystem} (h : Grown fs mid) (hx : fs.entry? x ≠ none) :
    mid.entry? x ≠ none := by
  rcases h with rfl | ⟨b, bytes, time, hnone, rfl⟩
  · exact hx
  · rw [entry_put (ne_nil_of_none hnone)]
    split
    · nofun
    · exact hx

theorem FirstFree.grown {k : Nat} {copied : FileSystem} (h : FirstFree fs place k)
    (hfile : FileAt fs place directory q bytes time)
    (hcopy : fs.copy place (backupPath place k) = .ok copied) : Grown fs copied := by
  obtain ⟨b, -, hnone, hcopied⟩ := h.copied_eq hfile hcopy
  exact Or.inr ⟨b, bytes, time, hnone, hcopied⟩

/-- What work on a file changes: the backup is new or there is none, and then a text may be moved
over the file. -/
theorem changes_of_process {path : List Char} {r : Request} {result : Except Stop FileReport}
    (hrun : ws.process fs path r = (result, after)) :
    ∃ place directory mid, Grown fs mid ∧
      (after = mid ∨ ∃ text done, Replaced mid place directory text done after) := by
  have hkept : Grown fs fs := Or.inl rfl
  cases course_of_process hrun with
  | astray stop locate => exact ⟨[], [], fs, hkept, Or.inl rfl⟩
  | unseen place fault locate isFile => exact ⟨[], [], fs, hkept, Or.inl rfl⟩
  | unread place failure locate load => exact ⟨[], [], fs, hkept, Or.inl rfl⟩
  | aborted place text abort locate load apply => exact ⟨[], [], fs, hkept, Or.inl rfl⟩
  | kept place text outcome locate load apply undue => exact ⟨[], [], fs, hkept, Or.inl rfl⟩
  | saved place directory q bytes time text outcome result after locate load apply due
      file save =>
      cases save with
      | unnamed k fault present => exact ⟨[], [], fs, hkept, Or.inl rfl⟩
      | outside k mid first copy below =>
          exact ⟨place, directory, after, first.grown file copy, Or.inl rfl⟩
      | warned k fault done after first copy move =>
          exact ⟨place, directory, fs, hkept, Or.inr ⟨_, done, replaced_of_move file move⟩⟩
      | copied k mid steps done after first copy below move =>
          have hmove := replaced_of_move (first.fileAt_of_copy file copy) move
          exact ⟨place, directory, mid, first.grown file copy, Or.inr ⟨_, done, hmove⟩⟩

end Workspace
end YamlTidy
