import YamlTidy.Proofs.Workspace.Cleanups
import YamlTidy.Proofs.Workspace.Courses

/-!
# How old backups are

The age of a backup is that of the file it was copied from, as a copy has the time of its source.
So a cleanup takes a backup that was made a moment ago when the file had not been changed for
long.  This module follows a backup through a session: `Event` is a step of it, `Young` says how
old the file at a place can be, and each step keeps that (`Young.apply`) as long as the place is
not empty.  Only a cleanup empties the place of a backup (`Young.entry_ne_none`).

Main statement: `cleanup_spares_young_backups`.
-/

namespace YamlTidy
namespace Workspace

open Files FileSystem

variable {ws : Workspace} {fs after : FileSystem} {place q x : Path} {bytes : List UInt8}
  {time made since : Int} {path : List Char} {r : Request} {hours : Binary64}

/-! ## Sessions -/

/-- What is put at a path. -/
inductive Content where
  | file (bytes : List UInt8)
  | directory
  | link (target : List Char)
  deriving Repr, DecidableEq

/-- A step of a session. -/
inductive Event where
  | put (place : Path) (content : Content)
  /-- The file at the path was last changed at that time. -/
  | age (place : Path) (time : Int)
  | process (path : List Char) (r : Request)
  | cleanup (hours : Binary64)
  /-- Some millionths of a second go by. -/
  | pause (duration : Nat)
  deriving Repr, DecidableEq

/-- The files behind a change, or as they were if it fails. -/
def attempted (fs : FileSystem) : Except FileFault FileSystem → FileSystem
  | .ok after => after
  | .error _ => fs

/-- Puts something at a path.  Nothing gives way to a link. -/
def Content.put (fs : FileSystem) (place : Path) : Content → FileSystem
  | .file bytes =>
      let fs := fs.makeDirectory place.parent
      attempted fs (fs.write place bytes)
  | .directory => fs.makeDirectory place
  | .link target =>
      let fs := fs.makeDirectory place.parent
      if (fs.entry? place).isSome then fs else fs.put place (.link target)

/-- Sets the time at which the file that a path leads to was last changed. -/
def setTime (fs : FileSystem) (place : Path) (time : Int) : FileSystem :=
  match fs.read place with
  | .ok bytes => attempted fs (fs.writeAt place bytes time)
  | .error _ => fs

/-- The files behind a step. -/
def Event.apply (ws : Workspace) (fs : FileSystem) : Event → FileSystem
  | put place content => content.put fs place
  | age place time => setTime fs place time
  | process path r => (ws.process fs path r).2
  | cleanup hours => (ws.cleanup fs hours).2
  | pause duration => fs.later duration

/-- The files behind a session. -/
def session (ws : Workspace) (fs : FileSystem) (es : List Event) : FileSystem :=
  es.foldl (Event.apply ws) fs

/-- Whether a step sets the time of the file at a place. -/
def Event.Ages (fs : FileSystem) (q : Path) : Event → Prop
  | age place _ => fs.locate place = .ok q
  | _ => False

/-- A place is not empty at any step of a session, and no step sets the time of a file there. -/
def Lasts (ws : Workspace) (q : Path) : FileSystem → List Event → Prop
  | _, [] => True
  | fs, e :: es => fs.entry? q ≠ none ∧ ¬ e.Ages fs q ∧ Lasts ws q (e.apply ws fs) es

instance (fs : FileSystem) (q : Path) : (e : Event) → Decidable (e.Ages fs q)
  | .age place _ => inferInstanceAs (Decidable (fs.locate place = .ok q))
  | .put _ _ => isFalse id
  | .process _ _ => isFalse id
  | .cleanup _ => isFalse id
  | .pause _ => isFalse id

instance decidableLasts (ws : Workspace) (q : Path) :
    (fs : FileSystem) → (es : List Event) → Decidable (Lasts ws q fs es)
  | _, [] => isTrue trivial
  | fs, e :: es =>
      have : Decidable (Lasts ws q (e.apply ws fs) es) := decidableLasts ws q (e.apply ws fs) es
      inferInstanceAs
        (Decidable (fs.entry? q ≠ none ∧ ¬ e.Ages fs q ∧ Lasts ws q (e.apply ws fs) es))

/-- Whether a step spares files that were changed at one moment or at another one: a cleanup does
when the time since neither exceeds its hours. -/
def Event.Spares (fs : FileSystem) (made since : Int) : Event → Prop
  | cleanup hours =>
      exceeds (fs.now - made) hours = false ∧ exceeds (fs.now - since) hours = false
  | _ => True

/-- No step of a session sets the time of a file at a place, and all spare the files of two
moments. -/
def Gentle (ws : Workspace) (q : Path) (made since : Int) : FileSystem → List Event → Prop
  | _, [] => True
  | fs, e :: es =>
      ¬ e.Ages fs q ∧ e.Spares fs made since ∧ Gentle ws q made since (e.apply ws fs) es

instance (fs : FileSystem) (made since : Int) : (e : Event) → Decidable (e.Spares fs made since)
  | .cleanup hours => inferInstanceAs (Decidable
      (exceeds (fs.now - made) hours = false ∧ exceeds (fs.now - since) hours = false))
  | .put _ _ => isTrue trivial
  | .age _ _ => isTrue trivial
  | .process _ _ => isTrue trivial
  | .pause _ => isTrue trivial

instance decidableGentle (ws : Workspace) (q : Path) (made since : Int) :
    (fs : FileSystem) → (es : List Event) → Decidable (Gentle ws q made since fs es)
  | _, [] => isTrue trivial
  | fs, e :: es =>
      have : Decidable (Gentle ws q made since (e.apply ws fs) es) :=
        decidableGentle ws q made since (e.apply ws fs) es
      inferInstanceAs (Decidable
        (¬ e.Ages fs q ∧ e.Spares fs made since ∧ Gentle ws q made since (e.apply ws fs) es))

/-- A place with the name of a backup. -/
def IsBackup (q : Path) : Prop :=
  ∃ directory name k, q = directory ++ [backupName name k]

/-- A file at the place was changed no earlier than at one of two moments, and the second one has
come. -/
structure Young (fs : FileSystem) (q : Path) (made since : Int) : Prop where
  past : since ≤ fs.now
  young : ∀ bytes time, fs.entry? q = some (.file bytes time) → made ≤ time ∨ since ≤ time

/-! ## What the steps do -/

/-- Making a directory makes no files and takes none away. -/
theorem entry_makeDirectory (fs : FileSystem) (p : Path) :
    (fs.makeDirectory p).now = fs.now ∧
      ∀ x, entry? (fs.makeDirectory p) x = fs.entry? x ∨
        entry? (fs.makeDirectory p) x = some .directory := by
  unfold makeDirectory
  generalize List.range p.length = ks
  induction ks generalizing fs with
  | nil => exact ⟨rfl, fun x => Or.inl rfl⟩
  | cons k ks ih =>
      rw [List.foldl_cons]
      by_cases hsome : (fs.entry? (p.take (k + 1))).isSome = true
      · simpa only [hsome, if_true] using ih fs
      · simp only [hsome]
        obtain ⟨hnow, hentry⟩ := ih (fs.put (p.take (k + 1)) .directory)
        refine ⟨hnow, fun x => ?_⟩
        have hroot : p.take (k + 1) ≠ [] := fun hnil => hsome (by simp [hnil])
        rcases hentry x with hsame | hdirectory
        · rw [entry_put hroot] at hsame
          split at hsame
          · exact Or.inr hsame
          · exact Or.inl hsame
        · exact Or.inr hdirectory

theorem now_makeDirectory (fs : FileSystem) (p : Path) : (fs.makeDirectory p).now = fs.now :=
  (entry_makeDirectory fs p).1

theorem file_of_makeDirectory {p : Path}
    (h : entry? (fs.makeDirectory p) x = some (.file bytes time)) :
    fs.entry? x = some (.file bytes time) := by
  rcases (entry_makeDirectory fs p).2 x with hsame | hdirectory
  · rwa [hsame] at h
  · rw [hdirectory] at h
    cases h

/-- A file behind a write was there before it, or has the time of the write and stands where the
path leads. -/
theorem file_of_writeAt {w : Path} {new : List UInt8} {t : Int}
    (h : entry? (attempted fs (fs.writeAt w new t)) x = some (.file bytes time)) :
    fs.entry? x = some (.file bytes time) ∨ time = t ∧ fs.locate w = .ok x := by
  cases hwrite : fs.writeAt w new t with
  | error f =>
      rw [hwrite] at h
      exact Or.inl h
  | ok after =>
      obtain ⟨p, hp, hentry, -, rfl⟩ := writeAt_eq_ok.mp hwrite
      rw [hwrite, attempted, entry_put (ne_nil_of_entry hentry)] at h
      split at h
      · next hx =>
          cases h
          exact Or.inr ⟨rfl, hx ▸ hp⟩
      · exact Or.inl h

theorem now_attempted_writeAt (fs : FileSystem) (w : Path) (new : List UInt8) (t : Int) :
    (attempted fs (fs.writeAt w new t)).now = fs.now := by
  cases hwrite : fs.writeAt w new t with
  | error f => rfl
  | ok after =>
      obtain ⟨p, -, -, -, rfl⟩ := writeAt_eq_ok.mp hwrite
      rfl

theorem now_setTime (fs : FileSystem) (place : Path) (time : Int) :
    (setTime fs place time).now = fs.now := by
  unfold setTime
  split
  · exact now_attempted_writeAt fs place _ time
  · rfl

/-- Only the file that the path leads to gets another time. -/
theorem file_of_setTime {moment : Int}
    (h : entry? (setTime fs place moment) x = some (.file bytes time)) :
    fs.entry? x = some (.file bytes time) ∨ fs.locate place = .ok x := by
  unfold setTime at h
  split at h
  · exact (file_of_writeAt h).imp_right And.right
  · exact Or.inl h

/-- What is put is as old as the step. -/
theorem file_of_put {content : Content}
    (h : entry? (content.put fs place) x = some (.file bytes time)) :
    fs.entry? x = some (.file bytes time) ∨ time = fs.now := by
  cases content with
  | file new =>
      rcases file_of_writeAt h with hold | ⟨htime, -⟩
      · exact Or.inl (file_of_makeDirectory hold)
      · exact Or.inr (htime.trans (now_makeDirectory fs place.parent))
  | directory => exact Or.inl (file_of_makeDirectory h)
  | link target =>
      simp only [Content.put] at h
      split at h
      · exact Or.inl (file_of_makeDirectory h)
      · next hnone =>
          have hroot : place ≠ [] := by
            rintro rfl
            simp at hnone
          rw [entry_put hroot] at h
          split at h
          · cases h
          · exact Or.inl (file_of_makeDirectory h)

theorem now_put_content (fs : FileSystem) (place : Path) (content : Content) :
    (content.put fs place).now = fs.now := by
  cases content with
  | file new =>
      exact (now_attempted_writeAt _ place new _).trans (now_makeDirectory fs place.parent)
  | directory => exact now_makeDirectory fs place
  | link target =>
      simp only [Content.put]
      split
      · exact now_makeDirectory fs place.parent
      · exact now_makeDirectory fs place.parent

/-- Work on a file leaves the other files as they are; new is what it writes, and its backup. -/
theorem file_of_process {result : Except Stop FileReport}
    (hrun : ws.process fs path r = (result, after))
    (hx : after.entry? x = some (.file bytes time)) :
    fs.entry? x = some (.file bytes time) ∨ time = fs.now ∨ fs.entry? x = none := by
  obtain ⟨place, directory, mid, hmid, rfl | ⟨text, done, hreplaced⟩⟩ :=
    changes_of_process hrun
  · exact (hmid.file_cases hx).imp_right Or.inr
  · rcases hreplaced.file_cases hx with hstood | htime
    · exact (hmid.file_cases hstood).imp_right Or.inr
    · exact Or.inr (Or.inl (htime.trans hmid.now_eq))

/-- Work on a file takes no time. -/
theorem now_process {result : Except Stop FileReport}
    (hrun : ws.process fs path r = (result, after)) : after.now = fs.now := by
  obtain ⟨place, directory, mid, hmid, rfl | ⟨text, done, hreplaced⟩⟩ :=
    changes_of_process hrun
  · exact hmid.now_eq
  · exact hreplaced.now_eq.trans hmid.now_eq

/-! ## What stays

No step but a cleanup empties the place of a backup: work on a file takes away nothing but the
temporary file, and that has another name. -/

theorem isBackup_of_own {k : Nat} (h : fs.own (backupPath place k) = .ok q) : IsBackup q := by
  rw [backupPath, Path.withName, own] at h
  split at h
  · cases h
  · next directory hdirectory =>
      cases h
      exact ⟨directory, place.name, k, by simp [Path.parent]⟩

theorem ne_temporary (h : IsBackup q) (directory place : Path) :
    q ≠ directory ++ [temporaryName place] := by
  obtain ⟨own, name, k, rfl⟩ := h
  intro heq
  have hnames := (List.append_inj' heq rfl).2
  exact temporaryName_ne_backupName place.name name k (List.singleton_inj.mp hnames.symm)

theorem entry_ne_none_of_attempted {w : Path} {new : List UInt8} {t : Int}
    (hx : fs.entry? x ≠ none) : entry? (attempted fs (fs.writeAt w new t)) x ≠ none := by
  cases hwrite : fs.writeAt w new t with
  | error f => exact hx
  | ok after =>
      obtain ⟨p, -, hentry, -, rfl⟩ := writeAt_eq_ok.mp hwrite
      rw [attempted, entry_put (ne_nil_of_entry hentry)]
      split
      · nofun
      · exact hx

theorem entry_ne_none_of_makeDirectory {p : Path} (hx : fs.entry? x ≠ none) :
    entry? (fs.makeDirectory p) x ≠ none := by
  rcases (entry_makeDirectory fs p).2 x with hsame | hdirectory
  · rwa [hsame]
  · rw [hdirectory]
    nofun

theorem entry_ne_none_of_put {content : Content} (hx : fs.entry? x ≠ none) :
    entry? (content.put fs place) x ≠ none := by
  cases content with
  | file new => exact entry_ne_none_of_attempted (entry_ne_none_of_makeDirectory hx)
  | directory => exact entry_ne_none_of_makeDirectory hx
  | link target =>
      have hmade := entry_ne_none_of_makeDirectory (p := place.parent) hx
      simp only [Content.put]
      split
      · exact hmade
      · next hnone =>
          have hne : x ≠ place := fun heq => hnone (Option.isSome_iff_ne_none.mpr (heq ▸ hmade))
          rwa [entry_put_of_ne hne]

theorem entry_ne_none_of_setTime {moment : Int} (hx : fs.entry? x ≠ none) :
    entry? (setTime fs place moment) x ≠ none := by
  unfold setTime
  split
  · exact entry_ne_none_of_attempted hx
  · exact hx

theorem entry_ne_none_of_process {result : Except Stop FileReport}
    (hrun : ws.process fs path r = (result, after)) (hbackup : IsBackup x)
    (hx : fs.entry? x ≠ none) : after.entry? x ≠ none := by
  obtain ⟨place, directory, mid, hmid, rfl | ⟨text, done, hreplaced⟩⟩ :=
    changes_of_process hrun
  · exact hmid.entry_ne_none hx
  · exact hreplaced.entry_ne_none (hmid.entry_ne_none hx) (ne_temporary hbackup directory place)

/-! ## What a session keeps -/

/-- Time goes on. -/
theorem now_apply (ws : Workspace) (fs : FileSystem) (e : Event) :
    fs.now ≤ (e.apply ws fs).now := by
  cases e with
  | put place content => exact Int.le_of_eq (now_put_content fs place content).symm
  | age place moment => exact Int.le_of_eq (now_setTime fs place moment).symm
  | process path r =>
      have hrun : ws.process fs path r = (_, (Event.process path r).apply ws fs) := rfl
      exact Int.le_of_eq (now_process hrun).symm
  | cleanup hours => exact Int.le_of_eq (now_cleanup ws fs hours).symm
  | pause duration => exact Int.le_add_of_nonneg_right (Int.natCast_nonneg duration)

/-- A step leaves a file as it is, or changes it now, unless it sets its time or takes it away. -/
theorem file_of_apply {e : Event} (hplace : fs.entry? q ≠ none) (hages : ¬ e.Ages fs q)
    (hq : entry? (e.apply ws fs) q = some (.file bytes time)) :
    fs.entry? q = some (.file bytes time) ∨ time = fs.now := by
  cases e with
  | put place content => exact file_of_put hq
  | age place moment => exact Or.inl ((file_of_setTime hq).resolve_right hages)
  | process path r =>
      have hrun : ws.process fs path r = (_, (Event.process path r).apply ws fs) := rfl
      rcases file_of_process hrun hq with hold | hnow | hnone
      · exact Or.inl hold
      · exact Or.inr hnow
      · exact absurd hnone hplace
  | cleanup hours =>
      obtain ⟨hgone, hkept⟩ := entry_of_cleanup ws fs hours q
      by_cases hfalls : ∃ p ∈ found ws fs, Falls fs hours p q
      · rw [Event.apply, hgone hfalls] at hq
        cases hq
      · rw [Event.apply, hkept hfalls] at hq
        exact Or.inl hq
  | pause duration => exact Or.inl hq

/-- A step keeps a file young as long as it does not set its time. -/
theorem Young.apply (h : Young fs q made since) (hplace : fs.entry? q ≠ none) {e : Event}
    (hages : ¬ e.Ages fs q) : Young (e.apply ws fs) q made since where
  past := Int.le_trans h.past (now_apply ws fs e)
  young bytes time hq := by
    rcases file_of_apply hplace hages hq with hold | hnow
    · exact h.young bytes time hold
    · exact Or.inr (hnow ▸ h.past)

/-- A session keeps a file young as long as it stays. -/
theorem Young.session (h : Young fs q made since) {es : List Event} (hes : Lasts ws q fs es) :
    Young (session ws fs es) q made since := by
  induction es generalizing fs with
  | nil => exact h
  | cons e es ih =>
      obtain ⟨hplace, hages, hrest⟩ := hes
      exact ih (h.apply hplace hages) hrest

/-- A cleanup takes nothing that is young. -/
theorem Young.entry_of_cleanup (h : Young fs q made since)
    (hmade : exceeds (fs.now - made) hours = false)
    (hsince : exceeds (fs.now - since) hours = false) :
    entry? (ws.cleanup fs hours).2 q = fs.entry? q := by
  refine (Workspace.entry_of_cleanup ws fs hours q).2 ?_
  rintro ⟨p, -, -, -, bytes, time, hfile, hold⟩
  have hyoung : exceeds (fs.now - time) hours = false := by
    rcases h.young bytes time hfile with hm | hs
    · exact exceeds_mono (Int.sub_le_sub_left hm fs.now) hmade
    · exact exceeds_mono (Int.sub_le_sub_left hs fs.now) hsince
  rw [hold] at hyoung
  cases hyoung

/-- No step empties the place of a young backup that it spares. -/
theorem Young.entry_ne_none (h : Young fs q made since) (hbackup : IsBackup q)
    (hplace : fs.entry? q ≠ none) {e : Event} (hspares : e.Spares fs made since) :
    entry? (e.apply ws fs) q ≠ none := by
  cases e with
  | put place content => exact entry_ne_none_of_put hplace
  | age place moment => exact entry_ne_none_of_setTime hplace
  | process path r =>
      have hrun : ws.process fs path r = (_, (Event.process path r).apply ws fs) := rfl
      exact entry_ne_none_of_process hrun hbackup hplace
  | cleanup hours => rwa [Event.apply, h.entry_of_cleanup hspares.1 hspares.2]
  | pause duration => exact hplace

/-- A backup stays through a session that spares it. -/
theorem lasts_of_gentle (h : Young fs q made since) (hbackup : IsBackup q)
    (hplace : fs.entry? q ≠ none) {es : List Event} (hes : Gentle ws q made since fs es) :
    Lasts ws q fs es ∧ entry? (session ws fs es) q ≠ none := by
  induction es generalizing fs with
  | nil => exact ⟨trivial, hplace⟩
  | cons e es ih =>
      obtain ⟨hages, hspares, hrest⟩ := hes
      obtain ⟨hlasts, hend⟩ :=
        ih (h.apply hplace hages) (h.entry_ne_none hbackup hplace hspares) hrest
      exact ⟨⟨hplace, hages, hlasts⟩, hend⟩

/-- A backup that is reported is as old as the file it was made from, or as the report. -/
theorem young_of_backup {report : FileReport} {shown : List Char}
    (hrun : ws.process fs path r = (.ok report, after)) (hbackup : report.backup = some shown) :
    ∃ place k steps q made, ws.locate fs path = .ok place ∧ FirstFree fs place k ∧
      backupPath place k = ws.root ++ steps ∧ shown = joined steps ∧
      fs.locate (backupPath place k) = .ok q ∧ fs.modified? place = some made ∧
      Young after q made fs.now ∧ (IsBackup q → after.entry? q ≠ none) := by
  generalize hresult : (Except.ok report : Except Stop FileReport) = result at hrun
  have hcourse := course_of_process hrun
  have hnow := now_process hrun
  cases hcourse with
  | astray stop locate => cases hresult
  | unseen place fault locate isFile => cases hresult
  | unread place failure locate load =>
      cases hresult
      cases hbackup
  | aborted place text abort locate load apply => cases hresult
  | kept place text outcome locate load apply undue =>
      cases hresult
      cases hbackup
  | saved place directory q given changed text outcome result after locate load apply due
      file save =>
      cases save with
      | unnamed k fault present => cases hresult
      | outside k mid first copy below => cases hresult
      | warned k fault done after first copy move =>
          cases hresult
          cases done <;> cases hbackup
      | copied k mid steps done after first copy below move =>
          cases hresult
          obtain ⟨b, hb, hnone, rfl⟩ := first.copied_eq file copy
          have hmove := replaced_of_move (first.fileAt_of_copy file copy) move
          have hcopy : entry? (fs.put b (.file given changed)) b = some (.file given changed) :=
            entry_put_self (ne_nil_of_none hnone)
          have hyoung : Young after b changed fs.now := by
            refine ⟨Int.le_of_eq hnow.symm, fun bytes time hx => ?_⟩
            rcases hmove.file_cases hx with hold | htime
            · rw [hcopy] at hold
              cases hold
              exact Or.inl (Int.le_refl _)
            · exact Or.inr (Int.le_of_eq htime.symm)
          refine ⟨place, k, steps, b, changed, locate, first, below, ?_, hb,
            modified_eq_some.mpr ⟨q, given, file.locate, file.file⟩, hyoung, fun hbackup =>
              ?_⟩
          · cases done <;> exact (Option.some.inj hbackup).symm
          · exact hmove.entry_ne_none (by simp [hcopy]) (ne_temporary hbackup directory place)

/-- **Which backups a cleanup spares.**  When work on a file reports a backup, then at any later
point of a session through which the backup stays and is not aged, a cleanup leaves it alone if
neither the time since the work nor the time since the file was changed before the work exceeds
the hours.  And unless the backup was made through a link, only another cleanup can take it away
before. -/
theorem cleanup_spares_young_backups {report : FileReport} {shown : List Char}
    (hrun : ws.process fs path r = (.ok report, after)) (hbackup : report.backup = some shown) :
    ∃ place k steps q made, ws.locate fs path = .ok place ∧ FirstFree fs place k ∧
      backupPath place k = ws.root ++ steps ∧ shown = joined steps ∧
      fs.locate (backupPath place k) = .ok q ∧ fs.modified? place = some made ∧
      (∀ (es : List Event) (hours : Binary64), Lasts ws q after es →
        exceeds ((session ws after es).now - made) hours = false →
        exceeds ((session ws after es).now - fs.now) hours = false →
        entry? (ws.cleanup (session ws after es) hours).2 q = entry? (session ws after es) q) ∧
      (fs.own (backupPath place k) = .ok q → ∀ es, Gentle ws q made fs.now after es →
        Lasts ws q after es ∧ entry? (session ws after es) q ≠ none) := by
  obtain ⟨place, k, steps, q, made, hlocate, hfirst, hsteps, hshown, hq, hmade, hyoung,
    hplace⟩ :=
    young_of_backup hrun hbackup
  refine ⟨place, k, steps, q, made, hlocate, hfirst, hsteps, hshown, hq, hmade, ?_, ?_⟩
  · exact fun es hours hes hm hs => (hyoung.session hes).entry_of_cleanup hm hs
  · intro hown es hes
    have hbackup := isBackup_of_own hown
    exact lasts_of_gentle hyoung hbackup (hplace hbackup) hes

/-- A session in which the file is checked and aged and another file is put beside it. -/
def busySession : List Event :=
  [.pause 3599999990, .process "a".toList { mode := .check },
    .age ["w".toList, "a".toList] 0, .put ["w".toList, "d".toList, "c".toList] (.file []),
    .cleanup (.ofInt 2)]

/-- An hour later, a backup of a file that was new is still there when backups older than an hour
are removed. -/
theorem cleanup_spares_spaced :
    let ws : Workspace := { root := ["w".toList] }
    let backup : Path := ["w".toList, "a.yamlmend.backup".toList]
    let before := session ws (repairSpaced []).2 busySession
    repairSpaced [] = (.ok (.processed spacedReport), (repairSpaced []).2) ∧
      (FileReport.processed spacedReport).backup = some "a.yamlmend.backup".toList ∧
      Lasts ws backup (repairSpaced []).2 busySession ∧
      exceeds (before.now - 0) (.ofInt 1) = false ∧
      exceeds (before.now - (spacedFile []).now) (.ofInt 1) = false ∧
      entry? (ws.cleanup before (.ofInt 1)).2 backup = entry? before backup ∧
      (spacedFile []).own backup = .ok backup ∧
      Gentle ws backup 0 (spacedFile []).now (repairSpaced []).2 busySession ∧
      entry? before backup ≠ none := by
  intro ws backup before
  have hrun : repairSpaced [] = (.ok (.processed spacedReport), (repairSpaced []).2) := by
    decide +kernel
  have hlasts : Lasts ws backup (repairSpaced []).2 busySession := by decide +kernel
  have hgentle : Gentle ws backup 0 (spacedFile []).now (repairSpaced []).2 busySession := by
    decide +kernel
  have hmade : exceeds (before.now - 0) (.ofInt 1) = false := by decide +kernel
  have hsince : exceeds (before.now - (spacedFile []).now) (.ofInt 1) = false := by
    decide +kernel
  obtain ⟨place, k, steps, q, made, hlocate, hfirst, -, -, hq, htime, hspares, hstays⟩ :=
    cleanup_spares_young_backups hrun rfl
  have hplace : ws.locate (spacedFile []) "a".toList = .ok ["w".toList, "a".toList] := by
    decide +kernel
  rw [hplace] at hlocate
  cases hlocate
  -- The first name is free, so no other one is the first that is.
  have hfree : (spacedFile []).isPresent backup = .ok false := by decide +kernel
  obtain rfl : k = 0 := by
    by_contra hk
    have htaken := hfirst.taken 0 (Nat.pos_of_ne_zero hk)
    rw [show backupPath ["w".toList, "a".toList] 0 = backup by decide, hfree] at htaken
    cases htaken
  have hbackup : (spacedFile []).locate backup = .ok backup := by decide +kernel
  rw [show backupPath ["w".toList, "a".toList] 0 = backup by decide, hbackup] at hq
  cases hq
  have hzero : (spacedFile []).modified? ["w".toList, "a".toList] = some 0 := by decide +kernel
  rw [hzero] at htime
  cases htime
  have hown : (spacedFile []).own backup = .ok backup := by decide +kernel
  exact ⟨hrun, rfl, hlasts, hmade, hsince, hspares busySession _ hlasts hmade hsince,
    hown, hgentle, (hstays hown busySession hgentle).2⟩

/-- A file that was last changed two hundred hours ago is repaired, and a cleanup at the same moment
removes the backup as older than a week. -/
theorem fresh_backup_removed :
    let ws : Workspace := { root := ["w".toList] }
    let backup : Path := ["w".toList, "a.yamlmend.backup".toList]
    let fs := { spacedFile [] with now := 200 * 3600000000 }
    let done := ws.process fs "a".toList { write := true }
    done.1 = .ok (.processed spacedReport) ∧ done.2.now = fs.now ∧
      done.2.read backup = .ok (Text.Utf8.encode "b \n".toList) ∧
      (ws.cleanup done.2 defaultAge).1 = 1 ∧
      (ws.cleanup done.2 defaultAge).2.isPresent backup = .ok false := by
  decide +kernel

end Workspace
end YamlTidy
