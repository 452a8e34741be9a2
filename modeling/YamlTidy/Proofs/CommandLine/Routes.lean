import YamlTidy.Proofs.CommandLine.Consent
import YamlTidy.Proofs.Workspace.Sequels

/-!
# Two routes to a file

A command reaches a file by its own path, in the workspace of the file's directory, or by the path
of a directory in which the file is found, in the workspace of that directory.  The two routes
show and log different things, but both come to the same place, and there both ask for the same
consent.

Main statement: `routes_agree`.
-/

namespace YamlTidy
namespace CommandLine

open Files FileSystem Workspace

variable {s : Surroundings} {w : Work} {verbose : Bool} {fs after : FileSystem} {ws : Workspace}
  {place f : Path} {input : Input (List Char)} {goOn : Unit → Ending} {n : Nat} {t : List Char}
  {arguments : List (List Char)}

/-! ## Runs that end with a code -/

/-- A run ends with a code and leaves these files. -/
structure Returns (e : Ending) (n : Nat) (fs : FileSystem) : Prop where
  code : e.finish = .code n
  files : e.files = fs

theorem finish_of_showing {err : List Char} {finish : Finish} {parts : List Presentation.Shown}
    (h : (Ending.showing fs err finish parts).finish = .code n) : finish = .code n := by
  induction parts with
  | nil => exact h
  | cons part rest ih =>
      cases part with
      | error fault => cases h
      | ok text => exact ih h

theorem returns_showing {err : List Char} {code : Nat} {parts : List Presentation.Shown}
    (h : Returns (.showing fs err (.code code) parts) n after) : n = code ∧ after = fs := by
  have hfiles : (Ending.showing fs err (.code code) parts).files = fs :=
    leaves_showing fs err _ parts
  have hcode := finish_of_showing h.code
  cases hcode
  exact ⟨rfl, h.files.symm.trans hfiles⟩

theorem not_returns_stopped {out err : List Char} {stop : Stop} :
    ¬ Returns (.stopped fs out err stop) n after := by
  rintro ⟨hcode, -⟩
  cases hcode

/-- The code of a run in which all goes well or something does not. -/
def codeOf (success : Bool) : Nat :=
  if success then 0 else 1

theorem codeOf_eq_zero {success : Bool} : codeOf success = 0 ↔ success = true := by
  cases success <;> simp [codeOf]

theorem returns_onFile (h : Returns (w.onFile verbose fs ws place) n after) :
    ∃ report, ws.process fs place.name w.request = (.ok report, after) ∧
      n = codeOf report.success := by
  unfold Work.onFile at h
  rcases hrun : ws.process fs place.name w.request with ⟨stop | report, left⟩
  · rw [hrun] at h
    exact absurd h not_returns_stopped
  · rw [hrun] at h
    cases report with
    | failed path failure =>
        obtain ⟨rfl, rfl⟩ := returns_showing h
        exact ⟨_, rfl, rfl⟩
    | processed p =>
        obtain ⟨rfl, rfl⟩ := returns_showing h
        exact ⟨_, rfl, rfl⟩

theorem returns_onFiles (h : Returns (w.onFiles verbose fs ws [f]) n after) :
    ∃ path report, ws.shown f = .ok path ∧
      ws.process fs path w.request = (.ok report, after) ∧
      n = codeOf report.success := by
  unfold Work.onFiles Workspace.forEach at h
  cases hshown : ws.shown f with
  | error stop =>
      simp only [hshown] at h
      exact absurd h not_returns_stopped
  | ok path =>
      rcases hrun : ws.process fs path w.request with ⟨stop | report, left⟩
      · simp only [hshown, hrun] at h
        exact absurd h not_returns_stopped
      · simp only [hshown, hrun, Workspace.forEach] at h
        obtain ⟨rfl, rfl⟩ := returns_showing h
        exact ⟨path, report, rfl, hrun, by simp [codeOf]⟩

/-! ## Consent -/

/-- The user need not be asked, or agrees to a change of one file. -/
def Proceeds (w : Work) (input : Input (List Char)) : Prop :=
  w.needsConsent = true → Confirms 1 input

/-- What is asked makes no difference to how a run ends. -/
theorem returns_question {prompt : List Char} {answered : Input (Option (List Char)) → Ending}
    (h : Returns (Session.run input (.question prompt answered)) n after) :
    Returns (answered (answer input)) n after := by
  cases input <;> exact ⟨h.code, h.files⟩

/-- Behind the question for consent the work goes on, or the run ends with code one and changes
nothing. -/
theorem returns_withConsent (h : Returns ((w.withConsent fs 1 goOn).run input) n after) :
    (Proceeds w input ∧ Returns (goOn ()) n after) ∨
      (¬ Proceeds w input ∧ n = 1 ∧ after = fs) := by
  unfold Work.withConsent at h
  by_cases hneeds : w.needsConsent = true
  · rw [if_pos hneeds] at h
    have hanswered := returns_question h
    cases input with
    | interrupted =>
        refine Or.inr ⟨fun hproceeds => ?_, returns_showing hanswered⟩
        obtain ⟨text, line, hinput, -⟩ := hproceeds hneeds
        cases hinput
    | given text =>
        cases hline : Session.firstLine text with
        | none =>
            rw [answer, hline] at hanswered
            cases hanswered.code
        | some line =>
            simp only [answer, hline] at hanswered
            split at hanswered
            · next hagrees =>
                exact Or.inl ⟨fun _ => ⟨text, line, rfl, hline, agrees_eq_true.mp hagrees⟩,
                  hanswered⟩
            · next hrefuses =>
                refine Or.inr ⟨fun hproceeds => hrefuses ?_, returns_showing hanswered⟩
                obtain ⟨text', line', hinput, hline', hconfirms⟩ := hproceeds hneeds
                cases hinput
                rw [hline] at hline'
                cases hline'
                exact agrees_eq_true.mpr hconfirms
  · rw [if_neg hneeds] at h
    exact Or.inl ⟨fun hno => absurd hno hneeds, h⟩

/-! ## What a command comes to at a place -/

/-- What a command comes to at the place of its file: without consent it ends with code one and
changes nothing, and otherwise code and files follow from the place. -/
def ComesTo (w : Work) (fs : FileSystem) (place : Path) (input : Input (List Char)) (n : Nat)
    (after : FileSystem) : Prop :=
  (Proceeds w input ∧ n = codeOf (sequel w.options fs place w.request).1 ∧
      after = (sequel w.options fs place w.request).2) ∨
    (¬ Proceeds w input ∧ n = 1 ∧ after = fs)

theorem ComesTo.unique {m : Nat} {left : FileSystem} (h : ComesTo w fs place input n after)
    (h' : ComesTo w fs place input m left) : n = m ∧ after = left := by
  rcases h with ⟨hgoes, rfl, rfl⟩ | ⟨hstays, rfl, rfl⟩
  · rcases h' with ⟨-, rfl, rfl⟩ | ⟨hstays, -⟩
    · exact ⟨rfl, rfl⟩
    · exact absurd hgoes hstays
  · rcases h' with ⟨hgoes, -⟩ | ⟨-, rfl, rfl⟩
    · exact absurd hgoes hstays
    · exact ⟨rfl, rfl⟩

theorem ComesTo.eq_zero (h : ComesTo w fs place input n after) (hgoes : Proceeds w input) :
    n = 0 ↔ GoesWell w.options fs place w.request := by
  rcases h with ⟨-, rfl, -⟩ | ⟨hstays, -⟩
  · rw [codeOf_eq_zero, goesWell_iff_sequel]
  · exact absurd hgoes hstays

/-- Work that is done behind the question for consent and reports on the file at a place. -/
theorem comesTo_of_withConsent (ws : Workspace) (hoptions : ws.options = w.options)
    (h : Returns ((w.withConsent fs 1 goOn).run input) n after)
    (hgoOn : Returns (goOn ()) n after → ∃ path report, ws.process fs path w.request =
      (.ok report, after) ∧ n = codeOf report.success ∧
        ∀ q, ws.locate fs path = .ok q → q = place) :
    ComesTo w fs place input n after := by
  rcases returns_withConsent h with ⟨hgoes, hreturns⟩ | hstays
  · obtain ⟨path, report, hrun, rfl, hplace⟩ := hgoOn hreturns
    obtain ⟨q, hq, hsequel⟩ := sequel_of_process hrun
    rw [hplace q hq, hoptions] at hsequel
    exact Or.inl ⟨hgoes, by rw [hsequel], by rw [hsequel]⟩
  · exact Or.inr hstays

theorem ofArguments_eq_onPath
    (harguments : Invocation.ofArguments arguments = .command verbose (.work w))
    (hpath : w.path ≠ ['-']) :
    Session.ofArguments s arguments = (Command.work w).onPath verbose s := by
  have hreads : (Command.work w).reads = false := by simpa [Command.reads] using hpath
  simp only [Session.ofArguments, harguments, Command.session, hreads, Bool.false_eq_true,
    if_false]

/-! ## The route by a directory -/

/-- The path of work leads to a directory in which one file is found. -/
inductive Finds (s : Surroundings) (w : Work) (f : Path) : Prop where
  | intro (place : Path) (ws : Workspace) (notInput : w.path ≠ ['-'])
      (settled : Workspace.settled s.files ((WrittenPath.ofText w.path).fromDirectory s.here) =
        .ok place)
      (isDirectory : s.files.isDirectory place = .ok true)
      (at_ : Workspace.at_ s.files w.options place = .ok ws)
      (discover : ws.discover s.files w.extension Workspace.defaultDepth = .ok [f])

theorem isPresent_of_isDirectory (h : fs.isDirectory place = .ok true) :
    fs.isPresent place = .ok true := by
  unfold FileSystem.isDirectory at h
  unfold isPresent
  cases hstat : fs.stat? place with
  | error fault =>
      rw [hstat] at h
      cases h
  | ok e =>
      rw [hstat] at h
      cases e with
      | none => cases h
      | some e => rfl

/-- A file that is found is below the directory, its path has names that texts give, and leads to a
file. -/
theorem Finds.file (hfiles : Named s.files) (hhere : Spelled s.here) (h : Finds s w f) :
    Spelled f ∧ ∃ place bytes time, s.files.locate f = .ok place ∧
      s.files.entry? place = some (.file bytes time) := by
  obtain ⟨place, ws, -, hsettled, -, hat, hdiscover⟩ := h
  obtain ⟨hbelow, hfile⟩ := file_of_discover hfiles hdiscover List.mem_cons_self
  refine ⟨hbelow.spelled ?_, hfile⟩
  rw [root_of_at hat, settled_eq_ok hsettled]
  exact spelled_resolve (spelled_resolve (spelled_fromDirectory hhere w.path))

/-- A command at a directory in which one file is found. -/
theorem Finds.comesTo (hfiles : Named s.files) (h : Finds s w f)
    (harguments : Invocation.ofArguments arguments = .command verbose (.work w))
    (hreturns : Returns ((Session.ofArguments s arguments).run input) n after) :
    ComesTo w s.files (s.files.resolve f) input n after := by
  obtain ⟨place, ws, hpath, hsettled, hdirectory, hat, hdiscover⟩ := h
  have hbelow := (file_of_discover hfiles hdiscover List.mem_cons_self).1
  have hpresent := isPresent_of_isDirectory hdirectory
  rw [ofArguments_eq_onPath harguments hpath] at hreturns
  simp only [Command.onPath, Command.path, hsettled, hpresent, Command.at_, hdirectory, if_true,
    Work.inDirectory, hat, hdiscover] at hreturns
  refine comesTo_of_withConsent ws (by rw [root_of_at hat]) hreturns fun hdone => ?_
  obtain ⟨path, report, hshown, hrun, hcode⟩ := returns_onFiles hdone
  refine ⟨path, report, hrun, hcode, fun q hq => ?_⟩
  rw [locate_of_shown hbelow hshown] at hq
  exact settled_eq_ok hq

/-! ## The route by the file itself -/

/-- A file stands at the path, no link is on the way to it, and texts can give its names. -/
structure FileStands (fs : FileSystem) (place : Path) : Prop where
  stands : Stands fs place
  spelled : Spelled place
  noUp : up ∉ place
  file : ∃ bytes time, fs.entry? place = some (.file bytes time)

theorem fileStands_of_locate {bytes : List UInt8} {time : Int} (hfiles : Named fs)
    (h : fs.locate f = .ok place) (hfile : fs.entry? place = some (.file bytes time)) :
    FileStands fs place :=
  ⟨stands_of_locate h, (hfiles.path hfile).1, (hfiles.path hfile).2, bytes, time, hfile⟩

namespace FileStands

variable (h : FileStands fs place)
include h

theorem resolve_eq : fs.resolve place = place :=
  resolve_of_stands h.stands h.noUp

theorem resolve_parent : fs.resolve place.parent = place.parent :=
  resolve_of_stands h.stands.parent fun hup => h.noUp (List.dropLast_subset _ hup)

theorem named : place.parent ++ [place.name] = place := by
  obtain ⟨bytes, time, hfile⟩ := h.file
  have hne : place ≠ [] := ne_nil_of_file hfile
  rw [Path.name, List.getLast?_eq_some_getLast hne]
  exact List.dropLast_concat_getLast hne

/-- Only a path that is too long keeps one from telling that the file is there. -/
theorem stat?_cases :
    fs.stat? place = .ok (fs.entry? place) ∨
      fs.stat? place = .error ⟨.nameTooLong, place⟩ := by
  obtain ⟨bytes, time, hfile⟩ := h.file
  have honto : ∀ n ∈ place, Onto n := fun n hn =>
    ⟨fun hup => h.noUp (hup ▸ hn), (h.spelled n hn).ne_stay⟩
  rcases locate_of_stands h.stands honto with hlocate | ⟨-, hlong⟩
  · exact Or.inl (by simp [stat?, stat, hlocate, hfile])
  · exact Or.inr (by simp [stat?, stat, hlong, FileCause.isFault])

/-- In its own directory the name of the file leads to it. -/
theorem locate_name {q : Path} (hroot : ws.root = place.parent)
    (hq : ws.locate fs place.name = .ok q) : q = place := by
  have hmem : place.name ∈ place.parent ++ [place.name] :=
    List.mem_append_right _ List.mem_cons_self
  rw [h.named] at hmem
  have hname : Spelled [place.name] := spelled_singleton (h.spelled _ hmem)
  have hshown : place.name = WrittenPath.text ⟨false, [place.name]⟩ := by
    simp [WrittenPath.text, joined]
  rw [Workspace.locate, hshown, ofText_text hname, hroot] at hq
  have hresolved := settled_eq_ok hq
  simp only [WrittenPath.fromDirectory, Bool.false_eq_true, if_false] at hresolved
  rw [hresolved, h.named, h.resolve_eq]

theorem comesTo_inFile (hreturns : Returns ((w.inFile verbose fs place).run input) n after) :
    ComesTo w fs place input n after := by
  unfold Work.inFile at hreturns
  cases hat : Workspace.at_ fs w.options place.parent with
  | error stop =>
      rw [hat] at hreturns
      exact absurd hreturns not_returns_stopped
  | ok ws =>
      rw [hat] at hreturns
      have hroot := root_of_at hat
      rw [h.resolve_parent] at hroot
      refine comesTo_of_withConsent ws (by rw [hroot]) hreturns fun hdone => ?_
      obtain ⟨report, hrun, hcode⟩ := returns_onFile hdone
      exact ⟨place.name, report, hrun, hcode, fun q hq => h.locate_name (by rw [hroot]) hq⟩

/-- A command at a path that leads to the file. -/
theorem comesTo (hs : s.files = fs) (hpath : w.path ≠ ['-'])
    (hleads : fs.resolve ((WrittenPath.ofText w.path).fromDirectory s.here) = place)
    (harguments : Invocation.ofArguments arguments = .command verbose (.work w))
    (hreturns : Returns ((Session.ofArguments s arguments).run input) n after) :
    ComesTo w fs place input n after := by
  subst hs
  rw [ofArguments_eq_onPath harguments hpath] at hreturns
  cases hsettled : Workspace.settled s.files
    ((WrittenPath.ofText w.path).fromDirectory s.here) with
  | error stop =>
      simp only [Command.onPath, Command.path, hsettled] at hreturns
      exact absurd hreturns not_returns_stopped
  | ok q =>
      obtain rfl : q = place := (settled_eq_ok hsettled).trans hleads
      obtain ⟨bytes, time, hfile⟩ := h.file
      rcases h.stat?_cases with hstat | hlong
      · have hpresent : s.files.isPresent q = .ok true := by
          simp [isPresent, hstat, hfile, Except.map]
        have hnoDirectory : s.files.isDirectory q = .ok false := by
          simp [FileSystem.isDirectory, hstat, hfile, Except.map, Entry.isDirectory]
        simp only [Command.onPath, Command.path, hsettled, hpresent, Command.at_, hnoDirectory,
          Bool.false_eq_true, if_false] at hreturns
        exact h.comesTo_inFile hreturns
      · simp only [Command.onPath, Command.path, hsettled, isPresent, hlong, Except.map]
          at hreturns
        exact absurd hreturns not_returns_stopped

end FileStands

/-! ## Both routes -/

/-- **Both routes agree.**  Where exactly one file is found in a directory, a command at the
directory and the same command at any path that leads to the file leave the same files and end
with the same code, if both end with a code.  Unless consent is needed and not given, the code is
zero exactly when the file can be read, what comes out is valid, and writing it does not fail when
it is due.  All names in the tree and in the current directory are taken to be ones that texts can
give. -/
theorem routes_agree (s : Surroundings) (hfiles : Named s.files) (hhere : Spelled s.here)
    (byDirectory byFile : List (List Char)) (verbose : Bool) (w : Work) (f : Path)
    (t : List Char)
    (hdirectory : Invocation.ofArguments byDirectory = .command verbose (.work w))
    (hfile : Invocation.ofArguments byFile = .command verbose (.work { w with path := t }))
    (hfinds : Finds s w f) (hpath : t ≠ ['-'])
    (hleads : s.files.resolve ((WrittenPath.ofText t).fromDirectory s.here) = s.files.resolve f)
    (input : Input (List Char)) (n m : Nat)
    (hn : ((Session.ofArguments s byDirectory).run input).finish = .code n)
    (hm : ((Session.ofArguments s byFile).run input).finish = .code m) :
    ((Session.ofArguments s byFile).run input).files =
        ((Session.ofArguments s byDirectory).run input).files ∧ m = n ∧
      (Proceeds w input →
        (n = 0 ↔ GoesWell w.options s.files (s.files.resolve f) w.request)) := by
  obtain ⟨hspelled, place, bytes, time, hlocate, hentry⟩ := hfinds.file hfiles hhere
  have hstands := fileStands_of_locate hfiles hlocate hentry
  have hresolve := resolve_of_locate hspelled.stay_notMem hstands.noUp hlocate
  have hbyDirectory := hfinds.comesTo hfiles hdirectory (n := n) ⟨hn, rfl⟩
  have hbyFile : ComesTo w s.files place input m _ :=
    hstands.comesTo (w := { w with path := t }) rfl hpath (hleads.trans hresolve) hfile
      ⟨hm, rfl⟩
  rw [← hresolve] at hbyFile
  obtain ⟨hcode, hleft⟩ := hbyFile.unique hbyDirectory
  exact ⟨hleft, hcode, hbyDirectory.eq_zero⟩

/-- The only file in a directory is repaired in the same way through a link to the directory and
by its own path. -/
theorem routes_agree_on_spaced :
    let s : Surroundings :=
      { files := Workspace.spacedFile [(["l".toList], .link "w".toList)], here := [] }
    let flags := ["--ext".toList, "a".toList, "-w".toList, "-y".toList, "--raw".toList]
    let byDirectory :=
      (Session.ofArguments s ("fix".toList :: "l".toList :: flags)).run .interrupted
    let byFile :=
      (Session.ofArguments s ("fix".toList :: "w/a".toList :: flags)).run .interrupted
    byDirectory.finish = .code 0 ∧ byFile.finish = .code 0 ∧
      byFile.files = byDirectory.files ∧
      GoesWell {} s.files ["w".toList, "a".toList] { write := true } := by
  intro s flags byDirectory byFile
  let w : Work :=
    { mode := .fix, path := "l".toList, extension := "a".toList, raw := true, write := true,
      yes := true }
  have hfiles : Named s.files := by decide +kernel
  have hfinds : Finds s w ["w".toList, "a".toList] :=
    .intro ["w".toList] ⟨["w".toList], {}⟩ (by decide) (by decide +kernel) (by decide +kernel)
      (by decide +kernel) (by decide +kernel)
  -- Both in one evaluation: much of what they show is the same.
  obtain ⟨hdirectory, hfile⟩ : byDirectory.finish = .code 0 ∧ byFile.finish = .code 0 := by
    decide +kernel
  obtain ⟨hsame, -, hwell⟩ := routes_agree s hfiles nofun ("fix".toList :: "l".toList :: flags)
    ("fix".toList :: "w/a".toList :: flags) false w ["w".toList, "a".toList] "w/a".toList
    (by decide +kernel) (by decide +kernel) hfinds (by decide) (by decide +kernel)
      .interrupted 0 0
    hdirectory hfile
  have hplace : s.files.resolve ["w".toList, "a".toList] = ["w".toList, "a".toList] := by
    decide +kernel
  rw [hplace] at hwell
  exact ⟨hdirectory, hfile, hsame, (hwell nofun).mp rfl⟩

end CommandLine
end YamlTidy
