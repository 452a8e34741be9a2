import YamlTidy.CommandLine.Session
import YamlTidy.Proofs.Text.Letters
import YamlTidy.Proofs.Workspace.DryRuns

/-!
# Nothing is written without consent

A run changes files only through work that was asked to write, and such work starts only behind
the flag that agrees beforehand or behind a line that agrees.  Everything else that a run does
leaves the files as they are, whether it ends with a code or with a failure.

Main statement: `files_of_withheld`.
-/

namespace YamlTidy
namespace CommandLine

open Files Text

variable {s : Surroundings} {w : Work} {fs : FileSystem} {ws : Workspace} {place : Path}
  {input : Input (List Char)} {count : Nat} {goOn : Unit → Ending}

/-! ## Answers -/

/-- The line that is typed agrees to changing so many files. -/
def Confirms (count : Nat) (input : Input (List Char)) : Prop :=
  ∃ text line, input = .given text ∧ Session.firstLine text = some line ∧
    if count = 1 then line = ['y'] ∨ line = ['Y'] else line = "CONFIRM".toList

theorem agrees_eq_true {line : List Char} : Work.agrees count line = true ↔
    if count = 1 then line = ['y'] ∨ line = ['Y'] else line = "CONFIRM".toList := by
  unfold Work.agrees
  split
  · rw [beq_iff_eq, toSmall_eq_y]
  · exact beq_iff_eq

/-! ## Endings -/

-- Not an abbreviation: what two endings show is never unfolded to compare the files they leave.
/-- A run ends with these files. -/
def Ending.Leaves (e : Ending) (fs : FileSystem) : Prop :=
  e.files = fs

theorem leaves_showing (fs : FileSystem) (err : List Char) (finish : Finish)
    (parts : List Presentation.Shown) : (Ending.showing fs err finish parts).Leaves fs := by
  induction parts with
  | nil => rfl
  | cons part parts ih =>
      cases part with
      | error fault => rfl
      | ok text => exact ih

theorem leaves_stopped (fs : FileSystem) (out err : List Char) (stop : Stop) :
    (Ending.stopped fs out err stop).Leaves fs := rfl

theorem leaves_onText (w : Work) (verbose : Bool) (fs : FileSystem) (given : List Char) :
    (w.onText verbose fs given).Leaves fs := by
  unfold Work.onText
  dsimp only
  split
  · exact leaves_stopped fs [] _ _
  · exact leaves_showing fs _ _ _

/-! ## Work that needs consent -/

/-- The answer to a question. -/
def answer : Input (List Char) → Input (Option (List Char))
  | .interrupted => .interrupted
  | .given text => .given (Session.firstLine text)

/-- What is asked makes no difference to the files. -/
theorem leaves_question {prompt : List Char} {answered : Input (Option (List Char)) → Ending}
    (h : (answered (answer input)).Leaves fs) :
    (Session.run input (.question prompt answered)).Leaves fs := by
  cases input <;> exact h

/-- Where consent is needed and not given, the work does not start. -/
theorem leaves_of_unconfirmed (hneeds : w.needsConsent = true) (h : ¬ Confirms count input) :
    ((w.withConsent fs count goOn).run input).Leaves fs := by
  unfold Work.withConsent
  rw [if_pos hneeds]
  refine leaves_question ?_
  cases input with
  | interrupted => exact leaves_showing fs [] _ _
  | given text =>
      cases hline : Session.firstLine text with
      | none =>
          rw [answer, hline]
          rfl
      | some line =>
          have hagrees : ¬ Work.agrees count line = true := fun hagrees =>
            h ⟨text, line, rfl, hline, agrees_eq_true.mp hagrees⟩
          simp only [answer, hline, if_neg hagrees]
          exact leaves_showing fs [] _ _

/-- Where consent is not needed, the work decides. -/
theorem leaves_of_needless (hneeds : w.needsConsent = false) (h : (goOn ()).Leaves fs) :
    ((w.withConsent fs count goOn).run input).Leaves fs := by
  unfold Work.withConsent
  rw [if_neg (by simp [hneeds])]
  exact h

/-- Work behind the question for consent leaves the files as they are when consent is withheld. -/
theorem leaves_withConsent (h : w.write = false ∨ w.yes = false ∧ ¬ Confirms count input)
    (hdry : w.write = false → (goOn ()).Leaves fs) :
    ((w.withConsent fs count goOn).run input).Leaves fs := by
  cases hneeds : w.needsConsent with
  | false =>
      refine leaves_of_needless hneeds (hdry ?_)
      rcases h with hwrite | ⟨hyes, -⟩
      · exact hwrite
      · simpa [Work.needsConsent, hyes] using hneeds
  | true =>
      rcases h with hwrite | ⟨-, hconfirms⟩
      · simp [Work.needsConsent, hwrite] at hneeds
      · exact leaves_of_unconfirmed hneeds hconfirms

/-! ## Work that does not write -/

theorem leaves_onFile (hwrite : w.write = false) (verbose : Bool) (fs : FileSystem)
    (ws : Workspace) (place : Path) : (w.onFile verbose fs ws place).Leaves fs := by
  have hfiles : (ws.process fs place.name w.request).2 = fs :=
    Workspace.files_of_idle (Or.inl hwrite)
  unfold Work.onFile
  rcases hrun : ws.process fs place.name w.request with ⟨stop | report, after⟩
  · rw [hrun] at hfiles
    cases hfiles
    exact leaves_stopped _ [] _ stop
  · rw [hrun] at hfiles
    cases hfiles
    cases report with
    | failed path failure => exact leaves_showing _ _ _ _
    | processed p => exact leaves_showing _ _ _ _

/-- What each step of the work on a list keeps, the whole of it keeps. -/
theorem forEach_state {σ : Type} (Keeps : σ → Prop)
    (work : σ → List Char → Except Stop FileReport × σ)
    (hstep : ∀ state path, Keeps state → Keeps (work state path).2) {state : σ}
    (h : Keeps state) (ps : List Path) : Keeps (ws.forEach work state ps).state := by
  induction ps generalizing state with
  | nil => exact h
  | cons p rest ih =>
      unfold Workspace.forEach
      split
      · exact h
      · next path hpath =>
          have hnext := hstep state path h
          rcases hwork : work state path with ⟨stop | report, next⟩
          · rw [hwork] at hnext
            exact hnext
          · rw [hwork] at hnext
            exact ih hnext

theorem leaves_onFiles (hwrite : w.write = false) (verbose : Bool) (fs : FileSystem)
    (ws : Workspace) (targets : List Path) : (w.onFiles verbose fs ws targets).Leaves fs := by
  let work := fun (state : FileSystem × List Journal.Note) path =>
    ((ws.process state.1 path w.request).1,
      ((ws.process state.1 path w.request).2, state.2 ++ Journal.ofFile ws state.1 path w.mode))
  have hstep (state : FileSystem × List Journal.Note) (path : List Char) (hfs : state.1 = fs) :
      (work state path).2.1 = fs := (Workspace.files_of_idle (Or.inl hwrite)).trans hfs
  have hfiles : (ws.forEach work (fs, []) targets).state.1 = fs :=
    forEach_state (fun state => state.1 = fs) work hstep rfl targets
  unfold Work.onFiles
  dsimp only
  split
  · exact hfiles
  · exact Eq.trans (leaves_showing _ _ _ _) hfiles

/-! ## Runs -/

/-- The path of work leads to so many files: to one, or to those that are found in a directory. -/
inductive Targets (s : Surroundings) (w : Work) : Nat → Prop where
  | file (place : Path)
      (settled : Workspace.settled s.files ((WrittenPath.ofText w.path).fromDirectory s.here) =
        .ok place)
      (isFile : s.files.isDirectory place = .ok false) : Targets s w 1
  | directory (place : Path) (ws : Workspace) (targets : List Path)
      (settled : Workspace.settled s.files ((WrittenPath.ofText w.path).fromDirectory s.here) =
        .ok place)
      (isDirectory : s.files.isDirectory place = .ok true)
      (at_ : Workspace.at_ s.files w.options place = .ok ws)
      (discover : ws.discover s.files w.extension Workspace.defaultDepth = .ok targets) :
      Targets s w targets.length

/-- The ways to withhold consent: to give no path of a file, not to ask for writing, or neither to
agree beforehand nor to type what agrees to changing the files that the path leads to. -/
def Withheld (s : Surroundings) (w : Work) (input : Input (List Char)) : Prop :=
  w.path = ['-'] ∨ w.write = false ∨
    w.yes = false ∧ ∀ count, Targets s w count → ¬ Confirms count input

theorem leaves_inFile (verbose : Bool) (place : Path)
    (h : w.write = false ∨ w.yes = false ∧ ¬ Confirms 1 input) :
    ((w.inFile verbose fs place).run input).Leaves fs := by
  unfold Work.inFile
  split
  · exact leaves_stopped fs [] [] _
  · next ws hws =>
      exact leaves_withConsent h fun hwrite => leaves_onFile hwrite verbose fs ws place

theorem leaves_inDirectory (verbose : Bool) (place : Path)
    (h : w.write = false ∨ w.yes = false ∧
      ∀ ws targets, Workspace.at_ fs w.options place = .ok ws →
      ws.discover fs w.extension Workspace.defaultDepth = .ok targets →
      ¬ Confirms targets.length input) :
    ((w.inDirectory verbose fs place).run input).Leaves fs := by
  unfold Work.inDirectory
  split
  · exact leaves_stopped fs [] [] _
  · next ws hws =>
      split
      · exact leaves_stopped fs [] [] _
      · exact leaves_showing fs [] _ _
      · next targets _ htargets =>
          refine leaves_withConsent (h.imp_right fun hno => ?_) fun hwrite =>
            leaves_onFiles hwrite verbose fs ws targets
          exact ⟨hno.1, hno.2 ws targets hws htargets⟩

/-- Work on a path leaves the files as they are when consent is withheld. -/
theorem leaves_onPath (verbose : Bool)
    (h : w.write = false ∨ w.yes = false ∧ ∀ count, Targets s w count →
      ¬ Confirms count input) :
    (((Command.work w).onPath verbose s).run input).Leaves s.files := by
  unfold Command.onPath
  dsimp only
  split
  · exact leaves_stopped s.files [] [] _
  · next place hplace =>
      split
      · exact leaves_stopped s.files [] [] _
      · exact leaves_showing s.files [] _ _
      · unfold Command.at_
        split
        · exact leaves_stopped s.files [] [] _
        · next isDirectory hdirectory =>
            cases isDirectory with
            | false =>
                refine leaves_inFile verbose place (h.imp_right fun hno => ?_)
                exact ⟨hno.1, hno.2 1 (.file place hplace hdirectory)⟩
            | true =>
                refine leaves_inDirectory verbose place (h.imp_right fun hno => ⟨hno.1, ?_⟩)
                exact fun ws targets hws htargets =>
                  hno.2 _ (.directory place ws targets hplace hdirectory hws htargets)

/-- **Nothing is written without consent.**  A run of any command but the one for cleaning, and of
arguments that make no command, leaves all files and directories as they are if consent is withheld,
however it ends. -/
theorem files_of_withheld (s : Surroundings) (arguments : List (List Char))
    (input : Input (List Char))
    (hwork : ∀ verbose c, Invocation.ofArguments arguments = .command verbose c →
      ∃ w, c = .work w ∧ Withheld s w input) :
    ((Session.ofArguments s arguments).run input).files = s.files := by
  change ((Session.ofArguments s arguments).run input).Leaves s.files
  unfold Session.ofArguments
  split
  · next verbose c harguments =>
      obtain ⟨w, rfl, hwithheld⟩ := hwork verbose c harguments
      unfold Command.session
      dsimp only
      split
      · cases input with
        | interrupted => exact leaves_showing s.files [] _ _
        | given text => exact leaves_onText w verbose s.files text
      · next hreads =>
          refine leaves_onPath verbose (hwithheld.resolve_left fun hpath => hreads ?_)
          simp [Command.reads, hpath]
  · rfl
  · rfl
  · rfl

/-- Asked whether to write a repaired file, a user who types a whole word leaves it as it is. -/
theorem files_of_withheld_spaced :
    let s : Surroundings := { files := Workspace.spacedFile [], here := ["w".toList] }
    let arguments := ["fix".toList, "a".toList, "-w".toList, "--raw".toList]
    let w : Work := { mode := .fix, path := "a".toList, raw := true, write := true }
    Invocation.ofArguments arguments = .command false (.work w) ∧
      Withheld s w (.given "yes\n".toList) ∧
      ((Session.ofArguments s arguments).run (.given "yes\n".toList)).files = s.files := by
  intro s arguments w
  have harguments : Invocation.ofArguments arguments = .command false (.work w) := by
    decide +kernel
  have hconfirms (count : Nat) : ¬ Confirms count (.given "yes\n".toList) := by
    rintro ⟨text, line, htext, hline, hagrees⟩
    cases htext
    have hyes : Session.firstLine "yes\n".toList = some "yes".toList := by decide +kernel
    rw [hyes] at hline
    cases hline
    split at hagrees <;> exact absurd hagrees (by decide)
  have hwithheld : Withheld s w (.given "yes\n".toList) :=
    Or.inr (Or.inr ⟨rfl, fun count _ => hconfirms count⟩)
  refine ⟨harguments, hwithheld, files_of_withheld s arguments _ fun verbose c h => ?_⟩
  rw [harguments] at h
  cases h
  exact ⟨w, rfl, hwithheld⟩

end CommandLine
end YamlTidy
