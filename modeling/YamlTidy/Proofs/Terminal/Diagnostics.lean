import YamlTidy.Proofs.Terminal.Markup
import YamlTidy.Proofs.Terminal.Panels

/-!
# What is wrong, as it is shown

A message about a text may quote the text, and it is shown as markup.  Where it holds nothing that
looks like a closing tag or a color of three parts, it is shown somehow.  Where it is inert and
fits, the panel shows it character for character.  Otherwise brackets are taken for tags and words
between colons for emoji, and a closing tag that closes nothing, a handler that cannot be read or
a color without a number in it ends the presentation with nothing shown.

Main statement: `diagnostics_shown`.
-/

namespace YamlTidy
namespace Presentation

open Terminal Text

variable {message title : List Char} {width inner : Nat}

/-- What stands in front of the description in a notice. -/
def icon (success : Bool) : List Char :=
  [if success then '✅' else '❌', ' ']

/-- The words for the style of a notice's title. -/
def titleStyle (success : Bool) : List Char :=
  "bold ".toList ++ (if success then "green" else "red").toList

theorem styleWords_titleStyle (success : Bool) : StyleWords (titleStyle success) := by
  cases success with
  | false => exact StyleWords.failure
  | true => exact StyleWords.success

theorem mem_icon {success : Bool} {c : Char} (h : c ∈ icon success) :
    c = '✅' ∨ c = '❌' ∨ c = ' ' := by
  revert h
  cases success <;> simp [icon] <;> tauto

theorem icon_ne (success : Bool) : ∀ c ∈ icon success, c ≠ '[' ∧ c ≠ '\\' := by
  intro c hc
  rcases mem_icon hc with rfl | rfl | rfl <;> decide

/-- A notice is a panel for its title and its description, each between tags of its style. -/
theorem notice_eq (width : Nat) (success : Bool) (title message : List Char) :
    notice width success title message =
      (plain (tagged (titleStyle success) title)).bind fun t =>
        (plain (icon success ++ tagged "bold".toList message)).map fun text =>
          printed width (fitPanel width t text) := by
  have hnotice : notice width success title message =
      (plain (tagged (titleStyle success) title)).bind fun t =>
        (plain (icon success ++ tagged "bold".toList message)).bind fun text =>
          .ok (printed width (fitPanel width t text)) := rfl
  rw [hnotice]
  cases plain (icon success ++ tagged "bold".toList message) <;> rfl

/-! ## Inert texts -/

/-- A text without brackets, colons and what does not reach the terminal is inert. -/
theorem inert_of_no_sign {s : List Char}
    (h : s.all (fun c => c != '[' && c != ':' && !isSilent c) = true) : Inert s := by
  have hs : ∀ c ∈ s, c ≠ '[' ∧ c ≠ ':' ∧ isSilent c = false := by
    intro c hc
    simpa [and_assoc] using List.all_eq_true.mp h c hc
  constructor
  · intro t ht
    cases htag : tagAt? t with
    | none => rfl
    | some found =>
        have hmem := (tagAt_eq_some.mp htag).within.subset List.mem_cons_self
        exact absurd rfl (hs _ (ht.subset hmem)).1
  · intro hwithin
    exact absurd rfl (hs '[' (hwithin.subset (by simp))).1
  · intro name hwithin
    exact absurd rfl (hs ':' (hwithin.subset List.mem_cons_self)).2.1
  · intro c hc
    exact (hs c hc).2.2

theorem inert_icon (success : Bool) : Inert (icon success) := by
  refine inert_of_no_sign ?_
  cases success <;> decide +kernel

/-- What is wrong is a panel under a title of its own. -/
theorem diagnostic_eq (width : Nat) (text message : List Char) (position : Option Position) :
    diagnostic width (.invalid text message position) =
      (plain message).map fun shown =>
        printed width (textPanel width (some "Error".toList) shown) := by
  have herror : Inert "Error".toList := inert_of_no_sign (by decide)
  have hmarkup : "[bold red]Error[/bold red]".toList =
      [] ++ tagged "bold red".toList "Error".toList := by decide
  have htitle : plain ([] ++ tagged "bold red".toList "Error".toList) =
    .ok ([] ++ "Error".toList) :=
    herror.plain_tagged_eq (by decide) (by simp) (inert_of_no_sign (by simp)) StyleWords.failure
  rw [← hmarkup, List.nil_append] at htitle
  unfold diagnostic
  dsimp only
  rw [htitle]
  cases plain message <;> rfl

/-! ## Messages that are shown -/

theorem exists_diagnostic (h : Faultless message) (width : Nat) (text : List Char)
    (position : Option Position) :
    ∃ shown, diagnostic width (.invalid text message position) = .ok shown := by
  obtain ⟨shown, hshown⟩ := exists_plain h
  exact ⟨_, by rw [diagnostic_eq, hshown]; rfl⟩

theorem exists_title (h : Faultless title) (success : Bool) :
    ∃ t, plain (tagged (titleStyle success) title) = .ok t := by
  have htitle : ∃ t, plain ([] ++ tagged (titleStyle success) title) = .ok t :=
    exists_plain_tagged (by simp) (styleWords_titleStyle success) h
  exact htitle

theorem exists_notice (htitle : Faultless title) (hmessage : Faultless message) (width : Nat)
    (success : Bool) : ∃ shown, notice width success title message = .ok shown := by
  obtain ⟨t, ht⟩ := exists_title htitle success
  obtain ⟨text, htext⟩ := exists_plain_tagged (icon_ne success) StyleWords.bold hmessage
  exact ⟨_, by rw [notice_eq, ht, htext]; rfl⟩

/-! ## Messages that are shown as they are -/

theorem exists_first_row (success : Bool) (message : List Char) :
    ∃ row ∈ rows (icon success ++ message), 0 < cells row := by
  have hwidth : (if success then '✅' else '❌') ≠ joiner ∧
      (if success then '✅' else '❌') ≠ emojiSelector ∧
        cellWidth (if success then '✅' else '❌') ≠ 0 := by
    cases success <;> decide +kernel
  have hline : (if success then '✅' else '❌') ≠ '\n' := by cases success <;> decide
  obtain ⟨row, more, -, hrows⟩ := rows_cons hline (' ' :: message)
  rw [icon, List.cons_append, List.singleton_append, hrows]
  refine ⟨_, List.mem_cons_self, ?_⟩
  rw [cells, cellsBehind_cons hwidth.1 hwidth.2.1 hwidth.2.2]
  omega

theorem diagnostic_of_inert (h : Inert message) (hfits : Fitting inner message)
    (hinner : 0 < inner) (text : List Char) (position : Option Position) :
    diagnostic (inner + 4) (.invalid text message position) =
      .ok (printed (inner + 4) [upperSide (inner + 4) (some "Error".toList)] ++
        framed inner message ++
        printed (inner + 4) ['╰' :: bar '─' (inner + 2) ++ ['╯']]) := by
  rw [diagnostic_eq, h.plain_eq]
  exact congrArg Except.ok (printed_textPanel hfits hinner (Nat.le_refl _) _)

theorem notice_of_inert (h : Inert message) (hlast : message.getLast? ≠ some '\\')
    (hends : ∀ c ∈ message, isLineEnd c = true → c = '\n') (htitle : Faultless title)
    (success : Bool) (hfits : Fitting inner (icon success ++ message)) (hinner : 0 < inner) :
    ∃ t room, plain (tagged (titleStyle success) title) = .ok t ∧
      notice (inner + 4) success title message =
        .ok (printed (inner + 4) [upperSide (room + 4) (some t)] ++
          framed room (icon success ++ message) ++
            printed (inner + 4) ['╰' :: bar '─' (room + 2) ++ ['╯']]) := by
  obtain ⟨t, ht⟩ := exists_title htitle success
  have htext := h.plain_tagged_eq hlast (icon_ne success) (inert_icon success) StyleWords.bold
  have hicon : ∀ c ∈ icon success, isLineEnd c = true → c = '\n' := by
    intro c hc
    rcases mem_icon hc with rfl | rfl | rfl <;> decide
  have hends' : ∀ c ∈ icon success ++ message, isLineEnd c = true → c = '\n' := fun c hc =>
    (List.mem_append.mp hc).elim (hicon c) (hends c)
  obtain ⟨row, hrow, hcells⟩ := exists_first_row success message
  have hwidest := cells_le_widest hends' hrow
  obtain ⟨room, hpanel⟩ := printed_fitPanel hfits hends' (by omega) hinner t
  refine ⟨t, room, ht, ?_⟩
  rw [notice_eq, ht, htext]
  exact congrArg Except.ok hpanel

/-- **What is wrong is shown as it is when markup finds nothing in it.**  A message in which no
opening bracket stands in front of a slash and no color of three parts begins is always shown, at
any width, as the description of a notice as well.  Where markup leaves the message alone and its
rows fit, the panel shows each row between its borders, character for character.  A notice does
so, too, unless a backslash at the end of the message takes the tag behind it along or something
else than line feeds ends lines. -/
theorem diagnostics_shown (text message : List Char) (position : Option Position) :
    (Faultless message →
      (∀ width, ∃ shown, diagnostic width (.invalid text message position) = .ok shown) ∧
      ∀ title, Faultless title → ∀ width success, ∃ shown,
        notice width success title message = .ok shown) ∧
    (Inert message → ∀ inner, 0 < inner → Fitting inner message →
      diagnostic (inner + 4) (.invalid text message position) =
        .ok (printed (inner + 4) [upperSide (inner + 4) (some "Error".toList)] ++
          framed inner message ++
            printed (inner + 4) ['╰' :: bar '─' (inner + 2) ++ ['╯']])) ∧
    (Inert message → message.getLast? ≠ some '\\' →
      (∀ c ∈ message, isLineEnd c = true → c = '\n') →
      ∀ inner title success, 0 < inner → Faultless title →
        Fitting inner (icon success ++ message) →
        ∃ t room, plain (tagged (titleStyle success) title) = .ok t ∧
          notice (inner + 4) success title message =
            .ok (printed (inner + 4) [upperSide (room + 4) (some t)] ++
              framed room (icon success ++ message) ++
                printed (inner + 4) ['╰' :: bar '─' (room + 2) ++ ['╯']])) := by
  refine ⟨fun h => ⟨fun width => exists_diagnostic h width text position, ?_⟩, ?_, ?_⟩
  · intro title htitle width success
    exact exists_notice htitle h width success
  · intro h inner hinner hfits
    exact diagnostic_of_inert h hfits hinner text position
  · intro h hlast hends inner title success hinner htitle hfits
    exact notice_of_inert h hlast hends htitle success hfits hinner

/-- The message on an alias without an anchor. -/
def aliasMessage : List Char :=
  "found undefined alias 'a' (line 1, col 1)".toList

theorem inert_aliasMessage : Inert aliasMessage :=
  inert_of_no_sign (by decide)

theorem fitting_aliasMessage : Fitting 46 (icon false ++ aliasMessage) :=
  ⟨by decide +kernel, by decide +kernel, by decide +kernel⟩

theorem isLineEnd_aliasMessage : ∀ c ∈ aliasMessage, isLineEnd c = false := by
  have hall : aliasMessage.all (fun c => !isLineEnd c) = true := by decide
  intro c hc
  simpa using List.all_eq_true.mp hall c hc

/-- That message is shown in a narrow terminal, and as it is in one that is wide enough. -/
theorem diagnostics_shown_of_alias :
    Gate.check "*a\n".toList = .ok (.invalid "*a\n".toList aliasMessage (some ⟨1, 1⟩)) ∧
      (∃ shown, diagnostic 20 (.invalid "*a\n".toList aliasMessage (some ⟨1, 1⟩)) =
        .ok shown) ∧
      (∃ upper lower,
        diagnostic (46 + 4) (.invalid "*a\n".toList aliasMessage (some ⟨1, 1⟩)) =
        .ok (upper ++ framed 46 aliasMessage ++ lower)) ∧
      ∃ room upper lower, notice (46 + 4) false "Invalid YAML".toList aliasMessage =
        .ok (upper ++ framed room (icon false ++ aliasMessage) ++ lower) := by
  have hgate : Gate.check "*a\n".toList =
      .ok (.invalid "*a\n".toList aliasMessage (some ⟨1, 1⟩)) := by decide +kernel
  have hfits : Fitting 46 aliasMessage :=
    ⟨by decide +kernel, by decide +kernel, by decide +kernel⟩
  obtain ⟨hsome, hpanel, hnotice⟩ :=
    diagnostics_shown "*a\n".toList aliasMessage (some ⟨1, 1⟩)
  have hends : ∀ c ∈ aliasMessage, isLineEnd c = true → c = '\n' := fun c hc hend => by
    rw [isLineEnd_aliasMessage c hc] at hend
    cases hend
  obtain ⟨t, room, -, hroom⟩ := hnotice inert_aliasMessage (by decide +kernel) hends 46
    "Invalid YAML".toList false (by decide +kernel) (by decide +kernel) fitting_aliasMessage
  exact ⟨hgate, (hsome (by decide +kernel)).1 20,
    ⟨_, _, hpanel inert_aliasMessage 46 (by decide +kernel) hfits⟩,
    room, _, _, hroom⟩

/-- A word that stands for no number is quoted in the message on it.  Where it looks like a
closing tag nothing is shown at all, and where it looks like an opening tag it is left out. -/
theorem quoted_words_as_tags :
    let front := "cannot construct value: invalid literal for int() with base 10: ".toList
    let closing := front ++ "'[/x]'".toList
    let opening := front ++ "'[b]'".toList
    Gate.check "!!int \"[/x]\"\n".toList =
      .ok (.invalid "!!int \"[/x]\"\n".toList closing none) ∧
      Gate.check "!!int \"[b]\"\n".toList =
        .ok (.invalid "!!int \"[b]\"\n".toList opening none) ∧
      diagnostic 80 (.invalid "!!int \"[/x]\"\n".toList closing none) =
        .error (.unmatched "[/x]".toList 65) ∧
      diagnostic 80 (.invalid "!!int \"[b]\"\n".toList opening none) =
        .ok (printed 80 (textPanel 80 (some "Error".toList) (front ++ "''".toList))) := by
  intro front closing opening
  have hpieces : piecesFrom 0 0 [] closing =
      [.plain (front ++ ['\'']), .tag 65 "/x".toList, .plain ['\'']] := by decide +kernel
  have hunmatched : openBehind [] 65 "/x".toList = .error (.unmatched "[/x]".toList 65) :=
    openBehind_unmatched (by decide) (by decide) (by decide) 65
  have hclosing : plain closing = .error (.unmatched "[/x]".toList 65) := by
    rw [plain, hpieces, shownFrom, shownFrom, hunmatched]
    rfl
  have hopening : plain opening = .ok (front ++ "''".toList) := by decide +kernel
  refine ⟨by decide +kernel, by decide +kernel, ?_, ?_⟩
  · rw [diagnostic_eq, hclosing, Except.map]
  · rw [diagnostic_eq, hopening, Except.map]

end Presentation
end YamlTidy
