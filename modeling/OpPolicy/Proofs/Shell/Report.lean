import Mathlib.Data.List.Forall2
import Mathlib.Data.List.Nodup
import OpPolicy.Proofs.Op.Table
import OpPolicy.Proofs.Shell.Reply
import OpPolicy.Proofs.Text.Split

set_option autoImplicit false

/-!
What the device's report on an op comes to. A report is made of lines that each are an entry on some
op, for the whole uid or for the package, or say nothing of any op (`ReportLine.IsShown`). An entry
counts if it is on the op that was asked about, by whichever of its names it is printed, and if its
mode is known (`mode?_readLine`); of those that count the last does, and the uid's goes before the
package's unless it is the default (`ShellAuthority.mode_in_effect`).
-/

namespace OpPolicy.ShellAuthority

section Names

/-- A name without the `OP_` that it starts with, if it does. -/
def IsShort (name short : List Char) : Prop :=
  name = "OP_".toList ++ short ∨ name = short ∧ ¬ "OP_".toList <+: name

/-- A text is the name of an op as reports print it: the short one, as it is or after `OP_`. -/
def PrintsName (row : OpRow) (printed : List Char) : Prop :=
  ∃ short, IsShort row.name.toList short ∧ (printed = short ∨ printed = "OP_".toList ++ short)

theorem bareName_append (s : List Char) : bareName ("OP_".toList ++ s) = s := by
  rw [bareName, List.isPrefixOf?_eq_some_iff_append_eq.mpr rfl, Option.getD_some]

theorem bareName_of_not {s : List Char} (start : ¬ "OP_".toList <+: s) : bareName s = s := by
  rw [bareName, Text.isPrefixOf?_eq_none_iff.mpr start, Option.getD_none]

theorem isShort_iff {name short : List Char} : IsShort name short ↔ bareName name = short := by
  constructor
  · rintro (rfl | ⟨rfl, start⟩)
    · exact bareName_append short
    · exact bareName_of_not start
  · rintro rfl
    by_cases start : "OP_".toList <+: name
    · obtain ⟨rest, rfl⟩ := start
      rw [bareName_append]
      exact .inl rfl
    · exact .inr ⟨(bareName_of_not start).symm, start⟩

/-- The characters that names of ops are made of. -/
def isNameChar (c : Char) : Bool := ('A'.toNat ≤ c.toNat && c.toNat ≤ 'Z'.toNat) || c == '_'

theorem dark_of_isNameChar {c : Char} (h : isNameChar c = true) :
    c ≠ ':' ∧ Text.isBlank c = false := by
  rcases Bool.or_eq_true_iff.mp h with upper | under
  · have range : 65 ≤ c.toNat ∧ c.toNat ≤ 90 := by simpa using upper
    refine ⟨fun colon => ?_, ?_⟩
    · subst colon
      exact absurd range (by decide)
    · simp only [Text.isBlank, Bool.or_eq_false_iff, Bool.and_eq_false_iff, decide_eq_false_iff_not,
        beq_eq_false_iff_ne]
      omega
  · rw [eq_of_beq under]
    decide

theorem named {row : OpRow} (known : row ∈ Catalogue.rows) :
    (∀ c ∈ row.name.toList, isNameChar c = true) ∧
      ¬ "OP_".toList <+: bareName row.name.toList := by
  have all : Catalogue.rows.all (fun row => row.name.toList.all isNameChar &&
      !"OP_".toList.isPrefixOf (bareName row.name.toList)) = true := by decide +kernel
  have own := List.all_eq_true.mp all row known
  simp only [Bool.and_eq_true, List.all_eq_true, Bool.not_eq_true', ← Bool.not_eq_true,
    List.isPrefixOf_iff_prefix] at own
  exact own

theorem nodup_bareNames : (Catalogue.rows.map (bareName ·.name.toList)).Nodup := by
  decide +kernel

variable {row row' : OpRow} {printed : List Char}

/-- Names that are printed are told from each other without the `OP_` that may stand in front. -/
theorem printsName_iff (known : row ∈ Catalogue.rows) :
    PrintsName row printed ↔ bareName printed = bareName row.name.toList := by
  unfold PrintsName
  simp only [isShort_iff, exists_eq_left']
  constructor
  · rintro (rfl | rfl)
    · exact bareName_of_not (named known).2
    · exact bareName_append _
  · intro same
    rw [← same]
    by_cases start : "OP_".toList <+: printed
    · obtain ⟨rest, rfl⟩ := start
      rw [bareName_append]
      exact .inr rfl
    · exact .inl (bareName_of_not start).symm

theorem isNameChar_of_printsName (known : row ∈ Catalogue.rows) (prints : PrintsName row printed) :
    ∀ c ∈ printed, isNameChar c = true := by
  have lead : ∀ c ∈ "OP_".toList, isNameChar c = true :=
    List.all_eq_true.mp (by decide)
  obtain ⟨short, isShort, form⟩ := prints
  have own : ∀ c ∈ short, isNameChar c = true := by
    have all := (named known).1
    rcases isShort with full | ⟨full, -⟩
    · rw [full] at all
      exact fun c mem => all c (List.mem_append_right _ mem)
    · rwa [full] at all
  rcases form with rfl | rfl
  · exact own
  · intro c mem
    rcases List.mem_append.mp mem with mem | mem
    · exact lead c mem
    · exact own c mem

theorem eq_of_printsName (known : row ∈ Catalogue.rows) (known' : row' ∈ Catalogue.rows)
    (prints : PrintsName row' printed) :
    bareName printed = bareName row.name.toList ↔ row' = row := by
  rw [(printsName_iff known').mp prints]
  constructor
  · exact fun same => List.inj_on_of_nodup_map nodup_bareNames known' known same
  · rintro rfl
    rfl

end Names

section Lines

/-- A line of a report: an entry on an op, for the whole uid or for the package, and the word in the
place of its mode, or a line that is on no op. -/
inductive ReportLine where
  | entry (forUid : Bool) (row : OpRow) (word : List Char)
  | other

/-- A text that is no entry: it has no colon, or what stands before the first one is no name of an
op, the blanks around it left aside. -/
def Silent (s : List Char) : Prop :=
  ':' ∉ s ∨ ∃ before after, s = before ++ ':' :: after ∧ ':' ∉ before ∧
    ∀ row ∈ Catalogue.rows, ¬ PrintsName row (Text.trim before)

/-- The title of an entry for the whole uid. -/
def title : List Char := "Uid mode:".toList

theorem title_eq : title = ['U', 'i', 'd', ' ', 'm', 'o', 'd', 'e', ':'] := by decide

theorem trimmed_title : Text.Trimmed title := by
  rw [title_eq]
  simp [Text.Trimmed, Text.isBlank]

/-- What the device prints as a line of a report. -/
inductive ReportLine.IsShown : ReportLine → List Char → Prop
  | entry {forUid : Bool} {row : OpRow} {printed word tail line : List Char}
      (known : row ∈ Catalogue.rows) (prints : PrintsName row printed) (filled : word ≠ [])
      (oneWord : ∀ c ∈ word, c ≠ ';' ∧ Text.isBlank c = false)
      (ended : ∀ c ∈ tail.head?, c = ';' ∨ Text.isBlank c = true)
      (framed : Text.Framed ((if forUid then title ++ [' '] else []) ++
        (printed ++ ": ".toList ++ word ++ tail)) line) :
      IsShown (.entry forUid row word) line
  | other {line : List Char} (untitled : ¬ title <+: Text.trim line)
      (silent : Silent (Text.trim line)) : IsShown .other line
  | otherTitled {line rest : List Char} (titled : Text.trim line = title ++ rest)
      (silent : Silent rest) : IsShown .other line

/-- The mode that a line gives an op, for the uid or for the package; an entry with a word that is
no mode's name does not count. -/
def ReportLine.mode? (forUid : Bool) (row : OpRow) : ReportLine → Option Mode
  | .entry titled row' word =>
    if titled = forUid ∧ row' = row then Mode.ofName? (String.ofList word) else none
  | .other => none

/-- A line without the title, and whether it had one. -/
def body (line : List Char) : Bool × List Char :=
  match title.isPrefixOf? (Text.trim line) with
  | some rest => (true, Text.trim rest)
  | none => (false, Text.trim line)

theorem body_of_titled {line rest : List Char} (titled : Text.trim line = title ++ rest) :
    body line = (true, Text.trim rest) := by
  rw [body, List.isPrefixOf?_eq_some_iff_append_eq.mpr titled.symm]

theorem body_of_untitled {line : List Char} (untitled : ¬ title <+: Text.trim line) :
    body line = (false, Text.trim line) := by
  rw [body, Text.isPrefixOf?_eq_none_iff.mpr untitled]

/-- The mode that is said of an op, for the uid or for the package. -/
def Said.mode? (forUid : Bool) : Said → Option Mode
  | .uidMode mode => if forUid then some mode else none
  | .packageMode mode => if forUid then none else some mode
  | .nothing | .unknown .. => none

variable {opName line name rest : List Char} {titled forUid : Bool}

/-- What a line says of an op, read from what is left without the title. -/
def readBody (opName : List Char) (forUid : Bool) (line : List Char) : Said :=
  match Text.splitFirst? [':'] line with
  | none => .nothing
  | some (name, rest) =>
    if bareName (Text.trim name) = bareName opName then
      match Mode.ofName? (String.ofList (modeWord rest)) with
      | none => .unknown (modeWord rest) line
      | some mode => if forUid then .uidMode mode else .packageMode mode
    else .nothing

theorem readLine_eq : readLine opName line = readBody opName (body line).1 (body line).2 := by
  unfold readLine body title
  dsimp only
  cases "Uid mode:".toList.isPrefixOf? (Text.trim line) <;> rfl

theorem mode?_readLine_of_colon (parts : body line = (titled, name ++ ':' :: rest))
    (first : ':' ∉ name) :
    (readLine opName line).mode? forUid =
      if titled = forUid ∧ bareName (Text.trim name) = bareName opName then
        Mode.ofName? (String.ofList (modeWord rest))
      else none := by
  have cut : Text.splitFirst? [':'] (body line).2 = some (name, rest) :=
    Text.splitFirst?_eq_some_iff.mpr ⟨congrArg Prod.snd parts, first⟩
  have flag : (body line).1 = titled := congrArg Prod.fst parts
  rw [readLine_eq, readBody, cut, flag]
  by_cases same : bareName (Text.trim name) = bareName opName
  · simp only [same, if_true, and_true]
    cases Mode.ofName? (String.ofList (modeWord rest)) <;> cases titled <;> cases forUid <;> rfl
  · simp only [same, if_false, and_false]
    rfl

theorem readLine_of_colonless (colonless : ':' ∉ (body line).2) :
    readLine opName line = .nothing := by
  rw [readLine_eq, readBody, Text.splitFirst?_eq_none_iff.mpr colonless]

theorem silent_trim {s : List Char} (silent : Silent s) : Silent (Text.trim s) := by
  rcases silent with colonless | ⟨before, after, rfl, first, unnamed⟩
  · exact .inl fun mem => colonless (Text.trim_subset s mem)
  · refine .inr ⟨Text.trimStart before, Text.trimEnd after, Text.trim_cut (by decide) _ _, ?_, ?_⟩
    · exact fun mem => first ((List.dropWhile_sublist _).subset mem)
    · rwa [Text.trim_trimStart]

theorem mode?_readLine_of_silent {row : OpRow} (known : row ∈ Catalogue.rows)
    (silent : Silent (body line).2) : (readLine row.name.toList line).mode? forUid = none := by
  rcases silent with colonless | ⟨before, after, split, first, unnamed⟩
  · rw [readLine_of_colonless colonless]
    rfl
  · rw [mode?_readLine_of_colon (Prod.ext rfl split) first, if_neg]
    rintro ⟨-, same⟩
    exact unnamed row known ((printsName_iff known).mpr same)

theorem modeWord_word {word tail : List Char} (filled : word ≠ [])
    (oneWord : ∀ c ∈ word, c ≠ ';' ∧ Text.isBlank c = false)
    (ended : ∀ c ∈ tail.head?, c = ';' ∨ Text.isBlank c = true) :
    modeWord (Text.trimEnd (' ' :: (word ++ tail))) = word := by
  have trimmed : Text.Trimmed word := Text.trimmed_of_dark fun c mem => (oneWord c mem).2
  have blank : Text.AllBlank [' '] := by simp [Text.AllBlank, Text.isBlank]
  have text : Text.trim (' ' :: (word ++ tail)) = word ++ Text.trimEnd tail :=
    Text.trim_append blank filled trimmed
  rw [modeWord, Text.trim_trimEnd, text, List.takeWhile_append_of_pos]
  · obtain ⟨rest, split⟩ := Text.trimEnd_isPrefix tail
    cases stays : Text.trimEnd tail with
    | nil => simp
    | cons c s =>
      -- what is left of the tail starts as the tail does
      have first : c ∈ tail.head? := by rw [← split, stays]; rfl
      rcases ended c first with semicolon | blank
      · simp [semicolon]
      · simp [blank]
  · intro c mem
    simp [oneWord c mem]

theorem trimmed_of_names {printed : List Char} (names : ∀ c ∈ printed, isNameChar c = true) :
    Text.Trimmed printed :=
  Text.trimmed_of_dark fun c mem => (dark_of_isNameChar (names c mem)).2

/-- Names do not start as the title does. -/
theorem untitled_of_names {printed rest : List Char}
    (names : ∀ c ∈ printed, isNameChar c = true) : ¬ title <+: printed ++ ':' :: rest := by
  rw [title_eq]
  intro start
  match printed with
  | [] => exact absurd (List.cons_prefix_cons.mp start).1 (by decide)
  | [c] =>
    obtain ⟨-, start⟩ := List.cons_prefix_cons.mp start
    exact absurd (List.cons_prefix_cons.mp start).1 (by decide)
  | c :: d :: printed =>
    -- the second character of the title is in no name
    obtain ⟨-, start⟩ := List.cons_prefix_cons.mp start
    obtain ⟨rfl, -⟩ := List.cons_prefix_cons.mp start
    exact absurd (names 'i' (by simp)) (by decide)

theorem body_of_entry {forUid : Bool} {printed rest : List Char}
    (names : ∀ c ∈ printed, isNameChar c = true)
    (framed : Text.Framed ((if forUid then title ++ [' '] else []) ++
      (printed ++ ':' :: rest)) line) :
    body line = (forUid, printed ++ ':' :: Text.trimEnd rest) := by
  have start : Text.trimStart printed = printed :=
    Text.trimStart_of_head (trimmed_of_names names).1
  have cut (before : List Char) : Text.trim (before ++ ':' :: rest) =
      Text.trimStart before ++ ':' :: Text.trimEnd rest := Text.trim_cut (by decide) _ _
  cases forUid with
  | false =>
    have text : Text.trim line = printed ++ ':' :: Text.trimEnd rest := by
      rw [Text.trim_framed framed, if_neg Bool.false_ne_true, List.nil_append, cut, start]
    rw [body_of_untitled (text ▸ untitled_of_names names), text]
  | true =>
    have text : Text.trim line = title ++ Text.trimEnd (' ' :: (printed ++ ':' :: rest)) := by
      rw [Text.trim_framed framed, if_pos rfl, List.append_assoc]
      have blank : Text.AllBlank [] := fun c mem => absurd mem List.not_mem_nil
      exact Text.trim_append blank (List.cons_ne_nil _ _) trimmed_title
    -- the blank after the title goes when the rest is trimmed once more
    have gap : Text.trimStart (' ' :: printed) = printed :=
      (Text.trimStart_append (by simp [Text.isBlank] : ∀ c ∈ [' '], _)).trans start
    rw [body_of_titled text, Text.trim_trimEnd, ← List.cons_append, cut, gap]

/-- A line that is shown says of an op what the report's line does. -/
theorem mode?_readLine {row : OpRow} (known : row ∈ Catalogue.rows) {item : ReportLine}
    (shown : item.IsShown line) :
    (readLine row.name.toList line).mode? forUid = item.mode? forUid row := by
  cases shown with
  | @entry titled row' printed word tail line known' prints filled oneWord ended framed =>
    have names := isNameChar_of_printsName known' prints
    have text : printed ++ ": ".toList ++ word ++ tail =
        printed ++ ':' :: ' ' :: (word ++ tail) := by simp
    rw [text] at framed
    have first : ':' ∉ printed := fun mem => (dark_of_isNameChar (names _ mem)).1 rfl
    have trimmed : Text.Trimmed printed := trimmed_of_names names
    rw [mode?_readLine_of_colon (body_of_entry names framed) first,
      modeWord_word filled oneWord ended, Text.trim_of_trimmed trimmed]
    simp only [eq_of_printsName known known' prints, ReportLine.mode?]
  | other untitled silent =>
    have own : Silent (body line).2 := by rwa [body_of_untitled untitled]
    exact mode?_readLine_of_silent known own
  | otherTitled titled silent =>
    have own : Silent (body line).2 := by
      rw [body_of_titled titled]
      exact silent_trim silent
    exact mode?_readLine_of_silent known own

end Lines

section Reports

theorem add_eq (report : OpReport) (said : Said) :
    report.add said =
      ⟨said.mode? true <|> report.uidMode, said.mode? false <|> report.packageMode⟩ := by
  cases said <;> rfl

/-- Of the modes that a report gives, the last one is kept, for the uid and for the package. -/
theorem foldl_add (said : List Said) :
    said.foldl OpReport.add {} = ⟨(said.filterMap (·.mode? true)).getLast?,
      (said.filterMap (·.mode? false)).getLast?⟩ := by
  -- from the end, where the line stands that wins
  induction said using List.reverseRecOn with
  | nil => rfl
  | append_singleton said last ih =>
    have step (forUid : Bool) : ((said ++ [last]).filterMap (·.mode? forUid)).getLast? =
        (last.mode? forUid <|> (said.filterMap (·.mode? forUid)).getLast?) := by
      rw [List.filterMap_append]
      cases given : last.mode? forUid <;> simp [given]
    rw [List.foldl_append, List.foldl_cons, List.foldl_nil, ih, add_eq, step, step]

variable {row : OpRow} {items : List ReportLine} {lines : List (List Char)} {text : List Char}

/-- The last known mode that a report gives an op, for the uid or for the package. -/
def lastMode? (forUid : Bool) (row : OpRow) (items : List ReportLine) : Option Mode :=
  (items.filterMap (·.mode? forUid row)).getLast?

/-- The mode that is in effect by a report: the uid's unless it is the default, then the
package's, then the op's own default. -/
def effectiveMode (row : OpRow) (items : List ReportLine) : Mode :=
  match lastMode? true row items with
  | none | some .default => (lastMode? false row items).getD row.defaultMode
  | some mode => mode

theorem readLine_trim (opName line : List Char) :
    readLine opName (Text.trim line) = readLine opName line := by
  have same : body (Text.trim line) = body line := by rw [body, Text.trim_trim, ← body]
  rw [readLine_eq, readLine_eq, same]

theorem readReport_shown (known : row ∈ Catalogue.rows) (laid : Text.Laid lines text)
    (shown : List.Forall₂ ReportLine.IsShown items lines) :
    readReport row.name text = ⟨lastMode? true row items, lastMode? false row items⟩ := by
  have modes (forUid : Bool) :
      (lines.map (readLine row.name.toList)).filterMap (·.mode? forUid) =
        items.filterMap (·.mode? forUid row) := by
    clear laid
    induction shown with
    | nil => rfl
    | cons head tail ih =>
      rw [List.map_cons, List.filterMap_cons, List.filterMap_cons, mode?_readLine known head, ih]
  rw [readReport, Text.map_lines (readLine_trim _) laid, foldl_add, modes, modes, lastMode?,
    lastMode?]

theorem mode_eq_effectiveMode :
    (OpReport.mode ⟨lastMode? true row items, lastMode? false row items⟩ row.defaultMode) =
      effectiveMode row items := by
  rw [OpReport.mode, effectiveMode]
  cases lastMode? true row items with
  | none => rfl
  | some mode => cases mode <;> rfl

theorem isRefusal_iff {line : List Char} :
    isRefusal line = true ↔ "Error".toList <+: Text.trim line := by
  rw [isRefusal, List.isPrefixOf_iff_prefix, Text.trim]
  constructor
  · rintro ⟨rest, split⟩
    have trimmed : Text.Trimmed "Error".toList := by decide
    rw [← split, Text.trimEnd_append_of_last trimmed.2]
    exact List.prefix_append _ _
  · exact fun start => start.trans (Text.trimEnd_isPrefix _)

theorem run_accepted {cmd : String} {σ : Type} {device : String → σ → Reply × σ} {w : σ}
    {o : Output} (replied : (device cmd w).1 = .ok o) (succeeded : o.exit = .code 0)
    (laid : Text.Laid lines (Utf8.lossy o.stdout))
    (accepted : ∀ line ∈ lines, ¬ "Error".toList <+: Text.trim line) :
    ((run cmd).play device w).value = .ok (Utf8.lossy o.stdout) := by
  have unrefused : (Text.lines (Utf8.lossy o.stdout)).find? isRefusal = none := by
    rw [List.find?_eq_none]
    intro line mem refused
    have mem : Text.trim line ∈ lines.map Text.trim := by
      rw [← Text.map_trim_lines laid]
      exact List.mem_map_of_mem mem
    obtain ⟨own, mem, same⟩ := List.mem_map.mp mem
    exact accepted own mem (same ▸ isRefusal_iff.mp refused)
  rw [play_run, printed_of_succeeded replied succeeded, unrefused]

/-- A report on the camera, with two entries on it. -/
def cameraReport : Output where
  exit := .code 0
  stdout := "Uid mode: CAMERA: ignore\r\n\n  OP_CAMERA: allow; time=+1d\nNo operations.".toList.map
    fun c => UInt8.ofNat c.toNat
  stderr := []

end Reports

end OpPolicy.ShellAuthority
