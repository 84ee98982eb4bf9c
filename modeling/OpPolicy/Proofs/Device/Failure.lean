import OpPolicy.Proofs.Shell.Reply
import OpPolicy.Proofs.Text.Split

set_option autoImplicit false

/-!
What a failed adb command comes to. The error text names a missing device where it can be cut into
the words of such a report, and the first place where it can decides
(`Output.missingDevice?_eq_some_iff`). So every reply is of one class and of one only
(`Shell.replies_classified`).
-/

namespace OpPolicy

namespace Text

/-- What keeps two words apart: blanks, at least one. -/
def Gap (w : List Char) : Prop := w ≠ [] ∧ AllBlank w

end Text

namespace Output

/-- Where a text reports that a device was not found: what stands before the report, and the
device's serial. -/
def ReportsMissing (text before serial : List Char) : Prop :=
  ∃ w₁ w₂ w₃ after, Text.Gap w₁ ∧ Text.Gap w₂ ∧ Text.Gap w₃ ∧ serial ≠ [] ∧ '\x27' ∉ serial ∧
    text = before ++ "device".toList ++ w₁ ++ '\x27' :: serial ++ '\x27' :: w₂ ++ "not".toList ++
      w₃ ++ "found".toList ++ after

section Here
variable {s serial : List Char}

/-- A word that comes after a gap. -/
theorem exists_skipBlanks?_iff {word : List Char} (dark : ∃ c ∈ word.head?, Text.isBlank c = false)
    (rest : List Char) :
    (∃ t, skipBlanks? s = some t ∧ word.isPrefixOf? t = some rest) ↔
      ∃ w, Text.Gap w ∧ s = w ++ (word ++ rest) := by
  obtain ⟨first, starts, dark⟩ := dark
  simp only [List.isPrefixOf?_eq_some_iff_append_eq]
  constructor
  · rintro ⟨_, skipped, rfl⟩
    cases s with
    | nil => cases skipped
    | cons c s =>
      rw [skipBlanks?] at skipped
      split at skipped
      · next blank =>
        have start : s.dropWhile Text.isBlank = word ++ rest := Option.some.inj skipped
        refine ⟨c :: s.takeWhile Text.isBlank, ⟨List.cons_ne_nil _ _, ?_⟩, ?_⟩
        · exact List.forall_mem_cons.mpr ⟨blank, fun e mem => List.mem_takeWhile_imp mem⟩
        · rw [List.cons_append, ← start, List.takeWhile_append_dropWhile]
      · cases skipped
  · rintro ⟨w, ⟨filled, blank⟩, rfl⟩
    obtain ⟨c, w, rfl⟩ := List.exists_cons_of_ne_nil filled
    obtain ⟨here, blank⟩ := List.forall_mem_cons.mp blank
    have head : (word ++ rest).head? = some first := by rw [List.head?_append, starts]; rfl
    refine ⟨_, ?_, rfl⟩
    rw [List.cons_append, skipBlanks?, if_pos here, Text.trimStart_append blank,
      Text.trimStart_of_head (by simp [head, dark])]

/-- A text up to a character, and what follows that character. -/
theorem takeWhile_eq_and_isPrefixOf?_iff {q : Char} {front : List Char} (rest : List Char) :
    s.takeWhile (· ≠ q) = front ∧ [q].isPrefixOf? (s.dropWhile (· ≠ q)) = some rest ↔
      q ∉ front ∧ s = front ++ ([q] ++ rest) := by
  rw [List.isPrefixOf?_eq_some_iff_append_eq]
  constructor
  · rintro ⟨rfl, split⟩
    refine ⟨fun mem => by simpa using List.mem_takeWhile_imp mem, ?_⟩
    rw [split, List.takeWhile_append_dropWhile]
  · rintro ⟨absent, rfl⟩
    have all : ∀ c ∈ front, decide (c ≠ q) = true := fun c mem =>
      decide_eq_true fun same => absent (same ▸ mem)
    rw [List.takeWhile_append_of_pos all, List.dropWhile_append_of_pos all]
    simp

theorem missingDeviceHere?_eq_some_iff :
    missingDeviceHere? s = some serial ↔ ReportsMissing s [] serial := by
  have dark : (∃ c ∈ ['\x27'].head?, Text.isBlank c = false) ∧
      (∃ c ∈ "not".toList.head?, Text.isBlank c = false) ∧
      ∃ c ∈ "found".toList.head?, Text.isBlank c = false :=
    ⟨⟨_, rfl, rfl⟩, ⟨_, rfl, rfl⟩, _, rfl, rfl⟩
  obtain ⟨dark₁, dark₂, dark₃⟩ := dark
  unfold missingDeviceHere? ReportsMissing
  generalize "device".toList = device at *
  generalize "not".toList = no at *
  generalize "found".toList = found at *
  simp only [Option.bind_eq_bind, Option.pure_def, Option.bind_eq_some_iff, List.nil_append]
  constructor
  · rintro ⟨t, start, t₁, skip₁, t₂, quote, read⟩
    split at read
    · cases read
    · next filled =>
      simp only [Option.bind_eq_some_iff, Option.some.injEq] at read
      obtain ⟨t₃, quote', t₄, skip₂, t₅, word₂, t₆, skip₃, after, word₃, same⟩ := read
      obtain ⟨w₁, gap₁, rfl⟩ := (exists_skipBlanks?_iff dark₁ _).mp ⟨t₁, skip₁, quote⟩
      rw [same] at filled
      obtain ⟨absent, rfl⟩ := (takeWhile_eq_and_isPrefixOf?_iff _).mp ⟨same, quote'⟩
      obtain ⟨w₂, gap₂, rfl⟩ := (exists_skipBlanks?_iff dark₂ _).mp ⟨t₄, skip₂, word₂⟩
      obtain ⟨w₃, gap₃, rfl⟩ := (exists_skipBlanks?_iff dark₃ _).mp ⟨t₆, skip₃, word₃⟩
      refine ⟨w₁, w₂, w₃, after, gap₁, gap₂, gap₃, filled, absent, ?_⟩
      simp [← List.isPrefixOf?_eq_some_iff_append_eq.mp start]
  · rintro ⟨w₁, w₂, w₃, after, gap₁, gap₂, gap₃, filled, absent, rfl⟩
    let rest₃ := w₃ ++ (found ++ after)
    let rest₂ := w₂ ++ (no ++ rest₃)
    obtain ⟨t₆, skip₃, word₃⟩ := (exists_skipBlanks?_iff dark₃ after).mpr ⟨w₃, gap₃, rfl⟩
    obtain ⟨t₄, skip₂, word₂⟩ := (exists_skipBlanks?_iff dark₂ rest₃).mpr ⟨w₂, gap₂, rfl⟩
    obtain ⟨same, quote'⟩ := (takeWhile_eq_and_isPrefixOf?_iff rest₂).mpr ⟨absent, rfl⟩
    obtain ⟨t₁, skip₁, quote⟩ :=
      (exists_skipBlanks?_iff dark₁ (serial ++ (['\x27'] ++ rest₂))).mpr ⟨w₁, gap₁, rfl⟩
    refine ⟨_, List.isPrefixOf?_eq_some_iff_append_eq.mpr ?_, t₁, skip₁, _, quote, ?_⟩
    · simp only [rest₂, rest₃, List.append_assoc, List.cons_append, List.nil_append]
    rw [if_neg (by rwa [same])]
    simp only [Option.bind_eq_some_iff]
    exact ⟨_, quote', t₄, skip₂, _, word₂, t₆, skip₃, _, word₃, congrArg some same⟩

end Here

section Search
variable {c : Char} {s before before' serial serial' : List Char}

/-- A report with no other before it. -/
def FirstReport (text before serial : List Char) : Prop :=
  ReportsMissing text before serial ∧
    ∀ before' serial', ReportsMissing text before' serial' → before.length ≤ before'.length

theorem reportsMissing_iff_exists_rest :
    ReportsMissing s before serial ↔
      ∃ rest, s = before ++ rest ∧ missingDeviceHere? rest = some serial := by
  simp only [missingDeviceHere?_eq_some_iff]
  constructor
  · rintro ⟨w₁, w₂, w₃, after, gap₁, gap₂, gap₃, filled, absent, rfl⟩
    refine ⟨_, ?_, w₁, w₂, w₃, after, gap₁, gap₂, gap₃, filled, absent, rfl⟩
    simp only [List.append_assoc, List.nil_append]
  · rintro ⟨_, rfl, w₁, w₂, w₃, after, gap₁, gap₂, gap₃, filled, absent, rfl⟩
    exact ⟨w₁, w₂, w₃, after, gap₁, gap₂, gap₃, filled, absent,
      by simp only [List.append_assoc, List.nil_append]⟩

theorem not_reportsMissing_nil : ¬ ReportsMissing [] before serial := by
  rw [reportsMissing_iff_exists_rest]
  rintro ⟨rest, split, found⟩
  obtain ⟨rfl, rfl⟩ := List.append_eq_nil_iff.mp split.symm
  cases found

/-- A report stands at the start, or it is one of the text that follows. -/
theorem reportsMissing_cons_iff :
    ReportsMissing (c :: s) before serial ↔
      before = [] ∧ missingDeviceHere? (c :: s) = some serial ∨
        ∃ rest, before = c :: rest ∧ ReportsMissing s rest serial := by
  simp only [reportsMissing_iff_exists_rest, List.cons_eq_append_iff]
  constructor
  · rintro ⟨rest, ⟨rfl, rfl⟩ | ⟨tail, rfl, rfl⟩, found⟩
    · exact .inl ⟨rfl, found⟩
    · exact .inr ⟨tail, rfl, rest, rfl, found⟩
  · rintro (⟨rfl, found⟩ | ⟨tail, rfl, rest, rfl, found⟩)
    · exact ⟨_, .inl ⟨rfl, rfl⟩, found⟩
    · exact ⟨rest, .inr ⟨tail, rfl, rfl⟩, found⟩

theorem firstReport_of_here (here : missingDeviceHere? s = some serial) : FirstReport s [] serial :=
  ⟨missingDeviceHere?_eq_some_iff.mp here, fun _ _ _ => Nat.zero_le _⟩

/-- Before a report no serial is left to choose. -/
theorem ReportsMissing.serial_unique (report : ReportsMissing s before serial)
    (report' : ReportsMissing s before serial') : serial = serial' := by
  obtain ⟨rest, rfl, found⟩ := reportsMissing_iff_exists_rest.mp report
  obtain ⟨rest', same, found'⟩ := reportsMissing_iff_exists_rest.mp report'
  rw [← List.append_cancel_left same, found] at found'
  exact Option.some.inj found'

theorem FirstReport.unique (first : FirstReport s before serial)
    (first' : FirstReport s before' serial') : before = before' ∧ serial = serial' := by
  obtain ⟨report, least⟩ := first
  obtain ⟨report', least'⟩ := first'
  have length : before.length = before'.length :=
    Nat.le_antisymm (least _ _ report') (least' _ _ report)
  obtain ⟨rest, split, -⟩ := reportsMissing_iff_exists_rest.mp report
  obtain ⟨rest', split', -⟩ := reportsMissing_iff_exists_rest.mp report'
  obtain ⟨rfl, -⟩ := List.append_inj (split.symm.trans split') length
  exact ⟨rfl, report.serial_unique report'⟩

theorem firstReport_cons_iff (elsewhere : missingDeviceHere? (c :: s) = none) :
    FirstReport (c :: s) before serial ↔
      ∃ rest, before = c :: rest ∧ FirstReport s rest serial := by
  simp only [FirstReport, reportsMissing_cons_iff, elsewhere, reduceCtorEq, and_false, false_or]
  constructor
  · rintro ⟨⟨rest, rfl, report⟩, least⟩
    exact ⟨rest, rfl, report, fun rest' serial' report' =>
      Nat.le_of_succ_le_succ (least _ _ ⟨rest', rfl, report'⟩)⟩
  · rintro ⟨rest, rfl, report, least⟩
    refine ⟨⟨rest, rfl, report⟩, ?_⟩
    rintro _ serial' ⟨rest', rfl, report'⟩
    exact Nat.succ_le_succ (least _ _ report')

theorem missingDevice?_eq_some_iff :
    missingDevice? s = some serial ↔ ∃ before, FirstReport s before serial := by
  induction s with
  | nil => simp [missingDevice?, FirstReport, not_reportsMissing_nil]
  | cons c s ih =>
    rw [missingDevice?]
    cases here : missingDeviceHere? (c :: s) with
    | some own =>
      constructor
      · rintro ⟨⟩
        exact ⟨[], firstReport_of_here here⟩
      · rintro ⟨before, first⟩
        exact congrArg some ((firstReport_of_here here).unique first).2
    | none =>
      simp only [ih, firstReport_cons_iff here]
      exact ⟨fun ⟨rest, first⟩ => ⟨c :: rest, rest, rfl, first⟩,
        fun ⟨_, rest, _, first⟩ => ⟨rest, first⟩⟩

theorem missingDevice?_eq_none_iff :
    missingDevice? s = none ↔ ∀ before serial, ¬ ReportsMissing s before serial := by
  induction s with
  | nil => simp [missingDevice?, not_reportsMissing_nil]
  | cons c s ih =>
    rw [missingDevice?]
    cases here : missingDeviceHere? (c :: s) with
    | some own =>
      have report : ReportsMissing (c :: s) [] own := missingDeviceHere?_eq_some_iff.mp here
      exact iff_of_false (Option.some_ne_none own) fun none => none [] own report
    | none =>
      simp only [ih, reportsMissing_cons_iff, here, reduceCtorEq, and_false, false_or]
      refine ⟨?_, fun none before serial report => none _ serial ⟨before, rfl, report⟩⟩
      rintro none _ serial ⟨before, rfl, report⟩
      exact none before serial report

end Search

end Output

/-- The number that stands for the way a command ended. -/
def Exit.status : Exit → Int
  | .code n => n
  | .signal _ => -1

namespace Output

theorem failure_eq (o : Output) :
    o.failure =
      .commandFailed o.exit.status (String.ofList (Text.trim (Utf8.lossy o.stderr))) := by
  rw [failure, code?, stderrText]
  cases o.exit <;> rfl

end Output

namespace Shell

/-- What a reply to an adb command comes to. -/
inductive Classified : Reply → Except Error Output → Prop
  | unsent (e : IoError) : Classified (.error e) (.error (.io e))
  | succeeded {o : Output} (zero : o.exit = .code 0) : Classified (.ok o) (.ok o)
  | noDevice {o : Output} (failed : o.exit ≠ .code 0)
      (absent : "no devices/emulators".toList <:+: Utf8.lossy o.stderr) :
      Classified (.ok o) (.error .noAdbDevice)
  | notFound {o : Output} {before serial : List Char} (failed : o.exit ≠ .code 0)
      (present : ¬ "no devices/emulators".toList <:+: Utf8.lossy o.stderr)
      (first : Output.FirstReport (Utf8.lossy o.stderr) before serial) :
      Classified (.ok o) (.error (.adbDeviceNotFound (String.ofList serial)))
  | otherwise {o : Output} (failed : o.exit ≠ .code 0)
      (present : ¬ "no devices/emulators".toList <:+: Utf8.lossy o.stderr)
      (unreported :
        ∀ before serial, ¬ Output.ReportsMissing (Utf8.lossy o.stderr) before serial) :
      Classified (.ok o) (.error
        (.commandFailed o.exit.status (String.ofList (Text.trim (Utf8.lossy o.stderr)))))

theorem classified_checkedReply (r : Reply) : Classified r (checkedReply r) := by
  cases r with
  | error e => exact .unsent e
  | ok o =>
    simp only [checkedReply, Output.checkedByAdb, Output.ok, Output.stderrText, decide_eq_true_eq,
      Text.contains_iff]
    split
    · next zero => exact .succeeded zero
    next failed =>
    split
    · next absent => exact .noDevice failed absent
    next present =>
    cases missing : Output.missingDevice? (Utf8.lossy o.stderr) with
    | some serial =>
      obtain ⟨before, first⟩ := Output.missingDevice?_eq_some_iff.mp missing
      exact .notFound failed present first
    | none =>
      dsimp only
      rw [Output.failure_eq]
      exact .otherwise failed present (Output.missingDevice?_eq_none_iff.mp missing)

/-- A reply is of one class only. -/
theorem Classified.unique {r : Reply} {v v' : Except Error Output} (classified : Classified r v)
    (classified' : Classified r v') : v = v' := by
  cases classified with
  | unsent e => cases classified'; rfl
  | succeeded zero =>
    cases classified' with
    | succeeded => rfl
    | noDevice failed | notFound failed | otherwise failed => exact absurd zero failed
  | noDevice failed absent =>
    cases classified' with
    | succeeded zero => exact absurd zero failed
    | noDevice => rfl
    | notFound _ present | otherwise _ present => exact absurd absent present
  | notFound failed present first =>
    cases classified' with
    | succeeded zero => exact absurd zero failed
    | noDevice _ absent => exact absurd absent present
    | notFound _ _ first' => rw [(first.unique first').2]
    | otherwise _ _ unreported => exact absurd first.1 (unreported _ _)
  | otherwise failed present unreported =>
    cases classified' with
    | succeeded zero => exact absurd zero failed
    | noDevice _ absent => exact absurd absent present
    | notFound _ _ first => exact absurd first.1 (unreported _ _)
    | otherwise => rfl

/-- A command is sent once, and its reply is of one class only. It is handed on as it is just when
the command ran and exited with zero. Where a first report begins, no serial is left to choose. -/
theorem replies_classified {σ : Type} (device : String → σ → Reply × σ) (w : σ) (cmd : String) :
    let p := (checked cmd).play device w
    p.asked = [cmd] ∧ p.world = (device cmd w).2 ∧
    (∀ v, p.value = v ↔ Classified (device cmd w).1 v) ∧
    (∀ o, p.value = .ok o ↔ (device cmd w).1 = .ok o ∧ o.exit = .code 0) ∧
    ∀ text before serial before' serial', Output.FirstReport text before serial →
      Output.FirstReport text before' serial' → before = before' ∧ serial = serial' := by
  refine ⟨rfl, rfl, fun v => ?_, fun o => checkedReply_eq_ok_iff, ?_⟩
  · constructor
    · rintro rfl
      exact classified_checkedReply (device cmd w).1
    · exact (classified_checkedReply (device cmd w).1).unique
  · intro text before serial before' serial' first first'
    exact first.unique first'

end Shell

end OpPolicy
