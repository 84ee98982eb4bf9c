import OpPolicy.Device.Adb
import OpPolicy.Host.Machine
import OpPolicy.Proofs.Text.Split
import OpPolicy.Proofs.Text.Words

set_option autoImplicit false

/-!
The roster of connected devices, read back. A row is taken for a connected device if one of its
words, whichever it is, has `device` in it (`Roster.ofOutput_printed`). A device that can be used
says so in its state, so none is missed; but a row that has `device` in its serial or its details is
taken for one in any state, and what is reported is right just when there is no such row
(`Adb.devices_mentioned`).
-/

namespace OpPolicy

namespace Roster

/-- What is printed of a device: its serial, its state, and further details by their keys. -/
structure Row where
  serial : String
  state : String
  details : List (String × String) := []
  deriving DecidableEq

/-- The state of a device that can be used. -/
def usable : String := "device"

namespace Row

def words (r : Row) : List (List Char) :=
  r.serial.toList :: r.state.toList :: r.details.map fun d => d.1.toList ++ ':' :: d.2.toList

/-- One of the words has `device` in it. -/
def Mentions (r : Row) : Prop := ∃ w ∈ r.words, usable.toList <:+: w

instance (r : Row) : Decidable r.Mentions := inferInstanceAs (Decidable (∃ w ∈ r.words, _))

theorem mentions_of_usable {r : Row} (online : r.state = usable) : r.Mentions :=
  ⟨r.state.toList, by simp [words], online ▸ List.infix_rfl⟩

end Row

/-- A header, a row on each line and an empty line at the end. Lines end in either way, and the
words of a row have any number of spaces between them. -/
def Printed (rows : List Row) (text : List Char) : Prop :=
  ∃ header lines, Text.Laid (header :: (lines ++ [[]])) text ∧
    List.Forall₂ (fun r line => Text.Spaced r.words line) rows lines

def heading : List Char := "List of devices attached".toList

/-- The rows as they are usually printed, with the empty line that follows them. -/
def printRows : List Row → List Char
  | [] => ['\n']
  | r :: rows => [' '].intercalate r.words ++ ['\n'] ++ printRows rows

def print (rows : List Row) : List Char := heading ++ ['\n'] ++ printRows rows

theorem printed_print {rows : List Row} (areWords : ∀ r ∈ rows, ∀ w ∈ r.words, Text.IsWord w) :
    Printed rows (print rows) := by
  suffices laid : ∃ lines, Text.Laid (lines ++ [[]]) (printRows rows) ∧
      List.Forall₂ (fun r line => Text.Spaced r.words line) rows lines by
    obtain ⟨lines, laid, spaced⟩ := laid
    exact ⟨heading, lines, .line (by decide) (.inl rfl) laid, spaced⟩
  induction rows with
  | nil => exact ⟨[], @Text.Laid.line [] ['\n'] [] [] List.not_mem_nil (.inl rfl) .nil, .nil⟩
  | cons r rows ih =>
    obtain ⟨head, areWords⟩ := List.forall_mem_cons.mp areWords
    obtain ⟨lines, laid, spaced⟩ := ih areWords
    have row := Text.spaced_intercalate head
    exact ⟨_ :: lines, .line row.newline_not_mem (.inl rfl) laid, .cons row spaced⟩

/-- Some connected devices, of which there has to be one. -/
def report : List String → Except Error (List String)
  | [] => .error .noAdbDevice
  | found => .ok found

theorem report_injective {xs ys : List String} (same : report xs = report ys) : xs = ys := by
  cases xs <;> cases ys <;> cases same <;> rfl

section Rows
variable {r : Row} {rows : List Row} {line text : List Char} {o : Output}

theorem isWord_usable : Text.IsWord usable.toList := by decide

theorem serial?_spaced (spaced : Text.Spaced r.words line) :
    serial? line = if r.Mentions then some r.serial else none := by
  have found : Text.contains line usable.toList = true ↔ r.Mentions := by
    rw [Text.contains_iff, spaced.infix_iff isWord_usable]
    rfl
  have first : Text.firstWord? Text.isAsciiBlank line = some r.serial.toList := spaced.firstWord?
  rw [serial?, first, Option.map_some, String.ofList_toList]
  exact if_congr found rfl rfl

theorem serial?_concat (line : List Char) : serial? (line ++ ['\r']) = serial? line := by
  have apart : ∀ c ∈ ['\r'].head?, c ∉ usable.toList := by
    rintro _ ⟨⟩
    decide
  have same : Text.contains (line ++ ['\r']) usable.toList = Text.contains line usable.toList := by
    rw [Bool.eq_iff_iff, Text.contains_iff, Text.contains_iff, Text.infix_append_iff apart]
    exact or_iff_left (by decide)
  unfold serial?
  rw [← usable, same, Text.firstWord?_concat_of_blank rfl]

theorem filterMap_serial? {lines : List (List Char)}
    (spaced : List.Forall₂ (fun r line => Text.Spaced r.words line) rows lines) :
    lines.filterMap serial? = (rows.filter Row.Mentions).map Row.serial := by
  induction spaced with
  | nil => rfl
  | @cons r line rows lines head _ ih =>
    rw [List.filterMap_cons, serial?_spaced head, ih, List.filter_cons]
    by_cases mentions : r.Mentions
    · rw [if_pos mentions, if_pos (decide_eq_true mentions), List.map_cons]
    · rw [if_neg mentions, if_neg (by simpa using mentions)]

theorem serials_printed (printed : Printed rows text) :
    serials text = (rows.filter Row.Mentions).map Row.serial := by
  obtain ⟨header, lines, laid, spaced⟩ := printed
  rw [serials, Text.filterMap_tail_splitOn serial?_concat rfl laid, List.filterMap_append,
    filterMap_serial? spaced]
  exact List.append_nil _

theorem ofOutput_printed (printed : Printed rows (Utf8.lossy o.stdout)) :
    ofOutput o = report ((rows.filter Row.Mentions).map Row.serial) := by
  rw [ofOutput, Output.stdoutText, serials_printed printed]
  cases (rows.filter Row.Mentions).map Row.serial <;> rfl

/-- The devices that can be used are among those that are mentioned, and these are no more than
that just when no other device is mentioned. -/
theorem map_serial_mentions_iff (rows : List Row) :
    (rows.filter Row.Mentions).map Row.serial =
        (rows.filter fun r => r.state = usable).map Row.serial ↔
      ∀ r ∈ rows, r.Mentions → r.state = usable := by
  have within : (rows.filter fun r => r.state = usable).Sublist (rows.filter Row.Mentions) := by
    apply List.monotone_filter_right
    intro r online
    exact decide_eq_true (Row.mentions_of_usable (of_decide_eq_true online))
  constructor
  · intro same r mem mentions
    have size := congrArg List.length same
    rw [List.length_map, List.length_map] at size
    have found : r ∈ rows.filter Row.Mentions := List.mem_filter.mpr ⟨mem, decide_eq_true mentions⟩
    rw [← within.eq_of_length size.symm] at found
    exact of_decide_eq_true (List.mem_filter.mp found).2
  · intro only
    refine congrArg _ (List.filter_congr fun r mem => ?_)
    exact decide_eq_decide.mpr ⟨only r mem, Row.mentions_of_usable⟩

end Rows

end Roster

namespace Adb
variable {σ : Type} {answer : (q : Host.Question) → σ → q.Answer × σ} {w : σ} {adb : Adb}
  {o : Output} {rows : List Roster.Row}

theorem value_devices (replied : (answer (.run adb.executable ["devices", "-l"]) w).1 = .ok o) :
    (adb.devices.play answer w).value = Roster.ofOutput o := by
  have reply : ((adb.run ["devices", "-l"]).play answer w).value = .ok o := replied
  rw [devices, Dialogue.play_bind]
  simp only [reply]
  rfl

/-- The devices that are reported are those whose rows have `device` in any of their words, in
order, and it is an error if there is none. They are the devices that can be used if and only if no
other row has it. -/
theorem devices_mentioned
    (replied : (answer (.run adb.executable ["devices", "-l"]) w).1 = .ok o)
    (printed : Roster.Printed rows (Utf8.lossy o.stdout)) :
    let value := (adb.devices.play answer w).value
    value = Roster.report ((rows.filter Roster.Row.Mentions).map (·.serial)) ∧
      (value = Roster.report ((rows.filter fun r => r.state = Roster.usable).map (·.serial)) ↔
        ∀ r ∈ rows, r.Mentions → r.state = Roster.usable) := by
  have outcome := (value_devices replied).trans (Roster.ofOutput_printed printed)
  refine ⟨outcome, ?_⟩
  rw [outcome, ← Roster.map_serial_mentions_iff]
  constructor
  · exact Roster.report_injective
  · exact congrArg Roster.report

/-- The output of a program that prints some plain text. -/
def printout (text : List Char) : Output :=
  { Output.silent with stdout := text.map fun c => UInt8.ofNat c.toNat }

/-- A machine with an adb program that prints some text. -/
def rosterMachine (text : List Char) : Host.Machine where
  tree := .directory [("adb", .player)]
  script := [printout text]

theorem replied_rosterMachine (text : List Char) :
    (Host.Machine.answer (.run "/adb" ["devices", "-l"]) (rosterMachine text)).1 =
      .ok (printout text) := by
  have program : (rosterMachine text).resolve "/adb" = .ok ["adb"] :=
    Host.Machine.resolve_of_isAbsolute _ rfl rfl
  have started : (rosterMachine text).startProgram "/adb" = .ok () := by
    rw [Host.Machine.startProgram, if_neg (by decide), if_pos (by decide), Host.Machine.start,
      program]
    rfl
  have plain : ["/adb", "devices", "-l"].any (·.toList.contains '\x00') = false := by decide
  have short : ["/adb", "devices", "-l"].any (Host.Machine.argumentLimit < ·.utf8ByteSize) =
      false := by decide
  simp only [Host.Machine.answer, Host.Machine.run, plain, started, short]
  rfl

/-- Two devices, the second of which cannot be used and does not look as if it could. -/
def oneOnline : List Roster.Row :=
  [⟨"emulator-5554", "device", [("product", "x"), ("device", "z")]⟩,
    ⟨"R58M", "unauthorized", [("transport_id", "2")]⟩]

theorem online_reported :
    Utf8.lossy (printout (Roster.print oneOnline)).stdout = Roster.print oneOnline ∧
      Roster.Printed oneOnline (Roster.print oneOnline) ∧
      ((Adb.devices ⟨"/adb", none⟩).play Host.Machine.answer
        (rosterMachine (Roster.print oneOnline))).value = .ok ["emulator-5554"] := by
  have text : Utf8.lossy (printout (Roster.print oneOnline)).stdout = Roster.print oneOnline := by
    decide +kernel
  have printed : Roster.Printed oneOnline (Roster.print oneOnline) :=
    Roster.printed_print (by decide +kernel)
  have only : ∀ r ∈ oneOnline, r.Mentions → r.state = Roster.usable := by decide +kernel
  refine ⟨text, printed, ?_⟩
  exact (devices_mentioned (replied_rosterMachine _) (text.symm ▸ printed)).2.mpr only

/-- A device that is offline, of which more is known. -/
def oneOffline : List Roster.Row :=
  [⟨"emulator-5554", "offline", [("product", "x"), ("model", "y"), ("device", "z")]⟩]

/-- A device that cannot be used is reported for the name that its details give it. -/
theorem offline_reported :
    Utf8.lossy (printout (Roster.print oneOffline)).stdout = Roster.print oneOffline ∧
      Roster.Printed oneOffline (Roster.print oneOffline) ∧
      Roster.report ((oneOffline.filter fun r => r.state = Roster.usable).map (·.serial)) =
        .error .noAdbDevice ∧
      ((Adb.devices ⟨"/adb", none⟩).play Host.Machine.answer
        (rosterMachine (Roster.print oneOffline))).value = .ok ["emulator-5554"] := by
  have text : Utf8.lossy (printout (Roster.print oneOffline)).stdout = Roster.print oneOffline := by
    decide +kernel
  have printed : Roster.Printed oneOffline (Roster.print oneOffline) :=
    Roster.printed_print (by decide +kernel)
  have mentioned : oneOffline.filter Roster.Row.Mentions = oneOffline := by decide +kernel
  refine ⟨text, printed, rfl, ?_⟩
  rw [value_devices (replied_rosterMachine _), Roster.ofOutput_printed (text.symm ▸ printed),
    mentioned]
  rfl

end Adb

end OpPolicy
