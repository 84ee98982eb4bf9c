import OpPolicy.Host.Machine
import OpPolicy.Host.Session
import OpPolicy.Proofs.Text.Utf8

set_option autoImplicit false

/-!
List files, read. The names of a file are those that stand on its lines before the first line that
is no text, and a file is read to its end just when all of it is text (`Allowlist.read_eq`). So a
file may be cut at a line feed and read in two steps, and the whitelist of a configuration is all of
its list file or nothing (`Allowlist.lists_read_whole`).
-/

namespace OpPolicy

namespace Allowlist

/-- Bytes that are UTF-8. -/
abbrev IsText (bytes : List UInt8) : Prop := (Utf8.strict? bytes).isSome = true

/-- The names on some lines: a name on every line that is neither blank nor a comment. -/
def named (lines : List (List Char)) : List String :=
  ((lines.map Text.trim).filter fun text => text ≠ [] ∧ text.head? ≠ some '#').map String.ofList

/-- The lines of a file before the first that is no text. -/
def sound (lines : List (List UInt8)) : List (List Char) :=
  (lines.takeWhile fun line => IsText line).filterMap Utf8.strict?

/-- The names of a list file. -/
def entries (bytes : List UInt8) : List String := named (sound (bytes.splitOn 10))

section Lines
variable {line : List UInt8} {text : List Char} {lines : List (List UInt8)}

theorem named_append (xs ys : List (List Char)) : named (xs ++ ys) = named xs ++ named ys := by
  rw [named, List.map_append, List.filter_append, List.map_append, named, named]

theorem named_cons (text : List Char) (texts : List (List Char)) :
    named (text :: texts) = (entryOf? text).toList ++ named texts := by
  rw [← List.singleton_append, named_append]
  congr 1
  simp only [named, entryOf?, List.map_cons, List.map_nil, List.filter_singleton]
  by_cases skipped : Text.trim text = [] ∨ (Text.trim text).head? = some '#'
  · rw [if_pos skipped, decide_eq_false (by rwa [← not_or, not_not])]
    rfl
  · rw [if_neg skipped, decide_eq_true (not_or.mp skipped)]
    rfl

theorem sound_cons_of_text (decoded : Utf8.strict? line = some text) :
    sound (line :: lines) = text :: sound lines := by
  rw [sound, List.takeWhile_cons_of_pos (by simp [decoded]), List.filterMap_cons_some decoded,
    sound]

theorem sound_cons_of_none (broken : Utf8.strict? line = none) : sound (line :: lines) = [] := by
  rw [sound, List.takeWhile_cons_of_neg (by simp [broken]), List.filterMap_nil]

theorem sound_append {front rest : List (List UInt8)} (texts : ∀ line ∈ front, IsText line) :
    sound (front ++ rest) = sound front ++ sound rest := by
  induction front with
  | nil => rfl
  | cons line front ih =>
    obtain ⟨here, later⟩ := List.forall_mem_cons.mp texts
    obtain ⟨text, decoded⟩ := Option.isSome_iff_exists.mp here
    rw [List.cons_append, sound_cons_of_text decoded, sound_cons_of_text decoded, ih later,
      List.cons_append]

theorem readLines_eq (lines : List (List UInt8)) :
    readLines lines = (named (sound lines), decide (∀ line ∈ lines, IsText line)) := by
  induction lines with
  | nil => rfl
  | cons line lines ih =>
    rw [readLines]
    cases decoded : Utf8.strict? line with
    | none =>
      have broken : ¬ ∀ own ∈ line :: lines, IsText own := fun texts => by
        simpa [IsText, decoded] using texts line List.mem_cons_self
      rw [sound_cons_of_none decoded, decide_eq_false broken]
      rfl
    | some text =>
      dsimp only
      rw [ih, sound_cons_of_text decoded, named_cons]
      simp [IsText, decoded]

/-- An empty line at the end, or its absence, makes no difference. -/
theorem readLines_concat_nil (lines : List (List UInt8)) :
    readLines (lines ++ [[]]) = readLines lines := by
  induction lines with
  | nil => rfl
  | cons line lines ih => rw [List.cons_append, readLines, readLines, ih]

theorem readLines_rawLines (bytes : List UInt8) :
    readLines (rawLines bytes) = readLines (bytes.splitOn 10) := by
  have filled := List.splitOn_ne_nil 10 bytes
  have last : (bytes.splitOn 10).getLastD [] = (bytes.splitOn 10).getLast filled := by
    rw [List.getLastD_eq_getLast?, List.getLast?_eq_some_getLast filled, Option.getD_some]
  have parts := List.dropLast_concat_getLast filled
  rw [rawLines]
  split
  · next empty =>
    rw [last] at empty
    rw [empty] at parts
    rw [List.append_nil, ← parts, List.dropLast_concat, readLines_concat_nil]
  · rw [last, parts]

end Lines

section Reading
variable {a : Allowlist} {names : List String} {name : String}

theorem isText_iff_lines (bytes : List UInt8) :
    IsText bytes ↔ ∀ line ∈ bytes.splitOn 10, IsText line :=
  Utf8.isSome_strict?_iff_splitOn (by decide) bytes

/-- Reading adds the names of a file, and counts them if all of the file is text. -/
theorem read_eq (a : Allowlist) (bytes : List UInt8) :
    a.read bytes =
      (if IsText bytes then .ok (entries bytes).length else .error .notText,
        a.extend (entries bytes)) := by
  have lines := (readLines_rawLines bytes).trans (readLines_eq _)
  rw [read, lines]
  simp only [decide_eq_true_eq, ← isText_iff_lines, entries]

theorem entries_append {front : List UInt8} (text : IsText front) (rest : List UInt8) :
    entries (front ++ 10 :: rest) = entries front ++ entries rest := by
  have lines := (isText_iff_lines front).mp text
  rw [entries, List.splitOn_append_cons_self, sound_append lines, named_append, entries, entries]

theorem extend_append (a : Allowlist) (xs ys : List String) :
    a.extend (xs ++ ys) = (a.extend xs).extend ys := List.foldl_append

theorem extend_of_subset (known : ∀ name ∈ names, name ∈ a.names) : a.extend names = a := by
  induction names with
  | nil => rfl
  | cons name names ih =>
    obtain ⟨here, later⟩ := List.forall_mem_cons.mp known
    have same : a.insert name = a := dif_pos here
    rw [extend, List.foldl_cons, same]
    exact ih later

theorem read_snd (a : Allowlist) (bytes : List UInt8) :
    (a.read bytes).2 = a.extend (entries bytes) := by rw [read_eq]

theorem read_of_text {bytes : List UInt8} (text : IsText bytes) :
    (a.read bytes).1 = .ok (entries bytes).length := by rw [read_eq, if_pos text]

theorem read_of_not_text {bytes : List UInt8} (broken : ¬ IsText bytes) :
    (a.read bytes).1 = .error .notText := by rw [read_eq, if_neg broken]

theorem mem_read {bytes : List UInt8} :
    name ∈ (a.read bytes).2.names ↔ name ∈ a.names ∨ name ∈ entries bytes := by
  rw [read_snd, mem_names_extend]

/-- To read a file once more adds nothing. -/
theorem read_again (a : Allowlist) (bytes : List UInt8) :
    ((a.read bytes).2.read bytes).2 = (a.read bytes).2 := by
  rw [read_snd, extend_of_subset]
  exact fun name mem => mem_read.mpr (.inr mem)

/-- A file that is cut at a line feed can be read in two steps. -/
theorem read_append {front : List UInt8} (text : IsText front) (a : Allowlist)
    (rest : List UInt8) :
    (a.read (front ++ 10 :: rest)).2 = ((a.read front).2.read rest).2 ∧
      (a.read (front ++ 10 :: rest)).1 =
        ((a.read front).2.read rest).1.map ((entries front).length + ·) := by
  constructor
  · rw [read_snd, read_snd, read_snd, entries_append text, extend_append]
  · have both : IsText (front ++ 10 :: rest) ↔ IsText rest := by
      rw [IsText, Utf8.isSome_strict?_append_ascii (by decide)]
      exact and_iff_right text
    by_cases textRest : IsText rest
    · rw [read_of_text (both.mpr textRest), read_of_text textRest, entries_append text,
        List.length_append]
      rfl
    · rw [read_of_not_text (both.not.mpr textRest), read_of_not_text textRest]
      rfl

end Reading

end Allowlist

namespace Setting
variable {σ : Type} {answer : (q : Question) → σ → q.Answer × σ} {w : σ}
  {packages : Config.Packages} {file path : String}

/-- The whitelist of a configuration whose list file was located. -/
theorem value_whitelist (listed : packages.whitelistFile = some file)
    (located : ((relative file).play answer w).value = .ok path) :
    ((whitelist packages).play answer w).value =
      match (answer (.host (.readFile path)) ((relative file).play answer w).world).1 with
      | .error e => .error (whitelist.unreadable path e)
      | .ok bytes =>
        if Allowlist.IsText bytes then
          .ok ((Allowlist.ofList packages.whitelist).extend (Allowlist.entries bytes))
        else .error (whitelist.unreadable path .notText) := by
  simp only [whitelist, listed, Dialogue.andThen, Dialogue.play_bind, located, Dialogue.play]
  cases (answer (.host (.readFile path)) ((relative file).play answer w).world).1 with
  | error e => rfl
  | ok bytes =>
    dsimp only
    rw [Allowlist.read_eq]
    by_cases text : Allowlist.IsText bytes
    · rw [if_pos text, if_pos text]
      rfl
    · rw [if_neg text, if_neg text]
      rfl

end Setting

/-- A list file adds the names on its lines before the first that is no text, and nothing else. It
is counted if all of its lines are text, and fails otherwise. Cut at a line feed it can be read in
two steps, and read twice it adds nothing. A whitelist is made of the names in the configuration and
all of those in its file, or it fails with that file's name. -/
theorem Allowlist.lists_read_whole :
    (∀ (a : Allowlist) (bytes : List UInt8),
      (∀ name, name ∈ (a.read bytes).2.names ↔ name ∈ a.names ∨ name ∈ entries bytes) ∧
      ((∀ line ∈ bytes.splitOn 10, IsText line) →
        (a.read bytes).1 = .ok (entries bytes).length) ∧
      (∀ line ∈ bytes.splitOn 10, ¬ IsText line → ∃ e, (a.read bytes).1 = .error e) ∧
      ((a.read bytes).2.read bytes).2 = (a.read bytes).2) ∧
    (∀ (a : Allowlist) (front rest : List UInt8), IsText front →
      let first := a.read front
      let second := first.2.read rest
      let whole := a.read (front ++ 10 :: rest)
      whole.2 = second.2 ∧ ∃ n, first.1 = .ok n ∧ whole.1 = second.1.map (n + ·)) ∧
    ∀ {σ : Type} (answer : (q : Setting.Question) → σ → q.Answer × σ) (w : σ)
      (packages : Config.Packages) (file path : String), packages.whitelistFile = some file →
      let located := (Setting.relative file).play answer w
      let value := ((Setting.whitelist packages).play answer w).value
      located.value = .ok path →
      match (answer (.host (.readFile path)) located.world).1 with
      | .error e =>
        value = .error (.invalidConfig path s!"failed to read whitelist file: {e.message}")
      | .ok bytes =>
        (IsText bytes → ∃ all, value = .ok all ∧
          ∀ name, name ∈ all.names ↔ name ∈ packages.whitelist ∨ name ∈ entries bytes) ∧
        (¬ IsText bytes → value = .error (.invalidConfig path
          "failed to read whitelist file: stream did not contain valid UTF-8")) := by
  refine ⟨fun a bytes => ⟨fun name => mem_read, ?_, ?_, read_again a bytes⟩, ?_, ?_⟩
  · intro texts
    exact read_of_text ((isText_iff_lines bytes).mpr texts)
  · intro line mem broken
    have broken : ¬ IsText bytes := fun text => broken ((isText_iff_lines bytes).mp text line mem)
    exact ⟨.notText, read_of_not_text broken⟩
  · intro a front rest text
    obtain ⟨set, count⟩ := read_append text a rest
    exact ⟨set, (entries front).length, read_of_text text, count⟩
  · intro σ answer w packages file path listed located value found
    have outcome : value = _ := Setting.value_whitelist listed found
    revert outcome
    cases (answer (.host (.readFile path)) located.world).1 with
    | error e => exact id
    | ok bytes =>
      intro outcome
      refine ⟨fun text => ⟨_, outcome.trans (if_pos text), fun name => ?_⟩, fun broken => ?_⟩
      · rw [mem_names_extend, ofList, mem_names_extend]
        simp [empty]
      · exact outcome.trans (if_neg broken)

/-- How a session on a machine answers. -/
def Setting.onMachine (q : Setting.Question) (w : Session × Host.Machine) :
    q.Answer × Session × Host.Machine :=
  let p := (Session.answer q w.1).play Host.Machine.answer w.2
  (p.value.1, p.value.2, p.world)

/-- A machine with a project that has a list file. -/
def listMachine (bytes : List UInt8) : Host.Machine where
  tree := .directory [("project", .directory [("names.txt", .file bytes false)])]
  environment := [(Setting.homeVariable, "/project")]

theorem located_listMachine (bytes : List UInt8) :
    let located := (Setting.relative "names.txt").play Setting.onMachine ({}, listMachine bytes)
    located.value = .ok "/project/names.txt" ∧
      (Setting.onMachine (.host (.readFile "/project/names.txt")) located.world).1 = .ok bytes := by
  have directory : (listMachine bytes).resolve "/project" = .ok ["project"] :=
    Host.Machine.resolve_of_isAbsolute _ rfl rfl
  have file : (listMachine bytes).resolve "/project/names.txt" = .ok ["project", "names.txt"] :=
    Host.Machine.resolve_of_isAbsolute _ rfl rfl
  have home : (listMachine bytes).environment.lookup Setting.homeVariable = some "/project" := rfl
  have found : ((listMachine bytes).at? "/project").map Host.Tree.entry = some .directory := by
    simp only [Host.Machine.at?, directory]
    rfl
  have content : (listMachine bytes).readFile "/project/names.txt" = .ok bytes := by
    simp only [Host.Machine.readFile, file]
    rfl
  have below : Host.Path.isAbsolute "names.txt" = false := rfl
  have path : Host.Path.join "/project" "names.txt" = "/project/names.txt" := rfl
  simp [Setting.relative, Setting.projectChild, Setting.projectDir, Setting.environment?,
    Setting.ofHost, Setting.projectDirOf, Setting.onMachine, Session.answer, Dialogue.put,
    Dialogue.play, Dialogue.through, Host.Machine.answer, home, found, content, below, path,
    Except.map]

/-- A list file with a comment, blanks around a name that comes twice, and no end to its last
line. -/
def listFile : List UInt8 :=
  "# names\r\n  com.b \r\n\ncom.b".toList.map fun c => UInt8.ofNat c.toNat

/-- The names of a list file come to those of the configuration. If the file has a line that is no
text, even after them, there is no whitelist at all. -/
theorem Allowlist.list_file_joined :
    let packages : Config.Packages := { whitelist := ["com.a"], whitelistFile := some "names.txt" }
    let value (bytes : List UInt8) :=
      ((Setting.whitelist packages).play Setting.onMachine ({}, listMachine bytes)).value
    (∃ all, value listFile = .ok all ∧ ∀ name, name ∈ all.names ↔ name = "com.a" ∨ name = "com.b") ∧
      value (listFile ++ [10, 0xFF]) = .error (.invalidConfig "/project/names.txt"
        "failed to read whitelist file: stream did not contain valid UTF-8") := by
  intro packages value
  have whole : IsText listFile := by decide +kernel
  have broken : ¬ IsText (listFile ++ [10, 0xFF]) := by decide +kernel
  have names : entries listFile = ["com.b", "com.b"] := by decide +kernel
  have joined := lists_read_whole.2.2 Setting.onMachine ({}, listMachine listFile) packages
    "names.txt" "/project/names.txt" rfl (located_listMachine listFile).1
  have refused := lists_read_whole.2.2 Setting.onMachine
    ({}, listMachine (listFile ++ [10, 0xFF])) packages "names.txt" "/project/names.txt" rfl
    (located_listMachine _).1
  rw [(located_listMachine _).2] at joined refused
  refine ⟨?_, refused.2 broken⟩
  obtain ⟨all, read, members⟩ := joined.1 whole
  refine ⟨all, read, ?_⟩
  intro name
  rw [members, names]
  simp [packages]

end OpPolicy
