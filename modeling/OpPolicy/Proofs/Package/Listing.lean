import OpPolicy.Package.Listing
import OpPolicy.Proofs.Dialogue
import OpPolicy.Proofs.Text.Numeral
import OpPolicy.Proofs.Text.Split

set_option autoImplicit false

/-!
The full listing read back. A line is read as an entry if it is cut in one way only, at its last uid
mark and at the last equals sign before that (`Entry.ofLine_eq_ok_iff`), and the entries of a
listing are those that fit its lines (`Listing.reads_lines_iff`). So every line that was printed for
a package is read as that package, whatever its path is made of, other lines as none, and the
packages of a listing come out as they went in (`Listing.fetch_printed`).
-/

namespace OpPolicy.Listing

/-- What the package manager prints of a package. -/
def Entry.print (e : Entry) : List Char :=
  "package:".toList ++ (e.path ++ '=' :: e.name) ++ " uid:".toList ++ (toString e.uid).toList

/-- An entry whose name can be told from what is printed around it. The path may be any text. -/
structure Entry.Printable (e : Entry) : Prop where
  named : e.name ≠ []
  noEquals : '=' ∉ e.name
  trimmed : Text.Trimmed e.name

/-- A line without blanks around it is on a package: its title stands first, the uid after its last
uid mark, and the name after the last equals sign before that. -/
def Entry.Fits (e : Entry) (line : List Char) : Prop :=
  ∃ uid, line = "package:".toList ++ (e.path ++ '=' :: e.name) ++ " uid:".toList ++ uid ∧
    ¬ " uid:".toList <:+: uid ∧ Numeral.Writes (Text.trim uid) e.uid.toNat ∧
    '=' ∉ e.name ∧ e.name ≠ []

/-- Some lines are on some packages, in order. A line that is on none is passed over. -/
inductive Reads : List (List Char) → List Entry → Prop
  | nil : Reads [] []
  | entry {line : List Char} {lines : List (List Char)} {e : Entry} {es : List Entry}
      (fits : e.Fits (Text.trim line)) (rest : Reads lines es) : Reads (line :: lines) (e :: es)
  | other {line : List Char} {lines : List (List Char)} {es : List Entry}
      (unfit : ∀ e : Entry, ¬ e.Fits (Text.trim line)) (rest : Reads lines es) :
      Reads (line :: lines) es

/-- A line without blanks around it that is on no package. What follows the last uid mark stands in
the place of the uid. -/
inductive Malformed : List Char → Prop
  | noUid {line : List Char} (unmarked : ¬ " uid:".toList <:+: line) : Malformed line
  | badUid {front uid : List Char} (last : ¬ " uid:".toList <:+: uid)
      (bad : ∀ n : Uid, ¬ Numeral.Writes (Text.trim uid) n.toNat) :
      Malformed (front ++ " uid:".toList ++ uid)
  | noPackage {line : List Char} (untitled : ¬ "package:".toList <+: line) : Malformed line
  | noEquals {front uid : List Char} (last : ¬ " uid:".toList <:+: uid) (absent : '=' ∉ front) :
      Malformed (front ++ " uid:".toList ++ uid)
  | noName {path uid : List Char} (last : ¬ " uid:".toList <:+: uid) :
      Malformed (path ++ ['='] ++ " uid:".toList ++ uid)

/-- A line of a listing, which is on a package or on none. -/
inductive IsLine : Option Entry → List Char → Prop
  | entry {e : Entry} {line : List Char} (printable : e.Printable)
      (framed : Text.Framed e.print line) : IsLine (some e) line
  | blank {line : List Char} (blank : Text.AllBlank line) : IsLine none line
  | malformed {line : List Char} (malformed : Malformed (Text.trim line)) : IsLine none line

section Lines
variable {e : Entry} {line front uid : List Char}

theorem uidMark_eq : " uid:".toList = ' ' :: "uid:".toList := by decide

theorem splitLast?_uidMark_iff : Text.splitLast? " uid:".toList line = some (front, uid) ↔
    line = front ++ " uid:".toList ++ uid ∧ ¬ " uid:".toList <:+: uid := by
  rw [uidMark_eq]
  exact Text.splitLast?_fresh_iff (by decide)

theorem splitLast?_equals_iff {path name : List Char} :
    Text.splitLast? ['='] front = some (path, name) ↔
      front = path ++ '=' :: name ∧ '=' ∉ name := by
  rw [Text.splitLast?_fresh_iff List.not_mem_nil, List.singleton_infix_iff, List.append_assoc,
    List.singleton_append]

theorem Entry.ofLine_eq_ok_iff : Entry.ofLine line = .ok e ↔ e.Fits line := by
  unfold Entry.ofLine
  constructor
  · intro read
    -- the faults, in the order in which they are looked for
    split at read
    · cases read
    next front uid cut =>
    split at read
    · cases read
    next n parsed =>
    split at read
    · cases read
    next rest titled =>
    split at read
    · cases read
    next path name cutName =>
    split at read
    · cases read
    next named =>
    cases read
    obtain ⟨rfl, last⟩ := splitLast?_uidMark_iff.mp cut
    obtain ⟨rfl, noEquals⟩ := splitLast?_equals_iff.mp cutName
    rw [List.isPrefixOf?_eq_some_iff_append_eq] at titled
    rw [Numeral.uint32?_eq_some_iff, String.toList_ofList] at parsed
    exact ⟨uid, by rw [titled], last, parsed, noEquals, named⟩
  · rintro ⟨uid, rfl, last, writes, noEquals, named⟩
    have parsed : Numeral.uint32? (String.ofList (Text.trim uid)) = some e.uid := by
      rwa [Numeral.uint32?_eq_some_iff, String.toList_ofList]
    simp only [splitLast?_uidMark_iff.mpr ⟨rfl, last⟩, parsed,
      List.isPrefixOf?_eq_some_iff_append_eq.mpr rfl, splitLast?_equals_iff.mpr ⟨rfl, noEquals⟩,
      named, if_false]

theorem Entry.ofLine_print (printable : e.Printable) : Entry.ofLine e.print = .ok e := by
  have digits : ∀ c ∈ (toString e.uid).toList, c.isDigit = true := fun _ =>
    Numeral.isDigit_of_mem_toString
  have unmarked : ¬ " uid:".toList <:+: (toString e.uid).toList := fun within => by
    have mem : 'u' ∈ (toString e.uid).toList := within.subset (by decide)
    exact absurd (digits 'u' mem) (by decide)
  have trimmed : Text.Trimmed (toString e.uid).toList :=
    Text.trimmed_of_dark fun c mem => Text.not_blank_of_isDigit (digits c mem)
  have writes : Numeral.Writes (Text.trim (toString e.uid).toList) e.uid.toNat := by
    rw [Text.trim_of_trimmed trimmed]
    exact Numeral.writes_toString e.uid
  exact Entry.ofLine_eq_ok_iff.mpr
    ⟨(toString e.uid).toList, rfl, unmarked, writes, printable.noEquals, printable.named⟩

theorem Malformed.ofLine_ne_ok (malformed : Malformed line) : Entry.ofLine line ≠ .ok e := by
  intro read
  obtain ⟨uid, split, last, writes, noEquals, named⟩ := Entry.ofLine_eq_ok_iff.mp read
  have cut := splitLast?_uidMark_iff.mpr ⟨split, last⟩
  cases malformed with
  | noUid unmarked => exact unmarked ⟨_, _, split.symm⟩
  | @badUid front uid' last' bad =>
    rw [splitLast?_uidMark_iff.mpr ⟨rfl, last'⟩] at cut
    cases cut
    exact bad e.uid writes
  | noPackage untitled =>
    rw [split, List.append_assoc, List.append_assoc] at untitled
    exact untitled (List.prefix_append _ _)
  | @noEquals front uid' last' absent =>
    rw [splitLast?_uidMark_iff.mpr ⟨rfl, last'⟩] at cut
    cases cut
    exact absent (List.mem_append_right _ (List.mem_append_right _ List.mem_cons_self))
  | @noName path uid' last' =>
    rw [splitLast?_uidMark_iff.mpr ⟨rfl, last'⟩, Option.some.injEq, Prod.mk.injEq] at cut
    -- the last equals sign is the very last character, and it is the one before the name
    have unnamed : Text.splitLast? ['='] (path ++ ['=']) = some (path, []) :=
      splitLast?_equals_iff.mpr ⟨rfl, List.not_mem_nil⟩
    have own : path ++ ['='] = "package:".toList ++ e.path ++ '=' :: e.name := by
      rw [cut.1, List.append_assoc]
    rw [splitLast?_equals_iff.mpr ⟨own, noEquals⟩, Option.some.injEq, Prod.mk.injEq] at unnamed
    exact named unnamed.2

theorem Entry.trimmed_print (e : Entry) : Text.Trimmed e.print := by
  constructor
  · intro c first
    have start : e.print.head? = some 'p' := rfl
    obtain rfl := Option.some.inj (start.symm.trans first)
    decide
  · intro c last
    have digits : (toString e.uid).toList.getLast? = some c := by
      rw [← List.getLast?_append_of_ne_nil _ (Numeral.toList_toString_ne_nil e.uid)]
      exact last
    have mem := List.mem_of_getLast? digits
    exact Text.not_blank_of_isDigit (Numeral.isDigit_of_mem_toString mem)

/-- A line is read as what it is on, whatever blanks stand around it. -/
theorem IsLine.toOption_ofLine {item : Option Entry} (isLine : IsLine item line) :
    (Entry.ofLine (Text.trim line)).toOption = item := by
  cases isLine with
  | entry printable framed =>
    rw [Text.trim_framed framed, Text.trim_of_trimmed (Entry.trimmed_print _),
      Entry.ofLine_print printable]
    rfl
  | blank blank =>
    rw [Text.trim_eq_nil blank]
    rfl
  | malformed malformed =>
    cases read : Entry.ofLine (Text.trim line) with
    | error fault => rfl
    | ok e => exact absurd read malformed.ofLine_ne_ok

end Lines

section Listings
variable {items : List (Option Entry)} {lines : List (List Char)} {text : List Char}

theorem entries_eq (text : List Char) : entries text =
    ((Text.lines text).map Text.trim).filterMap fun line => (Entry.ofLine line).toOption := by
  rw [entries, filled, List.filterMap_filter]
  congr
  funext line
  by_cases empty : line = []
  · -- an empty line has no uid mark, whether it is left out before or not
    rw [empty]
    rfl
  · simp [empty]

theorem reads_iff {es : List Entry} : Reads lines es ↔
    es = (lines.map Text.trim).filterMap fun line => (Entry.ofLine line).toOption := by
  induction lines generalizing es with
  | nil =>
    constructor
    · rintro ⟨⟩
      rfl
    · rintro rfl
      exact .nil
  | cons line lines ih =>
    rw [List.map_cons, List.filterMap_cons]
    cases read : Entry.ofLine (Text.trim line) with
    | ok e =>
      have fits : e.Fits (Text.trim line) := Entry.ofLine_eq_ok_iff.mp read
      constructor
      · intro reads
        cases reads with
        | entry fits' rest =>
          obtain rfl := Except.ok.inj (read.symm.trans (Entry.ofLine_eq_ok_iff.mpr fits'))
          exact congrArg _ (ih.mp rest)
        | other unfit => exact absurd fits (unfit e)
      · rintro rfl
        exact .entry fits (ih.mpr rfl)
    | error fault =>
      have unfit (e : Entry) : ¬ e.Fits (Text.trim line) := fun fits => by
        cases read.symm.trans (Entry.ofLine_eq_ok_iff.mpr fits)
      constructor
      · intro reads
        cases reads with
        | entry fits => exact absurd fits (unfit _)
        | other _ rest => exact ih.mp rest
      · rintro rfl
        exact .other unfit (ih.mpr rfl)

/-- The entries of a listing are all that its lines are on, and nothing else. -/
theorem reads_lines_iff {es : List Entry} : Reads (Text.lines text) es ↔ es = entries text := by
  rw [reads_iff, entries_eq]

/-- The entries of a listing are those that its lines are on, in order. -/
theorem entries_laid (laid : Text.Laid lines text) (isListing : List.Forall₂ IsLine items lines) :
    entries text = items.filterMap id := by
  rw [entries_eq, Text.map_trim_lines laid]
  clear laid
  induction isListing with
  | nil => rfl
  | cons head tail ih =>
    rw [List.map_cons, List.filterMap_cons, head.toOption_ofLine, ih, List.filterMap_cons, id]

section Fetch
variable (lists : Lists) {σ : Type} (device : String → σ → Reply × σ) (w : σ)

theorem fetch_of_system_failed {e : Error}
    (failed : Shell.checkedReply (device "pm list packages -s" w).1 = .error e) :
    ((fetch lists).play device w).value = .error e.intoProvider ∧
      ((fetch lists).play device w).asked = ["pm list packages -s"] := by
  unfold fetch
  rw [Dialogue.bind_eq, Dialogue.play_bind]
  simp only [Shell.checked, Dialogue.play, failed]
  exact ⟨rfl, rfl⟩

variable {system full : Output}
  (listed : Shell.checkedReply (device "pm list packages -s" w).1 = .ok system)
include listed

theorem fetch_of_full_failed {e : Error} (failed : Shell.checkedReply
      (device "pm list packages -f -U" (device "pm list packages -s" w).2).1 = .error e) :
    ((fetch lists).play device w).value = .error e.intoProvider ∧
      ((fetch lists).play device w).asked =
        ["pm list packages -s", "pm list packages -f -U"] := by
  unfold fetch
  rw [Dialogue.bind_eq, Dialogue.play_bind]
  simp only [Shell.checked, Dialogue.play, listed]
  rw [Dialogue.bind_eq, Dialogue.play_bind]
  simp only [Dialogue.play, failed]
  exact ⟨rfl, rfl⟩

theorem fetch_of_listed (listed' : Shell.checkedReply
      (device "pm list packages -f -U" (device "pm list packages -s" w).2).1 = .ok full) :
    ((fetch lists).play device w).value = .ok
        ((entries (Utf8.lossy full.stdout)).map
          (Entry.app lists (systemNames (Utf8.lossy system.stdout)))) ∧
      ((fetch lists).play device w).asked =
        ["pm list packages -s", "pm list packages -f -U"] := by
  unfold fetch
  rw [Dialogue.bind_eq, Dialogue.play_bind]
  simp only [Shell.checked, Dialogue.play, listed]
  rw [Dialogue.bind_eq, Dialogue.play_bind]
  simp only [Dialogue.play, listed', Dialogue.bind_eq, Dialogue.play_bind, Dialogue.play_sayAll]
  exact ⟨rfl, rfl⟩

end Fetch

/-- An app has the name and the uid of its entry. -/
theorem map_app (lists : Lists) (system : List String) (es : List Entry) :
    (es.map (Entry.app lists system)).map (fun app => (app.name.toList, app.uid)) =
      es.map fun e => (e.name, e.uid) := by
  rw [List.map_map]
  exact List.map_congr_left fun e _ => by simp [Entry.app, App.plain]

/-- The packages of a listing come out with their names and uids, in order and as often as they went
in, whatever their paths are made of, where the blanks are and what other lines say. -/
theorem fetch_printed (lists : Lists) {σ : Type} {device : String → σ → Reply × σ} {w : σ}
    {system full : Output} (repliedSystem : (device "pm list packages -s" w).1 = .ok system)
    (listedSystem : system.exit = .code 0)
    (repliedFull :
      (device "pm list packages -f -U" (device "pm list packages -s" w).2).1 = .ok full)
    (listedFull : full.exit = .code 0) (laid : Text.Laid lines (Utf8.lossy full.stdout))
    (isListing : List.Forall₂ IsLine items lines) :
    ∃ apps, ((fetch lists).play device w).value = .ok apps ∧
      apps.map (fun app => (app.name.toList, app.uid)) =
        (items.filterMap id).map fun e => (e.name, e.uid) := by
  have listed := Shell.checkedReply_eq_ok_iff.mpr ⟨repliedSystem, listedSystem⟩
  have listed' := Shell.checkedReply_eq_ok_iff.mpr ⟨repliedFull, listedFull⟩
  refine ⟨_, (fetch_of_listed lists device w listed listed').1, ?_⟩
  rw [map_app, entries_laid laid isListing]

/-- A listing of two packages, the first of them with delimiters in its path. -/
def twoPackages : Output where
  exit := .code 0
  stdout := List.map (fun c => UInt8.ofNat c.toNat)
    "package:/a== uid:7=b/x.apk=com.example uid:10123\r\n\nno line\n package:/b=b uid:0\n".toList
  stderr := []

theorem two_packages_fetched :
    ∃ apps, ((fetch ⟨.empty, .empty⟩).play (fun cmd w => (.ok
        (if cmd = "pm list packages -s" then .silent else twoPackages), w)) ()).value = .ok apps ∧
      apps.map (fun app => (app.name.toList, app.uid)) =
        [("com.example".toList, 10123), ("b".toList, 0)] := by
  have text : Utf8.lossy twoPackages.stdout =
      "package:/a== uid:7=b/x.apk=com.example uid:10123".toList ++ ['\r', '\n'] ++
        ([] ++ ['\n'] ++ ("no line".toList ++ ['\n'] ++
          (" package:/b=b uid:0".toList ++ ['\n'] ++ []))) := by
    decide +kernel
  have laid : Text.Laid ["package:/a== uid:7=b/x.apk=com.example uid:10123".toList, [],
      "no line".toList, " package:/b=b uid:0".toList] (Utf8.lossy twoPackages.stdout) := by
    rw [text]
    refine .line (by decide) (.inr rfl) (.line (by decide) (.inl rfl) ?_)
    exact .line (by decide) (.inl rfl) (.line (by decide) (.inl rfl) .nil)
  have first : IsLine (some ⟨"/a== uid:7=b/x.apk".toList, "com.example".toList, 10123⟩)
      "package:/a== uid:7=b/x.apk=com.example uid:10123".toList :=
    .entry ⟨by decide, by decide, by decide⟩
      ⟨[], [], by decide, by decide, by decide +kernel⟩
  have last : IsLine (some ⟨"/b".toList, "b".toList, 0⟩) " package:/b=b uid:0".toList :=
    .entry ⟨by decide, by decide, by decide⟩
      ⟨[' '], [], by decide, by decide, by decide +kernel⟩
  have blank : IsLine none [] := .blank (by decide)
  have malformed : IsLine none "no line".toList := .malformed (.noUid (by decide))
  have isListing := List.Forall₂.cons first (.cons blank (.cons malformed (.cons last .nil)))
  exact fetch_printed _ rfl rfl rfl rfl laid isListing

end Listings

end OpPolicy.Listing
