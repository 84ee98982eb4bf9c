import OpPolicy.Config.Section
import OpPolicy.Proofs.Outcome

set_option autoImplicit false

/-!
Ways through a configuration file, and what is found at their ends. A section that is reached by
following keys from the root knows its file and its whole way (`follow_eq_ok_iff_located`), so a key
below it that holds something of another kind than it should is reported by the way to it, whatever
the section was reached through (`Located.checks_typed`). `Checks` tells which keys a computation
looks at, and in which order.
-/

namespace OpPolicy.Config

/-- What a key is expected to hold. -/
inductive Kind where
  | table
  | string
  | strings
  deriving DecidableEq

namespace Kind

def name : Kind → String
  | table => "table"
  | string => "string"
  | strings => "array of strings"

def admits : Kind → Toml.Value → Bool
  | table, v => v.table?.isSome
  | string, v => v.string?.isSome
  | strings, .array items => items.all fun v => v.string?.isSome
  | strings, _ => false

end Kind

/-- What stands at the end of a way through tables. -/
def valueAt : List String → Toml.Value → Option Toml.Value
  | [], v => some v
  | key :: way, .table entries => (entries.lookup key).bind (valueAt way)
  | _ :: _, _ => none

/-- A key that is known, with the way that leads to it from the root. -/
structure Key where
  way : List String
  kind : Kind

namespace Key

def dotted (k : Key) : String := ".".intercalate k.way

/-- The key holds something of another kind. -/
def offends (table : Toml.Table) (k : Key) : Bool :=
  (valueAt k.way (.table table)).any fun v => !k.kind.admits v

def fault (file : String) (k : Key) : Error :=
  .invalidConfig file s!"invalid value for key: {k.dotted} (expected type: {k.kind.name})"

end Key

/-- A list of strings as a value. -/
def spellStrings (items : List String) : Toml.Value := .array (items.map .string)

section Values
variable {v : Toml.Value}

theorem string?_eq_some_iff {s : String} : v.string? = some s ↔ v = .string s := by
  cases v <;> simp [Toml.Value.string?]

theorem table?_eq_some_iff {entries : Toml.Table} :
    v.table? = some entries ↔ v = .table entries := by
  cases v <;> simp [Toml.Value.table?]

theorem strings?_eq_some_iff {items : List String} :
    Section.strings? v = some items ↔ v = spellStrings items := by
  cases v with
  | array vs =>
    have read : Section.strings? (.array vs) = vs.mapM Toml.Value.string? := rfl
    simp only [read, mapM_eq_some_iff, string?_eq_some_iff, spellStrings, Toml.Value.array.injEq]
    rw [← List.forall₂_eq_eq_eq, List.forall₂_map_right_iff]
  | _ => exact iff_of_false nofun nofun

theorem admits_strings (v : Toml.Value) : Kind.strings.admits v = (Section.strings? v).isSome := by
  cases v with
  | array vs =>
    have read : Section.strings? (.array vs) = vs.mapM Toml.Value.string? := rfl
    rw [read, Kind.admits, isSome_mapM]
  | _ => rfl

theorem valueAt_append (way more : List String) (v : Toml.Value) :
    valueAt (way ++ more) v = (valueAt way v).bind (valueAt more) := by
  induction way generalizing v with
  | nil => rfl
  | cons key way ih =>
    cases v with
    | table entries =>
      rw [List.cons_append, valueAt, valueAt, Option.bind_assoc]
      exact congrArg _ (funext ih)
    | _ => rfl

theorem valueAt_key (key : String) (entries : Toml.Table) :
    valueAt [key] (.table entries) = entries.lookup key :=
  Option.bind_fun_some _

theorem valueAt_ne_table (other : v.table? = none) (way : List String) (entries : Toml.Table) :
    valueAt way v ≠ some (.table entries) := by
  intro there
  cases way with
  | nil =>
    obtain rfl := Option.some.inj there
    cases other
  | cons key way =>
    cases v with
    | table _ => cases other
    | _ => cases there

/-- What is not there has nothing below it. -/
theorem valueAt_below {way below : List String} (absent : valueAt way v = none)
    (deeper : way <+: below) : valueAt below v = none := by
  obtain ⟨more, rfl⟩ := deeper
  rw [valueAt_append, absent]
  rfl

theorem eq_map_of_rel {α : Type} {read : Toml.Value → Option α} {spell : α → Toml.Value}
    (spelled : ∀ {v a}, read v = some a → v = spell a) {v? : Option Toml.Value} {a? : Option α}
    (both : Option.Rel (fun v a => read v = some a) v? a?) : v? = a?.map spell := by
  cases both with
  | none => rfl
  | some read => rw [spelled read, Option.map_some]

end Values

/-- A key is absent, or it holds something that can be read, or something that cannot. -/
theorem optional_cases {α : Type} (s : Section) (key : String) (read : Toml.Value → Option α) :
    (s.table.lookup key = none ∧ s.optional key read = .ok none) ∨
    (∃ v a, s.table.lookup key = some v ∧ read v = some a ∧
      s.optional key read = .ok (some a)) ∨
    ∃ v, s.table.lookup key = some v ∧ read v = none ∧
      s.optional key read = .error .wrongType := by
  unfold Section.optional
  cases s.table.lookup key with
  | none => exact .inl ⟨rfl, rfl⟩
  | some v =>
    cases value : read v with
    | some a => exact .inr (.inl ⟨v, a, rfl, value, by simp only [value]⟩)
    | none => exact .inr (.inr ⟨v, rfl, value, by simp only [value]⟩)

/-- A section is the table at the end of a way. -/
structure Located (file : String) (table : Toml.Table) (way : List String) (s : Section) :
    Prop where
  file_eq : s.file = file
  way_eq : s.way = way
  table_eq : valueAt way (.table table) = some (.table s.table)

/-- The keys are looked at in order: the first that offends is reported, and if none does there is a
result with `P`. -/
structure Checks {α : Type} (file : String) (table : Toml.Table) (keys : List Key)
    (x : Except Error α) (P : α → Prop) : Prop where
  reports : ∀ key, keys.find? (·.offends table) = some key → x = .error (key.fault file)
  reads : keys.find? (·.offends table) = none → ∃ a, x = .ok a ∧ P a

section Checks
variable {α β : Type} {file : String} {table : Toml.Table} {keys more : List Key}
  {x : Except Error α} {P : α → Prop} {Q : β → Prop}

theorem Checks.bind {f : α → Except Error β} (first : Checks file table keys x P)
    (next : ∀ a, P a → Checks file table more (f a) Q) :
    Checks file table (keys ++ more) (x >>= f) Q := by
  constructor
  · intro key found
    rw [List.find?_append] at found
    cases offender : keys.find? (·.offends table) with
    | some k =>
      rw [offender] at found
      obtain rfl := Option.some.inj found
      rw [first.reports k offender]
      rfl
    | none =>
      rw [offender] at found
      obtain ⟨a, rfl, pa⟩ := first.reads offender
      exact (next a pa).reports key found
  · intro none
    rw [List.find?_append, Option.or_eq_none_iff] at none
    obtain ⟨a, rfl, pa⟩ := first.reads none.1
    exact (next a pa).reads none.2

theorem Checks.bind_pure {f : α → β} (first : Checks file table keys x P)
    (made : ∀ a, P a → Q (f a)) : Checks file table keys (x >>= fun a => pure (f a)) Q := by
  have done : ∀ a, P a → Checks file table [] (pure (f a) : Except Error β) Q := by
    intro a pa
    exact ⟨nofun, fun _ => ⟨f a, rfl, made a pa⟩⟩
  simpa using first.bind done

theorem Checks.mono {P' : α → Prop} (checks : Checks file table keys x P)
    (weaker : ∀ a, P a → P' a) : Checks file table keys x P' := by
  refine ⟨checks.reports, ?_⟩
  intro none
  obtain ⟨a, done, pa⟩ := checks.reads none
  exact ⟨a, done, weaker a pa⟩

theorem Checks.fine {k : Key} {a : α} (fine : k.offends table = false) (pa : P a) :
    Checks file table [k] (.ok a) P := by
  constructor
  · intro key found
    rw [List.find?_singleton, fine] at found
    cases found
  · intro _
    exact ⟨a, rfl, pa⟩

theorem Checks.reported {k : Key} (wrong : k.offends table = true) :
    Checks file table [k] (.error (k.fault file)) P := by
  constructor
  · intro key found
    rw [List.find?_singleton, wrong] at found
    obtain rfl := Option.some.inj found
    rfl
  · intro none
    rw [List.find?_singleton, wrong] at none
    cases none

theorem Checks.eq_error_iff (checks : Checks file table keys x P) (e : Error) :
    x = .error e ↔ ∃ key, keys.find? (·.offends table) = some key ∧ e = key.fault file := by
  cases offender : keys.find? (·.offends table) with
  | some key =>
    rw [checks.reports key offender, Except.error.injEq]
    simp [eq_comm]
  | none =>
    obtain ⟨a, rfl, -⟩ := checks.reads offender
    exact iff_of_false nofun nofun

end Checks

section Located
variable {file : String} {table : Toml.Table} {way : List String} {s : Section}

/-- A section is reached, or there is nothing at the end of the way. -/
def Reached (file : String) (table : Toml.Table) (way : List String) : Option Section → Prop
  | some s => Located file table way s
  | none => valueAt way (.table table) = none

theorem located_root (file : String) (table : Toml.Table) :
    Located file table [] ⟨file, [], table⟩ :=
  ⟨rfl, rfl, rfl⟩

theorem Located.lookup (here : Located file table way s) (key : String) :
    valueAt (way ++ [key]) (.table table) = s.table.lookup key := by
  rw [valueAt_append, here.table_eq, Option.bind_some, valueAt_key]

theorem Located.invalidKey (here : Located file table way s) (key : String) (kind : Kind) :
    s.invalidKey key kind.name = Key.fault file ⟨way ++ [key], kind⟩ := by
  rw [Section.invalidKey, Section.dotted, here.file_eq, here.way_eq]
  rfl

theorem Located.inner (here : Located file table way s) {key : String} {v : Toml.Value}
    {t : Section} (found : valueAt (way ++ [key]) (.table table) = some v)
    (read : s.inner? key v = some t) : Located file table (way ++ [key]) t := by
  obtain ⟨entries, isTable, rfl⟩ := Option.map_eq_some_iff.mp read
  refine ⟨here.file_eq, congrArg (· ++ [key]) here.way_eq, ?_⟩
  rw [found, table?_eq_some_iff.mp isTable]

/-- A typed key is reported if it holds something of another kind, and read if it does not. -/
theorem Located.checks_typed {α : Type} (here : Located file table way s) (key : String)
    {kind : Kind} {read : Toml.Value → Option α} (reads : ∀ v, kind.admits v = (read v).isSome) :
    Checks file table [⟨way ++ [key], kind⟩] (s.typed key kind.name read)
      (Option.Rel (fun v a => read v = some a) (valueAt (way ++ [key]) (.table table))) := by
  have offends : Key.offends table ⟨way ++ [key], kind⟩ =
      (s.table.lookup key).any fun v => !(read v).isSome := by
    simp only [Key.offends, here.lookup, reads]
  rw [here.lookup, Section.typed, here.invalidKey]
  obtain ⟨found, outcome⟩ | ⟨v, a, found, value, outcome⟩ | ⟨v, found, unread, outcome⟩ :=
    optional_cases s key read
  · rw [found] at offends
    rw [outcome, found]
    exact .fine offends .none
  · rw [found, Option.any_some, value] at offends
    rw [outcome, found]
    exact .fine offends (.some value)
  · rw [found, Option.any_some, unread] at offends
    rw [outcome]
    exact .reported offends

theorem Located.checks_string (here : Located file table way s) (key : String) :
    Checks file table [⟨way ++ [key], .string⟩] (s.typedString key) fun value =>
      valueAt (way ++ [key]) (.table table) = value.map .string :=
  (here.checks_typed key fun _ => rfl).mono fun _ => eq_map_of_rel string?_eq_some_iff.mp

theorem Located.checks_strings (here : Located file table way s) (key : String) :
    Checks file table [⟨way ++ [key], .strings⟩] (s.typedStrings key) fun value =>
      valueAt (way ++ [key]) (.table table) = value.map spellStrings :=
  (here.checks_typed key admits_strings).mono fun _ => eq_map_of_rel strings?_eq_some_iff.mp

theorem Located.checks_subsection (here : Located file table way s) (key : String) :
    Checks file table [⟨way ++ [key], .table⟩] (s.typedSubsection key)
      (Reached file table (way ++ [key])) := by
  have admits : ∀ v, Kind.table.admits v = (s.inner? key v).isSome := by
    intro v
    rw [Section.inner?, Option.isSome_map, Kind.admits]
  refine (here.checks_typed key admits).mono ?_
  intro t? both
  generalize there : valueAt (way ++ [key]) (.table table) = v? at both
  cases both with
  | none => exact there
  | some read => exact here.inner there read

end Located

/-- The section at the end of a way, one key followed after the other. -/
def Section.follow (s : Section) (way : List String) : Except Fault Section :=
  way.foldlM Section.subsection s

section Follow
variable {s t : Section} {key : String} {way : List String}

theorem follow_cons (s : Section) (key : String) (way : List String) :
    s.follow (key :: way) = s.subsection key >>= fun t => t.follow way :=
  List.foldlM_cons

/-- A key leads to a table, or there is nothing, or there is something else. -/
theorem subsection_cases (s : Section) (key : String) :
    (∃ inner, s.table.lookup key = some (.table inner) ∧
      s.subsection key = .ok ⟨s.file, s.way ++ [key], inner⟩) ∨
    (s.table.lookup key = none ∧ s.subsection key = .error .missing) ∨
    ∃ v, s.table.lookup key = some v ∧ v.table? = none ∧ s.subsection key = .error .wrongType := by
  rw [Section.subsection, Section.required]
  obtain ⟨found, outcome⟩ | ⟨v, t, found, isSection, outcome⟩ | ⟨v, found, unread, outcome⟩ :=
    optional_cases s key (s.inner? key)
  · rw [outcome]
    exact .inr (.inl ⟨found, rfl⟩)
  · obtain ⟨inner, isTable, rfl⟩ := Option.map_eq_some_iff.mp isSection
    obtain rfl := table?_eq_some_iff.mp isTable
    rw [outcome]
    exact .inl ⟨inner, found, rfl⟩
  · rw [outcome]
    exact .inr (.inr ⟨v, found, Option.map_eq_none_iff.mp unread, rfl⟩)

theorem valueAt_cons {v : Toml.Value} (found : s.table.lookup key = some v) (way : List String) :
    valueAt (key :: way) (.table s.table) = valueAt way v := by
  rw [valueAt, found, Option.bind_some]

theorem offends_cons {inner : Toml.Table} (found : s.table.lookup key = some (.table inner))
    (way : List String) (kind : Kind) :
    Key.offends s.table ⟨key :: way, kind⟩ = Key.offends inner ⟨way, kind⟩ := by
  rw [Key.offends, Key.offends, valueAt_cons found]

theorem exists_prefix_cons_iff (table : Toml.Table) :
    (∃ w, w <+: key :: way ∧ Key.offends table ⟨w, .table⟩ = true) ↔
      ∃ w, w <+: way ∧ Key.offends table ⟨key :: w, .table⟩ = true := by
  constructor
  · rintro ⟨w, pre, offends⟩
    obtain rfl | ⟨rest, rfl, below⟩ := List.prefix_cons_iff.mp pre
    · exact absurd offends Bool.false_ne_true
    · exact ⟨rest, below, offends⟩
  · rintro ⟨w, pre, offends⟩
    exact ⟨key :: w, List.cons_prefix_cons.mpr ⟨rfl, pre⟩, offends⟩

/-- A way is followed to its end if a table is there. -/
theorem follow_eq_ok_iff :
    s.follow way = .ok t ↔ t.file = s.file ∧ t.way = s.way ++ way ∧
      valueAt way (.table s.table) = some (.table t.table) := by
  -- every key leads to a section with a longer way, so this is told of all sections at once
  induction way generalizing s with
  | nil =>
    have stays : s.follow [] = .ok s := rfl
    rw [stays, valueAt, List.append_nil]
    obtain ⟨file, way, table⟩ := s
    obtain ⟨file', way', table'⟩ := t
    simp [eq_comm]
  | cons key way ih =>
    rw [follow_cons]
    obtain ⟨inner, found, led⟩ | ⟨found, led⟩ | ⟨v, found, other, led⟩ := subsection_cases s key
    · have next := ih (s := ⟨s.file, s.way ++ [key], inner⟩)
      rw [List.append_assoc] at next
      rw [led, valueAt_cons found]
      exact next
    · rw [led, valueAt, found]
      exact iff_of_false nofun nofun
    · rw [led, valueAt_cons found]
      refine iff_of_false nofun ?_
      rintro ⟨-, -, there⟩
      exact valueAt_ne_table other way t.table there

/-- A way is refused if something other than a table stands on it. -/
theorem follow_eq_wrongType_iff :
    s.follow way = .error .wrongType ↔
      ∃ w, w <+: way ∧ Key.offends s.table ⟨w, .table⟩ = true := by
  induction way generalizing s with
  | nil =>
    refine iff_of_false nofun ?_
    rintro ⟨w, pre, offends⟩
    obtain rfl := List.prefix_nil.mp pre
    cases offends
  | cons key way ih =>
    rw [follow_cons, exists_prefix_cons_iff]
    obtain ⟨inner, found, led⟩ | ⟨found, led⟩ | ⟨v, found, other, led⟩ := subsection_cases s key
    · simp only [led, offends_cons found]
      exact ih
    · rw [led]
      refine iff_of_false nofun ?_
      rintro ⟨w, -, offends⟩
      rw [Key.offends, valueAt, found] at offends
      cases offends
    · rw [led]
      refine iff_of_true rfl ⟨[], List.nil_prefix, ?_⟩
      rw [Key.offends, valueAt_cons found, valueAt, Option.any_some, Kind.admits, other]
      rfl

/-- A way ends in nothing if no table is there and nothing else stands on it. -/
theorem follow_eq_missing_iff :
    s.follow way = .error .missing ↔ valueAt way (.table s.table) = none ∧
      ∀ w, w <+: way → Key.offends s.table ⟨w, .table⟩ = false := by
  have wrong : s.follow way = .error .wrongType ↔
      ∃ w, w <+: way ∧ Key.offends s.table ⟨w, .table⟩ = true := follow_eq_wrongType_iff
  constructor
  · intro missing
    rw [missing] at wrong
    have clear : ∀ w, w <+: way → Key.offends s.table ⟨w, .table⟩ = false := by
      intro w pre
      rw [← Bool.not_eq_true]
      intro offends
      cases wrong.mpr ⟨w, pre, offends⟩
    refine ⟨?_, clear⟩
    cases there : valueAt way (.table s.table) with
    | none => rfl
    | some v =>
      have atEnd := clear way List.prefix_rfl
      rw [Key.offends, there, Option.any_some, Kind.admits] at atEnd
      obtain ⟨inner, isTable⟩ := Option.isSome_iff_exists.mp (by simpa using atEnd)
      rw [table?_eq_some_iff.mp isTable] at there
      have arrived : s.follow way = .ok ⟨s.file, s.way ++ way, inner⟩ :=
        follow_eq_ok_iff.mpr ⟨rfl, rfl, there⟩
      rw [missing] at arrived
      cases arrived
  · rintro ⟨absent, clear⟩
    cases outcome : s.follow way with
    | ok t =>
      have there := (follow_eq_ok_iff.mp outcome).2.2
      rw [absent] at there
      cases there
    | error fault =>
      cases fault with
      | missing => rfl
      | wrongType =>
        obtain ⟨w, pre, offends⟩ := wrong.mp outcome
        rw [clear w pre] at offends
        cases offends

theorem follow_eq_ok_iff_located {file : String} {table : Toml.Table} :
    Section.follow ⟨file, [], table⟩ way = .ok s ↔ Located file table way s := by
  rw [follow_eq_ok_iff]
  constructor
  · rintro ⟨sameFile, sameWay, there⟩
    exact ⟨sameFile, sameWay, there⟩
  · rintro ⟨sameFile, sameWay, there⟩
    exact ⟨sameFile, sameWay, there⟩

end Follow

end OpPolicy.Config
