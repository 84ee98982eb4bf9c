import OpPolicy.Op.Reference
import OpPolicy.Proofs.Op.Table
import OpPolicy.Proofs.Text.Numeral

set_option autoImplicit false

/-!
What a reference to an op means, and that its op can be looked up. A reference means what the
columns say, a number before a public name before a plain name (`OpTable.refers_ofReference`,
`OpTable.ofReference_eq_of_refers`). Lookups that do not ask whether an op is in the table come to
nothing at all beyond it; no reference leads there, and no row of the table does either, however
often one goes on to the op that governs (`OpTable.reference_safe`).
-/

namespace OpPolicy

/-- Not a numeral, or one of a number that is too large for an op. -/
def IsWord (s : String) : Prop := ∀ n, Numeral.Writes s.toList n → UInt32.size ≤ n

theorem uint32?_eq_none_iff {s : String} : Numeral.uint32? s = none ↔ IsWord s := by
  constructor
  · intro unread n writes
    by_contra small
    have fits : n < UInt32.size := Nat.lt_of_not_le small
    have read : Numeral.uint32? s = some (UInt32.ofNat n) := by
      rw [Numeral.uint32?_eq_some_iff, UInt32.toNat_ofNat_of_lt' fits]
      exact writes
    cases unread.symm.trans read
  · intro word
    rw [Option.eq_none_iff_forall_ne_some]
    intro n read
    exact Nat.not_le.mpr n.toNat_lt (word _ (Numeral.uint32?_eq_some_iff.mp read))

/-- What a reference comes to, by what the columns say. -/
inductive OpColumns.Refers (c : OpColumns) (s : String) : Except Error OpId → Prop
  | number {op : OpId} (numeral : Numeral.Writes s.toList op.toNat) (known : op.toNat < opCount) :
    Refers c s (.ok op)
  | unknownNumber {op : OpId} (numeral : Numeral.Writes s.toList op.toNat)
    (beyond : opCount ≤ op.toNat) : Refers c s (.error (.notFound s!"op id {op}"))
  | publicName {op : OpId} (word : IsWord s) (named : c.publicNames[op.toNat]? = some (some s)) :
    Refers c s (.ok op)
  | name {op : OpId} (word : IsWord s) (unnamed : some s ∉ c.publicNames)
    (named : c.names[op.toNat]? = some s) (least : ∀ i < op.toNat, c.names[i]? ≠ some s) :
    Refers c s (.ok op)
  | unknownName (word : IsWord s) (unnamed : some s ∉ c.publicNames) (absent : s ∉ c.names) :
    Refers c s (.error (.notFound s!"unknown op name {s}"))

/-- A question about an op that does not ask whether it is an op of the table. -/
inductive Lookup where
  | row
  | switch
  | publicName
  | permission
  | restriction
  | systemBypass
  | defaultMode
  | resettable
  deriving DecidableEq

namespace Lookup

def Answer : Lookup → Type
  | row => OpRow
  | switch => OpId
  | publicName | permission | restriction => Option String
  | systemBypass | resettable => Bool
  | defaultMode => Mode

def read : (q : Lookup) → OpRow → q.Answer
  | row, r => r
  | switch, r => r.switch
  | publicName, r => r.publicName
  | permission, r => r.permission
  | restriction, r => r.restriction
  | systemBypass, r => r.systemBypass
  | defaultMode, r => r.defaultMode
  | resettable, r => r.resettable

end Lookup

namespace OpTable

/-- The answer about an op. Beyond the table there is none. -/
def lookUp? (t : OpTable) (q : Lookup) (op : OpId) : Option q.Answer := (t.row? op).map q.read

/-- The op that one gets to by going on from an op to the one that governs it, some times. -/
def governor? (t : OpTable) : Nat → OpId → Option OpId
  | 0, op => some op
  | n + 1, op => (t.switchFor? op).bind (t.governor? n)

section Accepted
variable {c : OpColumns} {runtimeOps : List OpId} {t : OpTable}
  (accepted : ofColumns c runtimeOps = .ok t)
include accepted

theorem size_of_accepted : t.size = opCount := by
  obtain ⟨consistent, rfl⟩ := ofColumns_eq_ok_iff.mp accepted
  exact consistent.full.length_rows

theorem isSome_row?_iff {op : OpId} : (t.row? op).isSome = true ↔ op.toNat < opCount := by
  rw [Option.isSome_iff_ne_none, ne_eq, (reflects_of_ok accepted).beyond, Nat.not_le]

theorem isSome_lookUp? {op : OpId} (known : op.toNat < opCount) (q : Lookup) :
    (t.lookUp? q op).isSome = true := by
  rw [lookUp?, Option.isSome_map]
  exact (isSome_row?_iff accepted).mpr known

/-- The op that governs an op of the table is in the table too. -/
theorem switch_lt {op switch : OpId} (found : t.switchFor? op = some switch) :
    switch.toNat < opCount := by
  rw [switchFor?, Option.map_eq_some_iff] at found
  obtain ⟨row, found, rfl⟩ := found
  obtain ⟨-, shows⟩ := ((reflects_of_ok accepted).row op row).mp found
  obtain ⟨consistent, -⟩ := ofColumns_eq_ok_iff.mp accepted
  exact consistent.switches _ (List.mem_of_getElem? shows.switch)

theorem governor?_lt {op : OpId} (known : op.toNat < opCount) (n : Nat) :
    ∃ op', t.governor? n op = some op' ∧ op'.toNat < opCount := by
  induction n generalizing op with
  | zero => exact ⟨op, rfl, known⟩
  | succ n ih =>
    have present : (t.switchFor? op).isSome = true := isSome_lookUp? accepted known .switch
    obtain ⟨switch, found⟩ := Option.isSome_iff_exists.mp present
    obtain ⟨op', reached, known'⟩ := ih (switch_lt accepted found)
    exact ⟨op', by rw [governor?, found, Option.bind_some, reached], known'⟩

theorem opForPublicName?_eq_none_iff {p : String} :
    t.opForPublicName? p = none ↔ some p ∉ c.publicNames := by
  have reflects := reflects_of_ok accepted
  obtain ⟨consistent, -⟩ := ofColumns_eq_ok_iff.mp accepted
  rw [Option.eq_none_iff_forall_ne_some]
  constructor
  · intro unnamed mem
    obtain ⟨i, entry⟩ := List.mem_iff_getElem?.mp mem
    have small : i < UInt32.size := by
      obtain ⟨known, -⟩ := List.getElem?_eq_some_iff.mp entry
      rw [consistent.full.publicNames] at known
      exact Nat.lt_trans known (by decide)
    apply unnamed (UInt32.ofNat i)
    rw [reflects.publicName, UInt32.toNat_ofNat_of_lt' small]
    exact entry
  · intro absent op found
    exact absent (List.mem_of_getElem? ((reflects.publicName p op).mp found))

theorem opForName_cases (s : String) :
    (∃ op, t.opForName s = .ok op) ∨
      s ∉ c.names ∧ t.opForName s = .error (.notFound s!"unknown op name {s}") := by
  obtain ⟨consistent, rfl⟩ := ofColumns_eq_ok_iff.mp accepted
  rw [opForName]
  cases found : (ofRows c.rows runtimeOps).opForName? s with
  | some op => exact .inl ⟨op, rfl⟩
  | none => exact .inr ⟨(opForName?_ofRows_eq_none_iff consistent.full).mp found, rfl⟩

/-- Only ops of the table are referred to. -/
theorem known_of_refers {s : String} {op : OpId} (refers : c.Refers s (.ok op)) :
    op.toNat < opCount := by
  obtain ⟨consistent, -⟩ := ofColumns_eq_ok_iff.mp accepted
  cases refers with
  | number _ known => exact known
  | publicName _ named =>
    rw [← consistent.full.publicNames]
    exact (List.getElem?_eq_some_iff.mp named).1
  | name _ _ named _ =>
    rw [← consistent.full.names]
    exact (List.getElem?_eq_some_iff.mp named).1

theorem refers_ofReference (s : String) : c.Refers s (t.ofReference s) := by
  have reflects := reflects_of_ok accepted
  unfold ofReference
  cases read : Numeral.uint32? s with
  | some op =>
    have numeral := Numeral.uint32?_eq_some_iff.mp read
    by_cases known : op.toNat < opCount
    · simp only [known, if_true]
      exact .number numeral known
    · simp only [known, if_false]
      exact .unknownNumber numeral (Nat.le_of_not_lt known)
  | none =>
    have word := uint32?_eq_none_iff.mp read
    cases named : t.opForPublicName? s with
    | some op => exact .publicName word ((reflects.publicName s op).mp named)
    | none =>
      have unnamed := (opForPublicName?_eq_none_iff accepted).mp named
      rcases opForName_cases accepted s with ⟨op, found⟩ | ⟨absent, unknown⟩
      · obtain ⟨named, least⟩ := (reflects.name s op).mp found
        simp only [found]
        exact .name word unnamed named least
      · simp only [unknown]
        exact .unknownName word unnamed absent

/-- A reference has one meaning. -/
theorem ofReference_eq_of_refers {s : String} {r : Except Error OpId} (refers : c.Refers s r) :
    t.ofReference s = r := by
  have reflects := reflects_of_ok accepted
  unfold ofReference
  cases refers with
  | @number op numeral known =>
    simp only [Numeral.uint32?_eq_some_iff.mpr numeral, known, if_true]
  | @unknownNumber op numeral beyond =>
    simp only [Numeral.uint32?_eq_some_iff.mpr numeral, Nat.not_lt.mpr beyond, if_false]
  | @publicName op word named =>
    simp only [uint32?_eq_none_iff.mpr word, (reflects.publicName s op).mpr named]
  | @name op word unnamed named least =>
    simp only [uint32?_eq_none_iff.mpr word, (opForPublicName?_eq_none_iff accepted).mpr unnamed,
      (reflects.name s op).mpr ⟨named, least⟩]
  | unknownName word unnamed absent =>
    simp only [uint32?_eq_none_iff.mpr word, (opForPublicName?_eq_none_iff accepted).mpr unnamed,
      reflects.noName s absent]

/-- A reference means what the columns say, and never leads to an op of which something cannot be
looked up, nor to one that is governed by such an op. -/
theorem reference_safe (s : String) :
    (∀ r, t.ofReference s = r ↔ c.Refers s r) ∧
    (∀ e, t.ofReference s = .error e → ∃ what, e = .notFound what) ∧
    ∀ op, t.ofReference s = .ok op → ∀ n, ∃ op', t.governor? n op = some op' ∧
      op'.toNat < t.size ∧ ∀ q, (t.lookUp? q op').isSome = true := by
  have means (r : Except Error OpId) : t.ofReference s = r ↔ c.Refers s r :=
    ⟨fun eq => eq ▸ refers_ofReference accepted s, ofReference_eq_of_refers accepted⟩
  refine ⟨means, fun e failed => ?_, fun op found n => ?_⟩
  · cases (means _).mp failed with
    | unknownNumber | unknownName => exact ⟨_, rfl⟩
  · have known : op.toNat < opCount := known_of_refers accepted ((means _).mp found)
    obtain ⟨op', reached, known'⟩ := governor?_lt accepted known n
    exact ⟨op', reached, by rwa [size_of_accepted accepted], isSome_lookUp? accepted known'⟩

end Accepted

/-- `READ_ICC_SMS` is governed by `READ_SMS`. -/
theorem readIccSms_safe :
    ofColumns Catalogue.columns Catalogue.runtimeOps = .ok builtin ∧
      builtin.ofReference "READ_ICC_SMS" = .ok 21 ∧
      ∃ op, builtin.governor? 1 21 = some op ∧ op.toNat < builtin.size ∧
        ∀ q, (builtin.lookUp? q op).isSome = true := by
  have accepted : ofColumns Catalogue.columns Catalogue.runtimeOps = .ok builtin := by
    rw [builtin_eq, ofColumns_catalogue runtimeOps_lt]
  have word : IsWord "READ_ICC_SMS" := uint32?_eq_none_iff.mp (by decide)
  obtain ⟨means, -, safe⟩ := reference_safe accepted "READ_ICC_SMS"
  have found : builtin.ofReference "READ_ICC_SMS" = .ok 21 :=
    (means _).mpr (.name word (by decide +kernel) (by decide +kernel) (by decide +kernel))
  exact ⟨accepted, found, safe 21 found 1⟩

end OpTable

end OpPolicy
