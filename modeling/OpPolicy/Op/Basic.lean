import OpPolicy.Mode

set_option autoImplicit false

/-!
Ops and what is known about each. Op numbers cross process boundaries: they are never renumbered,
and a new op only ever comes after the last.
-/

namespace OpPolicy

abbrev OpId := UInt32

/-- The identity that an installed package runs as. -/
abbrev Uid := UInt32

abbrev UserId := UInt32

/-- How many ops are known. -/
def opCount : Nat := 78

structure OpRow where
  op : OpId
  name : String
  /-- The stable name that other programs use, such as `android:camera`. -/
  publicName : Option String
  /-- The op whose mode governs this one. -/
  switch : OpId
  permission : Option String
  restriction : Option String
  defaultMode : Mode
  systemBypass : Bool
  resettable : Bool
  deriving DecidableEq, Repr

/-- The name by which other programs know the op: the public one if there is one. -/
def OpRow.outerName (row : OpRow) : String := row.publicName.getD row.name

/-- The parallel columns that a table is made of, one entry for each op. -/
structure OpColumns where
  switches : List OpId
  publicNames : List (Option String)
  names : List String
  permissions : List (Option String)
  restrictions : List (Option String)
  systemBypass : List Bool
  defaultModes : List Mode
  disableReset : List Bool
  deriving DecidableEq, Repr

namespace OpColumns

def ofRows (rows : List OpRow) : OpColumns where
  switches := rows.map (·.switch)
  publicNames := rows.map (·.publicName)
  names := rows.map (·.name)
  permissions := rows.map (·.permission)
  restrictions := rows.map (·.restriction)
  systemBypass := rows.map (·.systemBypass)
  defaultModes := rows.map (·.defaultMode)
  disableReset := rows.map (!·.resettable)

/-- Each column's title and length, in the order in which lengths are checked. -/
def lengths (c : OpColumns) : List (String × Nat) :=
  [("switch", c.switches.length), ("public name", c.publicNames.length), ("name", c.names.length),
    ("permission", c.permissions.length), ("restriction", c.restrictions.length),
    ("system bypass", c.systemBypass.length), ("default mode", c.defaultModes.length),
    ("disable reset", c.disableReset.length)]

/-- The entries of every column at one position. -/
def row? (c : OpColumns) (i : Nat) : Option OpRow := do
  return {
    op := UInt32.ofNat i
    switch := ← c.switches[i]?
    publicName := ← c.publicNames[i]?
    name := ← c.names[i]?
    permission := ← c.permissions[i]?
    restriction := ← c.restrictions[i]?
    systemBypass := ← c.systemBypass[i]?
    defaultMode := ← c.defaultModes[i]?
    resettable := !(← c.disableReset[i]?) }

def rows (c : OpColumns) : List OpRow := (List.range opCount).filterMap c.row?

end OpColumns

end OpPolicy
