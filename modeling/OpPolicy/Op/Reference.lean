import OpPolicy.Op.Table
import OpPolicy.Text.Numeral

set_option autoImplicit false

/-!
References to ops as people write them: a number, a public name or a plain name, tried in this
order. A numeral always means a number, even where an op is named so.
-/

namespace OpPolicy.OpTable

def ofReference (t : OpTable) (s : String) : Except Error OpId :=
  match Numeral.uint32? s with
  | some op => if op.toNat < opCount then .ok op else .error (.notFound s!"op id {op}")
  | none =>
    match t.opForPublicName? s with
    | some op => .ok op
    | none => t.opForName s

end OpPolicy.OpTable
