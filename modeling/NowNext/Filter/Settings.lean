import NowNext.Filter.Basic
import NowNext.Time.LeadTime

set_option autoImplicit false

namespace NowNext

structure Settings where
  offset : Option Int := none
  field : Option String := none
  value : Option String := none
  comparison : Option String := none
deriving DecidableEq

namespace Settings

def lead (settings : Settings) : LeadTime := ⟨settings.offset.getD 0⟩

def filter (settings : Settings) : Except SetupFault (Option Filter) :=
  match settings.value, settings.field, settings.comparison with
  | none, _, _ => .ok none
  | some value, some field, some comparison => do
      let field ← (Field.ofName? field).elim (.error (.unknownField field)) .ok
      let comparison ←
        (Comparison.ofName? comparison).elim (.error (.unknownComparison comparison)) .ok
      let filter ← Filter.of? field comparison value
      .ok (some filter)
  | some _, _, _ => .error .incompleteFilter

def isDangling (settings : Settings) : Bool := settings.field.isSome && settings.comparison.isNone

end Settings

end NowNext
