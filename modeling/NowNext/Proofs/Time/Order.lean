import Mathlib.Order.Defs.LinearOrder
import NowNext.Time.Instant

set_option autoImplicit false

namespace NowNext.Instant

instance : LinearOrder Instant where
  le_refl t := Int.le_refl t.rank
  le_trans := le_trans
  lt_iff_le_not_ge _ _ := Int.lt_iff_le_and_not_ge
  le_antisymm a b ab ba := rank_injective a b (Int.le_antisymm ab ba)
  le_total := le_total
  toDecidableLE := inferInstance
  min_def _ _ := rfl

end NowNext.Instant
