import NowNext.Filter.Basic

set_option autoImplicit false

namespace NowNext

class Calendar (C : Type) where
  isPresent : C → Instant → Bool
  current : C → Instant → Option Filter → Option Event
  next : C → Instant → Option Filter → Option Event

structure FixedAnswers where
  isPresent : Bool := false
  current : Option Event := none
  next : Option Event := none

instance : Calendar FixedAnswers where
  isPresent answers _ := answers.isPresent
  current answers _ _ := answers.current
  next answers _ _ := answers.next

instance {A B : Type} [Calendar A] [Calendar B] : Calendar (A ⊕ B) where
  isPresent
    | .inl a => Calendar.isPresent a
    | .inr b => Calendar.isPresent b
  current
    | .inl a => Calendar.current a
    | .inr b => Calendar.current b
  next
    | .inl a => Calendar.next a
    | .inr b => Calendar.next b

end NowNext
