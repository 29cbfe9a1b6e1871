import NowNext.Pattern.Size

set_option autoImplicit false

namespace NowNext.Pattern

def leftEdge : Pattern := .alt (.look .textStart) (.chars .nonWord)

def rightEdge : Pattern := .alt (.chars .nonWord) (.look .textEnd)

def caseless : List Char → Pattern
  | [] => .empty
  | [c] => .chars (.caseless c)
  | c :: rest => .seq (.chars (.caseless c)) (caseless rest)

def words (value : List Char) : Pattern := .seq leftEdge (.seq (caseless value) rightEdge)

end NowNext.Pattern
