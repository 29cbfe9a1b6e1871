import NowNext.Fault
import NowNext.Filter.Words
import NowNext.Pattern.Expr.Meaning
import NowNext.Pattern.Search

set_option autoImplicit false

namespace NowNext

inductive Comparison where
  | words
  | pattern
deriving DecidableEq

namespace Comparison

def all : List Comparison := [.words, .pattern]

def name : Comparison → String
  | .words => "TEXT"
  | .pattern => "REGEX"

def ofName? (name : String) : Option Comparison := all.find? fun kind => kind.name == name

def pattern? : Comparison → String → Option Pattern
  | .words, value =>
      let p := Pattern.words value.toList
      if p.fits then some p else none
  | .pattern, value => Pattern.ofString? value

end Comparison

structure Filter where
  field : Field
  comparison : Comparison
  value : String
  pattern : Pattern

namespace Filter

def of? (field : Field) (comparison : Comparison) (value : String) : Except SetupFault Filter :=
  match comparison.pattern? value with
  | some pattern => .ok ⟨field, comparison, value, pattern⟩
  | none => .error .invalidPattern

-- The pattern follows from the rest.
instance : BEq Filter :=
  ⟨fun a b => a.field == b.field && a.comparison == b.comparison && a.value == b.value⟩

def accepts (filter : Filter) (event : Event) : Bool :=
  filter.pattern.isIn (event.text filter.field).toList

end Filter

def accepted (filter : Option Filter) (event : Event) : Bool :=
  filter.all fun filter => filter.accepts event

end NowNext
