import NowNext.Unicode.Category
import NowNext.Unicode.Property

/-!
Classes of characters by the version of the standard after the one of the tables. Sets in patterns
follow the tables; names of groups, targets of the log and quoted texts follow these classes.
-/

set_option autoImplicit false

namespace NowNext.Unicode

def newLetters : Ranges := .ofLines
    ["88F 3CC 7F 9AF1-1 2 1 1C 614E-19 56B-2 32-1 C64-7 248-2B 50C4-18 2-18 11E-4 1801-7 509-15",
     "61-72 58CD-1E 1-15 8-1 D03A-5 1762-B 5502-10C9"]

def newNumbers : Ranges := .ofLines
    ["11DE0-9 520A-2"]

def newExtending : Ranges := .ofLines
    ["1ACF-E 2-B F40E-1 C64 1-2 1 CB7C 2 7-1 5"]

def newVisible : Ranges := .ofLines
    ["88F 3CC 7F DF2-E 2-B 5D5 AD4 7C37-1 2 1 1C 53D1-F 1BD-1 36-6 B71-19 56B-2 8-8 21-1 C64-7",
     "248-2B 4-9 50B6-18 2-18 11E-4 1801-7 509-15 61-72 3F07-2 1BD-16 F-10 17CF-1E 1-15 8-1 FD8",
     "9E-3 155-8 17B-3 32 3 39 4 1C 4 10A BB3F-5 1762-B 5502-10C9"]

def letters : List Ranges :=
  newLetters :: (NamedSet.find? properties "alphabetic").toList.map (·.ranges)

def numbers : List Ranges :=
  newNumbers :: (["nd", "nl", "no"].filterMap (NamedSet.find? categories)).map (·.ranges)

def modifierLetters : List Ranges :=
  (NamedSet.find? categories "lm").toList.map (·.ranges)

def extending : List Ranges :=
  newExtending :: (NamedSet.find? properties "graphemeextend").toList.map (·.ranges)

def ignorable : List Ranges :=
  (NamedSet.find? properties "defaultignorablecodepoint").toList.map (·.ranges)

def visible : List Ranges :=
  newVisible :: (categories.filter fun set =>
    !(["cc", "cf", "co", "zl", "zp", "zs"].any set.names.contains)).map (·.ranges)

def isLetter (c : Char) : Bool := letters.any (·.contains c)

def isAlphanumeric (c : Char) : Bool := isLetter c || numbers.any (·.contains c)

def isExtending (c : Char) : Bool :=
  extending.any (·.contains c) && !(modifierLetters.any (·.contains c))

def isVisible (c : Char) : Bool :=
  c = ' ' || (visible.any (·.contains c) && !(ignorable.any (·.contains c)))

end NowNext.Unicode
