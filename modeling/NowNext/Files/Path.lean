set_option autoImplicit false

namespace NowNext.Path

def names (path : String) : List (List Char) :=
  (path.toList.splitOn '/').filter fun name => !name.isEmpty && name != ['.']

def isAbsolute (path : String) : Bool := path.toList.head? == some '/'

def asksDirectory (path : String) : Bool :=
  match (path.toList.splitOn '/').reverse with
  | last :: _ :: _ => last.isEmpty || last == ['.']
  | _ => false

def extensionOf? (name : List Char) : Option (List Char) :=
  if name == ['.', '.'] then none
  else
    let ending := name.reverse.takeWhile (· ≠ '.')
    if ending.length + 1 < name.length then some ending.reverse else none

def extension? (path : String) : Option (List Char) :=
  (names path).getLast?.bind extensionOf?

end NowNext.Path
