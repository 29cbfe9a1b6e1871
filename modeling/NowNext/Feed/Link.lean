set_option autoImplicit false

namespace NowNext

inductive Link where
  | online
  | offline
  | unknown
deriving DecidableEq

namespace Link

def label : Link → String
  | online => "Online"
  | offline => "Offline"
  | unknown => "Unknown"

end Link

end NowNext
