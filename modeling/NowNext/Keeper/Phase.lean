set_option autoImplicit false

namespace NowNext

inductive Phase where
  | uninitialized
  | waiting
  | ready
  | misconfigured
  | disposed
deriving DecidableEq

namespace Phase

def name : Phase → String
  | uninitialized => "Uninitialized"
  | waiting => "Waiting"
  | ready => "Ready"
  | misconfigured => "Misconfigured"
  | disposed => "Disposed"

def listens : Phase → Bool
  | waiting | ready | misconfigured => true
  | uninitialized | disposed => false

end Phase

end NowNext
