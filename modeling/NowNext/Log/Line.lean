import NowNext.Log.Notice
import NowNext.Time.Written

set_option autoImplicit false

namespace NowNext

def LogValue.written : LogValue → String
  | number n => String.ofList (digits n)
  | shown value => value
  | text value => Quoted.quote value

namespace Notice

def line (notice : Notice) : String :=
  notice.level.name ++ " " ++ notice.origin ++ ": " ++ notice.message ++
    String.join (notice.values.map fun (name, value) => " " ++ name ++ "=" ++ value.written)

def stampedLine (clock : Instant) (notice : Notice) : String :=
  let second := (Instant.of? clock.seconds 0).getD clock
  let micros := padded 6 (clock.nanos % nanosPerSecond / 1000)
  let gap := List.replicate (6 - notice.level.name.length) ' '
  second.text ⟨'T', '.' :: micros ++ 'Z' :: gap⟩ ++ notice.line

end Notice

end NowNext
