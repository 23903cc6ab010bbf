/-!
# Durations

A duration is written in seconds from one second on, with as many decimals as it needs, else in
milliseconds. The empty duration is written in the smallest unit, nanoseconds.
-/

namespace GpuPassthrough.Text

/-- The decimals of a fraction of a thousand, without zeros at the end. -/
def decimals (thousandths : Nat) : List Char :=
  if thousandths = 0 then []
  else
    let digits := [thousandths / 100, thousandths / 10 % 10, thousandths % 10]
    '.' :: ((digits.reverse.dropWhile (· = 0)).reverse.map fun d => Char.ofNat (48 + d))

/-- A duration that is given in milliseconds. -/
def duration (milliseconds : Nat) : String :=
  if milliseconds = 0 then "0ns"
  else if milliseconds < 1000 then toString milliseconds ++ "ms"
  else toString (milliseconds / 1000) ++ String.ofList (decimals (milliseconds % 1000)) ++ "s"

end GpuPassthrough.Text
