/-!
# Durations

A span of time in nanoseconds, and how messages write it: in the largest of the units
second, millisecond, microsecond and nanosecond that gives a whole part of at least one,
with a fraction that does not end in zero.
-/

namespace PatchSandbox

/-- A span of time. -/
structure Duration where
  nanoseconds : Nat
  deriving DecidableEq, Repr, Inhabited

namespace Duration

/-- So many milliseconds. -/
def ofMilliseconds (n : Nat) : Duration := ⟨n * 1000000⟩

/-- So many seconds and nanoseconds. -/
def ofSeconds (s n : Nat) : Duration := ⟨s * 1000000000 + n⟩

/-- `n` as exactly `places` decimal digits. -/
def padded (places n : Nat) : List Char :=
  let ds := Nat.toDigits 10 n
  List.replicate (places - ds.length) '0' ++ ds

/-- A fraction of `places` decimal places, without the zeros at its end. -/
def fraction (places n : Nat) : String :=
  match ((padded places n).reverse.dropWhile (· == '0')).reverse with
  | [] => ""
  | ds => "." ++ String.ofList ds

/-- The written form. -/
def text (d : Duration) : String :=
  let n := d.nanoseconds
  let write (places : Nat) (unit : String) : String :=
    toString (n / Nat.pow 10 places) ++ fraction places (n % Nat.pow 10 places) ++ unit
  if 1000000000 ≤ n then write 9 "s"
  else if 1000000 ≤ n then write 6 "ms"
  else if 1000 ≤ n then write 3 "µs"
  else write 0 "ns"

end Duration

end PatchSandbox
