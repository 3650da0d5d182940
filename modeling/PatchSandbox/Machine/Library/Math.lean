import PatchSandbox.Machine.Library.Member

/-!
# Mathematics

The members of `Math`.
-/

namespace PatchSandbox.Machine.Library

/-- A function of one number. -/
def numeric (name : String) (f : Float → Float) : Member :=
  .fn name 1 fun c => do return .number (f (← toNumber (c.arg 0)))

/-- The arguments of a call as numbers. -/
def numbers (c : Call) : M (List Float) := c.args.toList.mapM toNumber

/-- The nearest whole number, a half up; the sign of a zero stays. -/
def roundHalf (x : Float) : Float :=
  if !x.isFinite || x.abs ≥ 4503599627370496 then x
  else
    let r := (x + 0.5).floor
    let r := if r - x > 0.5 then r - 1 else r
    if r == 0 && isNegative x then -0.0 else r

/-- The greater of two numbers; a zero without a sign is the greater zero. -/
def greater (x y : Float) : Float :=
  if x.isNaN || y.isNaN then notANumber
  else if x == 0 && y == 0 then (if isNegative x then y else x)
  else if x < y then y else x

/-- The less of two numbers. -/
def lesser (x y : Float) : Float :=
  if x.isNaN || y.isNaN then notANumber
  else if x == 0 && y == 0 then (if isNegative x then x else y)
  else if x < y then x else y

/-- The sign of a number. -/
def signOf (x : Float) : Float :=
  if x.isNaN || x == 0 then x else if x < 0 then -1 else 1

/-- The exponential function less one. Near zero the difference loses what the logarithm of
the rounded exponential gives back. -/
def expLessOne (x : Float) : Float :=
  let u := x.exp
  if u == 1 then x
  else if x.abs ≥ 1 then u - 1
  else (u - 1) * x / u.log

/-- The logarithm of one more, with the same remedy. -/
def logOneMore (x : Float) : Float :=
  let u := 1 + x
  if u == 1 then x
  else if u.isInf || x.abs ≥ 1 then u.log
  else u.log * x / (u - 1)

/-- The length of a vector. -/
def hypotenuse (xs : List Float) : Float :=
  if xs.any Float.isInf then infinity
  else if xs.any Float.isNaN then notANumber
  else
    let scale := xs.foldl (fun m x => if m < x.abs then x.abs else m) 0
    if scale == 0 then 0
    else scale * (xs.foldl (fun s x => s + (x / scale) * (x / scale)) 0).sqrt

/-- The nearest number of single precision. -/
def toSingle (x : Float) : Float := x.toFloat32.toFloat

/-- Number of leading zeros among thirty-two bits. -/
def leadingZeros (n : UInt32) : Nat := if n == 0 then 32 else 31 - n.toNat.log2

/-- `Math`. -/
def mathHolders : List Holder :=
  [ { object := .math
      members :=
        [ .fn "min" 2 fun c => do return .number ((← numbers c).foldl lesser infinity)
          , .fn "max" 2 fun c => do return .number ((← numbers c).foldl greater (-infinity))
          , numeric "abs" Float.abs
          , numeric "floor" Float.floor
          , numeric "ceil" Float.ceil
          , numeric "round" roundHalf
          , numeric "sqrt" Float.sqrt
          , numeric "acos" Float.acos
          , numeric "asin" Float.asin
          , numeric "atan" Float.atan
          , .fn "atan2" 2 fun c => do
              let y ← toNumber (c.arg 0)
              return .number (y.atan2 (← toNumber (c.arg 1)))
          , numeric "cos" Float.cos
          , numeric "exp" Float.exp
          , numeric "log" Float.log
          , .fn "pow" 2 fun c => do
              let x ← toNumber (c.arg 0)
              return .number (power x (← toNumber (c.arg 1)))
          , numeric "sin" Float.sin
          , numeric "tan" Float.tan
          , numeric "trunc" fun x => if x < 0 then x.ceil else x.floor
          , numeric "sign" signOf
          , numeric "cosh" Float.cosh
          , numeric "sinh" Float.sinh
          , numeric "tanh" Float.tanh
          , numeric "acosh" Float.acosh
          , numeric "asinh" Float.asinh
          , numeric "atanh" Float.atanh
          , numeric "expm1" expLessOne
          , numeric "log1p" logOneMore
          , numeric "log2" Float.log2
          , numeric "log10" Float.log10
          , numeric "cbrt" Float.cbrt
          , .fn "hypot" 2 fun c => do return .number (hypotenuse (← numbers c))
          , .fn "random" 0 fun _ => do
              let bits ← nextRandom
              return .number ((bits >>> 11).toFloat / 9007199254740992)
          , numeric "fround" toSingle
          , .fn "imul" 2 fun c => do
              let x := toInt32 (← toNumber (c.arg 0))
              return .number (floatOfInt32 (x * toInt32 (← toNumber (c.arg 1))))
          , .fn "clz32" 1 fun c => do
              return .nat (leadingZeros (toUInt32 (← toNumber (c.arg 0))))
          , .tag "Math"
          , .constant "E" (.number 2.718281828459045)
          , .constant "LN10" (.number 2.302585092994046)
          , .constant "LN2" (.number 0.6931471805599453)
          , .constant "LOG2E" (.number 1.4426950408889634)
          , .constant "LOG10E" (.number 0.4342944819032518)
          , .constant "PI" (.number 3.141592653589793)
          , .constant "SQRT1_2" (.number 0.7071067811865476)
          , .constant "SQRT2" (.number 1.4142135623730951) ] } ]

end PatchSandbox.Machine.Library
